import OpenLibrary.Search.Debounce

/-!
# What is searched for

Every text typed, other than the empty one, is searched for unless another one is typed before its
timer fires, and nothing else is searched for: among the texts typed and those searched for, in
the order in which they come, each one searched for comes right after itself typed, and the last
one typed is pending until it is searched for (`search_follows_typing`).
-/

namespace OpenLibrary

/-- A text other than the empty one is typed, or a text is searched for. -/
inductive Entry where
  | typed (text : String)
  | searched (text : String)
deriving DecidableEq

def Entry.isSearched : Entry → Bool
  | typed _ => false
  | searched _ => true

/-- What an action adds to the texts typed and searched for. -/
def State.entries (s : State) : Action → List Entry
  | .screen (.searchBarTextDidChange searchText) =>
      if searchText = "" then [] else [.typed searchText]
  | .beginRequest _ => (s.userInfo.map Entry.searched).toList
  | _ => []

/-- The text that waits to be searched for, if the last one was typed. -/
def waiting (entries : List Entry) : List String :=
  match entries.getLast? with
  | some (.typed text) => [text]
  | _ => []

/-- The application with the texts typed and searched for. -/
def recorded (F : Foundation) : Machine (State × List Entry) Action Fault :=
  (application F).withLog State.entries

/-- Each text searched for comes right after itself typed. -/
def Follows (entries : List Entry) : Prop :=
  ∀ pre text post, entries = pre ++ .searched text :: post → pre.getLast? = some (.typed text)

/-- What the texts typed and searched for say of a state. -/
structure Recorded (s : State) (entries : List Entry) : Prop where
  debounced : Debounced s.screen
  follows : Follows entries
  pending : s.screen.scheduledTimers.map Prod.snd = waiting entries
  requests : s.search.requests = entries.countP Entry.isSearched

theorem Follows.concat {entries : List Entry} (h : Follows entries) {entry : Entry}
    (hentry : ∀ text, entry = .searched text → entries.getLast? = some (.typed text)) :
  Follows (entries ++ [entry])
  := by
  intro pre text post he
  rcases List.eq_nil_or_concat post with rfl | ⟨post, last, rfl⟩
  · obtain ⟨rfl, hlast⟩ := List.append_inj' he rfl
    apply hentry text (List.cons.inj hlast).1
  · rw [List.concat_eq_append, ← List.cons_append, ← List.append_assoc] at he
    obtain ⟨rfl, -⟩ := List.append_inj' he rfl
    apply h pre text post rfl

namespace Recorded

variable {F : Foundation} {s t : State} {a : Action} {entries : List Entry}

theorem launch (realm : Realm) :
  Recorded (launch realm) []
  := by
  constructor
  · apply Debounced.launch
  · intro pre text post he
    cases (List.append_eq_nil_iff.mp he.symm).2
  · rfl
  · rfl

/-- Steps that type nothing and fire no timer. -/
theorem congr (h : Recorded s entries) (hdebounced : Debounced t.screen)
    (htimers : t.screen.scheduledTimers = s.screen.scheduledTimers)
    (hrequests : t.search.requests = s.search.requests) :
  Recorded t (entries ++ [])
  := by
  rw [List.append_nil]
  constructor
  · apply hdebounced
  · apply h.follows
  · rw [htimers, h.pending]
  · rw [hrequests, h.requests]

/-- A text is typed. -/
theorem text (h : Recorded s entries) (searchText : String) (events : List Event) :
  Recorded { s with screen := s.requestBookSearch searchText, history := s.history ++ events }
    (entries ++ s.entries (.screen (.searchBarTextDidChange searchText)))
  := by
  have hdebounced := h.debounced.requestBookSearch searchText
  rw [State.entries]
  by_cases htext : searchText = ""
  · rw [if_pos htext]
    apply h.congr
    · apply hdebounced
    · rw [State.requestBookSearch, if_neg (not_not_intro htext)]
    · rfl
  · rw [if_neg htext]
    constructor
    · apply hdebounced
    · apply h.follows.concat
      intro text he
      cases he
    · rw [State.requestBookSearch, if_pos htext]
      dsimp only
      rw [h.debounced.invalidated, waiting, List.getLast?_concat]
      rfl
    · rw [List.countP_append]
      apply h.requests

/-- The text of the timer that fires is the last one typed. -/
theorem getLast?_of_fires (h : Recorded s entries) {timer : Nat} {text : String}
    (htimers : s.screen.scheduledTimers = [(timer, text)]) :
  entries.getLast? = some (.typed text)
  := by
  have hpending := h.pending
  rw [htimers, List.map_singleton, waiting] at hpending
  split at hpending
  · next text' hlast =>
      obtain rfl := List.singleton_inj.mp hpending
      apply hlast
  · cases hpending

/-- A text is searched for. -/
theorem requested (h : Recorded s entries) {timer : Nat} {bookQuery : String}
    (htimer : (s.screen.scheduledTimers.lookup timer).isSome)
    (hinfo : s.userInfo = some bookQuery) :
  Recorded (s.timerFired timer).requested (entries ++ s.entries (.beginRequest timer))
  := by
  obtain ⟨text, htimers, htext, hfired⟩ := h.debounced.of_fires htimer
  obtain rfl := Option.some.inj (hinfo.symm.trans htext)
  rw [State.entries, hinfo]
  constructor
  · apply h.debounced.timerFired
  · apply h.follows.concat
    intro text he
    obtain rfl := Entry.searched.inj he
    apply h.getLast?_of_fires htimers
  · change (s.timerFired timer).screen.scheduledTimers.map Prod.snd = _
    rw [hfired, waiting, Option.map_some, Option.toList_some, List.getLast?_concat]
    rfl
  · rw [List.countP_append, ← h.requests]
    rfl

/-- A step of the screens. -/
theorem screen (h : Recorded s entries) {action : ScreenAction} {screen : Screen}
    {events : List Event} (he : ScreenEffect s action screen events) :
  Recorded { s with screen := screen, history := s.history ++ events }
    (entries ++ s.entries (.screen action))
  := by
  have hdebounced : Debounced screen := h.debounced.screen he
  cases he with
  | @text searchText => apply h.text
  | @tab state =>
      apply h.congr
      · apply hdebounced
      · apply s.scheduledTimers_changeAppState
      · rfl
  | animation | mainArea | bookList | previewCell | cell | popup | page | close =>
      apply h.congr
      · apply hdebounced
      · rfl
      · rfl

/-- Every step keeps what was typed and searched for recorded. -/
theorem step (h : Recorded s entries) (he : Effect F s a t) :
  Recorded t (entries ++ s.entries a)
  := by
  have hdebounced := h.debounced.step he
  cases he with
  | screen hidle hscreen => apply h.screen (State.screenEffect_of_screenStep hscreen)
  | timer hidle htimer hinfo =>
      obtain ⟨text, -, htext, -⟩ := h.debounced.of_fires htimer
      cases hinfo.symm.trans htext
  | request hidle htimer hinfo => apply h.requested htimer hinfo
  | noResults | emptyResults | noCover | cover | notified =>
      apply h.congr
      · apply hdebounced
      · rfl
      · rfl
  | results =>
      apply h.congr
      · apply hdebounced
      · rw [State.screen_booksStructured]
        rfl
      · apply State.requests_booksStructured
  | @pressed a ref book hidle hpress =>
      have hentries : s.entries a = [] := by
        cases a with
        | userPressedWishlistButton row => rfl
        | notifyWishlistOfUpdate => rfl
        | _ => cases hpress
      rw [hentries]
      apply h.congr
      · apply hdebounced
      · rw [State.screen_toggled]
      · rw [State.search_toggled]
  | @updated ref book =>
      obtain ⟨block, hscreen⟩ := s.wishlistUpdated_enqueues book
      apply h.congr
      · apply hdebounced
      · rw [hscreen]
      · rfl

end Recorded

/-- In every run, each text searched for comes right after itself typed, among the texts typed,
other than the empty one, and those searched for; the last of them, if it was typed, is the text of
the one search timer, and otherwise there is none; and as many calls have begun as texts were
searched for. -/
theorem search_follows_typing (F : Foundation) (realm : Realm) (as : List Action)
    (x : State × List Entry) (h : (recorded F).run (launch realm, []) as = .ok x) :
  (∀ pre text post, x.2 = pre ++ .searched text :: post →
      pre.getLast? = some (.typed text)) ∧
    x.1.screen.scheduledTimers.map Prod.snd = waiting x.2 ∧
    x.1.search.requests = x.2.countP Entry.isSearched
  := by
  have hrecorded : Recorded x.1 x.2 := by
    apply Machine.invariant (M := recorded F) (P := fun x => Recorded x.1 x.2) _ _ h
    · intro x a y hx hy
      obtain ⟨hstep, hentries⟩ := Machine.step_withLog.mp hy
      rw [hentries]
      apply hx.step (State.step_eq_ok.mp hstep)
    · apply Recorded.launch
  exact ⟨hrecorded.follows, hrecorded.pending, hrecorded.requests⟩

/-- A second text is typed before the timer of the first one fires. -/
theorem search_follows_typing_dune :
  ∃ x, (recorded .onPlainText).run (launch Table.empty, [])
      [.screen (.searchBarTextDidChange "dun"), .screen (.searchBarTextDidChange "dune"),
        .beginRequest 2, .screen (.searchBarTextDidChange "")] = .ok x ∧
    ((∀ pre text post, x.2 = pre ++ .searched text :: post →
        pre.getLast? = some (.typed text)) ∧
      x.1.screen.scheduledTimers.map Prod.snd = waiting x.2 ∧
      x.1.search.requests = x.2.countP Entry.isSearched)
  := by
  apply (exists_congr (fun x => and_iff_left_of_imp _)).mpr
  · exact ⟨_, rfl⟩
  · apply search_follows_typing

end OpenLibrary
