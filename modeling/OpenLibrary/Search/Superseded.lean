import OpenLibrary.Model.Frame

/-!
# Superseded searches

Nothing tags or cancels a call of `requestAPI`. A step keeps what is shown that of the most
recent call exactly when it is `Timely`: no response with something usable in it, and no
`notify` block, of an older call (`current_step_iff`).
-/

namespace OpenLibrary

/-- No completion of a call is delivered after a later call has begun. -/
def CompletionsInTime (history : List Event) : Prop :=
  ∀ pre r success results post, history = pre ++ .completed r success results :: post →
    ∀ r', .requested r' ∈ pre → r' ≤ r

namespace CompletionsInTime

theorem nil : CompletionsInTime [] := by
  intro pre r success results post h
  cases pre with
  | nil => cases h
  | cons e pre => cases h

/-- One more event matters only if it is a completion. -/
theorem concat {history : List Event} {e : Event} :
  CompletionsInTime (history ++ [e]) ↔ CompletionsInTime history ∧
    ∀ r success results, e = .completed r success results →
      ∀ r', .requested r' ∈ history → r' ≤ r
  := by
  constructor
  · intro h
    constructor
    · intro pre r success results post hpost
      apply h pre r success results (post ++ [e])
      rw [hpost, List.append_assoc, List.cons_append]
    · rintro r success results rfl
      apply h history r success results [] rfl
  · rintro ⟨h, he⟩ pre r success results post hpost
    induction post using List.reverseRecOn with
    | nil =>
        obtain ⟨rfl, hlast⟩ := List.append_inj' hpost rfl
        apply he r success results (List.cons.inj hlast).1
    | append_singleton post e' _ =>
        rw [← List.cons_append, ← List.append_assoc] at hpost
        obtain ⟨hpost, -⟩ := List.append_inj' hpost rfl
        apply h pre r success results post hpost

/-- Events that are no completions do not matter. -/
theorem append {history events : List Event}
    (h : ∀ e ∈ events, ∀ r success results, e ≠ .completed r success results) :
  CompletionsInTime (history ++ events) ↔ CompletionsInTime history
  := by
  induction events using List.reverseRecOn with
  | nil => rw [List.append_nil]
  | append_singleton events e ih =>
      rw [← List.append_assoc, concat, ih]
      · apply and_iff_left
        intro r success results he
        apply absurd he
        apply h e (List.mem_append_right events List.mem_cons_self)
      · intro e' he'
        apply h e' (List.mem_append_left [e] he')

end CompletionsInTime

namespace State

/-- `bookResults` holds only books structured from the response to the most recent call. -/
def ResultsCurrent (s : State) : Prop :=
  ∀ o ∈ s.search.bookResults, ∃ r, r + 1 = s.search.requests ∧ .structured r o ∈ s.history

/-- What is shown is that of the most recent call: the books of `bookResults`, and the
completions delivered. -/
def Current (s : State) : Prop :=
  s.ResultsCurrent ∧ CompletionsInTime s.history

/-- The step delivers nothing of an older call: no response without documents, none with a
clean document, and no `notify` block. -/
def Timely (s : State) : Action → Prop
  | .bookInfoResponse r data =>
      r + 1 = s.search.requests ∨
        ∀ docs, data.bookResultsJSON? = some docs → docs ≠ [] ∧ docs.filter isClean = []
  | .coversNotified r => r + 1 = s.search.requests
  | _ => True

/-- What a state says of the calls it holds: they have begun, and so have those of the
history. -/
structure Calls (s : State) : Prop where
  requested : ∀ r, .requested r ∈ s.history ↔ r < s.search.requests
  infoTasks : ∀ r ∈ s.search.infoTasks, r < s.search.requests
  notifies : ∀ r ∈ s.search.notifies, r < s.search.requests
  structured : ∀ r o, .structured r o ∈ s.history → o < s.objects.next

theorem calls_launch (realm : Realm) :
  (launch realm).Calls
  := by
  constructor
  · intro r
    simp [launch]
  · simp [launch]
  · simp [launch]
  · simp [launch]

variable {F : Foundation} {s t : State} {a : Action}

namespace Calls

/-- The parts of a state `Calls` speaks of. -/
theorem congr (h : s.Calls) (events : List Event) (hsearch : t.search = s.search)
    (hnext : t.objects.next = s.objects.next) (hhistory : t.history = s.history ++ events)
    (hevents : ∀ e ∈ events, (∀ r, e ≠ .requested r) ∧ ∀ r o, e ≠ .structured r o) :
  t.Calls
  := by
  constructor
  · intro r
    rw [hsearch, hhistory, List.mem_append, or_iff_left, h.requested]
    intro hr
    apply (hevents _ hr).1 r rfl
  · rw [hsearch]
    apply h.infoTasks
  · rw [hsearch]
    apply h.notifies
  · intro r o ho
    rw [hhistory, List.mem_append, or_iff_left] at ho
    · rw [hnext]
      apply h.structured r o ho
    · intro hr
      apply (hevents _ hr).2 r o rfl

/-- Completing a call keeps what is said of the calls. -/
theorem complete (h : s.Calls) (r : Nat) (success : Bool) :
  (s.complete r success).Calls
  := by
  apply h.congr [.completed r success s.results]
  · rfl
  · rfl
  · rfl
  · intro e he
    obtain rfl := List.mem_singleton.mp he
    simp

theorem infoAnswered (h : s.Calls) (r : Nat) :
  (s.infoAnswered r).Calls
  := by
  constructor
  · apply h.requested
  · intro r' hr'
    apply h.infoTasks r' (List.mem_of_mem_erase hr')
  · apply h.notifies
  · apply h.structured

/-- A new call has begun, and its data task is in flight. -/
theorem begun (h : s.Calls) (timer : Nat) :
  (s.timerFired timer).requested.Calls
  := by
  constructor
  · intro r
    change .requested r ∈ s.history ++ [.requested s.search.requests] ↔
      r < s.search.requests + 1
    rw [List.mem_append, h.requested, List.mem_singleton, Event.requested.injEq,
      Nat.lt_succ_iff_lt_or_eq]
  · intro r hr
    rcases List.mem_append.mp hr with hr | hr
    · apply Nat.lt_succ_of_lt (h.infoTasks r hr)
    · obtain rfl := List.mem_singleton.mp hr
      apply Nat.lt_succ_self
  · intro r hr
    apply Nat.lt_succ_of_lt (h.notifies r hr)
  · intro r o ho
    apply h.structured r o
    simpa [State.requested, timerFired] using ho

/-- Structuring the response to a call that has begun. -/
theorem booksStructured (h : s.Calls) {r : Nat} (hr : r < s.search.requests)
    (newBooks : List Book) :
  (s.booksStructured r newBooks).Calls
  := by
  constructor
  · intro r'
    rw [history_booksStructured, requests_booksStructured, List.mem_append, or_iff_left,
      h.requested]
    simp
  · rw [infoTasks_booksStructured, requests_booksStructured]
    apply h.infoTasks
  · intro r' hr'
    rw [notifies_booksStructured] at hr'
    rw [requests_booksStructured]
    rcases List.mem_append.mp hr' with hr' | hr'
    · apply h.notifies r' hr'
    · obtain rfl := List.mem_singleton.mp hr'
      apply hr
  · intro r' o ho
    rw [history_booksStructured] at ho
    rw [objects_booksStructured, Objects.next_allocAll]
    rcases List.mem_append.mp ho with ho | ho
    · have := h.structured r' o ho
      omega
    · obtain ⟨p, hp, heq⟩ := List.mem_map.mp ho
      obtain ⟨rfl, rfl⟩ := Event.structured.inj heq
      have := List.mem_range'_1.mp hp
      omega

/-- The `notify` block of a call has started, and has flagged the results. -/
theorem notifyTaken (h : s.Calls) (r : Nat) :
  (s.notifyTaken r).determineWishlistBooks.Calls
  := by
  constructor
  · apply h.requested
  · apply h.infoTasks
  · intro r' hr'
    apply h.notifies r' (List.mem_of_mem_erase hr')
  · intro r' o ho
    rw [next_determineWishlistBooks]
    apply h.structured r' o ho

/-- A step keeps what a state says of the calls it holds. -/
theorem step (h : s.Calls) (he : Effect F s a t) :
  t.Calls
  := by
  cases he with
  | @screen action screen events hidle hscreen =>
      apply h.congr events
      · rfl
      · rfl
      · rfl
      · intro e he
        obtain ⟨row, b, -, rfl⟩ := events_of_screenStep hscreen e he
        simp
  | timer =>
      exact ⟨h.requested, h.infoTasks, h.notifies, h.structured⟩
  | request => apply h.begun
  | noResults => apply h.infoAnswered
  | emptyResults => apply (h.infoAnswered _).complete
  | results hr => apply (h.infoAnswered _).booksStructured (h.infoTasks _ hr)
  | noCover =>
      exact ⟨h.requested, h.infoTasks, h.notifies, h.structured⟩
  | cover =>
      exact ⟨h.requested, h.infoTasks, h.notifies, h.structured⟩
  | notified => apply (h.notifyTaken _).complete
  | @pressed _ ref book hidle hpress hread =>
      apply h.congr []
      · apply search_toggled
      · apply next_toggled
      · rw [history_toggled, List.append_nil]
      · simp
  | @updated ref book =>
      apply h.congr [.pressed book.coverID book.isInWishlist]
      · rfl
      · rfl
      · rfl
      · simp

/-- What a state says of the calls it holds is true in every run. -/
theorem of_run {realm : Realm} {as : List Action}
    (h : (application F).run (launch realm) as = .ok s) :
  s.Calls
  := by
  apply Machine.invariant (M := application F) _ (calls_launch realm) h
  intro s a t hs ht
  apply hs.step (step_eq_ok.mp ht)

end Calls

/-- What is shown stays current when `bookResults` and the number of calls stay as they are,
and nothing is completed. -/
theorem Current.congr (h : s.Current) (events : List Event)
    (hresults : t.search.bookResults = s.search.bookResults)
    (hrequests : t.search.requests = s.search.requests)
    (hhistory : t.history = s.history ++ events)
    (hevents : ∀ e ∈ events, ∀ r success results, e ≠ .completed r success results) :
  t.Current
  := by
  obtain ⟨hcurrent, htime⟩ := h
  constructor
  · intro o ho
    rw [hresults] at ho
    obtain ⟨r, hr, hstructured⟩ := hcurrent o ho
    use r
    rw [hrequests, hhistory]
    exact ⟨hr, List.mem_append_left events hstructured⟩
  · rw [hhistory]
    apply (CompletionsInTime.append hevents).mpr htime

/-- Completing a call keeps what is shown current exactly when it is the most recent one. -/
theorem current_complete_iff (hcalls : s.Calls) (h : s.Current) {r : Nat}
    (hr : r < s.search.requests) (success : Bool) :
  (s.complete r success).Current ↔ r + 1 = s.search.requests
  := by
  obtain ⟨hcurrent, htime⟩ := h
  constructor
  · rintro ⟨-, hcompleted⟩
    have hlast := (CompletionsInTime.concat.mp hcompleted).2 r success s.results rfl
      (s.search.requests - 1) ((hcalls.requested _).mpr (by omega))
    omega
  · intro hlast
    constructor
    · intro o ho
      obtain ⟨r', hr', hstructured⟩ := hcurrent o ho
      exact ⟨r', hr', List.mem_append_left _ hstructured⟩
    · apply CompletionsInTime.concat.mpr
      constructor
      · apply htime
      · intro r' success' results' he r'' hr''
        obtain ⟨rfl, -⟩ := Event.completed.inj he
        have := (hcalls.requested r'').mp hr''
        omega

/-- Structuring the response to a call keeps what is shown current exactly when it is the most
recent one, or no document is clean. -/
theorem current_booksStructured_iff (hcalls : s.Calls) (h : s.Current) {r : Nat}
    (newBooks : List Book) :
  (s.booksStructured r newBooks).Current ↔ r + 1 = s.search.requests ∨ newBooks = []
  := by
  obtain ⟨hcurrent, htime⟩ := h
  rw [Current, ResultsCurrent, bookResults_booksStructured, history_booksStructured,
    requests_booksStructured]
  constructor
  · rintro ⟨hnew, -⟩
    rcases List.eq_nil_or_concat newBooks with hnil | ⟨books, book, rfl⟩
    · right
      apply hnil
    · left
      obtain ⟨r', hr', hstructured⟩ := hnew s.objects.next (List.mem_append_right _ (by
        simp [newResults, List.mem_range'_1]))
      rcases List.mem_append.mp hstructured with hold | hevent
      · have := hcalls.structured r' _ hold
        omega
      · obtain ⟨o, -, he⟩ := List.mem_map.mp hevent
        obtain ⟨rfl, -⟩ := Event.structured.inj he
        apply hr'
  · intro hr
    constructor
    · intro o ho
      rcases List.mem_append.mp ho with ho | ho
      · obtain ⟨r', hr', hstructured⟩ := hcurrent o ho
        exact ⟨r', hr', List.mem_append_left _ hstructured⟩
      · rcases hr with hr | rfl
        · exact ⟨r, hr, List.mem_append_right _ (List.mem_map_of_mem ho)⟩
        · cases ho
    · apply (CompletionsInTime.append _).mpr htime
      intro e he r' success results
      obtain ⟨o, -, rfl⟩ := List.mem_map.mp he
      simp

/-- A press is timely. -/
theorem timely_of_press {ref : BookRef} (h : s.pressedBook a = some ref) :
  s.Timely a
  := by
  cases a with
  | userPressedWishlistButton row => trivial
  | notifyWishlistOfUpdate => trivial
  | _ => cases h

/-- No books are made of a response exactly when no document of it is clean. -/
theorem structureBooks_eq_nil {docs : List JsonObject} {newBooks : List Book}
    (h : structureBooks docs = some newBooks) :
  newBooks = [] ↔ docs.filter isClean = []
  := by
  have hlength := (List.mapM_eq_some_iff.mp h).length_eq
  rw [← List.length_eq_zero_iff, ← hlength, List.length_eq_zero_iff]

/-- A step keeps what is shown current exactly when it is timely. -/
theorem current_step_iff (hcalls : s.Calls) (h : s.Current) (he : Effect F s a t) :
  t.Current ↔ s.Timely a
  := by
  cases he with
  | @screen action screen events hidle hscreen =>
      apply iff_of_true _ trivial
      apply h.congr events
      · rfl
      · rfl
      · rfl
      · intro e he
        obtain ⟨row, b, -, rfl⟩ := events_of_screenStep hscreen e he
        simp
  | timer => apply iff_of_true h trivial
  | request =>
      apply iff_of_true _ trivial
      constructor
      · intro o ho
        cases ho
      · apply (CompletionsInTime.append _).mpr h.2
        simp
  | @noResults r data hr hdata =>
      apply iff_of_true h
      right
      intro docs hdocs
      rw [hdata] at hdocs
      cases hdocs
  | @emptyResults r data hr hdata =>
      rw [current_complete_iff (hcalls.infoAnswered r) h (hcalls.infoTasks r hr)]
      apply (or_iff_left _).symm
      intro hdocs
      apply (hdocs [] hdata).1 rfl
  | @results r data docs newBooks hr hdata hdocs hbooks =>
      rw [current_booksStructured_iff (hcalls.infoAnswered r) h, structureBooks_eq_nil hbooks]
      apply or_congr_right
      constructor
      · intro hclean docs' hdocs'
        obtain rfl := Option.some.inj (hdata.symm.trans hdocs')
        exact ⟨hdocs, hclean⟩
      · intro hall
        apply (hall docs hdata).2
  | noCover => apply iff_of_true h trivial
  | cover => apply iff_of_true h trivial
  | @notified r hr hgroup =>
      apply current_complete_iff (hcalls.notifyTaken r) h (hcalls.notifies r hr)
  | @pressed _ ref book hidle hpress hread =>
      apply iff_of_true _ (timely_of_press hpress)
      apply h.congr []
      · rw [search_toggled]
      · rw [search_toggled]
      · rw [history_toggled, List.append_nil]
      · simp
  | @updated ref book =>
      apply iff_of_true _ trivial
      apply h.congr [.pressed book.coverID book.isInWishlist]
      · rfl
      · rfl
      · rfl
      · simp

end State

/-- In every run, `bookResults` holds only books of the most recent call of `requestAPI` and
no completion of a superseded call is delivered, in every state of it, exactly when no response
with something usable in it and no `notify` block of a superseded call is delivered, in every
step of it. -/
theorem superseded_has_no_effect_iff (F : Foundation) (realm : Realm) (as : List Action)
    (s : State) (h : (application F).run (launch realm) as = .ok s) :
  (application F).EveryState State.Current (launch realm) as ↔
    (application F).EveryStep State.Timely (launch realm) as
  := by
  apply Machine.everyState_iff_everyStep (I := State.Calls) _ _ _ _ h
  · intro s a t hs ht
    apply hs.step (State.step_eq_ok.mp ht)
  · intro s a t hs hcurrent ht
    apply State.current_step_iff hs hcurrent (State.step_eq_ok.mp ht)
  · apply State.calls_launch
  · constructor
    · intro o ho
      cases ho
    · apply CompletionsInTime.nil

/-- The first of two searches is answered late, and without data. -/
theorem superseded_has_no_effect_iff_noData :
  ∃ s, (application .onPlainText).run (launch Table.empty)
      [.screen (.searchBarTextDidChange "dune"), .beginRequest 1,
        .screen (.searchBarTextDidChange "emma"), .beginRequest 2, .bookInfoResponse 0 .noData,
        .bookInfoResponse 1 (responseOf [document 7 "Emma"])] = .ok s ∧
    ((application .onPlainText).EveryState State.Current (launch Table.empty)
        [.screen (.searchBarTextDidChange "dune"), .beginRequest 1,
          .screen (.searchBarTextDidChange "emma"), .beginRequest 2, .bookInfoResponse 0 .noData,
          .bookInfoResponse 1 (responseOf [document 7 "Emma"])] ↔
      (application .onPlainText).EveryStep State.Timely (launch Table.empty)
        [.screen (.searchBarTextDidChange "dune"), .beginRequest 1,
          .screen (.searchBarTextDidChange "emma"), .beginRequest 2, .bookInfoResponse 0 .noData,
          .bookInfoResponse 1 (responseOf [document 7 "Emma"])])
  := by
  refine ⟨_, rfl, ?_⟩
  apply superseded_has_no_effect_iff .onPlainText Table.empty _ _ rfl

/-- The first of two searches is answered late, and its book is among the results. -/
theorem superseded_response_has_effect :
  ¬ ∀ (F : Foundation) (realm : Realm) (as : List Action) (s : State),
    (application F).run (launch realm) as = .ok s →
      (application F).EveryState State.Current (launch realm) as
  := by
  intro h
  have hcurrent := h .onPlainText Table.empty
    [.screen (.searchBarTextDidChange "dune"), .beginRequest 1,
      .screen (.searchBarTextDidChange "emma"), .beginRequest 2,
      .bookInfoResponse 0 (responseOf [document 7 "Dune"])] _ rfl
  obtain ⟨r, hr, hstructured⟩ :=
    (hcurrent _ [] _ (List.append_nil _).symm rfl).1 0 List.mem_cons_self
  obtain rfl : r = 1 := Nat.succ_inj.mp hr
  revert hstructured
  decide

end OpenLibrary
