import OpenLibrary.Model.Frame

/-!
# Debouncing the search bar

An edit of the search bar replaces the timer that is pending by one with the new text, unless
the new text is empty; then the timer stays. The end of the animation to the wishlist tab clears
the search bar too, and no function of the presenter hears of it. So there is at most one timer,
it is the one the presenter holds, and its text is the one in the search bar, or the search bar
has been cleared since (`Debounced`).
-/

namespace OpenLibrary

/-- The pending timers are at most one, the one the presenter holds, and its text is not empty
and is in the search bar, unless that is empty. -/
structure Debounced (screen : Screen) : Prop where
  length_le : screen.scheduledTimers.length ≤ 1
  held : ∀ timer ∈ screen.scheduledTimers, timer.1 = screen.bookSearchTimer
  text_ne : ∀ timer ∈ screen.scheduledTimers, timer.2 ≠ ""
  inBar : ∀ timer ∈ screen.scheduledTimers,
    screen.searchBarText = timer.2 ∨ screen.searchBarText = ""

namespace Debounced

variable {F : Foundation} {s t : State} {a : Action}

theorem launch (realm : Realm) :
  Debounced (launch realm).screen
  := by
  constructor
  · apply Nat.zero_le
  · intro timer h
    cases h
  · intro timer h
    cases h
  · intro timer h
    cases h

/-- The parts of a screen `Debounced` speaks of. -/
theorem congr {old new : Screen} (h : Debounced old)
    (htimers : new.scheduledTimers = old.scheduledTimers)
    (hheld : new.bookSearchTimer = old.bookSearchTimer)
    (htext : new.searchBarText = old.searchBarText) :
  Debounced new
  := by
  constructor
  · rw [htimers]
    apply h.length_le
  · rw [htimers, hheld]
    apply h.held
  · rw [htimers]
    apply h.text_ne
  · rw [htimers, htext]
    apply h.inBar

/-- Where every pending timer is the one held, invalidating that one leaves none. -/
theorem invalidated {screen : Screen} (h : Debounced screen) :
  screen.scheduledTimers.filter (fun timer => timer.1 ≠ screen.bookSearchTimer) = []
  := by
  apply List.filter_eq_nil_iff.mpr
  intro timer htimer
  simpa using h.held timer htimer

/-- An edit of the search bar leaves the timer of its text pending, or the one there was when
the text is cleared. -/
theorem requestBookSearch (h : Debounced s.screen) (searchText : String) :
  Debounced (s.requestBookSearch searchText)
  := by
  rw [State.requestBookSearch]
  split
  · next htext =>
      dsimp only
      rw [h.invalidated, List.nil_append]
      constructor
      · apply Nat.le_refl
      · intro timer htimer
        rw [List.mem_singleton.mp htimer]
      · intro timer htimer
        rw [List.mem_singleton.mp htimer]
        apply htext
      · intro timer htimer
        left
        rw [List.mem_singleton.mp htimer]
  · next htext =>
      constructor
      · apply h.length_le
      · apply h.held
      · apply h.text_ne
      · intro timer _
        right
        apply Classical.not_not.mp htext

/-- The search bar is cleared behind the presenter's back. -/
theorem cleared {screen : Screen} (h : Debounced screen) (n : Nat) :
  Debounced { screen with searchBarText := "", clearingAnimations := n }
  := by
  constructor
  · apply h.length_le
  · apply h.held
  · apply h.text_ne
  · intro timer _
    right
    rfl

/-- A tab change leaves the timers and the text of the search bar alone. -/
theorem changeAppState (h : Debounced s.screen) (state : AppState) :
  Debounced (s.changeAppState state)
  := by
  rw [State.changeAppState]
  split
  · apply h
  · cases state with
    | bookSearch =>
        apply h.congr
        · rfl
        · rfl
        · rfl
    | wishlist =>
        dsimp only
        split
        · apply h.congr
          · rfl
          · rfl
          · rfl
        · apply h.congr
          · rfl
          · rfl
          · rfl

/-- A step of the screens keeps the timers debounced. -/
theorem screen (h : Debounced s.screen) {action : ScreenAction} {screen : Screen}
    {events : List Event} (he : ScreenEffect s action screen events) :
  Debounced screen
  := by
  cases he with
  | tab => apply h.changeAppState
  | text => apply h.requestBookSearch
  | animation => apply h.cleared
  | mainArea | bookList | previewCell | cell | popup | page | close =>
      apply h.congr
      · rfl
      · rfl
      · rfl

/-- A timer that has fired is pending no more. -/
theorem timerFired (h : Debounced s.screen) (timer : Nat) :
  Debounced (s.timerFired timer).screen
  := by
  constructor
  · apply Nat.le_trans (List.length_filter_le _ _) h.length_le
  · intro other hother
    apply h.held other (List.mem_filter.mp hother).1
  · intro other hother
    apply h.text_ne other (List.mem_filter.mp hother).1
  · intro other hother
    apply h.inBar other (List.mem_filter.mp hother).1

/-- Every step keeps the timers debounced. -/
theorem step (h : Debounced s.screen) (he : Effect F s a t) :
  Debounced t.screen
  := by
  cases he with
  | screen hidle hscreen => apply h.screen (State.screenEffect_of_screenStep hscreen)
  | timer => apply h.timerFired
  | request => apply h.timerFired
  | noResults | noCover | cover => apply h
  | emptyResults | notified =>
      apply h.congr
      · rfl
      · rfl
      · rfl
  | results =>
      rw [State.screen_booksStructured]
      apply h
  | pressed =>
      rw [State.screen_toggled]
      apply h
  | updated =>
      rw [State.screen_wishlistUpdated]
      split
      · apply h.congr
        · rfl
        · rfl
        · rfl
      · apply h.congr
        · rfl
        · rfl
        · rfl

/-- A timer that fires is the only one, and the one held. -/
theorem of_fires (h : Debounced s.screen) {timer : Nat}
    (htimer : (s.screen.scheduledTimers.lookup timer).isSome) :
  ∃ text, s.screen.scheduledTimers = [(timer, text)] ∧ s.userInfo = some text ∧
    (s.timerFired timer).screen.scheduledTimers = []
  := by
  obtain ⟨text, htext⟩ := Option.isSome_iff_exists.mp htimer
  obtain ⟨before, after, hsplit, -⟩ := List.lookup_eq_some_iff.mp htext
  have hlength := h.length_le
  rw [hsplit, List.length_append, List.length_cons] at hlength
  obtain rfl : before = [] := List.length_eq_zero_iff.mp (by omega)
  obtain rfl : after = [] := List.length_eq_zero_iff.mp (by omega)
  have hheld : timer = s.screen.bookSearchTimer := by
    apply h.held (timer, text)
    rw [hsplit]
    apply List.mem_singleton_self
  refine ⟨text, hsplit, ?_, ?_⟩
  · rw [State.userInfo, ← hheld, htext]
  · rw [State.timerFired, hheld]
    apply h.invalidated

/-- The text of the timer that fires is in the search bar exactly when the search bar is not
empty. -/
theorem userInfo_eq_iff (h : Debounced s.screen) {timer : Nat}
    (htimer : (s.screen.scheduledTimers.lookup timer).isSome) :
  s.userInfo = some s.screen.searchBarText ↔ s.screen.searchBarText ≠ ""
  := by
  obtain ⟨text, htext⟩ := Option.isSome_iff_exists.mp htimer
  have hmem : (timer, text) ∈ s.screen.scheduledTimers := by
    obtain ⟨before, after, hsplit, -⟩ := List.lookup_eq_some_iff.mp htext
    rw [hsplit]
    apply List.mem_append_right before List.mem_cons_self
  rw [State.userInfo, ← h.held _ hmem, htext, Option.some.injEq]
  constructor
  · rintro rfl
    apply h.text_ne _ hmem
  · intro hbar
    apply ((h.inBar _ hmem).resolve_right hbar).symm

end Debounced

namespace State

/-- The run loop fires a timer: it is pending, and the main thread is free. -/
def Fires (s : State) (timer : Nat) : Prop :=
  s.posting = none ∧ (s.screen.scheduledTimers.lookup timer).isSome

/-- A timer that fires now searches for the text in the search bar. -/
def SearchesText (s : State) : Action → Prop
  | .beginRequest timer => s.Fires timer → s.userInfo = some s.screen.searchBarText
  | _ => True

/-- No timer fires now on an empty search bar. -/
def FiresOnText (s : State) : Action → Prop
  | .beginRequest timer => s.Fires timer → s.screen.searchBarText ≠ ""
  | _ => True

end State

/-- In every run at most one search timer is pending at any time, and each one that fires
searches for the text that is in the search bar then, exactly when none fires on an empty search
bar. -/
theorem debounced_iff (F : Foundation) (realm : Realm) (as : List Action) :
  (application F).EveryState (fun s => s.screen.scheduledTimers.length ≤ 1) (launch realm) as ∧
    ((application F).EveryStep State.SearchesText (launch realm) as ↔
      (application F).EveryStep State.FiresOnText (launch realm) as)
  := by
  have hdebounced : ∀ {pre t}, (application F).run (launch realm) pre = .ok t →
      Debounced t.screen := by
    intro pre t ht
    apply Machine.invariant (P := fun s => Debounced s.screen) _ (Debounced.launch realm) ht
    intro s a t hs ht
    apply hs.step (State.step_eq_ok.mp ht)
  constructor
  · intro pre post t _ ht
    apply (hdebounced ht).length_le
  · apply Machine.everyStep_congr
    intro pre t ht a
    cases a with
    | beginRequest timer =>
        apply forall_congr'
        rintro ⟨-, htimer⟩
        apply (hdebounced ht).userInfo_eq_iff htimer
    | screen | bookInfoResponse | coverResponse | coversNotified | userPressedWishlistButton
      | notifyWishlistOfUpdate | addOrDeleteBookFromWishlist => apply Iff.rfl

/-- A text cleared by hand is searched for all the same when its timer fires. -/
theorem cleared_text_searched :
  ¬ ∀ (F : Foundation) (realm : Realm) (as : List Action),
    (application F).EveryState (fun s => s.screen.scheduledTimers.length ≤ 1) (launch realm) as ∧
      (application F).EveryStep State.SearchesText (launch realm) as
  := by
  intro h
  have hsearches := (h .onPlainText Table.empty [.screen (.searchBarTextDidChange "dune"),
    .screen (.searchBarTextDidChange ""), .beginRequest 1]).2 [.screen
      (.searchBarTextDidChange "dune"), .screen (.searchBarTextDidChange "")] (.beginRequest 1) []
    _ rfl rfl ⟨rfl, rfl⟩
  revert hsearches
  decide

end OpenLibrary
