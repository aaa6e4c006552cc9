import OpenLibrary.Library.Rest
import OpenLibrary.Model.Frame
import Mathlib.Order.RelClasses

/-!
# Coming to rest

Left alone by its user, the process comes to rest: timers fire, the network answers, `notify`
blocks, handlers, queued blocks and animations run, and each of these uses up something that only
an earlier kind of them makes (`State.rank`). It rests exactly when none of these is left, but for
the `notify` blocks of groups that were not left as often as entered (`comes_to_rest`).
-/

namespace OpenLibrary

/-- The action is not the user's. -/
def Action.autonomous : Action → Bool
  | .screen .topBarAnimationCompleted => true
  | .screen .runMainBlock => true
  | .beginRequest _ => true
  | .bookInfoResponse _ _ => true
  | .coverResponse _ _ => true
  | .coversNotified _ => true
  | .addOrDeleteBookFromWishlist => true
  | _ => false

namespace State

/-- Nothing is left to happen but what the user does, and what the search timer starts. -/
structure Ready (s : State) : Prop where
  posting : s.posting = none
  infoTasks : s.search.infoTasks = []
  coverTasks : s.search.coverTasks = []
  notifies : ∀ r ∈ s.search.notifies, s.search.groups r ≠ 0
  mainQueue : s.screen.mainQueue = []
  clearingAnimations : s.screen.clearingAnimations = 0

/-- Nothing is left to happen but what the user does. -/
structure AtRest (s : State) : Prop extends Ready s where
  scheduledTimers : s.screen.scheduledTimers = []

/-- Where nothing is pending at all, the process is at rest. -/
theorem atRest_of_nil {s : State} (hposting : s.posting = none)
    (htimers : s.screen.scheduledTimers = []) (hinfo : s.search.infoTasks = [])
    (hcovers : s.search.coverTasks = []) (hnotifies : s.search.notifies = [])
    (hqueue : s.screen.mainQueue = []) (hanimations : s.screen.clearingAnimations = 0) :
  s.AtRest
  := by
  refine ⟨⟨hposting, hinfo, hcovers, ?_, hqueue, hanimations⟩, htimers⟩
  intro r hr
  rw [hnotifies] at hr
  cases hr

/-- What is left to happen: first the searches, then what comes of them. -/
def rank (s : State) : Nat × Nat :=
  (2 * s.screen.scheduledTimers.length + s.search.infoTasks.length,
    s.search.coverTasks.length + 2 * s.search.notifies.length +
      2 * s.posting.toList.length + s.screen.mainQueue.length + s.screen.clearingAnimations)

variable {F : Foundation} {s t : State} {a : Action}

/-! ### Ranks -/

/-- A timer that fires is not scheduled any more. -/
theorem length_scheduledTimers_timerFired {timer : Nat}
    (h : (s.screen.scheduledTimers.lookup timer).isSome) :
  (s.timerFired timer).screen.scheduledTimers.length < s.screen.scheduledTimers.length
  := by
  obtain ⟨text, htext⟩ := Option.isSome_iff_exists.mp h
  obtain ⟨before, after, hsplit, -⟩ := List.lookup_eq_some_iff.mp htext
  apply List.length_filter_lt_length_iff_exists.mpr
  use (timer, text)
  constructor
  · rw [hsplit]
    apply List.mem_append_right _ List.mem_cons_self
  · simp

/-- A step of the screens that is not the user's uses up a block or an animation. -/
theorem rank_screenEffect {action : ScreenAction} {screen : Screen} {events : List Event}
    (ha : (Action.screen action).autonomous) (he : ScreenEffect s action screen events) :
  Prod.Lex (· < ·) (· < ·)
    { s with screen := screen, history := s.history ++ events : State }.rank s.rank
  := by
  cases he with
  | animation h =>
      apply Prod.Lex.right
      rw [h]
      apply Nat.lt_succ_self
  | mainArea hqueue | bookList hqueue | previewCell hqueue =>
      apply Prod.Lex.right
      rw [hqueue]
      apply Nat.add_lt_add_right
      apply Nat.lt_succ_self
  | tab | text | cell | popup | page | close => cases ha

/-- A step that is not the user's lowers the rank. -/
theorem rank_step (ha : a.autonomous) (he : Effect F s a t) :
  Prod.Lex (· < ·) (· < ·) t.rank s.rank
  := by
  cases he with
  | screen hidle hscreen => apply rank_screenEffect ha (screenEffect_of_screenStep hscreen)
  | @timer timer hidle htimer =>
      have hlt := length_scheduledTimers_timerFired htimer
      apply Prod.Lex.left
      apply Nat.add_lt_add_right
      omega
  | @request timer bookQuery hidle htimer =>
      have hlt := length_scheduledTimers_timerFired htimer
      apply Prod.Lex.left
      change 2 * (s.timerFired timer).screen.scheduledTimers.length +
        (s.search.infoTasks ++ [s.search.requests]).length < _
      rw [List.length_append, List.length_singleton]
      omega
  | @noResults r data hr | @emptyResults r data hr =>
      have hlength := List.length_erase_add_one hr
      apply Prod.Lex.left
      apply Nat.add_lt_add_left
      change (s.search.infoTasks.erase r).length < _
      omega
  | @results r data docs newBooks hr =>
      have hlength := List.length_erase_add_one hr
      apply Prod.Lex.left
      rw [screen_booksStructured, infoTasks_booksStructured]
      apply Nat.add_lt_add_left
      change (s.search.infoTasks.erase r).length < _
      omega
  | @noCover task htask =>
      have hlength := List.length_erase_add_one htask
      apply Prod.Lex.right
      change (s.search.coverTasks.erase task).length + 2 * s.search.notifies.length +
        2 * s.posting.toList.length + s.screen.mainQueue.length + s.screen.clearingAnimations < _
      omega
  | @cover task imageData htask =>
      have hlength := List.length_erase_add_one htask
      apply Prod.Lex.right
      change (s.search.coverTasks.erase task).length + 2 * s.search.notifies.length +
        2 * s.posting.toList.length + s.screen.mainQueue.length + s.screen.clearingAnimations < _
      omega
  | @notified r hr hgroup =>
      have hlength := List.length_erase_add_one hr
      apply Prod.Lex.right
      change s.search.coverTasks.length + 2 * (s.search.notifies.erase r).length +
        2 * s.posting.toList.length + (s.screen.mainQueue ++ [Block.updateBookList]).length +
          s.screen.clearingAnimations < _
      rw [List.length_append, List.length_singleton]
      omega
  | pressed hidle hpress =>
      cases a with
      | userPressedWishlistButton row => cases ha
      | notifyWishlistOfUpdate => cases ha
      | _ => cases hpress
  | @updated ref book hposting hread =>
      obtain ⟨block, hblock⟩ := s.wishlistUpdated_enqueues book
      rw [rank, rank, hblock, hposting]
      apply Prod.Lex.right
      change s.search.coverTasks.length + 2 * s.search.notifies.length + 2 * 0 +
          (s.screen.mainQueue ++ [block]).length + s.screen.clearingAnimations <
        s.search.coverTasks.length + 2 * s.search.notifies.length + 2 * 1 +
          s.screen.mainQueue.length + s.screen.clearingAnimations
      rw [List.length_append, List.length_singleton]
      omega

/-! ### Rest -/

/-- What runs on the main thread runs when nothing is being posted. -/
theorem onMainThread_of_idle (hidle : s.posting = none) (next : Except Fault State) :
  s.onMainThread next = next
  := by
  rw [onMainThread, hidle]
  rfl

/-- The handler runs when a notification is posted, if only to trap. -/
theorem handler_ne_disabled {ref : BookRef} (h : s.posting = some ref) :
  s.step F .addOrDeleteBookFromWishlist ≠ .error .disabled
  := by
  rw [step, addOrDeleteBookFromWishlist, h]
  dsimp only
  cases s.read? ref with
  | none => rintro ⟨⟩
  | some book => rintro ⟨⟩

/-- A scheduled timer fires, if only to trap. -/
theorem beginRequest_ne_disabled (hidle : s.posting = none) {timer : Nat}
    (h : (s.screen.scheduledTimers.lookup timer).isSome) :
  s.step F (.beginRequest timer) ≠ .error .disabled
  := by
  rw [step, onMainThread_of_idle hidle, beginRequest, if_pos h]
  cases s.userInfo with
  | none => rintro ⟨⟩
  | some bookQuery =>
      dsimp only
      rw [requestAPI, requesBookInfo]
      split
      · rintro ⟨⟩
      · rintro ⟨⟩

/-- The first block of the main queue runs, if only to trap. -/
theorem runMainBlock_ne_disabled (hidle : s.posting = none) {block : Block} {rest : List Block}
    (h : s.screen.mainQueue = block :: rest) :
  s.step F (.screen .runMainBlock) ≠ .error .disabled
  := by
  have hreload : ∀ screen, s.reloadData screen ≠ .error .disabled := by
    intro screen
    rw [reloadData]
    split
    · rintro ⟨⟩
    · rintro ⟨⟩
  have hblock : s.runMainBlock ≠ .error .disabled := by
    rw [runMainBlock, h]
    cases block with
    | updateMainArea image message => rintro ⟨⟩
    | updatePreviewCell i => apply hreload
    | updateBookList =>
        dsimp only
        rw [updateBookListBlock]
        split
        · next fault hfault =>
            rintro ⟨⟩
            apply hreload _ hfault
        · split
          · rintro ⟨⟩
          · rintro ⟨⟩
  rw [step, onMainThread_of_idle hidle, onScreen]
  change s.runMainBlock.map _ ≠ _
  cases hrun : s.runMainBlock with
  | ok next => rintro ⟨⟩
  | error fault =>
      rw [hrun] at hblock
      intro he
      apply hblock
      apply congrArg Except.error (Except.error.inj he)

/-- Where no step but the user's can happen, the process is at rest. -/
theorem atRest_of_idle
    (h : (application F).Idle (fun a => a.autonomous = true) .disabled s) :
  s.AtRest
  := by
  have hposting : s.posting = none := by
    cases hp : s.posting with
    | none => rfl
    | some ref => apply absurd (h .addOrDeleteBookFromWishlist rfl) (handler_ne_disabled (F := F) hp)
  constructor
  · constructor
    · apply hposting
    · apply List.eq_nil_iff_forall_not_mem.mpr
      intro r hr
      have hstep : s.step F (.bookInfoResponse r .noData) = .ok (s.infoAnswered r) :=
        step_eq_ok.mpr (Effect.noResults hr rfl)
      cases hstep.symm.trans (h (.bookInfoResponse r .noData) rfl)
    · apply List.eq_nil_iff_forall_not_mem.mpr
      intro task htask
      have hstep : s.step F (.coverResponse task none) = .ok (s.coverAnswered task) :=
        step_eq_ok.mpr (Effect.noCover htask)
      cases hstep.symm.trans (h (.coverResponse task none) rfl)
    · intro r hr hgroup
      have hstep := step_eq_ok.mpr (Effect.notified (F := F) hr hgroup)
      cases hstep.symm.trans (h (.coversNotified r) rfl)
    · cases hqueue : s.screen.mainQueue with
      | nil => rfl
      | cons block rest =>
          have hblock := runMainBlock_ne_disabled (F := F) hposting hqueue
          apply absurd (h (.screen .runMainBlock) rfl) hblock
    · cases hn : s.screen.clearingAnimations with
      | zero => rfl
      | succ n =>
          have hscreen : s.screenStep .topBarAnimationCompleted =
              .ok ({ s.screen with searchBarText := "", clearingAnimations := n }, []) := by
            rw [screenStep, topBarAnimationCompleted, hn]
            rfl
          have hstep := step_eq_ok.mpr (Effect.screen (F := F) hposting hscreen)
          cases hstep.symm.trans (h (.screen .topBarAnimationCompleted) rfl)
  · cases htimers : s.screen.scheduledTimers with
    | nil => rfl
    | cons timer timers =>
        obtain ⟨timer, text⟩ := timer
        apply absurd (h (.beginRequest timer) rfl)
        apply beginRequest_ne_disabled hposting
        rw [htimers, List.lookup_cons_self]
        rfl

/-- At rest, no step but the user's can happen. -/
theorem AtRest.idle (h : s.AtRest) :
  (application F).Idle (fun a => a.autonomous = true) .disabled s
  := by
  intro a ha
  change s.step F a = _
  cases a with
  | screen action =>
      rw [step, onMainThread_of_idle h.posting, onScreen]
      cases action with
      | topBarAnimationCompleted =>
          rw [screenStep, topBarAnimationCompleted, h.clearingAnimations]
          rfl
      | runMainBlock =>
          rw [screenStep, runMainBlock, h.mainQueue]
          rfl
      | _ => cases ha
  | beginRequest timer =>
      rw [step, onMainThread_of_idle h.posting, beginRequest, h.scheduledTimers]
      rfl
  | bookInfoResponse r data =>
      rw [step, bookInfoResponse, h.infoTasks, if_neg List.not_mem_nil]
  | coverResponse task data =>
      rw [step]
      unfold coverResponse
      rw [h.coverTasks, if_neg List.not_mem_nil]
  | coversNotified r =>
      rw [step, coversNotified, if_neg]
      rintro ⟨hr, hgroup⟩
      apply h.notifies r hr hgroup
  | addOrDeleteBookFromWishlist => rw [step, addOrDeleteBookFromWishlist, h.posting]
  | userPressedWishlistButton row => cases ha
  | notifyWishlistOfUpdate => cases ha

end State

/-- From no state, reachable or not, can the steps that are not the user's go on forever; from
every state some of them lead to rest, or to a trap; and the states in which none of them can
happen are those at rest. -/
theorem comes_to_rest (F : Foundation) :
  (∀ states actions,
      ¬ (application F).Endless (fun a => a.autonomous = true) states actions) ∧
    (∀ s, ∃ as, (∀ a ∈ as, a.autonomous = true) ∧
      ((∃ t, (application F).run s as = .ok t ∧ t.AtRest) ∨
        ∃ trap, (application F).run s as = .error (.trap trap))) ∧
    ∀ s : State, s.AtRest ↔ ∀ a, a.autonomous = true → s.step F a = .error .disabled
  := by
  have hwf : WellFounded ((application F).Follows (fun a => a.autonomous = true)) := by
    apply Machine.wellFounded_follows (Nat.lt_wfRel.wf.prod_lex Nat.lt_wfRel.wf) State.rank
    intro s a t ha ht
    apply State.rank_step ha (State.step_eq_ok.mp ht)
  refine ⟨?_, ?_, ?_⟩
  · intro states actions
    apply Machine.not_endless hwf
  · intro s
    obtain ⟨as, has, ⟨t, ht, hidle⟩ | ⟨fault, hne, hfault⟩⟩ :=
      Machine.exists_run_idle hwf Fault.disabled s
    · exact ⟨as, has, Or.inl ⟨t, ht, State.atRest_of_idle hidle⟩⟩
    · refine ⟨as, has, Or.inr ?_⟩
      cases fault with
      | disabled => apply absurd rfl hne
      | trap trap => exact ⟨trap, hfault⟩
  · intro s
    constructor
    · apply State.AtRest.idle
    · apply State.atRest_of_idle

end OpenLibrary
