import OpenLibrary.Library.Exchange
import OpenLibrary.Model.Frame
import OpenLibrary.Model.Views

/-!
# Covers that come at any time

The answer of a cover task touches `coverData` of its own book and the group of its call. To the
managers, the store and the references of the screens it so makes no difference when it comes: before
or after the answers for other books, before or after what the user, UIKit, the main queue and the
search timer do on the main thread, and before or after the first part of a press. Only the handler
of a press, which copies the cover, and the callbacks of the calls are left out. What is displayed
does depend on it: a cell, or the page of the popup with the cover, that is set up before the cover
comes is without it. Where those that are set up come neither earlier nor later, the same is
displayed as well (`covers_come_at_any_time`).
-/

namespace OpenLibrary

/-- Two objects are changed in either order, and so is one where the changes commute. -/
theorem Objects.modify_comm {objects : Objects} {o p : Nat} {f g : Book → Book}
    (h : o = p → ∀ b, f (g b) = g (f b)) :
  (objects.modify o f).modify p g = (objects.modify p g).modify o f
  := by
  have hbook : ((objects.modify o f).modify p g).book =
      ((objects.modify p g).modify o f).book := by
    funext q
    simp only [book_modify]
    rcases eq_or_ne o p with rfl | hne
    · rw [if_pos rfl, if_pos rfl, h rfl]
      split
      · rfl
      · rfl
    · rw [if_neg hne, if_neg hne.symm]
      by_cases hq : q = p
      · rw [hq, if_pos rfl, if_neg hne.symm, if_pos rfl]
      · rw [if_neg hq, if_neg hq]
  apply congrArg (fun book => Objects.mk book objects.next) hbook

/-! ### What the screens read of the managers -/

/-- Two states have the same screens, store, wishlist and results, while the books of the results
may differ. -/
structure SameScreens (s t : State) : Prop where
  screen : t.screen = s.screen
  realm : t.realm = s.realm
  wishList : t.wishList = s.wishList
  bookResults : t.search.bookResults = s.search.bookResults

namespace SameScreens

variable {s t : State}

theorem shownBooks (h : SameScreens s t) :
  t.shownBooks = s.shownBooks
  := by
  rw [State.shownBooks, State.shownBooks, h.screen, h.wishList, h.bookResults]

theorem displayed (h : SameScreens s t) :
  t.displayed = s.displayed
  := by
  funext ref
  cases ref with
  | detached o => rfl
  | stored row => rw [State.displayed, State.displayed, h.realm]

theorem isSome_read? (h : SameScreens s t) (ref : BookRef) :
  (t.read? ref).isSome = (s.read? ref).isSome
  := by
  cases ref with
  | detached o => rfl
  | stored row => rw [State.read?, State.read?, h.realm]

theorem reloadData (h : SameScreens s t) :
  t.reloadData = s.reloadData
  := by
  funext screen
  rw [State.reloadData, State.reloadData, State.readable, State.readable, h.shownBooks,
    h.displayed]
  simp only [h.isSome_read?]

theorem hasRow (h : SameScreens s t) (row : Nat) :
  t.hasRow row = s.hasRow row
  := by
  rw [State.hasRow, State.hasRow, h.screen]

theorem requestBook (h : SameScreens s t) (row : Nat) :
  t.requestBook row = s.requestBook row
  := by
  rw [State.requestBook, State.requestBook, h.shownBooks]

theorem cellForRowAt (h : SameScreens s t) (row : Nat) :
  t.cellForRowAt row = s.cellForRowAt row
  := by
  rw [State.cellForRowAt, State.cellForRowAt, h.screen, h.hasRow, h.requestBook, h.displayed]
  cases s.requestBook row with
  | error fault => rfl
  | ok ref =>
      cases ref with
      | detached o => rfl
      | stored i =>
          dsimp only [State.read?]
          rw [h.realm]

theorem presentBookDetailPopup (h : SameScreens s t) (row : Nat) :
  t.presentBookDetailPopup row = s.presentBookDetailPopup row
  := by
  rw [State.presentBookDetailPopup, State.presentBookDetailPopup, h.screen, h.hasRow,
    h.requestBook, h.displayed]
  cases s.requestBook row with
  | error fault => rfl
  | ok ref =>
      cases ref with
      | detached o => rfl
      | stored i =>
          dsimp only [State.read?]
          rw [h.realm]

theorem cellForItemAt (h : SameScreens s t) (page : Nat) :
  t.cellForItemAt page = s.cellForItemAt page
  := by
  rw [State.cellForItemAt, State.cellForItemAt, h.screen]
  cases s.screen.details with
  | none => rfl
  | some details =>
      dsimp only
      cases details.bookBeingDesplayed with
      | detached o => rfl
      | stored i =>
          dsimp only [State.read?]
          rw [h.realm]

/-- The references of the screens after a step are made of these; what the cells and the popup
display is not. -/
theorem screenStep (h : SameScreens s t) (action : ScreenAction) :
  t.screenStep action = s.screenStep action
  := by
  cases action with
  | userSelectedTab state =>
      unfold State.screenStep State.changeAppState State.getWishlistCount
      rw [h.screen, h.wishList]
  | searchBarTextDidChange searchText =>
      unfold State.screenStep State.requestBookSearch
      rw [h.screen]
  | topBarAnimationCompleted =>
      unfold State.screenStep State.topBarAnimationCompleted
      rw [h.screen]
  | runMainBlock =>
      unfold State.screenStep State.runMainBlock State.updateBookListBlock
      rw [h.screen, h.reloadData]
  | cellForRowAt row => apply h.cellForRowAt
  | didSelectRowAt row => apply h.presentBookDetailPopup
  | cellForItemAt page => apply congrArg (Except.map _) (h.cellForItemAt page)
  | userPressedCloseButton =>
      unfold State.screenStep State.closePopup
      rw [h.screen]

end SameScreens

namespace State

variable {F : Foundation} {s t : State} {a : Action}

/-! ### The answer of a cover task -/

/-- A cover task is answered. -/
def coverArrived (s : State) (task : CoverTask) : Option Data → State
  | none => s.coverAnswered task
  | some imageData => (s.coverAnswered task).coverReceived task imageData

theorem coverResponse_eq_ok_iff {task : CoverTask} {data : Option Data} :
  s.coverResponse task data = .ok t ↔
    task ∈ s.search.coverTasks ∧ t = s.coverArrived task data
  := by
  unfold coverResponse
  split
  · next htask =>
      cases data with
      | none => simp [htask, coverArrived, eq_comm]
      | some imageData => simp [htask, coverArrived, eq_comm]
  · next htask => simp [htask]

section Arrived

variable (s : State) (task : CoverTask) (data : Option Data)

theorem coverTasks_coverArrived :
  (s.coverArrived task data).search.coverTasks = s.search.coverTasks.erase task
  := by
  cases data with
  | none => rfl
  | some imageData => rfl

/-- A cover changes nothing that a step of the screens reads. -/
theorem sameScreens_coverArrived :
  SameScreens s (s.coverArrived task data)
  := by
  cases data with
  | none => exact ⟨rfl, rfl, rfl, rfl⟩
  | some imageData => exact ⟨rfl, rfl, rfl, rfl⟩

theorem onScreen_coverArrived (action : ScreenAction) :
  (s.coverArrived task data).onScreen action =
    (s.onScreen action).map (fun t => t.coverArrived task data)
  := by
  rw [onScreen, onScreen, (s.sameScreens_coverArrived task data).screenStep]
  cases s.screenStep action with
  | error fault => rfl
  | ok next =>
      cases data with
      | none => rfl
      | some imageData => rfl

/-- A cover changes nothing that the search timer reads. -/
theorem beginRequest_coverArrived (F : Foundation) (timer : Nat) :
  (s.coverArrived task data).beginRequest F timer =
    (s.beginRequest F timer).map (fun t => t.coverArrived task data)
  := by
  have hscreen := (s.sameScreens_coverArrived task data).screen
  have htimer : (s.coverArrived task data).timerFired timer =
      (s.timerFired timer).coverArrived task data := by
    cases data with
    | none => rfl
    | some imageData => rfl
  have hrequested : ((s.timerFired timer).coverArrived task data).requested =
      (s.timerFired timer).requested.coverArrived task data := by
    cases data with
    | none => rfl
    | some imageData => rfl
  rw [beginRequest, beginRequest, userInfo, userInfo, hscreen, htimer]
  split
  · cases s.screen.scheduledTimers.lookup s.screen.bookSearchTimer with
    | none => rfl
    | some bookQuery =>
        dsimp only [requestAPI, requesBookInfo]
        rw [hrequested]
        split
        · rfl
        · rfl
  · rfl

/-- A cover and the flag of a book are set in either order. -/
theorem toggled_coverArrived (ref : BookRef) :
  (s.coverArrived task data).toggled ref = (s.toggled ref).coverArrived task data
  := by
  cases data with
  | none =>
      cases ref with
      | detached o => rfl
      | stored row => rfl
  | some imageData =>
      cases ref with
      | stored row => rfl
      | detached o =>
          have hobjects : (s.objects.modify task.book
                (fun b => { b with coverData := imageData })).modify o Book.toggle =
              (s.objects.modify o Book.toggle).modify task.book
                (fun b => { b with coverData := imageData }) := by
            apply Objects.modify_comm
            intro _ b
            rfl
          unfold coverArrived coverReceived coverAnswered toggled
          dsimp only
          rw [hobjects]

theorem pressWishlistButton_coverArrived (ref : BookRef) :
  (s.coverArrived task data).pressWishlistButton ref =
    (s.pressWishlistButton ref).map (fun t => t.coverArrived task data)
  := by
  have hrealm := (s.sameScreens_coverArrived task data).realm
  rw [pressWishlistButton, pressWishlistButton, toggled_coverArrived]
  cases ref with
  | detached o => rfl
  | stored row =>
      dsimp only [read?]
      rw [hrealm]
      cases s.realm.find? row with
      | none => rfl
      | some book => rfl

end Arrived

end State

/-! ### Independent actions -/

/-- What happens on the main thread, but for the handler of a press. None of it touches a cover or
a cover task, and of what it does only what is displayed depends on covers. -/
def Action.leavesCovers : Action → Bool
  | .screen _ => true
  | .beginRequest _ => true
  | .userPressedWishlistButton _ => true
  | .notifyWishlistOfUpdate => true
  | _ => false

/-- Nor does such an action display a cover: it sets up no cell of the table, and not the page of
the popup with the cover. -/
def Action.ignoresCovers : Action → Bool
  | .screen .runMainBlock => false
  | .screen (.cellForRowAt _) => false
  | .screen (.cellForItemAt page) => page != 0
  | a => a.leavesCovers

namespace State

variable {F : Foundation} {s t : State} {a : Action}

/-- A cover and such an action make the same state in either order. -/
theorem step_coverArrived (ha : a.leavesCovers = true) (task : CoverTask) (data : Option Data) :
  (s.coverArrived task data).step F a =
    (s.step F a).map (fun t => t.coverArrived task data)
  := by
  have hscreen := (s.sameScreens_coverArrived task data).screen
  have hmain {next next' : Except Fault State}
      (hnext : next' = next.map (fun t => t.coverArrived task data)) :
      (s.coverArrived task data).onMainThread next' =
        (s.onMainThread next).map (fun t => t.coverArrived task data) := by
    have hposting : (s.coverArrived task data).posting = s.posting := by
      cases data with
      | none => rfl
      | some imageData => rfl
    rw [onMainThread, onMainThread, hposting, hnext]
    split
    · rfl
    · rfl
  cases a with
  | screen action => apply hmain (s.onScreen_coverArrived task data action)
  | beginRequest timer => apply hmain (s.beginRequest_coverArrived task data F timer)
  | userPressedWishlistButton row =>
      apply hmain
      rw [userPressedWishlistButton, userPressedWishlistButton, hscreen]
      split
      · rfl
      · cases s.screen.cells[row]? with
        | none => rfl
        | some ref => apply pressWishlistButton_coverArrived
  | notifyWishlistOfUpdate =>
      apply hmain
      rw [notifyWishlistOfUpdate, notifyWishlistOfUpdate, hscreen]
      cases s.screen.details with
      | none => rfl
      | some details => apply pressWishlistButton_coverArrived
  | _ => cases ha

/-- Such an action leaves the cover tasks alone. -/
theorem coverTasks_of_leavesCovers (ha : a.leavesCovers = true) (he : Effect F s a t) :
  t.search.coverTasks = s.search.coverTasks
  := by
  cases he with
  | screen | timer | request => rfl
  | pressed => rw [search_toggled]
  | _ => cases ha

/-- The covers of two books arrive in either order. -/
theorem coverArrived_comm {task task' : CoverTask} (h : task.book ≠ task'.book)
    (data data' : Option Data) :
  (s.coverArrived task data).coverArrived task' data' =
    (s.coverArrived task' data').coverArrived task data
  := by
  have htasks := List.erase_comm task task' (l := s.search.coverTasks)
  have hgroups {n : Nat → Nat} {r r' : Nat} :
      Function.update (Function.update n r (n r - 1)) r' (Function.update n r (n r - 1) r' - 1) =
        Function.update (Function.update n r' (n r' - 1)) r
          (Function.update n r' (n r' - 1) r - 1) := by
    rcases eq_or_ne r r' with rfl | hne
    · rfl
    · rw [Function.update_of_ne hne.symm, Function.update_of_ne hne, Function.update_comm hne]
  cases data with
  | none =>
      cases data' with
      | none =>
          unfold coverArrived coverAnswered
          dsimp only
          rw [htasks]
      | some imageData' =>
          unfold coverArrived coverReceived coverAnswered
          dsimp only
          rw [htasks]
  | some imageData =>
      cases data' with
      | none =>
          unfold coverArrived coverReceived coverAnswered
          dsimp only
          rw [htasks]
      | some imageData' =>
          unfold coverArrived coverReceived coverAnswered
          dsimp only
          rw [htasks, hgroups, Objects.modify_comm]
          intro heq
          apply absurd heq h

end State

/-! ### What is displayed -/

/-- An action that displays no cover is one that leaves covers alone. -/
theorem Action.leavesCovers_of_ignoresCovers {a : Action} (ha : a.ignoresCovers = true) :
  a.leavesCovers = true
  := by
  cases a with
  | screen => rfl
  | _ => exact ha

section Displayed

variable (s : State) (task : CoverTask) (data : Option Data)

/-- A cover changes nothing of the books but the cover of one. -/
theorem State.read?_coverArrived (ref : BookRef) :
  (s.coverArrived task data).read? ref = s.read? ref ∨
    ∃ b imageData, s.read? ref = some b ∧
      (s.coverArrived task data).read? ref = some { b with coverData := imageData }
  := by
  cases data with
  | none => exact Or.inl rfl
  | some imageData =>
      cases ref with
      | stored row => exact Or.inl rfl
      | detached o =>
          rw [coverArrived, State.read?, book_coverReceived]
          split
          · right
            exact ⟨_, imageData, rfl, rfl⟩
          · exact Or.inl rfl

/-- The popup of a row is set up as before: it displays the cover on its page only. -/
theorem Views.presentBookDetailPopup_coverArrived (row : Nat) (views : Views) :
  Views.presentBookDetailPopup (s.coverArrived task data) row views =
    Views.presentBookDetailPopup s row views
  := by
  rw [Views.presentBookDetailPopup, Views.presentBookDetailPopup,
    (s.sameScreens_coverArrived task data).shownBooks]
  cases s.shownBooks[row]? with
  | none => rfl
  | some ref =>
      rw [Option.bind_some, Option.bind_some]
      rcases s.read?_coverArrived task data ref with hsame | ⟨b, imageData, hs, ht⟩
      · rw [hsame]
      · rw [hs, ht]
        rfl

/-- A page of the popup without the cover is set up as before. -/
theorem Views.cellForItemAt_coverArrived {page : Nat} (hpage : page ≠ 0) (views : Views) :
  Views.cellForItemAt (s.coverArrived task data) page views = Views.cellForItemAt s page views
  := by
  rw [Views.cellForItemAt, Views.cellForItemAt, (s.sameScreens_coverArrived task data).screen]
  cases s.screen.details with
  | none => rfl
  | some details =>
      rw [Option.bind_some, Option.bind_some]
      rcases s.read?_coverArrived task data details.bookBeingDesplayed with
        hsame | ⟨b, imageData, hs, ht⟩
      · rw [hsame]
      · rw [hs, ht]
        simp only [BookDatailsView.setupCell, if_neg hpage]
        rfl

/-- The button of a cell is brought up to date as before. -/
theorem Views.userPressedWishlistButton_coverArrived (row : Nat) (views : Views) :
  Views.userPressedWishlistButton (s.coverArrived task data) row views =
    Views.userPressedWishlistButton s row views
  := by
  rw [Views.userPressedWishlistButton, Views.userPressedWishlistButton,
    (s.sameScreens_coverArrived task data).screen]
  cases s.screen.cells[row]? with
  | none => rfl
  | some ref =>
      rw [Option.bind_some, Option.bind_some, State.toggled_coverArrived]
      rcases (s.toggled ref).read?_coverArrived task data ref with
        hsame | ⟨b, imageData, hs, ht⟩
      · rw [hsame]
      · rw [hs, ht]
        rfl

/-- The button of the popup is brought up to date as before. -/
theorem Views.notifyWishlistOfUpdate_coverArrived (views : Views) :
  Views.notifyWishlistOfUpdate (s.coverArrived task data) views =
    Views.notifyWishlistOfUpdate s views
  := by
  rw [Views.notifyWishlistOfUpdate, Views.notifyWishlistOfUpdate,
    (s.sameScreens_coverArrived task data).screen]
  cases s.screen.details with
  | none => rfl
  | some details =>
      rw [Option.bind_some, Option.bind_some, State.toggled_coverArrived]
      rcases (s.toggled details.bookBeingDesplayed).read?_coverArrived task data
          details.bookBeingDesplayed with
        hsame | ⟨b, imageData, hs, ht⟩
      · rw [hsame]
      · rw [hs, ht]
        rfl

/-- An action that displays no cover displays the same after a cover has arrived. -/
theorem Views.next_coverArrived {a : Action} (ha : a.ignoresCovers = true) (views : Views) :
  Views.next (s.coverArrived task data) views a = Views.next s views a
  := by
  cases a with
  | screen action =>
      cases action with
      | userSelectedTab state =>
          rw [Views.next, Views.next, (s.sameScreens_coverArrived task data).screen]
      | didSelectRowAt row => apply Views.presentBookDetailPopup_coverArrived
      | cellForItemAt page =>
          apply Views.cellForItemAt_coverArrived
          apply bne_iff_ne.mp ha
      | runMainBlock => cases ha
      | cellForRowAt row => cases ha
      | _ => rfl
  | userPressedWishlistButton row => apply Views.userPressedWishlistButton_coverArrived
  | notifyWishlistOfUpdate => apply Views.notifyWishlistOfUpdate_coverArrived
  | beginRequest timer => rfl
  | _ => cases ha

end Displayed

/-- The answer of a cover task, and that for another book, or an action that does not depend on
covers. -/
inductive Independent (ignores : Action → Bool) : Action → Action → Prop where
  | covers {task task' : CoverTask} {data data' : Option Data} (h : task.book ≠ task'.book) :
      Independent ignores (.coverResponse task data) (.coverResponse task' data')
  | later {task : CoverTask} {data : Option Data} {a : Action} (h : ignores a = true) :
      Independent ignores (.coverResponse task data) a
  | earlier {task : CoverTask} {data : Option Data} {a : Action} (h : ignores a = true) :
      Independent ignores a (.coverResponse task data)

namespace Independent

variable {F : Foundation} {ignores : Action → Bool} {a b : Action}

theorem symm (h : Independent ignores a b) :
  Independent ignores b a
  := by
  cases h with
  | covers hne => apply Independent.covers hne.symm
  | later ha => apply Independent.earlier ha
  | earlier ha => apply Independent.later ha

theorem imp {ignores' : Action → Bool} (h : Independent ignores a b)
    (himp : ∀ {a}, ignores a = true → ignores' a = true) :
  Independent ignores' a b
  := by
  cases h with
  | covers hne => apply Independent.covers hne
  | later ha => apply Independent.later (himp ha)
  | earlier ha => apply Independent.earlier (himp ha)

/-- Actions independent of one another lead to the same state in either order, whatever they
display. -/
theorem commute (h : Independent Action.leavesCovers a b) :
  (application F).Commute a b
  := by
  intro s t u ht hu
  cases h with
  | @covers task task' data data' hne =>
      obtain ⟨htask, rfl⟩ := State.coverResponse_eq_ok_iff.mp ht
      obtain ⟨htask', rfl⟩ := State.coverResponse_eq_ok_iff.mp hu
      rw [State.coverTasks_coverArrived] at htask'
      use s.coverArrived task' data'
      constructor
      · exact State.coverResponse_eq_ok_iff.mpr ⟨List.mem_of_mem_erase htask', rfl⟩
      · apply State.coverResponse_eq_ok_iff.mpr
        constructor
        · rw [State.coverTasks_coverArrived]
          apply (List.mem_erase_of_ne _).mpr htask
          rintro rfl
          apply hne rfl
        · apply State.coverArrived_comm hne
  | @later task data _ ha =>
      obtain ⟨htask, rfl⟩ := State.coverResponse_eq_ok_iff.mp ht
      change (s.coverArrived task data).step F b = .ok u at hu
      rw [State.step_coverArrived ha] at hu
      cases hv : s.step F b with
      | error fault =>
          rw [hv] at hu
          cases hu
      | ok v =>
          rw [hv] at hu
          use v, hv
          apply State.coverResponse_eq_ok_iff.mpr
          rw [State.coverTasks_of_leavesCovers ha (State.step_eq_ok.mp hv)]
          exact ⟨htask, (Except.ok.inj hu).symm⟩
  | @earlier task data _ ha =>
      obtain ⟨htask, rfl⟩ := State.coverResponse_eq_ok_iff.mp hu
      have he : Effect F s a t := State.step_eq_ok.mp ht
      rw [State.coverTasks_of_leavesCovers ha he] at htask
      use s.coverArrived task data
      constructor
      · exact State.coverResponse_eq_ok_iff.mpr ⟨htask, rfl⟩
      · apply (State.step_coverArrived ha task data).trans
        apply congrArg (Except.map _) ht

/-- Where no cover is displayed, they display the same in either order too. -/
theorem commute_viewed (h : Independent Action.ignoresCovers a b) :
  (viewed F).Commute a b
  := by
  apply Machine.Commute.withHistory (h.imp Action.leavesCovers_of_ignoresCovers).commute
  intro s t v views ht hv
  cases h with
  | covers => rfl
  | later ha =>
      obtain ⟨-, rfl⟩ := State.coverResponse_eq_ok_iff.mp ht
      apply Views.next_coverArrived s _ _ ha
  | earlier ha =>
      obtain ⟨-, rfl⟩ := State.coverResponse_eq_ok_iff.mp hv
      apply (Views.next_coverArrived s _ _ ha views).symm

end Independent

/-! ### Runs -/

/-- The answer of a cover task with some data, or none. -/
def answer (p : CoverTask × Option Data) : Action :=
  .coverResponse p.1 p.2

/-- Where answers of cover tasks come earlier or later than other answers, and than steps of the
main thread that neither handle a press nor set up a cell or the page of the popup with the cover,
a run leads to the same state with the same on display. In particular the answers for different
books come in any order. Where they come earlier or later than the steps that set up cells and
pages too, the managers, the store and the references of the screens are the same, while the
covers displayed need not be. -/
theorem covers_come_at_any_time (F : Foundation) :
  (∀ (x y : State × Views) as bs, Machine.Exchange (Independent Action.ignoresCovers) as bs →
      ((viewed F).run x as = .ok y ↔ (viewed F).run x bs = .ok y)) ∧
    (∀ (x y : State × Views) (answers answers' : List (CoverTask × Option Data)),
      answers.Perm answers' → (answers.map (fun p => p.1.book)).Nodup →
      ((viewed F).run x (answers.map answer) = .ok y ↔
        (viewed F).run x (answers'.map answer) = .ok y)) ∧
    ∀ (s t : State) as bs, Machine.Exchange (Independent Action.leavesCovers) as bs →
      ((application F).run s as = .ok t ↔ (application F).run s bs = .ok t)
  := by
  have hexchange : ∀ (x y : State × Views) as bs,
      Machine.Exchange (Independent Action.ignoresCovers) as bs →
      ((viewed F).run x as = .ok y ↔ (viewed F).run x bs = .ok y) := by
    intro x y as bs h
    apply Machine.run_iff_of_exchange Independent.symm Independent.commute_viewed h
  refine ⟨hexchange, ?_, ?_⟩
  · intro x y answers answers' hperm hnodup
    apply hexchange
    apply Machine.Exchange.of_perm Independent.symm (hperm.map answer)
    rw [List.pairwise_map]
    apply (List.pairwise_map.mp hnodup).imp
    intro p q hne
    apply Independent.covers hne
  · intro s t as bs h
    apply Machine.run_iff_of_exchange Independent.symm Independent.commute h

/-- The second of two covers comes first, and a tab is selected between them. -/
theorem covers_come_at_any_time_dune :
  ∃ x, (viewed .onPlainText).run (launch Table.empty, .initial)
      [.screen (.searchBarTextDidChange "dune"), .beginRequest 1,
        .bookInfoResponse 0 (responseOf [document 7 "Dune", document 9 "Emma"])] = .ok x ∧
    ∀ y, ((viewed .onPlainText).run x
        [answer (⟨0, 0, bookCoverRequestURL 7⟩, some [1]), .screen (.userSelectedTab .wishlist),
          answer (⟨0, 1, bookCoverRequestURL 9⟩, some [2])] = .ok y ↔
      (viewed .onPlainText).run x
        [answer (⟨0, 1, bookCoverRequestURL 9⟩, some [2]),
          answer (⟨0, 0, bookCoverRequestURL 7⟩, some [1]),
          .screen (.userSelectedTab .wishlist)] = .ok y)
  := by
  apply (exists_congr (fun x => and_iff_left_of_imp _)).mpr
  · exact ⟨_, rfl⟩
  · intro x _ y
    apply (covers_come_at_any_time .onPlainText).1 x y
    apply Machine.Exchange.trans
    · apply Machine.Exchange.cons
      apply Machine.Exchange.swap (Independent.earlier rfl)
    · apply Machine.Exchange.swap
      apply Independent.covers
      decide

end OpenLibrary
