import OpenLibrary.Screen.Deleted
import OpenLibrary.Screen.Rest
import OpenLibrary.Search.Debounce

/-!
# Sequential use

Most of what goes wrong goes wrong when things overlap. Here they do not: the user waits until the
process is at rest, types in the Book Search tab only, uses no popup of a deleted record, and the
network answers with documents of the expected types and with covers (`State.Sequential`). Then
the process is in one of five stages at any time (`Stage`), it never traps, and at rest the table
shows the books of the tab.
-/

namespace OpenLibrary

namespace State

/-- The step waits for those before it: the user acts when the process is at rest, or goes on
typing, and the network answers with what it was asked for. -/
def Sequential (F : Foundation) (s : State) : Action → Prop
  | .screen .topBarAnimationCompleted => True
  | .screen .runMainBlock => True
  | .screen (.searchBarTextDidChange _) => s.Ready ∧ s.screen.currentAppState = .bookSearch
  | .beginRequest _ => ∀ bookQuery, s.userInfo = some bookQuery →
      F.isURL (bookInfoRequestURL (optimizedBookQuery F bookQuery))
  | .bookInfoResponse _ data => ∃ docs newBooks, data.bookResultsJSON? = some docs ∧
      structureBooks docs = some newBooks
  | .coverResponse _ data => data ≠ none
  | .coversNotified _ => True
  | .addOrDeleteBookFromWishlist => True
  | a => s.AtRest ∧ ∀ ref, s.heldBook a = some ref → s.read? ref ≠ none

/-- A block leaves the Wishlist tab showing the table exactly when there is a book in the
wishlist. -/
def FitsTab (s : State) : Block → Prop
  | .updateMainArea _ _ => s.screen.currentAppState = .wishlist → s.wishList = []
  | .updateBookList => s.screen.currentAppState = .wishlist → s.wishList ≠ []
  | .updatePreviewCell _ => False

/-! ### The stages -/

/-- What is pending in a process, besides timers, covers and animations. -/
structure Pends (s : State) (posting : Option BookRef) (infoTasks notifies : List Nat)
    (mainQueue : List Block) : Prop where
  posting : s.posting = posting
  infoTasks : s.search.infoTasks = infoTasks
  notifies : s.search.notifies = notifies
  mainQueue : s.screen.mainQueue = mainQueue

/-- Nothing is pending but perhaps a search timer, and the table shows what it is to show. -/
structure Quiet (s : State) : Prop where
  pends : s.Pends none [] [] []
  coverTasks : s.search.coverTasks = []
  timers : ∀ timer ∈ s.screen.scheduledTimers, s.screen.currentAppState = .bookSearch
  rows : s.screen.isHidden = false → s.screen.cells = s.shownBooks
  visible : s.screen.currentAppState = .wishlist →
    (s.screen.isHidden = false ↔ s.wishList ≠ [])

/-- A call waits for its documents. -/
structure Searching (s : State) (r : Nat) : Prop where
  pends : s.Pends none [r] [] []
  bookResults : s.search.bookResults = []
  coverTasks : s.search.coverTasks = []
  timers : s.screen.scheduledTimers = []
  tab : s.screen.currentAppState = .bookSearch

/-- A call waits for covers, and its group counts them. -/
structure Fetching (s : State) (r : Nat) : Prop where
  pends : s.Pends none [] [r] []
  group : s.search.groups r = s.search.coverTasks.length
  covers : ∀ task ∈ s.search.coverTasks, task.request = r
  timers : s.screen.scheduledTimers = []
  tab : s.screen.currentAppState = .bookSearch

/-- A block waits to update the table. -/
structure Updating (s : State) (block : Block) : Prop where
  pends : s.Pends none [] [] [block]
  coverTasks : s.search.coverTasks = []
  timers : s.screen.scheduledTimers = []
  fits : s.FitsTab block

/-- A notification waits for its handler. -/
structure Pressing (s : State) (ref : BookRef) : Prop where
  pends : s.Pends (some ref) [] [] []
  coverTasks : s.search.coverTasks = []
  timers : s.screen.scheduledTimers = []

/-- The stages a process used sequentially goes through. -/
inductive Stage (s : State) : Prop where
  | quiet (h : s.Quiet)
  | searching {r : Nat} (h : s.Searching r)
  | fetching {r : Nat} (h : s.Fetching r)
  | updating (block : Block) (h : s.Updating block)
  | pressing (ref : BookRef) (h : s.Pressing ref)

theorem quiet_launch (realm : Realm) :
  (launch realm).Quiet
  := by
  constructor
  · exact ⟨rfl, rfl, rfl, rfl⟩
  · rfl
  · intro timer htimer
    cases htimer
  · intro hvisible
    cases hvisible
  · intro htab
    cases htab

end State

/-- A task is answered, or a `notify` block runs. -/
def Action.ofNetwork : Action → Bool
  | .bookInfoResponse _ _ => true
  | .coverResponse _ _ => true
  | .coversNotified _ => true
  | _ => false

namespace State

variable {F : Foundation} {s t : State} {a : Action}

/-- Nothing comes from the network while no task and no `notify` block waits. -/
theorem Pends.ofNetwork_eq_false {posting : Option BookRef} {mainQueue : List Block}
    (h : s.Pends posting [] [] mainQueue) (hcovers : s.search.coverTasks = [])
    (he : Effect F s a t) :
  a.ofNetwork = false
  := by
  cases he with
  | noResults hr | emptyResults hr | results hr =>
      rw [h.infoTasks] at hr
      cases hr
  | noCover htask | cover htask =>
      rw [hcovers] at htask
      cases htask
  | notified hr =>
      rw [h.notifies] at hr
      cases hr
  | @pressed a ref book hidle hpress =>
      cases a with
      | bookInfoResponse | coverResponse | coversNotified => cases hpress
      | _ => rfl
  | _ => rfl

/-! ### Waiting for the user -/

/-- Ready for the user, the process is in the quiet stage. -/
theorem Stage.quiet_of_ready (h : s.Stage) (hready : s.Ready) :
  s.Quiet
  := by
  cases h with
  | quiet h => apply h
  | searching h => cases hready.infoTasks.symm.trans h.pends.infoTasks
  | @fetching r h =>
      have hr : r ∈ s.search.notifies := by
        rw [h.pends.notifies]
        apply List.mem_singleton_self
      apply absurd _ (hready.notifies r hr)
      rw [h.group, hready.coverTasks]
      rfl
  | updating block h => cases hready.mainQueue.symm.trans h.pends.mainQueue
  | pressing ref h => cases hready.posting.symm.trans h.pends.posting

/-- A queued block fits the tab. -/
theorem Stage.fitsTab (h : s.Stage) {block : Block} {rest : List Block}
    (hqueue : s.screen.mainQueue = block :: rest) :
  s.FitsTab block
  := by
  cases h with
  | quiet h => cases hqueue.symm.trans h.pends.mainQueue
  | searching h => cases hqueue.symm.trans h.pends.mainQueue
  | fetching h => cases hqueue.symm.trans h.pends.mainQueue
  | updating block h =>
      obtain ⟨rfl, -⟩ := List.cons.inj (hqueue.symm.trans h.pends.mainQueue)
      apply h.fits
  | pressing ref h => cases hqueue.symm.trans h.pends.mainQueue

/-- A visible row of a process ready for the user has a book. -/
theorem Quiet.exists_book (h : s.Quiet) {row : Nat} (hrow : s.hasRow row) :
  ∃ ref, s.shownBooks[row]? = some ref
  := by
  rw [hasRow, Bool.and_eq_true, Bool.not_eq_true', decide_eq_true_eq] at hrow
  rw [← h.rows hrow.1]
  exact ⟨_, List.getElem?_eq_getElem hrow.2⟩

/-- A step of a process used sequentially does not trap. -/
theorem Stage.not_trap (h : s.Stage) (hread : s.Readable) (hseq : s.Sequential F a)
    {trap : Trap} :
  ¬ TrapEffect F s a trap
  := by
  intro he
  cases he with
  | url hidle htimer hinfo hurl => apply hurl (hseq _ hinfo)
  | cast hr hdata hbooks =>
      obtain ⟨docs, newBooks, hdocs, hnew⟩ := hseq
      obtain rfl := Option.some.inj (hdata.symm.trans hdocs)
      cases hbooks.symm.trans hnew
  | scroll hidle hqueue htab hempty =>
      apply h.fitsTab hqueue htab
      rw [shownBooks_of_wishlist htab, List.map_eq_nil_iff] at hempty
      apply hempty
  | bookList hidle hqueue hreload => apply hreload hread.readable
  | previewCell hidle hqueue hreload => apply hreload hread.readable
  | cellIndex hidle hrow hbook | popupIndex hidle hrow _ hbook =>
      obtain ⟨ref, href⟩ := (h.quiet_of_ready hseq.1.toReady).exists_book hrow
      cases hbook.symm.trans href
  | cell hidle hrow hbook hnone => apply hread.read?_ne_none hbook hnone
  | popup hidle hrow hdetails hbook hnone => apply hread.read?_ne_none hbook hnone
  | @page page details hidle hdetails hpage hnone =>
      apply hseq.2 details.bookBeingDesplayed _ hnone
      rw [heldBook, hdetails, Option.bind_some, if_pos hpage]
  | press hidle hpress hnone =>
      have hheld := heldBook_of_pressedBook hpress
      cases a with
      | userPressedWishlistButton row => apply hseq.2 _ hheld hnone
      | notifyWishlistOfUpdate => apply hseq.2 _ hheld hnone
      | _ => cases hpress
  | handler hposting hnone =>
      have hsome := hread.posted _ hposting
      rw [hnone] at hsome
      cases hsome

/-! ### Steps -/

/-- The user chose another tab. -/
theorem Quiet.changeAppState (h : s.Quiet) (htimers : s.screen.scheduledTimers = [])
    {state : AppState} (hne : state ≠ s.screen.currentAppState) (events : List Event) :
  { s with screen := s.changeAppState state, history := s.history ++ events }.Stage
  := by
  have hqueue : ∀ {block}, s.screen.mainQueue ++ [block] = [block] := by
    intro block
    rw [h.pends.mainQueue]
    rfl
  rw [State.changeAppState, if_neg hne]
  cases state with
  | bookSearch =>
      apply Stage.updating (.updateMainArea .searchForBooks .searchForBooks)
      refine ⟨⟨h.pends.posting, h.pends.infoTasks, h.pends.notifies, hqueue⟩, h.coverTasks, htimers,
        ?_⟩
      intro htab
      cases htab
  | wishlist =>
      dsimp only
      split
      · next hcount =>
          apply Stage.updating
            (.updateMainArea .searchForBooks .searchForBooksToAddToWishlist)
          refine ⟨⟨h.pends.posting, h.pends.infoTasks, h.pends.notifies, hqueue⟩, h.coverTasks,
            htimers, ?_⟩
          intro _
          apply List.length_eq_zero_iff.mp hcount
      · next hcount =>
          apply Stage.updating .updateBookList
          refine ⟨⟨h.pends.posting, h.pends.infoTasks, h.pends.notifies, hqueue⟩, h.coverTasks,
            htimers, ?_⟩
          intro _ hempty
          apply hcount
          apply List.length_eq_zero_iff.mpr hempty

/-- Steps that change nothing but what the user sees of a book. -/
theorem Quiet.congr (h : s.Quiet) (hpends : t.Pends none [] [] [])
    (hsearch : t.search = s.search) (hwishList : t.wishList = s.wishList)
    (htimers : t.screen.scheduledTimers ⊆ s.screen.scheduledTimers)
    (htab : t.screen.currentAppState = s.screen.currentAppState)
    (hhidden : t.screen.isHidden = s.screen.isHidden)
    (hcells : t.screen.isHidden = false → t.screen.cells = s.screen.cells) :
  t.Quiet
  := by
  constructor
  · apply hpends
  · rw [hsearch]
    apply h.coverTasks
  · intro timer htimer
    rw [htab]
    apply h.timers timer (htimers htimer)
  · intro hvisible
    rw [hcells hvisible, h.rows (hhidden.symm.trans hvisible), shownBooks, shownBooks, htab,
      hsearch, hwishList]
  · intro hwishlist
    rw [hhidden, hwishList]
    apply h.visible (htab.symm.trans hwishlist)

/-- A step of the screens in the quiet stage. -/
theorem Quiet.screen (h : s.Quiet) {action : ScreenAction} {screen : Screen}
    {events : List Event} (hseq : s.Sequential F (.screen action))
    (he : ScreenEffect s action screen events) :
  { s with screen := screen, history := s.history ++ events }.Stage
  := by
  have hpends := h.pends
  have hcongr : screen.mainQueue = [] →
      screen.scheduledTimers ⊆ s.screen.scheduledTimers →
      screen.currentAppState = s.screen.currentAppState →
      screen.isHidden = s.screen.isHidden →
      (screen.isHidden = false → screen.cells = s.screen.cells) →
      { s with screen := screen, history := s.history ++ events }.Stage := by
    intro hqueue htimers htab hhidden hcells
    apply Stage.quiet
    apply h.congr
    · exact ⟨hpends.posting, hpends.infoTasks, hpends.notifies, hqueue⟩
    · rfl
    · rfl
    · apply htimers
    · apply htab
    · apply hhidden
    · apply hcells
  cases he with
  | @tab state =>
      rcases eq_or_ne state s.screen.currentAppState with hsame | hne
      · have hscreen : s.changeAppState state = s.screen := by
          rw [State.changeAppState, if_pos hsame]
        rw [hscreen] at hcongr ⊢
        apply hcongr hpends.mainQueue (List.Subset.refl _) rfl rfl (fun _ => rfl)
      · apply h.changeAppState hseq.1.scheduledTimers hne
  | @text searchText =>
      obtain ⟨htab, hqueue, hhidden, -, hcells, -⟩ := s.requestBookSearch_frame searchText
      apply Stage.quiet
      constructor
      · exact ⟨hpends.posting, hpends.infoTasks, hpends.notifies, hqueue.trans hpends.mainQueue⟩
      · apply h.coverTasks
      · intro timer _
        apply htab.trans hseq.2
      · intro hvisible
        change (s.requestBookSearch searchText).cells = _
        rw [hcells, h.rows (hhidden.symm.trans hvisible), shownBooks, shownBooks]
        dsimp only
        rw [htab]
      · intro hwishlist
        cases (htab.trans hseq.2).symm.trans hwishlist
  | animation =>
      apply hcongr hpends.mainQueue (List.Subset.refl _) rfl rfl (fun _ => rfl)
  | mainArea hqueue => cases hqueue.symm.trans hpends.mainQueue
  | bookList hqueue => cases hqueue.symm.trans hpends.mainQueue
  | previewCell hqueue => cases hqueue.symm.trans hpends.mainQueue
  | @cell row ref book hrow hbook =>
      apply hcongr hpends.mainQueue (List.Subset.refl _) rfl rfl
      intro hvisible
      have hrow := h.rows hvisible
      rw [← hrow] at hbook
      obtain ⟨hlt, rfl⟩ := List.getElem?_eq_some_iff.mp hbook
      apply List.set_getElem_self
  | popup | page | close =>
      apply hcongr hpends.mainQueue (List.Subset.refl _) rfl rfl (fun _ => rfl)

/-- A step in the quiet stage. -/
theorem Quiet.step (h : s.Quiet) (hdebounced : Debounced s.screen) (hseq : s.Sequential F a)
    (he : Effect F s a t) :
  t.Stage
  := by
  have hpends := h.pends
  have hnetwork := hpends.ofNetwork_eq_false h.coverTasks he
  cases he with
  | screen hidle hscreen => apply h.screen hseq (screenEffect_of_screenStep hscreen)
  | timer =>
      apply Stage.quiet
      apply h.congr
      · exact ⟨hpends.posting, hpends.infoTasks, hpends.notifies, hpends.mainQueue⟩
      · rfl
      · rfl
      · apply List.Sublist.subset (List.filter_sublist)
      · rfl
      · rfl
      · intro _
        rfl
  | @request timer bookQuery hidle htimer =>
      obtain ⟨text, htimers, -, hfired⟩ := hdebounced.of_fires htimer
      have htab : s.screen.currentAppState = .bookSearch := by
        apply h.timers (timer, text)
        rw [htimers]
        apply List.mem_singleton_self
      apply Stage.searching (r := s.search.requests)
      refine ⟨⟨hpends.posting, ?_, hpends.notifies, hpends.mainQueue⟩, rfl, h.coverTasks, ?_, htab⟩
      · change s.search.infoTasks ++ [s.search.requests] = _
        rw [hpends.infoTasks]
        rfl
      · apply hfired
  | noResults | emptyResults | results | noCover | cover | notified => cases hnetwork
  | @pressed a ref book hidle hpress hread =>
      have htimers : s.screen.scheduledTimers = [] := by
        cases a with
        | userPressedWishlistButton row => apply hseq.1.scheduledTimers
        | notifyWishlistOfUpdate => apply hseq.1.scheduledTimers
        | _ => cases hpress
      apply Stage.pressing ref
      constructor
      · constructor
        · apply posting_toggled
        · rw [search_toggled, hpends.infoTasks]
        · rw [search_toggled, hpends.notifies]
        · rw [screen_toggled, hpends.mainQueue]
      · rw [search_toggled, h.coverTasks]
      · rw [screen_toggled, htimers]
  | updated hposting => cases hpends.posting.symm.trans hposting

/-- A step of the screens that does not wait for the user in a stage without blocks is the end of
an animation. -/
theorem screenEffect_of_waiting {action : ScreenAction} {screen : Screen} {events : List Event}
    (hseq : s.Sequential F (.screen action)) (hready : ¬ s.Ready)
    (hqueue : s.screen.mainQueue = []) (he : ScreenEffect s action screen events) :
  ∃ n, screen = { s.screen with searchBarText := "", clearingAnimations := n }
  := by
  cases he with
  | animation => exact ⟨_, rfl⟩
  | tab | cell | popup | page | close => apply absurd hseq.1.toReady hready
  | text => apply absurd hseq.1 hready
  | mainArea hq | bookList hq | previewCell hq => cases hq.symm.trans hqueue

/-- No timer fires when none is scheduled. -/
theorem not_fires {timer : Nat} (htimers : s.screen.scheduledTimers = []) :
  ¬ (s.screen.scheduledTimers.lookup timer).isSome
  := by
  rw [htimers]
  apply Bool.false_ne_true

/-- A press waits until the process is ready. -/
theorem Sequential.ready_of_press (hseq : s.Sequential F a) {ref : BookRef}
    (hpress : s.pressedBook a = some ref) :
  s.Ready
  := by
  cases a with
  | userPressedWishlistButton row => apply hseq.1.toReady
  | notifyWishlistOfUpdate => apply hseq.1.toReady
  | _ => cases hpress

/-- Books structured from the response to a call, it waits for their covers. -/
theorem Searching.pends_booksStructured {r : Nat} (h : s.Searching r) (newBooks : List Book) :
  ((s.infoAnswered r).booksStructured r newBooks).Pends none [] [r] []
  := by
  constructor
  · rw [posting_booksStructured]
    apply h.pends.posting
  · rw [infoTasks_booksStructured]
    change s.search.infoTasks.erase r = []
    rw [h.pends.infoTasks, List.erase_cons_head]
  · rw [notifies_booksStructured]
    change s.search.notifies ++ [r] = [r]
    rw [h.pends.notifies, List.nil_append]
  · rw [screen_booksStructured]
    apply h.pends.mainQueue

/-- A step while a call waits for its documents. -/
theorem Searching.step {r : Nat} (h : s.Searching r) (hseq : s.Sequential F a)
    (he : Effect F s a t) :
  t.Stage
  := by
  have hpends := h.pends
  have hready : ¬ s.Ready := by
    intro hready
    cases hready.infoTasks.symm.trans hpends.infoTasks
  have hanswered : ∀ {r'}, r' ∈ s.search.infoTasks → r' = r := by
    intro r' hr'
    rw [hpends.infoTasks] at hr'
    apply List.mem_singleton.mp hr'
  have herase : s.search.infoTasks.erase r = [] := by
    rw [hpends.infoTasks]
    apply List.erase_cons_head
  cases he with
  | screen hidle hscreen =>
      obtain ⟨n, rfl⟩ := screenEffect_of_waiting hseq hready hpends.mainQueue
        (screenEffect_of_screenStep hscreen)
      apply Stage.searching (r := r)
      exact ⟨⟨hpends.posting, hpends.infoTasks, hpends.notifies, hpends.mainQueue⟩, h.bookResults,
        h.coverTasks, h.timers, h.tab⟩
  | timer _ htimer | request _ htimer => apply absurd htimer (not_fires h.timers)
  | noResults hr hdata =>
      obtain ⟨docs, newBooks, hdocs, -⟩ := hseq
      cases hdata.symm.trans hdocs
  | emptyResults hr hdata =>
      obtain rfl := hanswered hr
      apply Stage.updating (.updateMainArea .noResultsFound .noResultsFound)
      refine ⟨⟨hpends.posting, herase, hpends.notifies, ?_⟩, h.coverTasks, h.timers, ?_⟩
      · change s.screen.mainQueue ++ [_] = _
        rw [hpends.mainQueue]
        rfl
      · intro htab
        cases h.tab.symm.trans htab
  | @results r' data docs newBooks hr hdata hdocs hbooks =>
      obtain rfl := hanswered hr
      apply Stage.fetching (r := r')
      constructor
      · apply h.pends_booksStructured
      · rw [group_booksStructured, coverTasks_booksStructured]
        change _ = (s.search.coverTasks ++ _).length
        rw [h.coverTasks, List.nil_append, List.length_map]
      · intro task htask
        rw [coverTasks_booksStructured] at htask
        change task ∈ s.search.coverTasks ++ _ at htask
        rw [h.coverTasks, List.nil_append] at htask
        obtain ⟨o, -, rfl⟩ := List.mem_map.mp htask
        rfl
      · rw [screen_booksStructured]
        apply h.timers
      · rw [screen_booksStructured]
        apply h.tab
  | noCover htask | cover htask =>
      rw [h.coverTasks] at htask
      cases htask
  | notified hr =>
      rw [hpends.notifies] at hr
      cases hr
  | pressed _ hpress => apply absurd (hseq.ready_of_press hpress) hready
  | updated hposting => cases hpends.posting.symm.trans hposting

/-- A step while a call waits for covers. -/
theorem Fetching.step {r : Nat} (h : s.Fetching r) (hseq : s.Sequential F a)
    (he : Effect F s a t) :
  t.Stage
  := by
  have hpends := h.pends
  have hready : ¬ s.Ready := by
    intro hready
    cases (Stage.fetching h).quiet_of_ready hready |>.pends.notifies.symm.trans hpends.notifies
  cases he with
  | screen hidle hscreen =>
      obtain ⟨n, rfl⟩ := screenEffect_of_waiting hseq hready hpends.mainQueue
        (screenEffect_of_screenStep hscreen)
      apply Stage.fetching (r := r)
      exact ⟨⟨hpends.posting, hpends.infoTasks, hpends.notifies, hpends.mainQueue⟩, h.group,
        h.covers, h.timers, h.tab⟩
  | timer _ htimer | request _ htimer => apply absurd htimer (not_fires h.timers)
  | noResults hr | emptyResults hr | results hr =>
      rw [hpends.infoTasks] at hr
      cases hr
  | noCover => apply absurd rfl hseq
  | @cover task imageData htask =>
      have hlength := List.length_erase_add_one htask
      have hrequest := h.covers task htask
      apply Stage.fetching (r := r)
      refine ⟨⟨hpends.posting, hpends.infoTasks, hpends.notifies, hpends.mainQueue⟩, ?_, ?_,
        h.timers, h.tab⟩
      · change Function.update s.search.groups task.request (s.search.groups task.request - 1) r =
          (s.search.coverTasks.erase task).length
        rw [hrequest, Function.update_self, h.group]
        omega
      · intro other hother
        apply h.covers other (List.mem_of_mem_erase hother)
  | @notified r' hr hgroup =>
      rw [hpends.notifies] at hr
      obtain rfl := List.mem_singleton.mp hr
      have hnone : s.search.coverTasks = [] := by
        apply List.length_eq_zero_iff.mp
        rw [← h.group, hgroup]
      apply Stage.updating .updateBookList
      refine ⟨⟨hpends.posting, hpends.infoTasks, ?_, ?_⟩, hnone, h.timers, ?_⟩
      · change s.search.notifies.erase r' = _
        rw [hpends.notifies]
        apply List.erase_cons_head
      · change s.screen.mainQueue ++ [_] = _
        rw [hpends.mainQueue]
        rfl
      · intro htab
        cases h.tab.symm.trans htab
  | pressed _ hpress => apply absurd (hseq.ready_of_press hpress) hready
  | updated hposting => cases hpends.posting.symm.trans hposting

/-- A step while a block waits. -/
theorem Updating.step {block : Block} (h : s.Updating block) (hseq : s.Sequential F a)
    (he : Effect F s a t) :
  t.Stage
  := by
  have hpends := h.pends
  have hnetwork := hpends.ofNetwork_eq_false h.coverTasks he
  have hready : ¬ s.Ready := by
    intro hready
    cases hready.mainQueue.symm.trans hpends.mainQueue
  have htimers : ∀ timer ∈ s.screen.scheduledTimers, s.screen.currentAppState = .bookSearch := by
    intro timer htimer
    rw [h.timers] at htimer
    cases htimer
  cases he with
  | screen hidle hscreen =>
      cases screenEffect_of_screenStep hscreen with
      | tab | cell | popup | page | close => apply absurd hseq.1.toReady hready
      | text => apply absurd hseq.1 hready
      | animation =>
          apply Stage.updating block
          exact ⟨⟨hpends.posting, hpends.infoTasks, hpends.notifies, hpends.mainQueue⟩,
            h.coverTasks, h.timers, h.fits⟩
      | mainArea hqueue =>
          obtain ⟨rfl, rfl⟩ := List.cons.inj (hqueue.symm.trans hpends.mainQueue)
          apply Stage.quiet
          refine ⟨⟨hpends.posting, hpends.infoTasks, hpends.notifies, rfl⟩, h.coverTasks, ?_, ?_, ?_⟩
          · apply htimers
          · intro hvisible
            cases hvisible
          · intro htab
            apply iff_of_false
            · intro hvisible
              cases hvisible
            · intro hne
              apply hne (h.fits htab)
      | bookList hqueue =>
          obtain ⟨rfl, rfl⟩ := List.cons.inj (hqueue.symm.trans hpends.mainQueue)
          apply Stage.quiet
          refine ⟨⟨hpends.posting, hpends.infoTasks, hpends.notifies, rfl⟩, h.coverTasks, ?_, ?_, ?_⟩
          · apply htimers
          · intro _
            rfl
          · intro htab
            apply iff_of_true rfl (h.fits htab)
      | previewCell hqueue =>
          obtain ⟨rfl, -⟩ := List.cons.inj (hqueue.symm.trans hpends.mainQueue)
          apply absurd h.fits id
  | timer _ htimer | request _ htimer => apply absurd htimer (not_fires h.timers)
  | noResults | emptyResults | results | noCover | cover | notified => cases hnetwork
  | pressed _ hpress => apply absurd (hseq.ready_of_press hpress) hready
  | updated hposting => cases hpends.posting.symm.trans hposting

/-- A step while a notification waits. -/
theorem Pressing.step {ref : BookRef} (h : s.Pressing ref) (he : Effect F s a t) :
  t.Stage
  := by
  have hpends := h.pends
  have hnetwork := hpends.ofNetwork_eq_false h.coverTasks he
  cases he with
  | screen hidle | timer hidle | request hidle | pressed hidle =>
      cases hidle.symm.trans hpends.posting
  | noResults | emptyResults | results | noCover | cover | notified => cases hnetwork
  | @updated ref' book =>
      have hqueue : ∀ {block}, s.screen.mainQueue ++ [block] = [block] := by
        intro block
        rw [hpends.mainQueue]
        rfl
      have hscreen := s.screen_wishlistUpdated book
      by_cases hempty : s.screen.currentAppState = .wishlist ∧
          (s.wishlistUpdated book).getWishlistCount = 0
      · rw [if_pos hempty] at hscreen
        apply Stage.updating
          (.updateMainArea .searchForBooks .searchForBooksToAddToWishlist)
        refine ⟨⟨rfl, hpends.infoTasks, hpends.notifies, ?_⟩, h.coverTasks, ?_, ?_⟩
        · rw [hscreen]
          apply hqueue
        · rw [hscreen]
          apply h.timers
        · intro _
          apply List.length_eq_zero_iff.mp hempty.2
      · rw [if_neg hempty] at hscreen
        apply Stage.updating .updateBookList
        refine ⟨⟨rfl, hpends.infoTasks, hpends.notifies, ?_⟩, h.coverTasks, ?_, ?_⟩
        · rw [hscreen]
          apply hqueue
        · rw [hscreen]
          apply h.timers
        · intro htab hnil
          rw [hscreen] at htab
          apply hempty
          exact ⟨htab, List.length_eq_zero_iff.mpr hnil⟩

/-! ### Telling the stages apart -/

/-- A timer fires in the quiet stage. -/
theorem Stage.quiet_of_fires (h : s.Stage) {timer : Nat}
    (htimer : (s.screen.scheduledTimers.lookup timer).isSome) :
  s.Quiet
  := by
  cases h with
  | quiet h => apply h
  | searching h => apply absurd htimer (not_fires h.timers)
  | fetching h => apply absurd htimer (not_fires h.timers)
  | updating block h => apply absurd htimer (not_fires h.timers)
  | pressing ref h => apply absurd htimer (not_fires h.timers)

/-- The call whose documents are awaited is searching. -/
theorem Stage.searching_of_mem (h : s.Stage) {r : Nat} (hr : r ∈ s.search.infoTasks) :
  s.Searching r
  := by
  cases h with
  | quiet h => cases h.pends.infoTasks ▸ hr
  | searching h =>
      rw [h.pends.infoTasks] at hr
      obtain rfl := List.mem_singleton.mp hr
      apply h
  | fetching h => cases h.pends.infoTasks ▸ hr
  | updating block h => cases h.pends.infoTasks ▸ hr
  | pressing ref h => cases h.pends.infoTasks ▸ hr

/-- Where a cover is awaited, a call is fetching. -/
theorem Stage.fetching_of_task (h : s.Stage) {task : CoverTask}
    (htask : task ∈ s.search.coverTasks) :
  ∃ r, s.Fetching r
  := by
  cases h with
  | quiet h => cases h.coverTasks ▸ htask
  | searching h => cases h.coverTasks ▸ htask
  | @fetching r h => exact ⟨r, h⟩
  | updating block h => cases h.coverTasks ▸ htask
  | pressing ref h => cases h.coverTasks ▸ htask

/-- The call whose `notify` block is registered is fetching. -/
theorem Stage.fetching_of_mem (h : s.Stage) {r : Nat} (hr : r ∈ s.search.notifies) :
  s.Fetching r
  := by
  cases h with
  | quiet h => cases h.pends.notifies ▸ hr
  | searching h => cases h.pends.notifies ▸ hr
  | fetching h =>
      rw [h.pends.notifies] at hr
      obtain rfl := List.mem_singleton.mp hr
      apply h
  | updating block h => cases h.pends.notifies ▸ hr
  | pressing ref h => cases h.pends.notifies ▸ hr

/-- The book of the notification being posted is being pressed. -/
theorem Stage.pressing_of_posting (h : s.Stage) {ref : BookRef} (hposting : s.posting = some ref) :
  s.Pressing ref
  := by
  cases h with
  | quiet h => cases hposting.symm.trans h.pends.posting
  | searching h => cases hposting.symm.trans h.pends.posting
  | fetching h => cases hposting.symm.trans h.pends.posting
  | updating block h => cases hposting.symm.trans h.pends.posting
  | pressing ref' h =>
      obtain rfl := Option.some.inj (hposting.symm.trans h.pends.posting)
      apply h

/-! ### Runs -/

/-- A step leads from one stage to another. -/
theorem Stage.step (h : s.Stage) (hdebounced : Debounced s.screen) (hseq : s.Sequential F a)
    (he : Effect F s a t) :
  t.Stage
  := by
  cases h with
  | quiet h => apply h.step hdebounced hseq he
  | searching h => apply h.step hseq he
  | fetching h => apply h.step hseq he
  | updating block h => apply h.step hseq he
  | pressing ref h => apply h.step he

/-- Every run of sequential steps leads through the stages. -/
theorem stage_of_run {realm : Realm} {as : List Action}
    (h : (application F).run (launch realm) as = .ok s)
    (hseq : (application F).EveryStep (Sequential F) (launch realm) as) :
  s.Stage
  := by
  have hboth : Debounced s.screen ∧ s.Stage := by
    apply Machine.invariant_of_everyStep (M := application F)
      (P := fun s => Debounced s.screen ∧ s.Stage) _ _ h hseq
    · rintro s a t ⟨hdebounced, hstage⟩ ha ht
      have he : Effect F s a t := step_eq_ok.mp ht
      exact ⟨hdebounced.step he, hstage.step hdebounced ha he⟩
    · exact ⟨Debounced.launch realm, Stage.quiet (quiet_launch realm)⟩
  apply hboth.2

end State

/-- No run of sequential steps traps, and whenever the process is at rest in one, a visible table
shows the books of the tab, row by row, and the Wishlist tab shows its table exactly when there is
a book in the wishlist. -/
theorem sequential_use_is_safe (F : Foundation) (realm : Realm) (as : List Action)
    (hseq : (application F).EveryStep (State.Sequential F) (launch realm) as) :
  (∀ trap, (application F).run (launch realm) as ≠ .error (.trap trap)) ∧
    (application F).EveryState (fun s => s.AtRest →
      (s.screen.isHidden = false → s.screen.cells = s.shownBooks) ∧
        (s.screen.currentAppState = .wishlist →
          (s.screen.isHidden = false ↔ s.getWishlistCount ≠ 0))) (launch realm) as
  := by
  constructor
  · intro trap
    apply Machine.run_ne_error_iff.mpr
    rintro pre a post t rfl ht htrap
    have hstage : t.Stage := State.stage_of_run ht (Machine.everyStep_of_append hseq)
    have hread := (State.Tracked.of_run ht).readable
    apply hstage.not_trap hread (hseq pre a post t rfl ht) (State.step_eq_trap.mp htrap)
  · rintro pre post t rfl ht hrest
    have hstage : t.Stage := State.stage_of_run ht (Machine.everyStep_of_append hseq)
    have hquiet := hstage.quiet_of_ready hrest.toReady
    use hquiet.rows
    intro htab
    rw [hquiet.visible htab, State.getWishlistCount, Ne, Ne, List.length_eq_zero_iff]

/-- A book is searched for and added, and the Wishlist tab selected. -/
theorem sequential_use_is_safe_dune :
  (application .onPlainText).EveryStep (State.Sequential .onPlainText) (launch Table.empty)
      [.screen (.searchBarTextDidChange "dune"), .beginRequest 1,
        .bookInfoResponse 0 (responseOf [document 7 "Dune"]),
        .coverResponse ⟨0, 0, bookCoverRequestURL 7⟩ (some [1]), .coversNotified 0,
        .screen .runMainBlock, .userPressedWishlistButton 0, .addOrDeleteBookFromWishlist,
        .screen .runMainBlock, .screen (.userSelectedTab .wishlist),
        .screen .topBarAnimationCompleted, .screen .runMainBlock] ∧
    ((∀ trap, (application .onPlainText).run (launch Table.empty)
      [.screen (.searchBarTextDidChange "dune"), .beginRequest 1,
        .bookInfoResponse 0 (responseOf [document 7 "Dune"]),
        .coverResponse ⟨0, 0, bookCoverRequestURL 7⟩ (some [1]), .coversNotified 0,
        .screen .runMainBlock, .userPressedWishlistButton 0, .addOrDeleteBookFromWishlist,
        .screen .runMainBlock, .screen (.userSelectedTab .wishlist),
        .screen .topBarAnimationCompleted, .screen .runMainBlock] ≠ .error (.trap trap)) ∧
      (application .onPlainText).EveryState (fun s => s.AtRest →
        (s.screen.isHidden = false → s.screen.cells = s.shownBooks) ∧
          (s.screen.currentAppState = .wishlist →
            (s.screen.isHidden = false ↔ s.getWishlistCount ≠ 0))) (launch Table.empty)
        [.screen (.searchBarTextDidChange "dune"), .beginRequest 1,
          .bookInfoResponse 0 (responseOf [document 7 "Dune"]),
          .coverResponse ⟨0, 0, bookCoverRequestURL 7⟩ (some [1]), .coversNotified 0,
          .screen .runMainBlock, .userPressedWishlistButton 0, .addOrDeleteBookFromWishlist,
          .screen .runMainBlock, .screen (.userSelectedTab .wishlist),
          .screen .topBarAnimationCompleted, .screen .runMainBlock])
  := by
  apply (and_iff_left_of_imp _).mpr
  · refine (Machine.everyStep_cons (by exact rfl)).mpr ⟨?_, ?_⟩
    · exact ⟨(State.atRest_of_nil rfl rfl rfl rfl rfl rfl rfl).toReady, rfl⟩
    refine (Machine.everyStep_cons (by exact rfl)).mpr ⟨fun _ _ => rfl, ?_⟩
    refine (Machine.everyStep_cons (by exact rfl)).mpr ⟨⟨_, _, rfl, rfl⟩, ?_⟩
    refine (Machine.everyStep_cons (by exact rfl)).mpr ⟨Option.some_ne_none _, ?_⟩
    iterate 2 refine (Machine.everyStep_cons (by exact rfl)).mpr ⟨trivial, ?_⟩
    refine (Machine.everyStep_cons (by exact rfl)).mpr ⟨?_, ?_⟩
    · refine ⟨State.atRest_of_nil rfl rfl rfl rfl rfl rfl rfl, ?_⟩
      rintro ref ⟨⟩
      apply Option.some_ne_none
    iterate 2 refine (Machine.everyStep_cons (by exact rfl)).mpr ⟨trivial, ?_⟩
    refine (Machine.everyStep_cons (by exact rfl)).mpr ⟨?_, ?_⟩
    · refine ⟨State.atRest_of_nil rfl rfl rfl rfl rfl rfl rfl, ?_⟩
      rintro ref ⟨⟩
    iterate 2 refine (Machine.everyStep_cons (by exact rfl)).mpr ⟨trivial, ?_⟩
    apply Machine.everyStep_nil
  · apply sequential_use_is_safe

end OpenLibrary
