import OpenLibrary.Model.Frame

/-!
# The Wishlist tab

What is on the screen follows the main queue: when its blocks have run, the last one that
shows or hides the table has decided (`Screen.settled`). A tab change and the handler of a
press enqueue what the tab selected asks for. The completion of a search does not look at the
tab: a failing one hides the table under its own message, and a successful one shows it, also
where the wishlist is empty. No other step touches what the Wishlist tab shows.
-/

namespace OpenLibrary

/-! ### The settled view -/

/-- Whether the table is hidden, and the message, after a block. -/
def Block.shows (view : Bool × String) : Block → Bool × String
  | .updateMainArea _ message => (true, message.rawValue)
  | .updateBookList => (false, view.2)
  | .updatePreviewCell _ => view

namespace Screen

/-- Whether the table is hidden, and the message. -/
def view (screen : Screen) : Bool × String :=
  (screen.isHidden, screen.message)

/-- The view after all blocks of the main queue. -/
def settled (screen : Screen) : Bool × String :=
  screen.mainQueue.foldl Block.shows screen.view

theorem settled_updateMainArea (screen : Screen) (image : ImageMessage) (message : Message) :
  (screen.updateMainArea image message).settled = (true, message.rawValue)
  := by
  rw [settled, updateMainArea, List.foldl_append]
  rfl

theorem settled_updateBookList (screen : Screen) :
  screen.updateBookList.settled = (false, screen.settled.2)
  := by
  rw [settled, updateBookList, List.foldl_append]
  rfl

theorem settled_of_mainQueue_eq_nil {screen : Screen} (h : screen.mainQueue = []) :
  screen.settled = screen.view
  := by
  rw [settled, h]
  rfl

end Screen

/-! ### What the Wishlist tab shows -/

/-- The view of the Wishlist tab that fits the number of books in the wishlist. -/
structure Fits (count : Nat) (view : Bool × String) : Prop where
  visible : view.1 = false ↔ count ≠ 0
  message : view.1 = true → view.2 = Message.searchForBooksToAddToWishlist.rawValue

theorem Fits.hidden :
  Fits 0 (true, Message.searchForBooksToAddToWishlist.rawValue)
  := by
  constructor
  · apply iff_of_false
    · intro he
      cases he
    · intro he
      apply he rfl
  · intro _
    rfl

theorem Fits.shown {count : Nat} (h : count ≠ 0) (message : String) :
  Fits count (false, message)
  := by
  constructor
  · apply iff_of_true rfl h
  · intro he
    cases he

/-- The action selects no tab and is not the handler of a press. -/
def Action.leavesTab : Action → Bool
  | .screen (.userSelectedTab _) => false
  | .addOrDeleteBookFromWishlist => false
  | _ => true

namespace State

/-- While the Wishlist tab is selected, the view it settles to fits the wishlist. -/
def TabFits (s : State) : Prop :=
  s.screen.currentAppState = .wishlist → Fits s.getWishlistCount s.screen.settled

/-- The step reports no search that does not fit to the Wishlist tab: while the tab is selected no
response without documents is delivered, and no search is completed with success when the wishlist
is empty. -/
def SparesTab (s : State) : Action → Prop
  | .bookInfoResponse _ data =>
      data.bookResultsJSON? = some [] → s.screen.currentAppState ≠ .wishlist
  | .coversNotified _ => s.screen.currentAppState = .wishlist → s.getWishlistCount ≠ 0
  | _ => True

/-- A step that selects no tab and handles no press, such as every step of a search, neither hides
nor un-hides a selected Wishlist tab, nor changes its message: when the blocks queued have run, it
shows what it would have shown without the step. -/
def KeepsTab (F : Foundation) (s : State) (a : Action) : Prop :=
  s.screen.currentAppState = .wishlist → a.leavesTab → ∀ t, s.step F a = .ok t →
    t.screen.settled = s.screen.settled

theorem tabFits_launch (realm : Realm) :
  (launch realm).TabFits
  := by
  intro htab
  cases htab

variable {F : Foundation} {s t : State} {a : Action}

/-! ### Steps that leave the tab -/

/-- A step that selects no tab and handles no press changes neither the tab nor the wishlist. -/
theorem tab_of_leavesTab (ha : a.leavesTab) (he : Effect F s a t) :
  t.screen.currentAppState = s.screen.currentAppState ∧ t.wishList = s.wishList
  := by
  cases he with
  | screen hidle hscreen =>
      cases screenEffect_of_screenStep hscreen with
      | tab => cases ha
      | @text searchText =>
          obtain ⟨happ, -⟩ := s.requestBookSearch_frame searchText
          exact ⟨happ, rfl⟩
      | _ => exact ⟨rfl, rfl⟩
  | results =>
      rw [screen_booksStructured, wishList_booksStructured]
      exact ⟨rfl, rfl⟩
  | pressed =>
      rw [screen_toggled, wishList_toggled]
      exact ⟨rfl, rfl⟩
  | updated => cases ha
  | _ => exact ⟨rfl, rfl⟩

/-- A step of the screens that selects no tab leaves what the screen settles to. -/
theorem settled_screenEffect {action : ScreenAction} {screen : Screen} {events : List Event}
    (ha : Action.leavesTab (.screen action)) (he : ScreenEffect s action screen events) :
  screen.settled = s.screen.settled
  := by
  cases he with
  | tab => cases ha
  | @text searchText =>
      obtain ⟨-, hqueue, hhidden, hmessage, -⟩ := s.requestBookSearch_frame searchText
      rw [Screen.settled, Screen.settled, hqueue, Screen.view, hhidden, hmessage]
      rfl
  | mainArea hqueue | bookList hqueue | previewCell hqueue =>
      rw [Screen.settled, Screen.settled, hqueue]
      rfl
  | animation | cell | popup | page | close => rfl

/-- In the Wishlist tab, such a step leaves what a fitting screen settles to exactly when it
reports no search that does not fit. -/
theorem TabFits.settled_iff (h : s.TabFits) (htab : s.screen.currentAppState = .wishlist)
    (ha : a.leavesTab) (he : Effect F s a t) :
  t.screen.settled = s.screen.settled ↔ s.SparesTab a
  := by
  cases he with
  | screen hidle hscreen =>
      apply iff_of_true _ trivial
      apply settled_screenEffect ha (screenEffect_of_screenStep hscreen)
  | timer | request | noCover | cover => apply iff_of_true rfl trivial
  | noResults hr hdata =>
      apply iff_of_true rfl
      intro hempty
      cases hdata.symm.trans hempty
  | results hr hdata hdocs =>
      apply iff_of_true
      · rw [screen_booksStructured]
        rfl
      · intro hempty
        apply absurd (Option.some.inj (hdata.symm.trans hempty)) hdocs
  | emptyResults hr hdata =>
      apply iff_of_false
      · intro hsettled
        have hmessage := (h htab).message
        rw [← hsettled, complete, Screen.requestCompleted, if_neg Bool.false_ne_true,
          Screen.settled_updateMainArea] at hmessage
        revert hmessage
        decide
      · intro hspares
        apply hspares hdata htab
  | notified =>
      change Screen.settled s.screen.updateBookList = _ ↔ (_ → _)
      rw [forall_prop_of_true htab, ← (h htab).visible, Screen.settled_updateBookList,
        Prod.ext_iff, and_iff_left rfl, eq_comm]
  | pressed hidle hpress =>
      apply iff_of_true
      · rw [screen_toggled]
      · apply press_induction hpress
        · intro row
          trivial
        · trivial
  | updated => cases ha

/-- Where the Wishlist tab is not selected, it is spared. -/
theorem sparesTab_of_ne (htab : s.screen.currentAppState ≠ .wishlist) :
  s.SparesTab a
  := by
  cases a with
  | bookInfoResponse r data => exact fun _ => htab
  | coversNotified r => exact fun hsame => absurd hsame htab
  | _ => trivial

/-- A tab change and the handler of a press report no search. -/
theorem sparesTab_of_not_leavesTab (ha : a.leavesTab = false) :
  s.SparesTab a
  := by
  cases a with
  | bookInfoResponse r data => cases ha
  | coversNotified r => cases ha
  | _ => trivial

/-! ### Steps that decide what the tab shows -/

namespace TabFits

/-- A tab change enqueues what the new tab is to show. -/
theorem changeAppState (h : s.TabFits) (state : AppState) :
  { s with screen := s.changeAppState state }.TabFits
  := by
  rw [State.changeAppState]
  split
  · apply h
  · intro htab
    cases state with
    | bookSearch => cases htab
    | wishlist =>
        dsimp only
        split
        · next hcount =>
            rw [Screen.settled_updateMainArea]
            change Fits s.getWishlistCount _
            rw [hcount]
            apply Fits.hidden
        · next hcount =>
            rw [Screen.settled_updateBookList]
            apply Fits.shown hcount

/-- The handler of a press enqueues what the Wishlist tab is to show then. -/
theorem wishlistUpdated (s : State) (book : Book) :
  (s.wishlistUpdated book).TabFits
  := by
  intro htab
  rw [screen_wishlistUpdated] at htab ⊢
  split
  · next hempty =>
      rw [Screen.settled_updateMainArea, hempty.2]
      apply Fits.hidden
  · next hempty =>
      rw [if_neg hempty] at htab
      rw [Screen.settled_updateBookList]
      apply Fits.shown
      intro hcount
      apply hempty ⟨htab, hcount⟩

/-- A step that reports no search that does not fit keeps the view of the tab fitting. -/
theorem step (h : s.TabFits) (hspares : s.SparesTab a) (he : Effect F s a t) :
  t.TabFits
  := by
  cases ha : a.leavesTab with
  | true =>
      intro htab
      obtain ⟨hsame, hwishList⟩ := tab_of_leavesTab ha he
      rw [hsame] at htab
      rw [(h.settled_iff htab ha he).mpr hspares, getWishlistCount, hwishList]
      apply h htab
  | false =>
      cases he with
      | screen hidle hscreen =>
          cases screenEffect_of_screenStep hscreen with
          | tab => apply h.changeAppState
          | _ => cases ha
      | updated => apply wishlistUpdated
      | pressed hidle hpress =>
          revert ha
          apply press_induction hpress
          · rintro row ⟨⟩
          · rintro ⟨⟩
      | _ => cases ha

/-- A step from a state whose tab fits keeps the tab exactly when it reports no search that does not
fit. -/
theorem keepsTab_iff (h : s.TabFits) (he : Effect F s a t) :
  s.KeepsTab F a ↔ s.SparesTab a
  := by
  have ht : s.step F a = .ok t := step_eq_ok.mpr he
  constructor
  · intro hkeeps
    cases ha : a.leavesTab with
    | true =>
        by_cases htab : s.screen.currentAppState = .wishlist
        · apply (h.settled_iff htab ha he).mp
          apply hkeeps htab ha t ht
        · apply sparesTab_of_ne htab
    | false => apply sparesTab_of_not_leavesTab ha
  · intro hspares htab ha u hu
    obtain rfl := Except.ok.inj (ht.symm.trans hu)
    apply (h.settled_iff htab ha he).mpr hspares

/-- When the main queue is empty, the Wishlist tab shows what fits the wishlist. -/
theorem fits (h : s.TabFits) (htab : s.screen.currentAppState = .wishlist)
    (hqueue : s.screen.mainQueue = []) :
  Fits s.getWishlistCount s.screen.view
  := by
  rw [← Screen.settled_of_mainQueue_eq_nil hqueue]
  apply h htab

end TabFits

/-- Running blocks of the main queue does not change what the screen settles to. -/
theorem settled_of_runMainBlocks {n : Nat} {u : State}
    (h : (application F).run t (List.replicate n (.screen .runMainBlock)) = .ok u) :
  u.screen.settled = t.screen.settled
  := by
  induction n generalizing t with
  | zero =>
      obtain rfl := Except.ok.inj h
      rfl
  | succ n ih =>
      obtain ⟨v, hv, hu⟩ := Machine.run_cons.mp h
      rw [ih hu]
      have he : Effect F t (.screen .runMainBlock) v := step_eq_ok.mp hv
      cases he with
      | screen hidle hscreen =>
          apply settled_screenEffect rfl (screenEffect_of_screenStep hscreen)
      | pressed _ hpress => cases hpress

end State

/-- In every run, two things hold exactly when each step reports to a selected Wishlist tab no
failed search, and no successful one while the wishlist is empty. In every state with that tab
selected and no block queued, the table is visible exactly when the wishlist is not empty, and when
it is hidden the message is the one about adding books. And no step but a tab change or the handler
of a press, so no completion of a search, changes what the tab settles to, which is what it shows
when the blocks queued have run. -/
theorem wishlist_tab_iff (F : Foundation) (realm : Realm) (as : List Action) (s : State)
    (h : (application F).run (launch realm) as = .ok s) :
  ((application F).EveryState (fun s => s.screen.currentAppState = .wishlist →
        s.screen.mainQueue = [] →
        (s.screen.isHidden = false ↔ s.getWishlistCount ≠ 0) ∧ (s.screen.isHidden = true →
          s.screen.message = Message.searchForBooksToAddToWishlist.rawValue))
        (launch realm) as ∧
      (application F).EveryStep (State.KeepsTab F) (launch realm) as ↔
    (application F).EveryStep State.SparesTab (launch realm) as) ∧
    ∀ n u, (application F).run s (List.replicate n (.screen .runMainBlock)) = .ok u →
      u.screen.mainQueue = [] → u.screen.view = s.screen.settled
  := by
  have hstep : ∀ {s a t}, s.TabFits → s.SparesTab a → (application F).step s a = .ok t →
      t.TabFits := by
    intro s a t hs ha ht
    apply hs.step ha (State.step_eq_ok.mp ht)
  have hkeeps : (application F).EveryStep (State.KeepsTab F) (launch realm) as ↔
      (application F).EveryStep State.SparesTab (launch realm) as := by
    apply Machine.everyStep_iff_everyStep hstep _ (State.tabFits_launch realm) h
    intro s a t hs ht
    apply hs.keepsTab_iff (State.step_eq_ok.mp ht)
  constructor
  · rw [hkeeps]
    apply and_iff_right_of_imp
    intro hspares
    have hfits : (application F).EveryState State.TabFits (launch realm) as :=
      Machine.everyState_of_everyStep hstep (State.tabFits_launch realm) hspares
    refine hfits.imp ?_
    intro t ht htab hqueue
    obtain ⟨hvisible, hmessage⟩ := ht.fits htab hqueue
    exact ⟨hvisible, hmessage⟩
  · intro n u hu hqueue
    rw [← Screen.settled_of_mainQueue_eq_nil hqueue, State.settled_of_runMainBlocks hu]

/-- A search with books, completed in the Wishlist tab, and one without, answered in the search tab
before a change to the Wishlist tab. -/
def answeredInBothTabs : List Action :=
  [.screen (.searchBarTextDidChange "emma"), .beginRequest 1,
    .screen (.userSelectedTab .wishlist), .bookInfoResponse 0 (responseOf [document 8 "Emma"]),
    .coverResponse ⟨0, 0, bookCoverRequestURL 8⟩ (some [1]), .coversNotified 0,
    .screen .runMainBlock, .screen .runMainBlock, .screen (.userSelectedTab .bookSearch),
    .screen (.searchBarTextDidChange "xyzzy"), .beginRequest 2,
    .bookInfoResponse 1 (responseOf []), .screen (.userSelectedTab .wishlist),
    .screen .runMainBlock, .screen .runMainBlock, .screen .runMainBlock]

/-- The store has a record. -/
theorem wishlist_tab_iff_dune :
  ∃ s, (application .onPlainText).run
      (launch (Table.empty.insert { coverID := 7, title := "Dune", isInWishlist := true }))
      answeredInBothTabs = .ok s ∧
    (application .onPlainText).EveryState (fun s => s.screen.currentAppState = .wishlist →
        s.screen.mainQueue = [] →
        (s.screen.isHidden = false ↔ s.getWishlistCount ≠ 0) ∧ (s.screen.isHidden = true →
          s.screen.message = Message.searchForBooksToAddToWishlist.rawValue))
      (launch (Table.empty.insert { coverID := 7, title := "Dune", isInWishlist := true }))
      answeredInBothTabs ∧
    (application .onPlainText).EveryStep (State.KeepsTab .onPlainText)
      (launch (Table.empty.insert { coverID := 7, title := "Dune", isInWishlist := true }))
      answeredInBothTabs
  := by
  refine ⟨_, rfl, ?_⟩
  apply (wishlist_tab_iff .onPlainText _ answeredInBothTabs _ rfl).1.mpr
  iterate 3 refine (Machine.everyStep_cons (by exact rfl)).mpr ⟨trivial, ?_⟩
  refine (Machine.everyStep_cons (by exact rfl)).mpr ⟨nofun, ?_⟩
  refine (Machine.everyStep_cons (by exact rfl)).mpr ⟨trivial, ?_⟩
  refine (Machine.everyStep_cons (by exact rfl)).mpr ⟨fun _ => by decide, ?_⟩
  iterate 5 refine (Machine.everyStep_cons (by exact rfl)).mpr ⟨trivial, ?_⟩
  refine (Machine.everyStep_cons (by exact rfl)).mpr ⟨fun _ => by decide, ?_⟩
  iterate 4 refine (Machine.everyStep_cons (by exact rfl)).mpr ⟨trivial, ?_⟩
  apply Machine.everyStep_nil

/-- A search without results, answered after a change to the Wishlist tab, hides the books of
the wishlist. -/
theorem wishlist_hidden_by_search :
  ¬ ∀ (F : Foundation) (realm : Realm) (as : List Action) (s : State),
    (application F).run (launch realm) as = .ok s →
      s.screen.currentAppState = .wishlist → s.screen.mainQueue = [] →
      (s.screen.isHidden = false ↔ s.getWishlistCount ≠ 0) ∧ (s.screen.isHidden = true →
        s.screen.message = Message.searchForBooksToAddToWishlist.rawValue)
  := by
  intro h
  have hvisible := (h .onPlainText
    (Table.empty.insert { coverID := 7, title := "Dune", isInWishlist := true })
    [.screen (.searchBarTextDidChange "xyzzy"), .beginRequest 1,
      .screen (.userSelectedTab .wishlist), .screen .runMainBlock,
      .bookInfoResponse 0 (responseOf []), .screen .runMainBlock] _ rfl rfl rfl).1
  cases hvisible.mpr (by decide)

end OpenLibrary
