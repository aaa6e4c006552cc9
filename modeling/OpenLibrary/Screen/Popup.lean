import OpenLibrary.Screen.Display

/-!
# The button of the popup

The popup sets its button when it opens and when it is pressed, and at no other time. So it shows
the flag of its book all along exactly when, while it is open, no `notify` block marks the book
and no cell of the book is pressed (`popup_button_iff`).
-/

namespace OpenLibrary

/-- The wishlist button of the popup shows the flag of its book. -/
def PopupFresh (x : State × Views) : Prop :=
  ∀ details view book, x.1.screen.details = some details → x.2.details = some view →
    x.1.read? details.bookBeingDesplayed = some book →
      view.wishlistButton = updateWishlistButtonUI book

/-- While the popup is open, the step is no `notify` block that marks its book, and no press in a
cell of its book. -/
def SparesPopup (x : State × Views) : Action → Prop
  | .coversNotified _ => ∀ details o, x.1.screen.details = some details →
      details.bookBeingDesplayed = .detached o → o ∈ x.1.search.bookResults →
        x.1.realm.Holds (x.1.objects.book o).coverID → (x.1.objects.book o).isInWishlist = true
  | .userPressedWishlistButton row => ∀ details, x.1.screen.details = some details →
      x.1.screen.cells[row]? ≠ some details.bookBeingDesplayed
  | _ => True

/-- The popup and its view are open together, for a book that was made. -/
def Opened (x : State × Views) : Prop :=
  ∀ details, x.1.screen.details = some details →
    x.1.Made details.bookBeingDesplayed ∧ ∃ view, x.2.details = some view

/-- The popup and its view are open together in every run. -/
theorem opened_of_run {F : Foundation} {realm : Realm} {as : List Action} {x : State × Views}
    (h : (viewed F).run (launch realm, .initial) as = .ok x) :
  Opened x
  := by
  intro details hdetails
  obtain ⟨hfaithful, -⟩ := faithful_and_fresh_of_run h
  obtain ⟨view, hview, hshows⟩ := hfaithful.details details hdetails
  obtain ⟨displayed, hdisplays, -⟩ := hshows.labels
  exact ⟨hdisplays.made, view, hview⟩

/-- A press of a book leaves the others as they are. -/
theorem State.read?_toggled_of_ne (s : State) {ref ref' : BookRef} (h : ref' ≠ ref) :
  (s.toggled ref).read? ref' = s.read? ref'
  := by
  cases ref' with
  | detached o => apply congrArg some (State.book_toggled_of_ne s ref h.symm)
  | stored row =>
      cases ref with
      | detached o => rfl
      | stored i =>
          apply Table.find?_modify_of_ne
          rintro rfl
          apply h rfl

namespace PopupFresh

variable {F : Foundation} {s t : State} {a : Action} {views views' : Views}

/-- Steps that leave the popup and all flags alone. -/
theorem congr (h : PopupFresh (s, views)) (hopened : Opened (s, views)) (he : Effect F s a t)
    (hpress : s.pressedBook a = none) (hnotified : ∀ r, a ≠ .coversNotified r)
    (hdetails : t.screen.details = s.screen.details) (hviews : views'.details = views.details) :
  PopupFresh (t, views')
  := by
  intro details view book hd hv hread
  have hd' : s.screen.details = some details := hdetails.symm.trans hd
  obtain ⟨hmade, -⟩ := hopened details hd'
  obtain ⟨old, hold, -, hflag⟩ := State.exists_read?_of_step hmade he hread
  rw [h details view old hd' (hviews.symm.trans hv) hold, updateWishlistButtonUI_eq_iff,
    hflag hpress hnotified]

/-- A step of the screens keeps the button of the popup right. -/
theorem screen (h : PopupFresh (s, views)) (hopened : Opened (s, views)) {action : ScreenAction}
    {screen : Screen} {events : List Event} (hscreen : ScreenEffect s action screen events)
    (he : Effect F s (.screen action)
      { s with screen := screen, history := s.history ++ events }) :
  PopupFresh ({ s with screen := screen, history := s.history ++ events },
    views.next s (.screen action))
  := by
  have hcongr : screen.details = s.screen.details →
      (views.next s (.screen action)).details = views.details →
        PopupFresh ({ s with screen := screen, history := s.history ++ events },
          views.next s (.screen action)) := by
    intro hdetails hviews
    apply h.congr hopened he rfl _ hdetails hviews
    intro r hr
    cases hr
  cases hscreen with
  | @tab state =>
      apply hcongr
      · apply (s.changeAppState_frame state).2.2.2
      · rw [Views.next]
        split
        · rfl
        · rfl
  | @text searchText =>
      apply hcongr
      · apply (s.requestBookSearch_frame searchText).2.2.2.2.2
      · rfl
  | animation => apply hcongr rfl rfl
  | mainArea hqueue | bookList hqueue | previewCell hqueue =>
      apply hcongr
      · rfl
      · rw [Views.next, hqueue]
        rfl
  | cell hrow hbook hread =>
      apply hcongr
      · rfl
      · rw [Views.next, Views.cellForRowAt, hbook, Option.bind_some, hread]
  | @popup row ref book hrow hnone hbook hread =>
      intro details view book' hd hv hread'
      rw [Views.next, Views.presentBookDetailPopup, hbook, Option.bind_some, hread] at hv
      obtain rfl := Option.some.inj hd
      obtain rfl := Option.some.inj hv
      have hread' : s.read? ref = some book' := hread'
      rw [Option.some.inj (hread'.symm.trans hread)]
      rfl
  | @page page details book hdetails hpage hread =>
      obtain ⟨-, view, hview⟩ := hopened details hdetails
      have hview : views.details = some view := hview
      intro details' view' book' hd hv hread'
      rw [Views.next, Views.cellForItemAt, hdetails, Option.bind_some, hread] at hv
      dsimp only at hv
      rw [hview, Option.map_some] at hv
      obtain rfl := Option.some.inj hd
      obtain rfl := Option.some.inj hv
      rw [← h details view book' hdetails hview hread', BookDatailsView.setupCell]
      split
      · rfl
      · rfl
  | close =>
      intro details view book hd
      cases hd

/-- A `notify` block keeps the button of the popup right when it does not mark its book. -/
theorem notified_iff (h : PopupFresh (s, views)) (hopened : Opened (s, views)) (r : Nat) :
  PopupFresh ((s.notifyTaken r).determineWishlistBooks.complete r true, views) ↔
    SparesPopup (s, views) (.coversNotified r)
  := by
  have hbook : ∀ o, ((s.notifyTaken r).determineWishlistBooks.complete r true).read?
      (.detached o) = some (if o ∈ s.search.bookResults ∧
        s.realm.countCover (s.objects.book o).coverID ≠ 0 then
          { s.objects.book o with isInWishlist := true }
        else
          s.objects.book o) := by
    intro o
    apply congrArg some (State.book_foldl_determineWishlistBook _ _ _ _)
  constructor
  · intro hfresh details o hdetails ho hmem hheld
    have hdetails : s.screen.details = some details := hdetails
    obtain ⟨-, view, hview⟩ := hopened details hdetails
    have hnew := hbook o
    rw [if_pos ⟨hmem, Realm.countCover_ne_zero.mpr hheld⟩, ← ho] at hnew
    have hold : s.read? details.bookBeingDesplayed = some (s.objects.book o) := by
      rw [ho]
      rfl
    have hbutton := (h details view _ hdetails hview hold).symm.trans
      (hfresh details view _ hdetails hview hnew)
    apply updateWishlistButtonUI_eq_iff.mp hbutton
  · intro hspares details view book hdetails hview hread
    have hdetails : s.screen.details = some details := hdetails
    have hspares := fun o => hspares details o hdetails
    cases href : details.bookBeingDesplayed with
    | stored row =>
        have hold : s.read? details.bookBeingDesplayed = some book := by
          rw [href] at hread ⊢
          apply hread
        apply h details view book hdetails hview hold
    | detached o =>
        have hold : s.read? details.bookBeingDesplayed = some (s.objects.book o) := by
          rw [href]
          rfl
        have hread : ((s.notifyTaken r).determineWishlistBooks.complete r true).read?
            details.bookBeingDesplayed = some book := hread
        rw [href, hbook] at hread
        obtain rfl := Option.some.inj hread
        rw [h details view _ hdetails hview hold, updateWishlistButtonUI_eq_iff]
        split
        · next hmarks => apply hspares o href hmarks.1 (Realm.countCover_ne_zero.mp hmarks.2)
        · rfl

/-- A press keeps the button of the popup right when it is not in a cell of its book. -/
theorem pressed_iff (h : PopupFresh (s, views)) (hopened : Opened (s, views)) {ref : BookRef}
    {book : Book} (hpress : s.pressedBook a = some ref) (hread : s.read? ref = some book) :
  PopupFresh (s.toggled ref, views.next s a) ↔ SparesPopup (s, views) a
  := by
  have hnew : (s.toggled ref).read? ref = some book.toggle := by
    rw [State.read?_toggled, hread, Option.map_some]
  cases a with
  | userPressedWishlistButton row =>
      have hcell : s.screen.cells[row]? = some ref := by
        rw [State.pressedBook] at hpress
        split at hpress
        · cases hpress
        · apply hpress
      have hviews : (views.next s (.userPressedWishlistButton row)).details = views.details := by
        rw [Views.next, Views.userPressedWishlistButton]
        split
        · rfl
        · rfl
      constructor
      · intro hfresh details hdetails hsame
        obtain rfl := Option.some.inj (hcell.symm.trans hsame)
        obtain ⟨-, view, hview⟩ := hopened details hdetails
        have hdetails' : (s.toggled details.bookBeingDesplayed).screen.details = some details := by
          rw [State.screen_toggled]
          apply hdetails
        have hbutton := (h details view book hdetails hview hread).symm.trans
          (hfresh details view _ hdetails' (hviews.trans hview) hnew)
        have hflag := updateWishlistButtonUI_eq_iff.mp hbutton
        revert hflag
        rw [Book.isInWishlist_toggle]
        cases book.isInWishlist with
        | true => decide
        | false => decide
      · intro hspares details view book' hopen hview hread'
        have hdetails : s.screen.details = some details := by
          rw [← State.screen_toggled s ref]
          apply hopen
        have hne : details.bookBeingDesplayed ≠ ref := by
          intro hsame
          rw [← hsame] at hcell
          apply hspares details hdetails hcell
        have hold : s.read? details.bookBeingDesplayed = some book' := by
          rw [← State.read?_toggled_of_ne s hne]
          apply hread'
        apply h details view book' hdetails (hviews.symm.trans hview) hold
  | notifyWishlistOfUpdate =>
      apply iff_of_true _ trivial
      obtain ⟨details, hdetails, rfl⟩ := Option.map_eq_some_iff.mp hpress
      obtain ⟨-, view, hview⟩ := hopened details hdetails
      have hview : views.details = some view := hview
      intro details' view' book' hd hv hread'
      have hd : (s.toggled details.bookBeingDesplayed).screen.details = some details' := hd
      rw [State.screen_toggled, hdetails] at hd
      obtain rfl := Option.some.inj hd
      have hread' : (s.toggled details.bookBeingDesplayed).read? details.bookBeingDesplayed =
          some book' := hread'
      rw [Views.next, Views.notifyWishlistOfUpdate, hdetails, Option.bind_some, hread'] at hv
      dsimp only at hv
      rw [hview, Option.map_some] at hv
      obtain rfl := Option.some.inj hv
      rfl
  | _ => cases hpress

/-- A step keeps the button of the popup right exactly when it spares the popup. -/
theorem step_iff (h : PopupFresh (s, views)) (hopened : Opened (s, views)) (he : Effect F s a t) :
  PopupFresh (t, views.next s a) ↔ SparesPopup (s, views) a
  := by
  have he' := he
  cases he with
  | screen hidle hscreen =>
      apply iff_of_true _ trivial
      apply h.screen hopened (State.screenEffect_of_screenStep hscreen) he'
  | timer | request | noResults | emptyResults | noCover | cover =>
      apply iff_of_true _ trivial
      apply h.congr hopened he' rfl _ rfl rfl
      intro r hr
      cases hr
  | results =>
      apply iff_of_true _ trivial
      apply h.congr hopened he' rfl
      · intro r hr
        cases hr
      · rw [State.screen_booksStructured]
        rfl
      · rfl
  | @notified r => apply h.notified_iff hopened r
  | pressed hidle hpress hread => apply h.pressed_iff hopened hpress hread
  | @updated ref book =>
      apply iff_of_true _ trivial
      apply h.congr hopened he' rfl
      · intro r hr
        cases hr
      · apply (s.wishlistUpdated_frame book).2.2.2
      · rfl

end PopupFresh

/-- In every run the wishlist button of the popup shows the flag of its book all along exactly
when, while the popup is open, no `notify` block marks the book and no cell of it is pressed. -/
theorem popup_button_iff (F : Foundation) (realm : Realm) (as : List Action) (x : State × Views)
    (h : (viewed F).run (launch realm, .initial) as = .ok x) :
  (viewed F).EveryState PopupFresh (launch realm, .initial) as ↔
    (viewed F).EveryStep SparesPopup (launch realm, .initial) as
  := by
  apply Machine.everyState_iff_everyStep (M := viewed F)
    (I := fun x => ∃ as, (viewed F).run (launch realm, .initial) as = .ok x) _ _ ⟨[], rfl⟩ _ h
  · rintro x a y ⟨as, hx⟩ hy
    exact ⟨as ++ [a], Machine.run_concat.mpr ⟨x, hx, hy⟩⟩
  · rintro ⟨s, views⟩ a ⟨t, views'⟩ ⟨as, hx⟩ hfresh hy
    obtain ⟨ht, rfl⟩ := Machine.step_withHistory.mp hy
    apply PopupFresh.step_iff hfresh (opened_of_run hx) (State.step_eq_ok.mp ht)
  · intro details view book hdetails
    cases hdetails

/-- The popup of a result is open while the book is added from it. -/
theorem popup_button_iff_dune :
  ∃ x, (viewed .onPlainText).run (launch Table.empty, .initial)
      [.screen (.searchBarTextDidChange "dune"), .beginRequest 1,
        .bookInfoResponse 0 (responseOf [document 7 "Dune"]),
        .coverResponse ⟨0, 0, bookCoverRequestURL 7⟩ (some [1]), .coversNotified 0,
        .screen .runMainBlock, .screen (.didSelectRowAt 0), .notifyWishlistOfUpdate,
        .addOrDeleteBookFromWishlist] = .ok x ∧
    ((viewed .onPlainText).EveryState PopupFresh (launch Table.empty, .initial)
        [.screen (.searchBarTextDidChange "dune"), .beginRequest 1,
          .bookInfoResponse 0 (responseOf [document 7 "Dune"]),
          .coverResponse ⟨0, 0, bookCoverRequestURL 7⟩ (some [1]), .coversNotified 0,
          .screen .runMainBlock, .screen (.didSelectRowAt 0), .notifyWishlistOfUpdate,
          .addOrDeleteBookFromWishlist] ↔
      (viewed .onPlainText).EveryStep SparesPopup (launch Table.empty, .initial)
        [.screen (.searchBarTextDidChange "dune"), .beginRequest 1,
          .bookInfoResponse 0 (responseOf [document 7 "Dune"]),
          .coverResponse ⟨0, 0, bookCoverRequestURL 7⟩ (some [1]), .coversNotified 0,
          .screen .runMainBlock, .screen (.didSelectRowAt 0), .notifyWishlistOfUpdate,
          .addOrDeleteBookFromWishlist])
  := by
  apply (exists_congr (fun x => and_iff_left_of_imp _)).mpr
  · exact ⟨_, rfl⟩
  · intro x h
    apply popup_button_iff .onPlainText Table.empty _ x h

end OpenLibrary
