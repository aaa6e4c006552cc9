import OpenLibrary.Model.Views
import OpenLibrary.Screen.Deleted
import OpenLibrary.Search.Covers
import OpenLibrary.Wishlist.Copies

/-!
# What is displayed

A cell and the popup display a book as it was when they were set up, and the book may change
after that: its cover comes, its flag is toggled, its record is deleted. What they display is
still of their own book (`Faithful`): the fields of its document never change, and the cover is
one of its `coverID`. The flag does change, and then a block is enqueued that sets the cells up
anew or hides them: when nothing is posted and the main queue is empty, each button shows the
flag its book has (`Fresh`).
-/

namespace OpenLibrary

/-! ### Books made -/

namespace State

/-- The object or the record a reference points to was made, and has perhaps been deleted
since. -/
def Made (s : State) : BookRef → Prop
  | .detached o => o < s.objects.next
  | .stored row => row < s.realm.next

variable {F : Foundation} {s t : State} {a : Action} {ref : BookRef}

/-- The detached books a process refers to have been made, in every run. -/
theorem known_of_run {realm : Realm} {as : List Action}
    (h : (application F).run (launch realm) as = .ok s) :
  s.Known
  := by
  apply Machine.invariant (M := application F) (P := Known) _ (known_launch realm) h
  intro s a t hs ht
  apply hs.step (step_eq_ok.mp ht)

/-- A book shown that can be read was made. -/
theorem Known.made (h : s.Known) {book : Book} (hshown : ref ∈ s.shownBooks)
    (hread : s.read? ref = some book) :
  s.Made ref
  := by
  cases ref with
  | detached o => apply h.shown hshown
  | stored row => apply s.realm.lt_next _ (Table.find?_eq_some.mp hread)

/-- No step takes an identity back. -/
theorem Made.step (h : s.Made ref) (he : Effect F s a t) :
  t.Made ref
  := by
  cases ref with
  | detached o =>
      apply Nat.lt_of_lt_of_le (show o < s.objects.next from h)
      cases he with
      | screen | timer | request | noResults | emptyResults | noCover | cover | updated =>
          apply Nat.le_refl
      | results =>
          rw [next_booksStructured]
          apply Nat.le_add_right
      | @notified r => apply Nat.le_of_eq (next_determineWishlistBooks (s.notifyTaken r)).symm
      | pressed => rw [next_toggled]
  | stored row =>
      apply Nat.lt_of_lt_of_le (show row < s.realm.next from h)
      cases storeEffect he with
      | quiet hrealm => rw [hrealm]
      | @pressed _ ref =>
          cases ref with
          | detached o => apply Nat.le_refl
          | stored i => apply Nat.le_refl
      | updated => apply Tracked.next_addOrDelete

/-- A press toggles the flag of its book. -/
theorem read?_toggled (s : State) (ref : BookRef) :
  (s.toggled ref).read? ref = (s.read? ref).map Book.toggle
  := by
  cases ref with
  | detached o =>
      have hbook := Objects.book_modify s.objects o o Book.toggle
      rw [if_pos rfl] at hbook
      apply congrArg some hbook
  | stored row => apply Table.find?_modify_self

/-- A book that can be read after a step could be read before it, and differs in its cover and
its flag at most; and in its flag only by a press or a `notify` block. -/
theorem exists_read?_of_step (h : s.Made ref) (he : Effect F s a t) {book : Book}
    (hread : t.read? ref = some book) :
  ∃ old, s.read? ref = some old ∧ old.text = book.text ∧
    (s.pressedBook a = none → (∀ r, a ≠ .coversNotified r) →
      old.isInWishlist = book.isInWishlist)
  := by
  cases ref with
  | detached o =>
      have ho : o < s.objects.next := h
      obtain rfl := Option.some.inj hread
      refine ⟨s.objects.book o, rfl, (text_eq ho he).symm, ?_⟩
      intro hnone hnotified
      cases he with
      | screen | timer | request | noResults | emptyResults | noCover | updated => rfl
      | @results r data docs newBooks =>
          have ho' : o < (s.infoAnswered r).objects.next := ho
          rw [book_booksStructured_of_lt r newBooks ho']
          rfl
      | @cover task imageData =>
          rw [book_coverReceived]
          split
          · rfl
          · rfl
      | @notified r => apply absurd rfl (hnotified r)
      | pressed _ hpress => cases hnone.symm.trans hpress
  | stored row =>
      have hrow : row < s.realm.next := h
      cases storeEffect he with
      | quiet hrealm =>
          use book
          rw [read?, ← hrealm]
          exact ⟨hread, rfl, fun _ _ => rfl⟩
      | @pressed _ ref _ hidle hpress =>
          have hpressed : s.pressedBook a = none → ∀ old : Book, (∀ r, a ≠ .coversNotified r) →
              old.isInWishlist = book.isInWishlist := by
            intro hnone
            cases hnone.symm.trans hpress
          cases ref with
          | detached o => exact ⟨book, hread, rfl, fun hnone => hpressed hnone book⟩
          | stored i =>
              obtain ⟨old, hold, rfl⟩ := Table.mem_modify.mp (Table.find?_eq_some.mp hread)
              refine ⟨old, Table.find?_eq_some.mpr hold, ?_, fun hnone => hpressed hnone old⟩
              split
              · rfl
              · rfl
      | updated =>
          exact ⟨book, ((Tracked.find?_addOrDelete hrow).mp hread).1, rfl, fun _ _ => rfl⟩

/-- A step after which nothing is posted and no block queued is neither a press nor a `notify`
block. -/
theorem quiet_of_rest (he : Effect F s a t) (hidle : t.posting = none)
    (hqueue : t.screen.mainQueue = []) :
  s.pressedBook a = none ∧ ∀ r, a ≠ .coversNotified r
  := by
  cases he with
  | notified => apply absurd (List.append_eq_nil_iff.mp hqueue).2 (List.cons_ne_nil _ _)
  | pressed =>
      rw [posting_toggled] at hidle
      cases hidle
  | screen | timer | request | noResults | emptyResults | results | noCover | cover | updated =>
      refine ⟨rfl, ?_⟩
      intro r hr
      cases hr

end State

/-! ### Books displayed -/

/-- The cover of a book came in answer to the URL of its own `coverID`, or was that of a record
with this `coverID` in the store at the start. -/
def Sourced (realm : Realm) (as : List Action) (b : Book) : Prop :=
  Delivered as b ∨ ∃ row b', (row, b') ∈ realm.rows ∧ b.coverID = b'.coverID ∧
    b.coverData = b'.coverData

/-- The cover of a book that can be read is one of its own. -/
theorem Covers.sourced {realm : Realm} {as : List Action} {s : State} (h : Covers realm as s)
    {ref : BookRef} {book : Book} (hread : s.read? ref = some book) :
  Sourced realm as book
  := by
  cases ref with
  | detached o =>
      left
      obtain rfl := Option.some.inj hread
      apply h.objects
  | stored row => apply h.records row book (Table.find?_eq_some.mp hread)

/-- A book displayed is the one referred to, as it once was. -/
structure Displays (realm : Realm) (as : List Action) (s : State) (ref : BookRef)
    (displayed : Book) : Prop where
  made : s.Made ref
  text : ∀ book, s.read? ref = some book → displayed.text = book.text
  cover : Sourced realm as displayed

namespace Displays

variable {F : Foundation} {realm : Realm} {as : List Action} {s t : State} {a : Action}
  {ref : BookRef} {displayed book : Book}

/-- A book just read is displayed. -/
theorem of_read? (hcovers : Covers realm as s) (hmade : s.Made ref)
    (hread : s.read? ref = some book) :
  Displays realm as s ref book
  := by
  constructor
  · apply hmade
  · intro book' hread'
    rw [Option.some.inj (hread.symm.trans hread')]
  · apply hcovers.sourced hread

/-- A book displayed stays the one referred to. -/
theorem step (h : Displays realm as s ref displayed) (he : Effect F s a t) :
  Displays realm (as ++ [a]) t ref displayed
  := by
  constructor
  · apply h.made.step he
  · intro book hread
    obtain ⟨old, hold, htext, -⟩ := State.exists_read?_of_step h.made he hread
    rw [← htext]
    apply h.text old hold
  · apply h.cover.imp_left Delivered.mono

end Displays

/-- A cell displays the labels and the cover of the book it refers to. -/
def BookPreviewCellView.Shows (realm : Realm) (as : List Action) (s : State) (ref : BookRef)
    (cell : BookPreviewCellView) : Prop :=
  ∃ displayed, Displays realm as s ref displayed ∧ cell.bookCover = displayed.coverData ∧
    cell.bookTitles = titles displayed ∧ cell.bookAuthors = displayed.authorName

/-- The popup displays the labels of the book it refers to, and its pages the cover and the
details of this book. -/
structure BookDatailsView.Shows (realm : Realm) (as : List Action) (s : State) (ref : BookRef)
    (view : BookDatailsView) : Prop where
  labels : ∃ displayed, Displays realm as s ref displayed ∧ view.bookTitle = titles displayed ∧
    view.bookAuthor = displayed.authorName
  cover : ∀ imageData, view.bookCover = some imageData → ∃ displayed,
    Displays realm as s ref displayed ∧ imageData = displayed.coverData
  info : ∀ text, view.bookInfo = some text → ∃ displayed,
    Displays realm as s ref displayed ∧ text = OpenLibrary.bookInfo displayed

section Shows

variable {F : Foundation} {realm : Realm} {as : List Action} {s t : State} {a : Action}
  {ref : BookRef} {book : Book}

theorem BookPreviewCellView.shows_setup (h : Displays realm as s ref book) :
  (BookPreviewCellView.setup book).Shows realm as s ref
  := ⟨book, h, rfl, rfl, rfl⟩

theorem BookPreviewCellView.Shows.step {cell : BookPreviewCellView}
    (h : cell.Shows realm as s ref) (he : Effect F s a t) :
  cell.Shows realm (as ++ [a]) t ref
  := by
  obtain ⟨displayed, hdisplays, hcell⟩ := h
  exact ⟨displayed, hdisplays.step he, hcell⟩

theorem BookDatailsView.shows_setupUI (h : Displays realm as s ref book) :
  (BookDatailsView.setupUI book).Shows realm as s ref
  := by
  constructor
  · exact ⟨book, h, rfl, rfl⟩
  · intro imageData himage
    cases himage
  · intro text htext
    cases htext

theorem BookDatailsView.Shows.setupCell {view : BookDatailsView}
    (h : view.Shows realm as s ref) (hbook : Displays realm as s ref book) (page : Nat) :
  (view.setupCell page book).Shows realm as s ref
  := by
  rw [BookDatailsView.setupCell]
  split
  · constructor
    · apply h.labels
    · intro imageData himage
      obtain rfl := Option.some.inj himage
      exact ⟨book, hbook, rfl⟩
    · apply h.info
  · constructor
    · apply h.labels
    · apply h.cover
    · intro text htext
      obtain rfl := Option.some.inj htext
      exact ⟨book, hbook, rfl⟩

theorem BookDatailsView.Shows.step {view : BookDatailsView} (h : view.Shows realm as s ref)
    (he : Effect F s a t) :
  view.Shows realm (as ++ [a]) t ref
  := by
  constructor
  · obtain ⟨displayed, hdisplays, hview⟩ := h.labels
    exact ⟨displayed, hdisplays.step he, hview⟩
  · intro imageData himage
    obtain ⟨displayed, hdisplays, hview⟩ := h.cover imageData himage
    exact ⟨displayed, hdisplays.step he, hview⟩
  · intro text htext
    obtain ⟨displayed, hdisplays, hview⟩ := h.info text htext
    exact ⟨displayed, hdisplays.step he, hview⟩

end Shows

/-! ### The invariant -/

/-- The indicator is at the tab selected, and the cells and the popup display the books they refer
to. -/
structure Faithful (realm : Realm) (as : List Action) (s : State) (views : Views) : Prop where
  topBar : views.topBar = s.screen.currentAppState.direction
  cells : List.Forall₂ (BookPreviewCellView.Shows realm as s) s.screen.cells views.cells
  details : ∀ details, s.screen.details = some details → ∃ view, views.details = some view ∧
    view.Shows realm as s details.bookBeingDesplayed

namespace Faithful

variable {F : Foundation} {realm : Realm} {as : List Action} {s t : State} {a : Action}
  {views : Views}

theorem launch (realm : Realm) :
  Faithful realm [] (OpenLibrary.launch realm) .initial
  := by
  constructor
  · rfl
  · apply List.Forall₂.nil
  · intro details hdetails
    cases hdetails

/-- The cells go on displaying their books. -/
theorem cells_step (h : Faithful realm as s views) (he : Effect F s a t) :
  List.Forall₂ (BookPreviewCellView.Shows realm (as ++ [a]) t) s.screen.cells views.cells
  := h.cells.imp (fun _ _ hshows => hshows.step he)

/-- The popup goes on displaying its book. -/
theorem details_step (h : Faithful realm as s views) (he : Effect F s a t)
    {details : BookDetails} (hdetails : s.screen.details = some details) :
  ∃ view, views.details = some view ∧
    view.Shows realm (as ++ [a]) t details.bookBeingDesplayed
  := by
  obtain ⟨view, hview, hshows⟩ := h.details details hdetails
  exact ⟨view, hview, hshows.step he⟩

/-- Steps that leave the cells, the popup and the tab alone. -/
theorem congr (h : Faithful realm as s views) (he : Effect F s a t)
    (htab : t.screen.currentAppState = s.screen.currentAppState)
    (hcells : t.screen.cells = s.screen.cells) (hdetails : t.screen.details = s.screen.details) :
  Faithful realm (as ++ [a]) t views
  := by
  constructor
  · rw [htab]
    apply h.topBar
  · rw [hcells]
    apply h.cells_step he
  · intro details hd
    rw [hdetails] at hd
    apply h.details_step he hd

/-- The cells set up by `reloadData` display the books of the rows. -/
theorem cells_reloadData (hcovers : Covers realm as s) (hknown : s.Known)
    (hread : s.readable s.shownBooks) (he : Effect F s a t) :
  List.Forall₂ (BookPreviewCellView.Shows realm (as ++ [a]) t) s.shownBooks
    (Views.reloadData s views).cells
  := by
  apply List.forall₂_filterMap
  intro ref href
  obtain ⟨book, hbook⟩ := Option.isSome_iff_exists.mp (List.all_eq_true.mp hread ref href)
  refine ⟨BookPreviewCellView.setup book, ?_, ?_⟩
  · rw [hbook, Option.map_some]
  · apply BookPreviewCellView.shows_setup
    apply (Displays.of_read? hcovers (hknown.made href hbook) hbook).step he

/-- A step of the screens sets up for their books what it sets up. -/
theorem screen (h : Faithful realm as s views) (hcovers : Covers realm as s) (hknown : s.Known)
    {action : ScreenAction} {screen : Screen} {events : List Event}
    (hscreen : ScreenEffect s action screen events)
    (he : Effect F s (.screen action)
      { s with screen := screen, history := s.history ++ events }) :
  Faithful realm (as ++ [.screen action])
    { s with screen := screen, history := s.history ++ events }
    (views.next s (.screen action))
  := by
  cases hscreen with
  | @tab state =>
      obtain ⟨happ, -, hcells, hdetails⟩ := s.changeAppState_frame state
      rw [Views.next]
      split
      · next hsame =>
          apply h.congr he
          · rw [happ, hsame]
          · apply hcells
          · apply hdetails
      · constructor
        · rw [happ]
        · rw [hcells]
          apply h.cells_step he
        · intro details hd
          rw [hdetails] at hd
          apply h.details_step he hd
  | @text searchText =>
      obtain ⟨happ, -, -, -, hcells, hdetails⟩ := s.requestBookSearch_frame searchText
      apply h.congr he happ hcells hdetails
  | animation => apply h.congr he rfl rfl rfl
  | mainArea hqueue =>
      rw [Views.next, hqueue]
      apply h.congr he rfl rfl rfl
  | bookList hqueue hread | previewCell hqueue hread =>
      rw [Views.next, hqueue]
      constructor
      · apply h.topBar
      · apply cells_reloadData hcovers hknown hread he
      · intro details hd
        apply h.details_step he hd
  | cell hrow hbook hread =>
      have hmade := hknown.made (List.mem_of_getElem? hbook) hread
      have hdisplays := (Displays.of_read? hcovers hmade hread).step he
      rw [Views.next, Views.cellForRowAt, hbook, Option.bind_some, hread]
      constructor
      · apply h.topBar
      · apply (h.cells_step he).set (BookPreviewCellView.shows_setup hdisplays)
      · intro details hd
        apply h.details_step he hd
  | popup hrow hnone hbook hread =>
      have hmade := hknown.made (List.mem_of_getElem? hbook) hread
      have hdisplays := (Displays.of_read? hcovers hmade hread).step he
      rw [Views.next, Views.presentBookDetailPopup, hbook, Option.bind_some, hread]
      constructor
      · apply h.topBar
      · apply h.cells_step he
      · intro details hd
        obtain rfl := Option.some.inj hd
        exact ⟨_, rfl, BookDatailsView.shows_setupUI hdisplays⟩
  | @page page details book hdetails hpage hread =>
      obtain ⟨view, hview, hshows⟩ := h.details_step he hdetails
      obtain ⟨displayed, hold, -⟩ := hshows.labels
      have hnew : Displays realm as s details.bookBeingDesplayed book :=
        Displays.of_read? hcovers hold.made hread
      rw [Views.next, Views.cellForItemAt, hdetails, Option.bind_some, hread]
      constructor
      · apply h.topBar
      · apply h.cells_step he
      · intro details' hd
        obtain rfl := Option.some.inj hd
        refine ⟨view.setupCell page book, ?_, hshows.setupCell (hnew.step he) page⟩
        rw [hview]
        rfl
  | close =>
      constructor
      · apply h.topBar
      · apply h.cells_step he
      · intro details hd
        cases hd

/-- A press brings a button up to date, and leaves what else is displayed. -/
theorem pressed (h : Faithful realm as s views) {ref : BookRef}
    (hpress : s.pressedBook a = some ref) (he : Effect F s a (s.toggled ref)) :
  Faithful realm (as ++ [a]) (s.toggled ref) (views.next s a)
  := by
  have hkeep : Faithful realm (as ++ [a]) (s.toggled ref) views := by
    apply h.congr he
    · rw [State.screen_toggled]
    · rw [State.screen_toggled]
    · rw [State.screen_toggled]
  cases a with
  | userPressedWishlistButton row =>
      rw [Views.next, Views.userPressedWishlistButton]
      split
      · constructor
        · apply hkeep.topBar
        · apply hkeep.cells.modify
          rintro ref' cell - ⟨displayed, hdisplays, hcell⟩
          exact ⟨displayed, hdisplays, hcell⟩
        · apply hkeep.details
      · apply hkeep
  | notifyWishlistOfUpdate =>
      rw [Views.next, Views.notifyWishlistOfUpdate]
      split
      · next book hbook =>
          constructor
          · apply hkeep.topBar
          · apply hkeep.cells
          · intro details hd
            obtain ⟨view, hview, hlabels, hcover, hinfo⟩ := hkeep.details details hd
            use { view with wishlistButton := updateWishlistButtonUI book }
            constructor
            · rw [hview, Option.map_some]
            · exact ⟨hlabels, hcover, hinfo⟩
      · apply hkeep
  | _ => cases hpress

/-- A step keeps what is displayed that of the books referred to. -/
theorem step (h : Faithful realm as s views) (hcovers : Covers realm as s) (hknown : s.Known)
    (he : Effect F s a t) :
  Faithful realm (as ++ [a]) t (views.next s a)
  := by
  have he' := he
  cases he with
  | screen hidle hscreen =>
      apply h.screen hcovers hknown (State.screenEffect_of_screenStep hscreen) he'
  | timer | request | noResults | emptyResults | noCover | cover | notified =>
      apply h.congr he' rfl rfl rfl
  | results =>
      apply h.congr he'
      · rw [State.screen_booksStructured]
        rfl
      · rw [State.screen_booksStructured]
        rfl
      · rw [State.screen_booksStructured]
        rfl
  | pressed hidle hpress => apply h.pressed hpress he'
  | @updated ref book =>
      obtain ⟨happ, -, hcells, hdetails⟩ := s.wishlistUpdated_frame book
      apply h.congr he' happ hcells hdetails

end Faithful

/-! ### Buttons -/

/-- The button of a cell shows the flag of the book it refers to. -/
structure BookPreviewCellView.Marks (s : State) (ref : BookRef) (cell : BookPreviewCellView) :
    Prop where
  made : s.Made ref
  button : ∀ book, s.read? ref = some book → cell.wishlistButton = updateWishlistButtonUI book

/-- When nothing is posted, the main queue is empty and the table visible, the buttons of its
cells show the flags of their books. -/
def Fresh (s : State) (views : Views) : Prop :=
  s.posting = none → s.screen.mainQueue = [] → s.screen.isHidden = false →
    List.Forall₂ (BookPreviewCellView.Marks s) s.screen.cells views.cells

/-- A cell just set up shows the flag of its book. -/
theorem BookPreviewCellView.marks_setup {s : State} {ref : BookRef} {book : Book}
    (hmade : s.Made ref) (hread : s.read? ref = some book) :
  (BookPreviewCellView.setup book).Marks s ref
  := by
  constructor
  · apply hmade
  · intro book' hread'
    rw [Option.some.inj (hread'.symm.trans hread)]
    rfl

/-- A step after which nothing is posted and no block queued toggles no flag. -/
theorem BookPreviewCellView.Marks.step {F : Foundation} {s t : State} {a : Action}
    {ref : BookRef} {cell : BookPreviewCellView} (h : cell.Marks s ref) (he : Effect F s a t)
    (hidle : t.posting = none) (hqueue : t.screen.mainQueue = []) :
  cell.Marks t ref
  := by
  constructor
  · apply h.made.step he
  · intro book hread
    obtain ⟨old, hold, -, hflag⟩ := State.exists_read?_of_step h.made he hread
    obtain ⟨hpress, hnotified⟩ := State.quiet_of_rest he hidle hqueue
    rw [h.button old hold, updateWishlistButtonUI_eq_iff, hflag hpress hnotified]

namespace Fresh

variable {F : Foundation} {s t : State} {a : Action} {views : Views}

theorem launch (realm : Realm) :
  Fresh (OpenLibrary.launch realm) .initial
  := by
  intro _ _ hvisible
  cases hvisible

/-- Steps that leave the table and its cells alone. -/
theorem congr (h : Fresh s views) (he : Effect F s a t) (hposting : t.posting = s.posting)
    (hqueue : t.screen.mainQueue = s.screen.mainQueue)
    (hhidden : t.screen.isHidden = s.screen.isHidden)
    (hcells : t.screen.cells = s.screen.cells) :
  Fresh t views
  := by
  intro hidle hempty hvisible
  rw [hcells]
  apply (h (hposting.symm.trans hidle) (hqueue.symm.trans hempty)
    (hhidden.symm.trans hvisible)).imp
  intro ref cell hmarks
  apply hmarks.step he hidle hempty

/-- After a step that enqueues a block there is nothing to show yet. -/
theorem of_queued {queue : List Block} {block : Block}
    (hqueue : t.screen.mainQueue = queue ++ [block]) :
  Fresh t views
  := by
  intro _ hempty
  rw [hqueue] at hempty
  apply absurd (List.append_eq_nil_iff.mp hempty).2 (List.cons_ne_nil _ _)

/-- The cells set up by `reloadData` show the flags of the books of the rows. -/
theorem reloadData (hknown : s.Known) (hread : s.readable s.shownBooks) (he : Effect F s a t)
    (hcells : t.screen.cells = s.shownBooks) :
  Fresh t (Views.reloadData s views)
  := by
  intro hidle hempty _
  rw [hcells]
  apply List.forall₂_filterMap
  intro ref href
  obtain ⟨book, hbook⟩ := Option.isSome_iff_exists.mp (List.all_eq_true.mp hread ref href)
  refine ⟨BookPreviewCellView.setup book, ?_, ?_⟩
  · rw [hbook, Option.map_some]
  · apply (BookPreviewCellView.marks_setup (hknown.made href hbook) hbook).step he hidle hempty

/-- A step of the screens that leaves nothing queued keeps the buttons right. -/
theorem screen (h : Fresh s views) (hknown : s.Known) {action : ScreenAction} {screen : Screen}
    {events : List Event} (hscreen : ScreenEffect s action screen events)
    (he : Effect F s (.screen action)
      { s with screen := screen, history := s.history ++ events }) :
  Fresh { s with screen := screen, history := s.history ++ events }
    (views.next s (.screen action))
  := by
  cases hscreen with
  | @tab state =>
      rw [Views.next]
      split
      · next hsame =>
          have hscreen : s.changeAppState state = s.screen := by
            rw [State.changeAppState, if_pos hsame]
          apply h.congr he
          · rfl
          · rw [hscreen]
          · rw [hscreen]
          · rw [hscreen]
      · next hsame =>
          rcases State.changeAppState_enqueues hsame with ⟨block, hblock⟩
          apply of_queued hblock
  | @text searchText =>
      obtain ⟨-, hqueue, hhidden, -, hcells, -⟩ := s.requestBookSearch_frame searchText
      apply h.congr he rfl hqueue hhidden hcells
  | animation => apply h.congr he rfl rfl rfl rfl
  | mainArea hqueue =>
      intro _ _ hvisible
      cases hvisible
  | bookList hqueue hread | previewCell hqueue hread =>
      rw [Views.next, hqueue]
      apply reloadData hknown hread he rfl
  | cell hrow hbook hread =>
      rw [Views.next, Views.cellForRowAt, hbook, Option.bind_some, hread]
      intro hidle hempty hvisible
      have hmade := hknown.made (List.mem_of_getElem? hbook) hread
      have hmarks := BookPreviewCellView.marks_setup hmade hread
      apply ((h hidle hempty hvisible).set hmarks _).imp
      intro ref cell hcell
      apply hcell.step he hidle hempty
  | popup hrow hnone hbook hread =>
      rw [Views.next, Views.presentBookDetailPopup, hbook, Option.bind_some, hread]
      apply h.congr he rfl rfl rfl rfl
  | page hdetails hpage hread =>
      rw [Views.next, Views.cellForItemAt, hdetails, Option.bind_some, hread]
      apply h.congr he rfl rfl rfl rfl
  | close => apply h.congr he rfl rfl rfl rfl

/-- A step keeps the buttons right, or leaves something posted or queued. -/
theorem step (h : Fresh s views) (hknown : s.Known) (he : Effect F s a t) :
  Fresh t (views.next s a)
  := by
  have he' := he
  cases he with
  | screen hidle hscreen =>
      apply h.screen hknown (State.screenEffect_of_screenStep hscreen) he'
  | timer | request | noResults | noCover | cover => apply h.congr he' rfl rfl rfl rfl
  | results =>
      apply h.congr he'
      · rw [State.posting_booksStructured]
        rfl
      · rw [State.screen_booksStructured]
        rfl
      · rw [State.screen_booksStructured]
        rfl
      · rw [State.screen_booksStructured]
        rfl
  | emptyResults | notified => apply of_queued rfl
  | pressed =>
      intro hidle
      rw [State.posting_toggled] at hidle
      cases hidle
  | @updated ref book =>
      obtain ⟨block, hblock⟩ := s.wishlistUpdated_enqueues book
      apply of_queued (congrArg Screen.mainQueue hblock)

end Fresh

/-! ### Runs -/

/-- What is displayed in every run is of the books referred to, and the buttons are right unless
something is posted or queued. -/
theorem faithful_and_fresh_of_run {F : Foundation} {realm : Realm} {as : List Action}
    {x : State × Views} (h : (viewed F).run (launch realm, .initial) as = .ok x) :
  Faithful realm as x.1 x.2 ∧ Fresh x.1 x.2
  := by
  apply Machine.traced (M := viewed F)
    (P := fun as x => Faithful realm as x.1 x.2 ∧ Fresh x.1 x.2) _ _ h
  · exact ⟨Faithful.launch realm, Fresh.launch realm⟩
  · rintro as ⟨s, views⟩ a ⟨t, views'⟩ hrun ⟨hfaithful, hfresh⟩ hstep
    have hs : (application F).run (launch realm) as = .ok s :=
      (Machine.run_withHistory Views.initial).mpr ⟨views, hrun⟩
    have hknown : s.Known := State.known_of_run hs
    obtain ⟨ht, rfl⟩ := Machine.step_withHistory.mp hstep
    have he : Effect F s a t := State.step_eq_ok.mp ht
    exact ⟨hfaithful.step (Covers.of_run hs) hknown he, hfresh.step hknown he⟩

/-- Books with the same text have the same `coverID` and the same labels. -/
theorem labels_of_text {b c : Book} (h : b.text = c.text) :
  b.coverID = c.coverID ∧ titles b = titles c ∧ b.authorName = c.authorName ∧
    bookInfo b = bookInfo c
  := by
  cases b
  cases c
  simp only [Book.text, Book.mk.injEq] at h
  obtain ⟨rfl, -, rfl, rfl, rfl, rfl, rfl, rfl, -⟩ := h
  exact ⟨rfl, rfl, rfl, rfl⟩

/-- A cover displayed is one of the book that can be read. -/
theorem Displays.sourced {realm : Realm} {as : List Action} {s : State} {ref : BookRef}
    {displayed book : Book} (h : Displays realm as s ref displayed)
    (hread : s.read? ref = some book) :
  Sourced realm as { book with coverData := displayed.coverData }
  := by
  obtain ⟨hcoverID, -⟩ := labels_of_text (h.text book hread)
  have hcover := h.cover
  rw [Sourced, Delivered, hcoverID] at hcover
  apply hcover

/-- In every run, the indicator is at the tab selected, and each cell of the table displays the
labels of the book it refers to, and as its cover nothing or a cover of its `coverID`; and so do
the popup and its pages. -/
theorem views_show_their_books (F : Foundation) (realm : Realm) (as : List Action) (s : State)
    (views : Views) (h : (viewed F).run (launch realm, .initial) as = .ok (s, views)) :
  views.topBar = s.screen.currentAppState.direction ∧
    views.cells.length = s.screen.cells.length ∧
    (∀ (i : Nat) (ref : BookRef) (cell : BookPreviewCellView) (book : Book),
      s.screen.cells[i]? = some ref → views.cells[i]? = some cell → s.read? ref = some book →
        cell.bookTitles = titles book ∧ cell.bookAuthors = book.authorName ∧
          Sourced realm as { book with coverData := cell.bookCover }) ∧
    ∀ details, s.screen.details = some details → ∃ view, views.details = some view ∧
      ∀ book, s.read? details.bookBeingDesplayed = some book →
        view.bookTitle = titles book ∧ view.bookAuthor = book.authorName ∧
          (∀ imageData, view.bookCover = some imageData →
            Sourced realm as { book with coverData := imageData }) ∧
          ∀ text, view.bookInfo = some text → text = bookInfo book
  := by
  obtain ⟨hfaithful, -⟩ := faithful_and_fresh_of_run h
  refine ⟨hfaithful.topBar, hfaithful.cells.length_eq.symm, ?_, ?_⟩
  · intro i ref cell book href hcell hread
    obtain ⟨displayed, hdisplays, hcover, htitles, hauthors⟩ :=
      hfaithful.cells.of_getElem? href hcell
    obtain ⟨-, hbtitles, hbauthor, -⟩ := labels_of_text (hdisplays.text book hread)
    rw [htitles, hauthors, hcover]
    exact ⟨hbtitles, hbauthor, hdisplays.sourced hread⟩
  · intro details hdetails
    obtain ⟨view, hview, hlabels, hcover, hinfo⟩ := hfaithful.details details hdetails
    use view, hview
    intro book hread
    obtain ⟨displayed, hdisplays, htitle, hauthor⟩ := hlabels
    obtain ⟨-, hbtitle, hbauthor, -⟩ := labels_of_text (hdisplays.text book hread)
    refine ⟨htitle.trans hbtitle, hauthor.trans hbauthor, ?_, ?_⟩
    · intro imageData himage
      obtain ⟨displayed, hdisplays, rfl⟩ := hcover imageData himage
      apply hdisplays.sourced hread
    · intro text htext
      obtain ⟨displayed, hdisplays, rfl⟩ := hinfo text htext
      apply (labels_of_text (hdisplays.text book hread)).2.2.2

/-- A book is found and added from its popup, before its second page comes into view. -/
theorem views_show_their_books_dune :
  ∃ x, (viewed .onPlainText).run (launch Table.empty, .initial)
      [.screen (.searchBarTextDidChange "dune"), .beginRequest 1,
        .bookInfoResponse 0 (responseOf [document 7 "Dune"]),
        .coverResponse ⟨0, 0, bookCoverRequestURL 7⟩ (some [1]), .coversNotified 0,
        .screen .runMainBlock, .screen (.didSelectRowAt 0), .screen (.cellForItemAt 0),
        .notifyWishlistOfUpdate, .addOrDeleteBookFromWishlist,
        .screen (.cellForItemAt 1)] = .ok x ∧
    (x.2.topBar = x.1.screen.currentAppState.direction ∧
      x.2.cells.length = x.1.screen.cells.length ∧
      (∀ (i : Nat) (ref : BookRef) (cell : BookPreviewCellView) (book : Book),
        x.1.screen.cells[i]? = some ref → x.2.cells[i]? = some cell →
          x.1.read? ref = some book →
          cell.bookTitles = titles book ∧ cell.bookAuthors = book.authorName ∧
            Sourced Table.empty
              [.screen (.searchBarTextDidChange "dune"), .beginRequest 1,
                .bookInfoResponse 0 (responseOf [document 7 "Dune"]),
                .coverResponse ⟨0, 0, bookCoverRequestURL 7⟩ (some [1]), .coversNotified 0,
                .screen .runMainBlock, .screen (.didSelectRowAt 0), .screen (.cellForItemAt 0),
                .notifyWishlistOfUpdate, .addOrDeleteBookFromWishlist,
                .screen (.cellForItemAt 1)] { book with coverData := cell.bookCover }) ∧
      ∀ details, x.1.screen.details = some details → ∃ view, x.2.details = some view ∧
        ∀ book, x.1.read? details.bookBeingDesplayed = some book →
          view.bookTitle = titles book ∧ view.bookAuthor = book.authorName ∧
            (∀ imageData, view.bookCover = some imageData →
              Sourced Table.empty
                [.screen (.searchBarTextDidChange "dune"), .beginRequest 1,
                  .bookInfoResponse 0 (responseOf [document 7 "Dune"]),
                  .coverResponse ⟨0, 0, bookCoverRequestURL 7⟩ (some [1]), .coversNotified 0,
                  .screen .runMainBlock, .screen (.didSelectRowAt 0),
                  .screen (.cellForItemAt 0), .notifyWishlistOfUpdate,
                  .addOrDeleteBookFromWishlist, .screen (.cellForItemAt 1)]
                { book with coverData := imageData }) ∧
            ∀ text, view.bookInfo = some text → text = bookInfo book)
  := by
  apply (exists_congr (fun x => and_iff_left_of_imp _)).mpr
  · exact ⟨_, rfl⟩
  · rintro ⟨s, views⟩ h
    apply views_show_their_books .onPlainText Table.empty _ s views h

/-- In every run, in every state in which no notification is being posted, the main queue is empty
and the table visible, the wishlist button of each of its cells shows the flag that the book it
refers to has then. -/
theorem buttons_at_rest (F : Foundation) (realm : Realm) (as : List Action) (s : State)
    (views : Views) (h : (viewed F).run (launch realm, .initial) as = .ok (s, views))
    (hidle : s.posting = none) (hqueue : s.screen.mainQueue = [])
    (hvisible : s.screen.isHidden = false) (i : Nat) (ref : BookRef) (cell : BookPreviewCellView)
    (book : Book) (href : s.screen.cells[i]? = some ref) (hcell : views.cells[i]? = some cell)
    (hread : s.read? ref = some book) :
  cell.wishlistButton = updateWishlistButtonUI book
  := by
  obtain ⟨-, hfresh⟩ := faithful_and_fresh_of_run h
  have hmarks : cell.Marks s ref := (hfresh hidle hqueue hvisible).of_getElem? href hcell
  apply hmarks.button book hread

/-- One of two results is added, and the table set up anew. -/
theorem buttons_at_rest_dune :
  ∃ x, ((viewed .onPlainText).run (launch Table.empty, .initial)
      [.screen (.searchBarTextDidChange "dune"), .beginRequest 1,
        .bookInfoResponse 0 (responseOf [document 7 "Dune", document 8 "Emma"]),
        .coverResponse ⟨0, 1, bookCoverRequestURL 8⟩ (some [1]),
        .coverResponse ⟨0, 0, bookCoverRequestURL 7⟩ (some [2]), .coversNotified 0,
        .screen .runMainBlock, .userPressedWishlistButton 0, .addOrDeleteBookFromWishlist,
        .screen .runMainBlock] = .ok x ∧
    x.1.posting = none ∧ x.1.screen.mainQueue = [] ∧ x.1.screen.isHidden = false ∧
    x.1.screen.cells[0]? = some (.detached 0)) ∧
    ∀ cell book, x.2.cells[0]? = some cell → x.1.read? (.detached 0) = some book →
      cell.wishlistButton = updateWishlistButtonUI book
  := by
  apply (exists_congr (fun x => and_iff_left_of_imp _)).mpr
  · exact ⟨_, rfl, rfl, rfl, rfl, rfl⟩
  · rintro ⟨s, views⟩ ⟨h, hidle, hqueue, hvisible, href⟩ cell book hcell hread
    apply buttons_at_rest .onPlainText Table.empty _ s views h hidle hqueue hvisible 0 _ cell
      book href hcell hread

end OpenLibrary
