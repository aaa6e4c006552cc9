import OpenLibrary.Library.Machine
import OpenLibrary.Model.Step

/-!
# The views

What the cells of the table, the popup and the top bar display. Nothing the application does
depends on it, so it is a history variable of the application: `viewed F` is `application F` with
its `Views`. An image is the data it is made of, and frames, fonts and constraints are left out.
-/

namespace OpenLibrary

/-! ### Wishlist buttons -/

/-- A colour: `UIColor(red: red/255, green: green/255, blue: blue/255, alpha: alpha)`, or
`UIColor.white`. -/
inductive Color where
  | rgb (red green blue alpha : Nat)
  | white
deriving DecidableEq

/-- What `updateWishlistButtonUI` sets of a wishlist button and of its background. -/
structure WishlistButton where
  backgroundColor : Color
  titleColor : Color
  image : Option String
  imageEdgeInsetsLeft : Int
  titleEdgeInsetsLeft : Int
deriving DecidableEq

/-- `updateWishlistButtonUI`, which is the same in a cell and in the popup. -/
def updateWishlistButtonUI (bookBeingDisplayed : Book) : WishlistButton :=
  if bookBeingDisplayed.isInWishlist then
    { backgroundColor := .rgb 239 239 244 100
      titleColor := .rgb 47 49 49 100
      image := some "Wishlist_Check_Mark"
      imageEdgeInsetsLeft := -7
      titleEdgeInsetsLeft := 4 }
  else
    { backgroundColor := .rgb 90 154 109 100
      titleColor := .white
      image := none
      imageEdgeInsetsLeft := 0
      titleEdgeInsetsLeft := 0 }

/-- The buttons of two books are the same exactly when the books are both marked or both not. -/
theorem updateWishlistButtonUI_eq_iff {b c : Book} :
  updateWishlistButtonUI b = updateWishlistButtonUI c ↔ b.isInWishlist = c.isInWishlist
  := by
  rw [updateWishlistButtonUI, updateWishlistButtonUI]
  cases b.isInWishlist with
  | true =>
      cases c.isInWishlist with
      | true => apply iff_of_true rfl rfl
      | false => decide
  | false =>
      cases c.isInWishlist with
      | true => decide
      | false => apply iff_of_true rfl rfl

/-! ### Labels -/

/-- The title of a book, and its subtitle on a line of its own if there is one. -/
def titles (book : Book) : String :=
  if book.subtitle.isEmpty then book.title else book.title ++ "\n" ++ book.subtitle

/-- The text of `BookInfoCell`. -/
def bookInfo (book : Book) : String :=
  "Publish Year: " ++ toString book.firstPublishYear ++ "\nPublisher: " ++ book.publisher ++
    "\nEdition count: " ++ toString book.editionCount

/-! ### Cells and the popup -/

/-- What `BookPreviewCellView` displays. -/
structure BookPreviewCellView where
  bookCover : Data
  bookTitles : String
  bookAuthors : String
  wishlistButton : WishlistButton
deriving DecidableEq

/-- `BookPreviewCellView.setup`, which leaves nothing of what a reused cell displayed. -/
def BookPreviewCellView.setup (book : Book) : BookPreviewCellView where
  bookCover := book.coverData
  bookTitles := titles book
  bookAuthors := book.authorName
  wishlistButton := updateWishlistButtonUI book

/-- What `BookDatailsView` displays, with the cover of its `BookCoverCell` and the text of its
`BookInfoCell`, if these pages have come into view. -/
structure BookDatailsView where
  bookTitle : String
  bookAuthor : String
  wishlistButton : WishlistButton
  bookCover : Option Data
  bookInfo : Option String
deriving DecidableEq

/-- `BookDatailsView.setupUI`. -/
def BookDatailsView.setupUI (book : Book) : BookDatailsView where
  bookTitle := titles book
  bookAuthor := book.authorName
  wishlistButton := updateWishlistButtonUI book
  bookCover := none
  bookInfo := none

/-- `collectionView(_:cellForItemAt:)`, with `BookCoverCell.setupCell` and
`BookInfoCell.setupCell`. -/
def BookDatailsView.setupCell (view : BookDatailsView) (detailSectionNum : Nat) (book : Book) :
    BookDatailsView :=
  if detailSectionNum = 0 then
    { view with bookCover := some book.coverData }
  else
    { view with bookInfo := some (OpenLibrary.bookInfo book) }

/-! ### The top bar -/

inductive Direction where
  | left
  | right
deriving DecidableEq

/-- The direction in which `changeAppState` has `updateTopBar` move the indicator. -/
def AppState.direction : AppState → Direction
  | bookSearch => .left
  | wishlist => .right

/-! ### What is displayed -/

/-- What the top bar, the cells and the popup display. -/
structure Views where
  /-- The side the indicator was last moved to. -/
  topBar : Direction
  /-- The cell of each row, since the last `reloadData`. -/
  cells : List BookPreviewCellView
  details : Option BookDatailsView

namespace Views

/-- What a process that has just started displays. -/
def initial : Views where
  topBar := .left
  cells := []
  details := none

/-- `bookList.reloadData()` sets up the cell of each row. -/
def reloadData (s : State) (views : Views) : Views :=
  { views with
    cells := s.shownBooks.filterMap (fun book => (s.read? book).map BookPreviewCellView.setup) }

/-- The cell of a row is set up. -/
def cellForRowAt (s : State) (row : Nat) (views : Views) : Views :=
  match s.shownBooks[row]?.bind s.read? with
  | some book => { views with cells := views.cells.set row (BookPreviewCellView.setup book) }
  | none => views

/-- The popup of a row is set up. -/
def presentBookDetailPopup (s : State) (row : Nat) (views : Views) : Views :=
  match s.shownBooks[row]?.bind s.read? with
  | some book => { views with details := some (BookDatailsView.setupUI book) }
  | none => views

/-- A page of the popup is set up. -/
def cellForItemAt (s : State) (page : Nat) (views : Views) : Views :=
  match s.screen.details.bind (fun details => s.read? details.bookBeingDesplayed) with
  | some book => { views with details := views.details.map (fun view => view.setupCell page book) }
  | none => views

/-- A press in a cell brings its button up to date, before the notification is posted. -/
def userPressedWishlistButton (s : State) (row : Nat) (views : Views) : Views :=
  match s.screen.cells[row]?.bind (fun ref => (s.toggled ref).read? ref) with
  | some book =>
      { views with
        cells := views.cells.modify row (fun cell =>
          { cell with wishlistButton := updateWishlistButtonUI book }) }
  | none => views

/-- A press in the popup brings its button up to date, before the notification is posted. -/
def notifyWishlistOfUpdate (s : State) (views : Views) : Views :=
  match s.screen.details.bind (fun details =>
      (s.toggled details.bookBeingDesplayed).read? details.bookBeingDesplayed) with
  | some book =>
      { views with
        details := views.details.map (fun view =>
          { view with wishlistButton := updateWishlistButtonUI book }) }
  | none => views

/-- What is displayed after an action, by the state it is performed in. -/
def next (s : State) (views : Views) : Action → Views
  | .screen (.userSelectedTab state) =>
      if state = s.screen.currentAppState then views else { views with topBar := state.direction }
  | .screen .runMainBlock =>
      match s.screen.mainQueue.head? with
      | some .updateBookList => reloadData s views
      | some (.updatePreviewCell _) => reloadData s views
      | _ => views
  | .screen (.cellForRowAt row) => cellForRowAt s row views
  | .screen (.didSelectRowAt row) => presentBookDetailPopup s row views
  | .screen (.cellForItemAt page) => cellForItemAt s page views
  | .screen .userPressedCloseButton => { views with details := none }
  | .userPressedWishlistButton row => userPressedWishlistButton s row views
  | .notifyWishlistOfUpdate => notifyWishlistOfUpdate s views
  | _ => views

end Views

/-- The application with what it displays. -/
def viewed (F : Foundation) : Machine (State × Views) Action Fault :=
  (application F).withHistory Views.next

end OpenLibrary
