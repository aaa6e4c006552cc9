import OpenLibrary.Model.State

/-!
# The wishlist

A press of a wishlist button toggles the flag of a book in a transaction of its own
(`userPressedWishlistButton` in a cell, `notifyWishlistOfUpdate` in the popup) and posts a
notification, which `addOrDeleteBookFromWishlist` handles on the same thread, in another
transaction. The first part ends with the notification in `posting`; steps of other
threads, or the end of the process, may come in between.
-/

namespace OpenLibrary

namespace State

/-! ### Presses -/

/-- The flag of a book is toggled in a transaction, and the `Update_Wishlist` notification is
posted. -/
def toggled (s : State) : BookRef → State
  | .detached o =>
      { s with
        objects := s.objects.modify o Book.toggle
        posting := some (.detached o) }
  | .stored row =>
      { s with
        realm := s.realm.modify row Book.toggle
        posting := some (.stored row) }

/-- A press of the wishlist button of a book. -/
def pressWishlistButton (s : State) (book : BookRef) : Except Fault State :=
  match s.read? book with
  | none => .error (.trap .invalidatedObject)
  | some _ => .ok (s.toggled book)

/-- `BookPreviewCellView.userPressedWishlistButton`, in the cell of a row of the visible
table. -/
def userPressedWishlistButton (s : State) (row : Nat) : Except Fault State :=
  if s.screen.isHidden then
    .error .disabled
  else
    match s.screen.cells[row]? with
    | none => .error .disabled
    | some bookBeingDisplayed => s.pressWishlistButton bookBeingDisplayed

/-- `BookDetailsViewPresenter.notifyWishlistOfUpdate`, in the open popup. -/
def notifyWishlistOfUpdate (s : State) : Except Fault State :=
  match s.screen.details with
  | none => .error .disabled
  | some details => s.pressWishlistButton details.bookBeingDesplayed

/-! ### The handler of the wishlist manager -/

/-- The copy of a book that is added to the store. -/
def realmBook (book : Book) : Book :=
  { authorName := book.authorName
    title := book.title
    coverData := book.coverData
    coverID := book.coverID
    editionCount := book.editionCount
    firstPublishYear := book.firstPublishYear
    isInWishlist := book.isInWishlist
    publisher := book.publisher }

/-- The store and `wishList` after `addOrDeleteBookFromWishlist` of a book: the book is
added when it is marked and the store has no record of its `coverID`, nothing happens when
it is marked and the store has one, and the records of its `coverID` are deleted when it is
not marked. -/
def addOrDelete (realm : Realm) (wishList : List Nat) (book : Book) : Realm × List Nat :=
  if book.isInWishlist then
    if realm.countCover book.coverID = 0 then
      (realm.insert (realmBook book), Table.ids (realm.insert (realmBook book)))
    else
      (realm, wishList)
  else
    (realm.delete (fun b => b.coverID == book.coverID),
      Table.ids (realm.delete (fun b => b.coverID == book.coverID)))

/-- `MainScreenPresenter.updateMainScreen` of a notification with the given `update_type`
and `book_index_path`. -/
def updateMainScreen (s : State) (updateType : String) (bookIndexPath : Option Nat) : Screen :=
  if updateType = "update_preview_cell" then
    match bookIndexPath with
    | some indexPath => s.screen.updatePreviewCell indexPath
    | none => s.screen
  else if updateType = "update_booklist" then
    match s.screen.currentAppState with
    | .wishlist =>
        if s.getWishlistCount = 0 then
          s.screen.updateMainArea .searchForBooks .searchForBooksToAddToWishlist
        else
          s.screen.updateBookList
    | .bookSearch => s.screen.updateBookList
  else
    s.screen

/-- The posted book is added or deleted, and the presenter notified. -/
def wishlistUpdated (s : State) (book : Book) : State :=
  let updated := { s with
    realm := (addOrDelete s.realm s.wishList book).1
    wishList := (addOrDelete s.realm s.wishList book).2
    posting := none
    history := s.history ++ [Event.pressed book.coverID book.isInWishlist] }
  { updated with screen := updated.updateMainScreen "update_booklist" none }

/-- `WishlistManager.addOrDeleteBookFromWishlist`, handling the posted notification. -/
def addOrDeleteBookFromWishlist (s : State) : Except Fault State :=
  match s.posting with
  | none => .error .disabled
  | some ref =>
      match s.read? ref with
      | none => .error (.trap .invalidatedObject)
      | some book => .ok (s.wishlistUpdated book)

end State

end OpenLibrary
