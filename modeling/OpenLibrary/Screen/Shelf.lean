import OpenLibrary.Library.Lists
import OpenLibrary.Model.BookSearchManager
import OpenLibrary.Model.Views
import OpenLibrary.Model.WishlistManager

/-!
# The shelf

What the application is for, told without threads, queues, timers and objects. A `Shelf` has a
tab, the books found by the last search and those wished for, and perhaps a message instead of
rows; it is all that the user sees of the main screen (`Shelf.seen`). What the user does and what
the network answers (`Use`) turn one shelf into another (`Shelf.step`).
-/

namespace OpenLibrary

/-- What the user does, and what the network answers. -/
inductive Use where
  /-- A tab is selected. -/
  | select (tab : AppState)
  /-- A search begins. -/
  | search
  /-- The search is answered. -/
  | answer (docs : List JsonObject)
  /-- The cover of the book found at an index arrives. -/
  | cover (i : Nat) (imageData : Data)
  /-- The wishlist button of the book of a row is pressed. -/
  | press (row : Nat)

/-- The books found and the books wished for. -/
@[ext]
structure Shelf where
  tab : AppState
  found : List Book
  wishlist : List Book
  /-- The name of the image and the text of the message, if there is one instead of rows. -/
  message : Option (String × String)
deriving DecidableEq

/-- What is in the main area: a message under its image, or the rows of the table. -/
inductive MainArea where
  | message (imageMessage message : String)
  | bookList (cells : List BookPreviewCellView)
deriving DecidableEq

namespace Shelf

/-! ### The wishlist -/

/-- A book with the given `coverID` is wished for. -/
def wished (wishlist : List Book) (coverID : Int) : Bool :=
  wishlist.any (fun book => book.coverID == coverID)

/-- A book marked is wished for, unless one with its `coverID` is; of a book not marked, those with
its `coverID` are given up. -/
def wish (wishlist : List Book) (book : Book) : List Book :=
  if book.isInWishlist then
    if wished wishlist book.coverID then wishlist else wishlist ++ [State.realmBook book]
  else
    removeUnordered (fun kept => kept.coverID == book.coverID) wishlist

/-- A book found is marked if one with its `coverID` is wished for. -/
def marked (wishlist : List Book) (book : Book) : Book :=
  if wished wishlist book.coverID then { book with isInWishlist := true } else book

/-! ### Steps -/

/-- The message in place of the rows of the wishlist, when it has none. -/
def wishlistMessage (wishlist : List Book) : Option (String × String) :=
  if wishlist.isEmpty then
    some (ImageMessage.searchForBooks.rawValue, Message.searchForBooksToAddToWishlist.rawValue)
  else
    none

/-- The shelf after a tab is selected. -/
def select (shelf : Shelf) (tab : AppState) : Shelf :=
  if tab = shelf.tab then
    shelf
  else
    match tab with
    | .bookSearch =>
        { shelf with
          tab := .bookSearch
          message := some (ImageMessage.searchForBooks.rawValue, Message.searchForBooks.rawValue) }
    | .wishlist =>
        { shelf with
          tab := .wishlist
          message := wishlistMessage shelf.wishlist }

/-- The shelf after a search is answered. -/
def answer (shelf : Shelf) (docs : List JsonObject) : Shelf :=
  { shelf with
    found := ((structureBooks docs).getD []).map (marked shelf.wishlist)
    message :=
      if docs.isEmpty then
        some (ImageMessage.noResultsFound.rawValue, Message.noResultsFound.rawValue)
      else
        none }

/-- The shelf after the button of a row is pressed. -/
def press (shelf : Shelf) (row : Nat) : Shelf :=
  match shelf.tab with
  | .bookSearch =>
      match shelf.found[row]? with
      | none => shelf
      | some book =>
          { shelf with
            found := shelf.found.modify row Book.toggle
            wishlist := wish shelf.wishlist book.toggle
            message := none }
  | .wishlist =>
      match shelf.wishlist[row]? with
      | none => shelf
      | some book =>
          { shelf with
            wishlist := wish (shelf.wishlist.modify row Book.toggle) book.toggle
            message := wishlistMessage (wish (shelf.wishlist.modify row Book.toggle) book.toggle) }

/-- The shelf after the user does something or the network answers. -/
def step (shelf : Shelf) : Use → Shelf
  | .select tab => shelf.select tab
  | .search => { shelf with found := [] }
  | .answer docs => shelf.answer docs
  | .cover i imageData =>
      { shelf with found := shelf.found.modify i (fun book => { book with coverData := imageData }) }
  | .press row => shelf.press row

/-- The shelf of a process that has just started on a store. -/
def initial (realm : Realm) : Shelf where
  tab := .bookSearch
  found := []
  wishlist := realm.values
  message := some ("image_message_1", "Welcome! Search for books.")

/-! ### Pressing twice -/

/-- The books none of which has the `coverID` of one stay in place when that one is wished for and
given up. -/
theorem wish_wish {wishlist : List Book} {book : Book} (hflag : book.isInWishlist = false)
    (hwished : wished wishlist book.coverID = false) :
  wish (wish wishlist book.toggle) book = wishlist
  := by
  have hadded : wish wishlist book.toggle = wishlist ++ [State.realmBook book.toggle] := by
    rw [wish, Book.isInWishlist_toggle, hflag, Book.coverID_toggle, hwished]
    rfl
  rw [hadded, wish, hflag]
  apply removeUnordered_concat
  · intro kept hkept
    apply Bool.eq_false_iff.mpr (List.any_eq_false.mp hwished kept hkept)
  · apply beq_self_eq_true

/-- A book found that is not wished for is wished for when it is pressed, and given up when it is
pressed again: nothing is left of either but the table in place of a message. -/
theorem press_press {shelf : Shelf} {row : Nat} {book : Book} (htab : shelf.tab = .bookSearch)
    (hbook : shelf.found[row]? = some book) (hflag : book.isInWishlist = false)
    (hwished : wished shelf.wishlist book.coverID = false) :
  (shelf.press row).press row = { shelf with message := none }
  := by
  have hfirst : shelf.press row =
      { shelf with
        found := shelf.found.modify row Book.toggle
        wishlist := wish shelf.wishlist book.toggle
        message := none } := by
    rw [press, htab, hbook]
  have hpressed : (shelf.press row).found[row]? = some book.toggle := by
    rw [hfirst, List.getElem?_modify_eq, hbook]
    rfl
  have htwice : ∀ b : Book, b.toggle.toggle = b := by
    intro b
    rw [Book.toggle, Book.toggle, Bool.not_not]
  have hsecond : (shelf.press row).press row =
      { shelf.press row with
        found := (shelf.press row).found.modify row Book.toggle
        wishlist := wish (shelf.press row).wishlist book.toggle.toggle
        message := none } := by
    rw [press, hpressed, hfirst, htab]
  have hfound : (shelf.found.modify row Book.toggle).modify row Book.toggle = shelf.found := by
    have hid : Book.toggle ∘ Book.toggle = id := funext htwice
    rw [List.modify_modify_eq, hid, List.modify_id]
  rw [hsecond, hfirst, htwice, hfound, wish_wish hflag hwished]

/-! ### What the user sees -/

/-- The books of the rows. -/
def rows (shelf : Shelf) : List Book :=
  match shelf.tab with
  | .bookSearch => shelf.found
  | .wishlist => shelf.wishlist

/-- What the user sees: the side of the indicator, and the main area. -/
def seen (shelf : Shelf) : Direction × MainArea :=
  (shelf.tab.direction,
    match shelf.message with
    | some (imageMessage, message) => .message imageMessage message
    | none => .bookList (shelf.rows.map BookPreviewCellView.setup))

example : ([.search, .answer [document 7 "Dune"], .press 0, .select .wishlist].foldl step
    (initial Table.empty)).rows = [{
      coverID := 7, title := "Dune", authorName := "Frank Herbert", firstPublishYear := 1965,
      publisher := "Multiple", editionCount := 120, isInWishlist := true }] := by
  decide

end Shelf

end OpenLibrary
