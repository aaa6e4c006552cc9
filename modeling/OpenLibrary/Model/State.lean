import OpenLibrary.Model.Book

/-!
# The state of the application

The managers, the presenters and the views of the application, each with the data its
functions read. A `State` is the state of the running process together with the store. Its
field `history` is not part of the program: it records what the results of this development
speak of, in the order in which it happened.
-/

namespace OpenLibrary

/-- Why the process is stopped in the middle of a step. -/
inductive Trap where
  /-- A forced cast `as!` of a value that does not bridge. -/
  | forcedCast
  /-- A forced unwrap of `URL(string:)`. -/
  | forcedUnwrap
  /-- An array index out of range. -/
  | indexOutOfRange
  /-- A property of a record that was deleted from the store. -/
  | invalidatedObject
  /-- `scrollToRow` with a row the table does not have. -/
  | scrollToRow
deriving DecidableEq

/-- Why an action leads to no state: it cannot happen, or it traps. -/
inductive Fault where
  | disabled
  | trap (t : Trap)
deriving DecidableEq

/-! ### Constants -/

inductive AppState where
  | bookSearch
  | wishlist
deriving DecidableEq

inductive ImageMessage where
  | searchForBooks
  | noResultsFound
deriving DecidableEq

def ImageMessage.rawValue : ImageMessage → String
  | searchForBooks => "image_message_1"
  | noResultsFound => "image_message_2"

inductive Message where
  | searchForBooks
  | searchForBooksToAddToWishlist
  | noResultsFound
deriving DecidableEq

def Message.rawValue : Message → String
  | searchForBooks => "Search for book!"
  | searchForBooksToAddToWishlist => "Search for books to add to wishlist!"
  | noResultsFound => "Sorry, Results Found"

/-! ### The search manager -/

/-- A data task of `requesBookCovers`: the call it belongs to, the book its handler
captures, and the URL it loads. -/
structure CoverTask where
  request : Nat
  book : Nat
  url : String
deriving DecidableEq

/-- The state of `BookSearchManager` and of the callbacks it has handed out. -/
structure BookSearchManager where
  bookResults : List Nat
  /-- The number of calls of `requestAPI` so far. -/
  requests : Nat
  /-- The calls whose book-info data task has not been answered. -/
  infoTasks : List Nat
  /-- The cover data tasks that have not been answered. -/
  coverTasks : List CoverTask
  /-- For the dispatch group of a call, the number of its `enter`s without a `leave`. -/
  groups : Nat → Nat
  /-- The calls whose `notify` block is registered and has not run. -/
  notifies : List Nat

/-! ### The screens -/

/-- A block enqueued with `DispatchQueue.main.async`. -/
inductive Block where
  | updateMainArea (image : ImageMessage) (message : Message)
  | updateBookList
  | updatePreviewCell (indexPath : Nat)
deriving DecidableEq

/-- The state of `BookDetailsViewPresenter` and of its view. -/
structure BookDetails where
  bookBeingDesplayed : BookRef
  bookBeingDisplayedIndex : Nat
  numOfBookDetailSections : Nat
  currentPage : Nat

/-- The state of `MainScreenPresenter`, of `MainScreenView` with its cells, of the popup,
and of the main queue. -/
structure Screen where
  currentAppState : AppState
  /-- The timer the presenter holds; `0` is the one made with `Timer()`. -/
  bookSearchTimer : Nat
  /-- The timers the run loop will fire, with the text each carries. -/
  scheduledTimers : List (Nat × String)
  /-- The number of timers made so far. -/
  timers : Nat
  selectedBook : Option BookRef
  selectedBookIndexPath : Option Nat
  searchBarText : String
  /-- The top-bar animations under way whose completion clears the search bar. -/
  clearingAnimations : Nat
  /-- `bookList.isHidden`. -/
  isHidden : Bool
  imageMessage : String
  message : String
  /-- `bookBeingDisplayed` of the row of each index, since the last `reloadData`. -/
  cells : List BookRef
  details : Option BookDetails
  mainQueue : List Block

/-! ### The main queue -/

namespace Screen

/-- `MainScreenView.updateMainArea`. -/
def updateMainArea (screen : Screen) (image : ImageMessage) (message : Message) : Screen :=
  { screen with mainQueue := screen.mainQueue ++ [.updateMainArea image message] }

/-- `MainScreenView.updateBookList`. -/
def updateBookList (screen : Screen) : Screen :=
  { screen with mainQueue := screen.mainQueue ++ [.updateBookList] }

/-- `MainScreenView.updatePreviewCell`. -/
def updatePreviewCell (screen : Screen) (indexPath : Nat) : Screen :=
  { screen with mainQueue := screen.mainQueue ++ [.updatePreviewCell indexPath] }

/-- The closure `beginRequest` passes to `requestAPI`. -/
def requestCompleted (screen : Screen) (requestSucceeded : Bool) : Screen :=
  if requestSucceeded then
    screen.updateBookList
  else
    screen.updateMainArea .noResultsFound .noResultsFound

end Screen

/-! ### History -/

/-- What the history of a process records. -/
inductive Event where
  /-- A call of `requestAPI` begins. -/
  | requested (r : Nat)
  /-- A book is structured from the response to a call and appended to `bookResults`. -/
  | structured (r : Nat) (o : Nat)
  /-- The completion of a call is called, with what `bookResults` holds then. -/
  | completed (r : Nat) (success : Bool) (results : List Book)
  /-- A cell or the popup is set up for a record. -/
  | displayed (row : Nat) (coverID : Int)
  /-- A press of a wishlist button is over, having left the flag of a book. -/
  | pressed (coverID : Int) (left : Bool)
deriving DecidableEq

/-! ### States -/

/-- The state of the store and of the running process. -/
structure State where
  realm : Realm
  objects : Objects
  search : BookSearchManager
  /-- `WishlistManager.wishList`. -/
  wishList : List Nat
  screen : Screen
  /-- The book of the `Update_Wishlist` notification the main thread is posting. -/
  posting : Option BookRef
  history : List Event

/-- The state of a process that has just started on a store. -/
def launch (realm : Realm) : State where
  realm := realm
  objects := Objects.empty
  search :=
    { bookResults := []
      requests := 0
      infoTasks := []
      coverTasks := []
      groups := fun _ => 0
      notifies := [] }
  wishList := realm.ids
  screen :=
    { currentAppState := .bookSearch
      bookSearchTimer := 0
      scheduledTimers := []
      timers := 1
      selectedBook := none
      selectedBookIndexPath := none
      searchBarText := ""
      clearingAnimations := 0
      isHidden := true
      imageMessage := "image_message_1"
      message := "Welcome! Search for books."
      cells := []
      details := none
      mainQueue := [] }
  posting := none
  history := []

namespace State

/-- The fields of the `Book` a reference points to; none of a deleted record. -/
def read? (s : State) : BookRef → Option Book
  | .detached o => some (s.objects.book o)
  | .stored row => s.realm.find? row

/-- Setting up a cell or the popup for a book. -/
def displayed (s : State) : BookRef → List Event
  | .detached _ => []
  | .stored row => ((s.realm.find? row).map (fun b => Event.displayed row b.coverID)).toList

/-- `WishlistManager.getWishlistCount`. -/
def getWishlistCount (s : State) : Nat :=
  s.wishList.length

/-- The books `requestBookCount` and `requestBook` read: the search results in one tab, the
wishlist in the other. -/
def shownBooks (s : State) : List BookRef :=
  match s.screen.currentAppState with
  | .bookSearch => s.search.bookResults.map .detached
  | .wishlist => s.wishList.map .stored

/-- `MainScreenPresenter.requestBookCount`. -/
def requestBookCount (s : State) : Nat :=
  s.shownBooks.length

/-- `MainScreenPresenter.requestBook`. -/
def requestBook (s : State) (index : Nat) : Except Fault BookRef :=
  match s.shownBooks[index]? with
  | some book => .ok book
  | none => .error (.trap .indexOutOfRange)

end State

end OpenLibrary
