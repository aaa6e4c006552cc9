import OpenLibrary.Model.State

/-!
# The screens

The functions of `MainScreenPresenter`, `MainScreenView` and `BookDetailsViewPresenter` that
change nothing but what is on the screen. They run on the main thread, started by the user,
by UIKit, or by the main queue. Each gives the screen after it and what the history records.
-/

namespace OpenLibrary

/-- What the user, UIKit and the main queue start on the main thread, other than presses of
wishlist buttons and the search timer. -/
inductive ScreenAction where
  /-- A tab button is pressed. -/
  | userSelectedTab (state : AppState)
  /-- The user edits the text of the search bar. -/
  | searchBarTextDidChange (searchText : String)
  /-- The animation started by moving to the wishlist tab ends. -/
  | topBarAnimationCompleted
  /-- The first block of the main queue runs. -/
  | runMainBlock
  /-- UIKit asks for the cell of a row that scrolls into view. -/
  | cellForRowAt (row : Nat)
  /-- The user taps a row. -/
  | didSelectRowAt (row : Nat)
  /-- A page of the carousel of the popup comes into view. -/
  | cellForItemAt (page : Nat)
  /-- The close button of the popup is pressed. -/
  | userPressedCloseButton

namespace State

/-! ### Tabs and the search bar -/

/-- `MainScreenPresenter.changeAppState`. Moving the indicator to the right starts the
animation that clears the search bar in the end. -/
def changeAppState (s : State) (state : AppState) : Screen :=
  if state = s.screen.currentAppState then
    s.screen
  else
    let screen := { s.screen with currentAppState := state }
    match state with
    | .bookSearch => screen.updateMainArea .searchForBooks .searchForBooks
    | .wishlist =>
        let screen := { screen with clearingAnimations := screen.clearingAnimations + 1 }
        if s.getWishlistCount = 0 then
          screen.updateMainArea .searchForBooks .searchForBooksToAddToWishlist
        else
          screen.updateBookList

/-- `searchBar(_:textDidChange:)` and `MainScreenPresenter.requestBookSearch`: the timer is
invalidated and another one scheduled, unless the text is empty. -/
def requestBookSearch (s : State) (bookQuery : String) : Screen :=
  let screen := { s.screen with searchBarText := bookQuery }
  if bookQuery ≠ "" then
    { screen with
      bookSearchTimer := screen.timers
      scheduledTimers :=
        screen.scheduledTimers.filter (fun timer => timer.1 ≠ screen.bookSearchTimer) ++
          [(screen.timers, bookQuery)]
      timers := screen.timers + 1 }
  else
    screen

/-- The completion of the animation of `updateTopBar`. -/
def topBarAnimationCompleted (s : State) : Except Fault Screen :=
  match s.screen.clearingAnimations with
  | 0 => .error .disabled
  | n + 1 => .ok { s.screen with searchBarText := "", clearingAnimations := n }

/-! ### The table -/

/-- Every book shown can be read. -/
def readable (s : State) (books : List BookRef) : Bool :=
  books.all (fun book => (s.read? book).isSome)

/-- `bookList.reloadData()`: the rows and their cells are made anew. -/
def reloadData (s : State) (screen : Screen) : Except Fault (Screen × List Event) :=
  if s.readable s.shownBooks then
    .ok ({ screen with cells := s.shownBooks }, s.shownBooks.flatMap s.displayed)
  else
    .error (.trap .invalidatedObject)

/-- The block of `updateBookList`. -/
def updateBookListBlock (s : State) (screen : Screen) : Except Fault (Screen × List Event) :=
  match s.reloadData { screen with isHidden := false } with
  | .error fault => .error fault
  | .ok (screen, events) =>
      if screen.currentAppState = .wishlist ∧ screen.cells.length = 0 then
        .error (.trap .scrollToRow)
      else
        .ok (screen, events)

/-- The block of `updateMainArea`. -/
def updateMainAreaBlock (screen : Screen) (image : ImageMessage) (message : Message) : Screen :=
  { screen with
    isHidden := true
    imageMessage := image.rawValue
    message := message.rawValue }

/-- The first block of the main queue runs. -/
def runMainBlock (s : State) : Except Fault (Screen × List Event) :=
  match s.screen.mainQueue with
  | [] => .error .disabled
  | block :: rest =>
      let screen := { s.screen with mainQueue := rest }
      match block with
      | .updateMainArea image message => .ok (updateMainAreaBlock screen image message, [])
      | .updateBookList => s.updateBookListBlock screen
      | .updatePreviewCell _ => s.reloadData screen

/-- UIKit asks for something about a row of the visible table: it has the row. -/
def hasRow (s : State) (row : Nat) : Bool :=
  !s.screen.isHidden && row < s.screen.cells.length

/-- `tableView(_:cellForRowAt:)`: the cell of a row is set up anew. -/
def cellForRowAt (s : State) (row : Nat) : Except Fault (Screen × List Event) :=
  if s.hasRow row then
    match s.requestBook row with
    | .error fault => .error fault
    | .ok book =>
        match s.read? book with
        | none => .error (.trap .invalidatedObject)
        | some _ =>
            .ok ({ s.screen with cells := s.screen.cells.set row book }, s.displayed book)
  else
    .error .disabled

/-! ### The popup -/

/-- `BookDetailsViewPresenter.setup`. -/
def setupDetails (book : BookRef) (bookIndex : Nat) : BookDetails where
  bookBeingDesplayed := book
  bookBeingDisplayedIndex := bookIndex
  numOfBookDetailSections := 2
  currentPage := 0

/-- `tableView(_:didSelectRowAt:)` and `MainScreenPresenter.presentBookDetailPopup`: the
popup opens and is set up. -/
def presentBookDetailPopup (s : State) (row : Nat) : Except Fault (Screen × List Event) :=
  if s.hasRow row ∧ s.screen.details.isNone then
    match s.requestBook row with
    | .error fault => .error fault
    | .ok book =>
        match s.read? book with
        | none => .error (.trap .invalidatedObject)
        | some _ =>
            .ok ({ s.screen with
              selectedBook := some book
              selectedBookIndexPath := some row
              details := some (setupDetails book row) }, s.displayed book)
  else
    .error .disabled

/-- `collectionView(_:cellForItemAt:)` and `collectionView(_:willDisplay:forItemAt:)`. -/
def cellForItemAt (s : State) (page : Nat) : Except Fault Screen :=
  match s.screen.details with
  | none => .error .disabled
  | some details =>
      if page < details.numOfBookDetailSections then
        match s.read? details.bookBeingDesplayed with
        | none => .error (.trap .invalidatedObject)
        | some _ =>
            .ok { s.screen with details := some { details with currentPage := page } }
      else
        .error .disabled

/-- `BookDetailsViewPresenter.closePopup`. -/
def closePopup (s : State) : Except Fault Screen :=
  match s.screen.details with
  | none => .error .disabled
  | some _ => .ok { s.screen with details := none }

/-- The screen after a screen action, and what the history records of it. -/
def screenStep (s : State) : ScreenAction → Except Fault (Screen × List Event)
  | .userSelectedTab state => .ok (s.changeAppState state, [])
  | .searchBarTextDidChange searchText => .ok (s.requestBookSearch searchText, [])
  | .topBarAnimationCompleted => s.topBarAnimationCompleted.map (fun screen => (screen, []))
  | .runMainBlock => s.runMainBlock
  | .cellForRowAt row => s.cellForRowAt row
  | .didSelectRowAt row => s.presentBookDetailPopup row
  | .cellForItemAt page => (s.cellForItemAt page).map (fun screen => (screen, []))
  | .userPressedCloseButton => s.closePopup.map (fun screen => (screen, []))

end State

end OpenLibrary
