import OpenLibrary.Model.Step

/-!
# What a step does

`Effect F s a t` lists the ways in which an action `a` leads from the state `s` to the state
`t`, with what holds of `s` then, and `ScreenEffect` those of the actions of the screens. They
are the step functions read backwards (`step_eq_ok`, `screenEffect_of_screenStep`), and every
invariant below is proved by cases on them.
-/

namespace OpenLibrary

namespace State

/-- The book whose wishlist button an action presses. -/
def pressedBook (s : State) : Action → Option BookRef
  | .userPressedWishlistButton row => if s.screen.isHidden then none else s.screen.cells[row]?
  | .notifyWishlistOfUpdate => s.screen.details.map BookDetails.bookBeingDesplayed
  | _ => none

/-- What holds of the presses in a cell and of those in the popup holds of every press. -/
theorem press_induction {C : Action → Prop} {s : State} {a : Action} {ref : BookRef}
    (h : s.pressedBook a = some ref) (cell : ∀ row, C (.userPressedWishlistButton row))
    (popup : C .notifyWishlistOfUpdate) :
  C a
  := by
  cases a with
  | userPressedWishlistButton row => apply cell row
  | notifyWishlistOfUpdate => apply popup
  | _ => cases h

end State

/-- The ways in which an action of the screens leads from a state to another screen, with what
the history records of it. -/
inductive ScreenEffect (s : State) : ScreenAction → Screen → List Event → Prop where
  | tab {state : AppState} :
      ScreenEffect s (.userSelectedTab state) (s.changeAppState state) []
  | text {searchText : String} :
      ScreenEffect s (.searchBarTextDidChange searchText) (s.requestBookSearch searchText) []
  | animation {n : Nat} (h : s.screen.clearingAnimations = n + 1) :
      ScreenEffect s .topBarAnimationCompleted
        { s.screen with searchBarText := "", clearingAnimations := n } []
  | mainArea {image : ImageMessage} {message : Message} {rest : List Block}
      (hqueue : s.screen.mainQueue = .updateMainArea image message :: rest) :
      ScreenEffect s .runMainBlock
        (State.updateMainAreaBlock { s.screen with mainQueue := rest } image message) []
  | bookList {rest : List Block} (hqueue : s.screen.mainQueue = .updateBookList :: rest)
      (hread : s.readable s.shownBooks)
      (hrow : ¬ (s.screen.currentAppState = .wishlist ∧ s.shownBooks.length = 0)) :
      ScreenEffect s .runMainBlock
        { s.screen with mainQueue := rest, isHidden := false, cells := s.shownBooks }
        (s.shownBooks.flatMap s.displayed)
  | previewCell {i : Nat} {rest : List Block}
      (hqueue : s.screen.mainQueue = .updatePreviewCell i :: rest)
      (hread : s.readable s.shownBooks) :
      ScreenEffect s .runMainBlock
        { s.screen with mainQueue := rest, cells := s.shownBooks }
        (s.shownBooks.flatMap s.displayed)
  | cell {row : Nat} {ref : BookRef} {book : Book} (hrow : s.hasRow row)
      (hbook : s.shownBooks[row]? = some ref) (hread : s.read? ref = some book) :
      ScreenEffect s (.cellForRowAt row)
        { s.screen with cells := s.screen.cells.set row ref } (s.displayed ref)
  | popup {row : Nat} {ref : BookRef} {book : Book} (hrow : s.hasRow row)
      (hdetails : s.screen.details = none) (hbook : s.shownBooks[row]? = some ref)
      (hread : s.read? ref = some book) :
      ScreenEffect s (.didSelectRowAt row)
        { s.screen with
          selectedBook := some ref
          selectedBookIndexPath := some row
          details := some (State.setupDetails ref row) } (s.displayed ref)
  | page {page : Nat} {details : BookDetails} {book : Book}
      (hdetails : s.screen.details = some details)
      (hpage : page < details.numOfBookDetailSections)
      (hread : s.read? details.bookBeingDesplayed = some book) :
      ScreenEffect s (.cellForItemAt page)
        { s.screen with details := some { details with currentPage := page } } []
  | close {details : BookDetails} (hdetails : s.screen.details = some details) :
      ScreenEffect s .userPressedCloseButton { s.screen with details := none } []

/-- The ways in which an action leads from one state to another. -/
inductive Effect (F : Foundation) (s : State) : Action → State → Prop where
  | screen {action : ScreenAction} {screen : Screen} {events : List Event}
      (hidle : s.posting = none) (h : s.screenStep action = .ok (screen, events)) :
      Effect F s (.screen action) { s with screen := screen, history := s.history ++ events }
  | timer {timer : Nat} (hidle : s.posting = none)
      (htimer : (s.screen.scheduledTimers.lookup timer).isSome) (hinfo : s.userInfo = none) :
      Effect F s (.beginRequest timer) (s.timerFired timer)
  | request {timer : Nat} {bookQuery : String} (hidle : s.posting = none)
      (htimer : (s.screen.scheduledTimers.lookup timer).isSome)
      (hinfo : s.userInfo = some bookQuery)
      (hurl : F.isURL (bookInfoRequestURL (optimizedBookQuery F bookQuery))) :
      Effect F s (.beginRequest timer) (s.timerFired timer).requested
  | noResults {r : Nat} {data : InfoData} (hr : r ∈ s.search.infoTasks)
      (hdata : data.bookResultsJSON? = none) :
      Effect F s (.bookInfoResponse r data) (s.infoAnswered r)
  | emptyResults {r : Nat} {data : InfoData} (hr : r ∈ s.search.infoTasks)
      (hdata : data.bookResultsJSON? = some []) :
      Effect F s (.bookInfoResponse r data) ((s.infoAnswered r).complete r false)
  | results {r : Nat} {data : InfoData} {docs : List JsonObject} {newBooks : List Book}
      (hr : r ∈ s.search.infoTasks) (hdata : data.bookResultsJSON? = some docs)
      (hdocs : docs ≠ []) (hbooks : structureBooks docs = some newBooks) :
      Effect F s (.bookInfoResponse r data) ((s.infoAnswered r).booksStructured r newBooks)
  | noCover {task : CoverTask} (htask : task ∈ s.search.coverTasks) :
      Effect F s (.coverResponse task none) (s.coverAnswered task)
  | cover {task : CoverTask} {imageData : Data} (htask : task ∈ s.search.coverTasks) :
      Effect F s (.coverResponse task (some imageData))
        ((s.coverAnswered task).coverReceived task imageData)
  | notified {r : Nat} (hr : r ∈ s.search.notifies) (hgroup : s.search.groups r = 0) :
      Effect F s (.coversNotified r) ((s.notifyTaken r).determineWishlistBooks.complete r true)
  | pressed {a : Action} {ref : BookRef} {book : Book} (hidle : s.posting = none)
      (hpress : s.pressedBook a = some ref) (hread : s.read? ref = some book) :
      Effect F s a (s.toggled ref)
  | updated {ref : BookRef} {book : Book} (hposting : s.posting = some ref)
      (hread : s.read? ref = some book) :
      Effect F s .addOrDeleteBookFromWishlist (s.wishlistUpdated book)

namespace State

variable {F : Foundation} {s t : State}

/-- A step of the main thread succeeds when nothing is being posted and what it does
succeeds. -/
theorem onMainThread_eq_ok {next : Except Fault State} :
  s.onMainThread next = .ok t ↔ s.posting = none ∧ next = .ok t
  := by
  rw [onMainThread]
  cases hp : s.posting with
  | none => simp
  | some ref => simp

theorem onScreen_eq_ok {action : ScreenAction} :
  s.onScreen action = .ok t ↔ ∃ screen events, s.screenStep action = .ok (screen, events) ∧
    t = { s with screen := screen, history := s.history ++ events }
  := by
  rw [onScreen]
  cases hs : s.screenStep action with
  | error fault => simp [Except.map]
  | ok next =>
      obtain ⟨screen, events⟩ := next
      simp [Except.map, @eq_comm _ t]

theorem pressWishlistButton_eq_ok {ref : BookRef} :
  s.pressWishlistButton ref = .ok t ↔ ∃ book, s.read? ref = some book ∧ t = s.toggled ref
  := by
  rw [pressWishlistButton]
  cases hr : s.read? ref with
  | none => simp
  | some book => simp [@eq_comm _ t]

/-- A press of a cell presses the book it shows. -/
theorem userPressedWishlistButton_eq_ok {row : Nat} :
  s.userPressedWishlistButton row = .ok t ↔ ∃ ref,
    s.pressedBook (.userPressedWishlistButton row) = some ref ∧
      s.pressWishlistButton ref = .ok t
  := by
  rw [userPressedWishlistButton, pressedBook]
  cases hv : s.screen.isHidden with
  | true => simp
  | false =>
      cases hc : s.screen.cells[row]? with
      | none => simp
      | some ref => simp

/-- A press in the popup presses the book it shows. -/
theorem notifyWishlistOfUpdate_eq_ok :
  s.notifyWishlistOfUpdate = .ok t ↔ ∃ ref,
    s.pressedBook .notifyWishlistOfUpdate = some ref ∧ s.pressWishlistButton ref = .ok t
  := by
  rw [notifyWishlistOfUpdate, pressedBook]
  cases hd : s.screen.details with
  | none => simp
  | some details => simp

theorem beginRequest_eq_ok {timer : Nat} :
  s.beginRequest F timer = .ok t ↔ (s.screen.scheduledTimers.lookup timer).isSome ∧
    (s.userInfo = none ∧ t = s.timerFired timer ∨
      ∃ bookQuery, s.userInfo = some bookQuery ∧
        F.isURL (bookInfoRequestURL (optimizedBookQuery F bookQuery)) ∧
        t = (s.timerFired timer).requested)
  := by
  rw [beginRequest]
  cases ht : (s.screen.scheduledTimers.lookup timer).isSome with
  | false => simp
  | true =>
      cases hi : s.userInfo with
      | none => simp [@eq_comm _ t]
      | some bookQuery =>
          simp only [requestAPI, requesBookInfo]
          cases hu : F.isURL (bookInfoRequestURL (optimizedBookQuery F bookQuery)) with
          | false => simp [hu]
          | true => simp [hu, @eq_comm _ t]

theorem bookInfoResponse_eq_ok {r : Nat} {data : InfoData} :
  s.bookInfoResponse r data = .ok t ↔ r ∈ s.search.infoTasks ∧
    (data.bookResultsJSON? = none ∧ t = s.infoAnswered r ∨
      data.bookResultsJSON? = some [] ∧ t = (s.infoAnswered r).complete r false ∨
      ∃ docs newBooks, data.bookResultsJSON? = some docs ∧ docs ≠ [] ∧
        structureBooks docs = some newBooks ∧
        t = (s.infoAnswered r).booksStructured r newBooks)
  := by
  rw [bookInfoResponse]
  split
  · next hr =>
      cases hd : data.bookResultsJSON? with
      | none => simp [hr, @eq_comm _ t]
      | some docs =>
          cases docs with
          | nil => simp [hr, @eq_comm _ t]
          | cons book books =>
              cases hb : structureBooks (book :: books) with
              | none => simp [hb]
              | some newBooks => simp [hr, hb, @eq_comm _ t]
  · next hr => simp [hr]

theorem coverResponse_eq_ok {task : CoverTask} {data : Option Data} :
  s.coverResponse task data = .ok t ↔ task ∈ s.search.coverTasks ∧
    (data = none ∧ t = s.coverAnswered task ∨
      ∃ imageData, data = some imageData ∧
        t = (s.coverAnswered task).coverReceived task imageData)
  := by
  unfold coverResponse
  split
  · next ht =>
      cases data with
      | none => simp [ht, @eq_comm _ t]
      | some imageData => simp [ht, @eq_comm _ t]
  · next ht => simp [ht]

theorem coversNotified_eq_ok {r : Nat} :
  s.coversNotified r = .ok t ↔ (r ∈ s.search.notifies ∧ s.search.groups r = 0) ∧
    t = (s.notifyTaken r).determineWishlistBooks.complete r true
  := by
  rw [coversNotified]
  split
  · next h => simp [h, @eq_comm _ t]
  · next h => simp [h]

theorem addOrDeleteBookFromWishlist_eq_ok :
  s.addOrDeleteBookFromWishlist = .ok t ↔ ∃ ref book, s.posting = some ref ∧
    s.read? ref = some book ∧ t = s.wishlistUpdated book
  := by
  rw [addOrDeleteBookFromWishlist]
  cases hp : s.posting with
  | none => simp
  | some ref =>
      cases hr : s.read? ref with
      | none => simp [hr]
      | some book => simp [hr, @eq_comm _ t]

theorem requestBook_eq_ok {row : Nat} {ref : BookRef} :
  s.requestBook row = .ok ref ↔ s.shownBooks[row]? = some ref
  := by
  rw [requestBook]
  cases hb : s.shownBooks[row]? with
  | none => simp
  | some book => simp

theorem reloadData_eq_ok {old new : Screen} {events : List Event} :
  s.reloadData old = .ok (new, events) ↔ s.readable s.shownBooks ∧
    new = { old with cells := s.shownBooks } ∧ events = s.shownBooks.flatMap s.displayed
  := by
  rw [reloadData]
  split
  · next h => simp [h, eq_comm]
  · next h => simp [h]

theorem map_screen_eq_ok {x : Except Fault Screen} {screen : Screen} {events : List Event} :
  x.map (fun screen => (screen, [])) = .ok (screen, events) ↔ x = .ok screen ∧ events = []
  := by
  cases x with
  | error fault => simp [Except.map]
  | ok new => simp [Except.map, eq_comm]

/-- Running the first block of the main queue. -/
theorem screenEffect_of_runMainBlock {screen : Screen} {events : List Event}
    (h : s.runMainBlock = .ok (screen, events)) :
  ScreenEffect s .runMainBlock screen events
  := by
  rw [runMainBlock] at h
  cases hqueue : s.screen.mainQueue with
  | nil =>
      rw [hqueue] at h
      cases h
  | cons block rest =>
      rw [hqueue] at h
      cases block with
      | updateMainArea image message =>
          obtain ⟨rfl, rfl⟩ := Prod.mk.inj (Except.ok.inj h)
          apply ScreenEffect.mainArea hqueue
      | updateBookList =>
          simp only [updateBookListBlock] at h
          split at h
          · cases h
          · next new newEvents hreload =>
              obtain ⟨hread, rfl, rfl⟩ := reloadData_eq_ok.mp hreload
              split at h
              · cases h
              · next hrow =>
                  obtain ⟨rfl, rfl⟩ := Prod.mk.inj (Except.ok.inj h)
                  apply ScreenEffect.bookList hqueue hread hrow
      | updatePreviewCell i =>
          obtain ⟨hread, rfl, rfl⟩ := reloadData_eq_ok.mp h
          apply ScreenEffect.previewCell hqueue hread

/-- Setting up the cell of a row. -/
theorem screenEffect_of_cellForRowAt {row : Nat} {screen : Screen} {events : List Event}
    (h : s.cellForRowAt row = .ok (screen, events)) :
  ScreenEffect s (.cellForRowAt row) screen events
  := by
  rw [cellForRowAt] at h
  split at h
  · next hrow =>
      split at h
      · cases h
      · next ref hbook =>
          cases hread : s.read? ref with
          | none =>
              rw [hread] at h
              cases h
          | some book =>
              rw [hread] at h
              obtain ⟨rfl, rfl⟩ := Prod.mk.inj (Except.ok.inj h)
              apply ScreenEffect.cell hrow (requestBook_eq_ok.mp hbook) hread
  · cases h

/-- Opening the popup of a row. -/
theorem screenEffect_of_presentBookDetailPopup {row : Nat} {screen : Screen}
    {events : List Event} (h : s.presentBookDetailPopup row = .ok (screen, events)) :
  ScreenEffect s (.didSelectRowAt row) screen events
  := by
  rw [presentBookDetailPopup] at h
  split at h
  · next hrow =>
      split at h
      · cases h
      · next ref hbook =>
          cases hread : s.read? ref with
          | none =>
              rw [hread] at h
              cases h
          | some book =>
              rw [hread] at h
              obtain ⟨rfl, rfl⟩ := Prod.mk.inj (Except.ok.inj h)
              apply ScreenEffect.popup hrow.1 _ (requestBook_eq_ok.mp hbook) hread
              simpa using hrow.2
  · cases h

/-- Bringing a page of the popup into view. -/
theorem screenEffect_of_cellForItemAt {page : Nat} {screen : Screen}
    (h : s.cellForItemAt page = .ok screen) :
  ScreenEffect s (.cellForItemAt page) screen []
  := by
  rw [cellForItemAt] at h
  cases hdetails : s.screen.details with
  | none =>
      rw [hdetails] at h
      cases h
  | some details =>
      simp only [hdetails] at h
      split at h
      · next hpage =>
          cases hread : s.read? details.bookBeingDesplayed with
          | none =>
              rw [hread] at h
              cases h
          | some book =>
              rw [hread] at h
              obtain rfl := Except.ok.inj h
              apply ScreenEffect.page hdetails hpage hread
      · cases h

/-- A step of the screens is one of those `ScreenEffect` lists. -/
theorem screenEffect_of_screenStep {action : ScreenAction} {screen : Screen}
    {events : List Event} (h : s.screenStep action = .ok (screen, events)) :
  ScreenEffect s action screen events
  := by
  cases action with
  | userSelectedTab state =>
      obtain ⟨rfl, rfl⟩ := Prod.mk.inj (Except.ok.inj h)
      apply ScreenEffect.tab
  | searchBarTextDidChange searchText =>
      obtain ⟨rfl, rfl⟩ := Prod.mk.inj (Except.ok.inj h)
      apply ScreenEffect.text
  | topBarAnimationCompleted =>
      obtain ⟨hscreen, rfl⟩ := map_screen_eq_ok.mp h
      rw [topBarAnimationCompleted] at hscreen
      split at hscreen
      · cases hscreen
      · next n hn =>
          obtain rfl := Except.ok.inj hscreen
          apply ScreenEffect.animation hn
  | runMainBlock => apply screenEffect_of_runMainBlock h
  | cellForRowAt row => apply screenEffect_of_cellForRowAt h
  | didSelectRowAt row => apply screenEffect_of_presentBookDetailPopup h
  | cellForItemAt page =>
      obtain ⟨hscreen, rfl⟩ := map_screen_eq_ok.mp h
      apply screenEffect_of_cellForItemAt hscreen
  | userPressedCloseButton =>
      obtain ⟨hscreen, rfl⟩ := map_screen_eq_ok.mp h
      rw [closePopup] at hscreen
      cases hdetails : s.screen.details with
      | none =>
          rw [hdetails] at hscreen
          cases hscreen
      | some details =>
          rw [hdetails] at hscreen
          obtain rfl := Except.ok.inj hscreen
          apply ScreenEffect.close hdetails

/-- A step leads to a state exactly in the ways `Effect` lists. -/
theorem step_eq_ok {a : Action} :
  s.step F a = .ok t ↔ Effect F s a t
  := by
  constructor
  · intro h
    cases a with
    | screen action =>
        obtain ⟨hidle, h⟩ := onMainThread_eq_ok.mp h
        obtain ⟨screen, events, hscreen, rfl⟩ := onScreen_eq_ok.mp h
        apply Effect.screen hidle hscreen
    | beginRequest timer =>
        obtain ⟨hidle, h⟩ := onMainThread_eq_ok.mp h
        obtain ⟨htimer, ⟨hinfo, rfl⟩ | ⟨bookQuery, hinfo, hurl, rfl⟩⟩ := beginRequest_eq_ok.mp h
        · apply Effect.timer hidle htimer hinfo
        · apply Effect.request hidle htimer hinfo hurl
    | bookInfoResponse r data =>
        obtain ⟨hr, ⟨hdata, rfl⟩ | ⟨hdata, rfl⟩ | ⟨docs, newBooks, hdata, hdocs, hbooks, rfl⟩⟩ :=
          bookInfoResponse_eq_ok.mp h
        · apply Effect.noResults hr hdata
        · apply Effect.emptyResults hr hdata
        · apply Effect.results hr hdata hdocs hbooks
    | coverResponse task data =>
        obtain ⟨htask, ⟨rfl, rfl⟩ | ⟨imageData, rfl, rfl⟩⟩ := coverResponse_eq_ok.mp h
        · apply Effect.noCover htask
        · apply Effect.cover htask
    | coversNotified r =>
        obtain ⟨⟨hr, hgroup⟩, rfl⟩ := coversNotified_eq_ok.mp h
        apply Effect.notified hr hgroup
    | userPressedWishlistButton row =>
        obtain ⟨hidle, h⟩ := onMainThread_eq_ok.mp h
        obtain ⟨ref, hpress, h⟩ := userPressedWishlistButton_eq_ok.mp h
        obtain ⟨book, hread, rfl⟩ := pressWishlistButton_eq_ok.mp h
        apply Effect.pressed hidle hpress hread
    | notifyWishlistOfUpdate =>
        obtain ⟨hidle, h⟩ := onMainThread_eq_ok.mp h
        obtain ⟨ref, hpress, h⟩ := notifyWishlistOfUpdate_eq_ok.mp h
        obtain ⟨book, hread, rfl⟩ := pressWishlistButton_eq_ok.mp h
        apply Effect.pressed hidle hpress hread
    | addOrDeleteBookFromWishlist =>
        obtain ⟨ref, book, hposting, hread, rfl⟩ := addOrDeleteBookFromWishlist_eq_ok.mp h
        apply Effect.updated hposting hread
  · intro h
    cases h with
    | screen hidle h =>
        exact onMainThread_eq_ok.mpr ⟨hidle, onScreen_eq_ok.mpr ⟨_, _, h, rfl⟩⟩
    | timer hidle htimer hinfo =>
        exact onMainThread_eq_ok.mpr
          ⟨hidle, beginRequest_eq_ok.mpr ⟨htimer, Or.inl ⟨hinfo, rfl⟩⟩⟩
    | request hidle htimer hinfo hurl =>
        exact onMainThread_eq_ok.mpr
          ⟨hidle, beginRequest_eq_ok.mpr ⟨htimer, Or.inr ⟨_, hinfo, hurl, rfl⟩⟩⟩
    | noResults hr hdata =>
        exact bookInfoResponse_eq_ok.mpr ⟨hr, Or.inl ⟨hdata, rfl⟩⟩
    | emptyResults hr hdata =>
        exact bookInfoResponse_eq_ok.mpr ⟨hr, Or.inr (Or.inl ⟨hdata, rfl⟩)⟩
    | results hr hdata hdocs hbooks =>
        exact bookInfoResponse_eq_ok.mpr
          ⟨hr, Or.inr (Or.inr ⟨_, _, hdata, hdocs, hbooks, rfl⟩)⟩
    | noCover htask =>
        exact coverResponse_eq_ok.mpr ⟨htask, Or.inl ⟨rfl, rfl⟩⟩
    | cover htask =>
        exact coverResponse_eq_ok.mpr ⟨htask, Or.inr ⟨_, rfl, rfl⟩⟩
    | notified hr hgroup =>
        exact coversNotified_eq_ok.mpr ⟨⟨hr, hgroup⟩, rfl⟩
    | pressed hidle hpress hread =>
        have h := pressWishlistButton_eq_ok.mpr ⟨_, hread, rfl⟩
        cases a with
        | userPressedWishlistButton row =>
            exact onMainThread_eq_ok.mpr
              ⟨hidle, userPressedWishlistButton_eq_ok.mpr ⟨_, hpress, h⟩⟩
        | notifyWishlistOfUpdate =>
            exact onMainThread_eq_ok.mpr
              ⟨hidle, notifyWishlistOfUpdate_eq_ok.mpr ⟨_, hpress, h⟩⟩
        | _ => cases hpress
    | updated hposting hread =>
        exact addOrDeleteBookFromWishlist_eq_ok.mpr ⟨_, _, hposting, hread, rfl⟩

end State

end OpenLibrary
