import OpenLibrary.Model.Effect

/-!
# Where a step traps

`TrapEffect F s a trap` lists the ways in which an action `a` traps in the state `s`: the forced
unwrap of a URL, the forced casts of a response, an index beyond the books of the tab, the first
row of an empty table, and a deleted record. They are the step functions read backwards
(`step_eq_trap`), and nothing else stops the process.
-/

namespace OpenLibrary

/-- The ways in which an action traps. -/
inductive TrapEffect (F : Foundation) (s : State) : Action → Trap → Prop where
  | url {timer : Nat} {bookQuery : String} (hidle : s.posting = none)
      (htimer : (s.screen.scheduledTimers.lookup timer).isSome)
      (hinfo : s.userInfo = some bookQuery)
      (hurl : ¬ F.isURL (bookInfoRequestURL (optimizedBookQuery F bookQuery))) :
      TrapEffect F s (.beginRequest timer) .forcedUnwrap
  | cast {r : Nat} {data : InfoData} {docs : List JsonObject} (hr : r ∈ s.search.infoTasks)
      (hdata : data.bookResultsJSON? = some docs) (hbooks : structureBooks docs = none) :
      TrapEffect F s (.bookInfoResponse r data) .forcedCast
  | scroll {rest : List Block} (hidle : s.posting = none)
      (hqueue : s.screen.mainQueue = .updateBookList :: rest)
      (htab : s.screen.currentAppState = .wishlist) (hempty : s.shownBooks = []) :
      TrapEffect F s (.screen .runMainBlock) .scrollToRow
  | bookList {rest : List Block} (hidle : s.posting = none)
      (hqueue : s.screen.mainQueue = .updateBookList :: rest)
      (hread : ¬ s.readable s.shownBooks) :
      TrapEffect F s (.screen .runMainBlock) .invalidatedObject
  | previewCell {i : Nat} {rest : List Block} (hidle : s.posting = none)
      (hqueue : s.screen.mainQueue = .updatePreviewCell i :: rest)
      (hread : ¬ s.readable s.shownBooks) :
      TrapEffect F s (.screen .runMainBlock) .invalidatedObject
  | cellIndex {row : Nat} (hidle : s.posting = none) (hrow : s.hasRow row)
      (hbook : s.shownBooks[row]? = none) :
      TrapEffect F s (.screen (.cellForRowAt row)) .indexOutOfRange
  | cell {row : Nat} {ref : BookRef} (hidle : s.posting = none) (hrow : s.hasRow row)
      (hbook : s.shownBooks[row]? = some ref) (hread : s.read? ref = none) :
      TrapEffect F s (.screen (.cellForRowAt row)) .invalidatedObject
  | popupIndex {row : Nat} (hidle : s.posting = none) (hrow : s.hasRow row)
      (hdetails : s.screen.details = none) (hbook : s.shownBooks[row]? = none) :
      TrapEffect F s (.screen (.didSelectRowAt row)) .indexOutOfRange
  | popup {row : Nat} {ref : BookRef} (hidle : s.posting = none) (hrow : s.hasRow row)
      (hdetails : s.screen.details = none) (hbook : s.shownBooks[row]? = some ref)
      (hread : s.read? ref = none) :
      TrapEffect F s (.screen (.didSelectRowAt row)) .invalidatedObject
  | page {page : Nat} {details : BookDetails} (hidle : s.posting = none)
      (hdetails : s.screen.details = some details)
      (hpage : page < details.numOfBookDetailSections)
      (hread : s.read? details.bookBeingDesplayed = none) :
      TrapEffect F s (.screen (.cellForItemAt page)) .invalidatedObject
  | press {a : Action} {ref : BookRef} (hidle : s.posting = none)
      (hpress : s.pressedBook a = some ref) (hread : s.read? ref = none) :
      TrapEffect F s a .invalidatedObject
  | handler {ref : BookRef} (hposting : s.posting = some ref) (hread : s.read? ref = none) :
      TrapEffect F s .addOrDeleteBookFromWishlist .invalidatedObject

namespace State

variable {F : Foundation} {s : State} {trap : Trap}

/-- What runs on the main thread traps when nothing is being posted and it traps itself. -/
theorem onMainThread_eq_trap {next : Except Fault State} :
  s.onMainThread next = .error (.trap trap) ↔
    s.posting = none ∧ next = .error (.trap trap)
  := by
  rw [onMainThread]
  cases hp : s.posting with
  | none => simp
  | some ref => simp

theorem onScreen_eq_trap {action : ScreenAction} :
  s.onScreen action = .error (.trap trap) ↔ s.screenStep action = .error (.trap trap)
  := by
  rw [onScreen]
  cases hs : s.screenStep action with
  | error fault => simp [Except.map]
  | ok next => simp [Except.map]

/-- A press traps when its book cannot be read. -/
theorem pressWishlistButton_eq_trap {ref : BookRef} :
  s.pressWishlistButton ref = .error (.trap trap) ↔
    s.read? ref = none ∧ trap = .invalidatedObject
  := by
  rw [pressWishlistButton]
  cases hr : s.read? ref with
  | none => simp [eq_comm]
  | some book => simp

theorem userPressedWishlistButton_eq_trap {row : Nat} :
  s.userPressedWishlistButton row = .error (.trap trap) ↔ ∃ ref,
    s.pressedBook (.userPressedWishlistButton row) = some ref ∧ s.read? ref = none ∧
      trap = .invalidatedObject
  := by
  rw [userPressedWishlistButton, pressedBook]
  cases hv : s.screen.isHidden with
  | true => simp
  | false =>
      cases hc : s.screen.cells[row]? with
      | none => simp
      | some ref => simp [pressWishlistButton_eq_trap]

theorem notifyWishlistOfUpdate_eq_trap :
  s.notifyWishlistOfUpdate = .error (.trap trap) ↔ ∃ ref,
    s.pressedBook .notifyWishlistOfUpdate = some ref ∧ s.read? ref = none ∧
      trap = .invalidatedObject
  := by
  rw [notifyWishlistOfUpdate, pressedBook]
  cases hd : s.screen.details with
  | none => simp
  | some details => simp [pressWishlistButton_eq_trap]

theorem addOrDeleteBookFromWishlist_eq_trap :
  s.addOrDeleteBookFromWishlist = .error (.trap trap) ↔ ∃ ref,
    s.posting = some ref ∧ s.read? ref = none ∧ trap = .invalidatedObject
  := by
  rw [addOrDeleteBookFromWishlist]
  cases hp : s.posting with
  | none => simp
  | some ref =>
      cases hr : s.read? ref with
      | none => simp [hr, eq_comm]
      | some book => simp [hr]

theorem beginRequest_eq_trap {timer : Nat} :
  s.beginRequest F timer = .error (.trap trap) ↔
    (s.screen.scheduledTimers.lookup timer).isSome ∧ ∃ bookQuery,
      s.userInfo = some bookQuery ∧
      ¬ F.isURL (bookInfoRequestURL (optimizedBookQuery F bookQuery)) ∧ trap = .forcedUnwrap
  := by
  rw [beginRequest]
  cases ht : (s.screen.scheduledTimers.lookup timer).isSome with
  | false => simp
  | true =>
      cases hi : s.userInfo with
      | none => simp
      | some bookQuery =>
          simp only [requestAPI, requesBookInfo]
          cases hu : F.isURL (bookInfoRequestURL (optimizedBookQuery F bookQuery)) with
          | false => simp [hu, @eq_comm _ trap]
          | true => simp [hu]

theorem bookInfoResponse_eq_trap {r : Nat} {data : InfoData} :
  s.bookInfoResponse r data = .error (.trap trap) ↔ r ∈ s.search.infoTasks ∧
    ∃ docs, data.bookResultsJSON? = some docs ∧ structureBooks docs = none ∧
      trap = .forcedCast
  := by
  rw [bookInfoResponse]
  split
  · next hr =>
      cases hd : data.bookResultsJSON? with
      | none => simp
      | some docs =>
          cases docs with
          | nil =>
              have hnil : structureBooks [] = some [] := rfl
              simp [hnil]
          | cons book books =>
              cases hb : structureBooks (book :: books) with
              | none => simp [hr, hb, eq_comm]
              | some newBooks => simp [hb]
  · next hr => simp [hr]

theorem coverResponse_ne_trap {task : CoverTask} {data : Option Data} :
  s.coverResponse task data ≠ .error (.trap trap)
  := by
  unfold coverResponse
  split
  · split
    · simp
    · simp
  · simp

theorem coversNotified_ne_trap {r : Nat} :
  s.coversNotified r ≠ .error (.trap trap)
  := by
  rw [coversNotified]
  split
  · simp
  · simp

theorem requestBook_eq_error {row : Nat} {fault : Fault} :
  s.requestBook row = .error fault ↔
    s.shownBooks[row]? = none ∧ fault = .trap .indexOutOfRange
  := by
  rw [requestBook]
  cases hb : s.shownBooks[row]? with
  | none => simp [eq_comm]
  | some book => simp

/-- Filling the table traps when a book shown cannot be read. -/
theorem reloadData_eq_error {screen : Screen} {fault : Fault} :
  s.reloadData screen = .error fault ↔
    ¬ s.readable s.shownBooks ∧ fault = .trap .invalidatedObject
  := by
  rw [reloadData]
  split
  · next h => simp [h]
  · next h => simp [h, eq_comm]

/-- Where the first block of the main queue traps. -/
theorem trapEffect_of_runMainBlock (hidle : s.posting = none)
    (h : s.runMainBlock = .error (.trap trap)) :
  TrapEffect F s (.screen .runMainBlock) trap
  := by
  rw [runMainBlock] at h
  cases hqueue : s.screen.mainQueue with
  | nil =>
      rw [hqueue] at h
      cases h
  | cons block rest =>
      rw [hqueue] at h
      cases block with
      | updateMainArea image message => cases h
      | updateBookList =>
          simp only [updateBookListBlock] at h
          split at h
          · next hreload =>
              obtain ⟨hread, rfl⟩ := reloadData_eq_error.mp hreload
              cases h
              apply TrapEffect.bookList hidle hqueue hread
          · next new newEvents hreload =>
              obtain ⟨-, rfl, -⟩ := reloadData_eq_ok.mp hreload
              split at h
              · next hrow =>
                  cases h
                  apply TrapEffect.scroll hidle hqueue hrow.1
                  apply List.length_eq_zero_iff.mp hrow.2
              · cases h
      | updatePreviewCell i =>
          obtain ⟨hread, hfault⟩ := reloadData_eq_error.mp h
          cases hfault
          apply TrapEffect.previewCell hidle hqueue hread

/-- Where setting up the cell of a row traps. -/
theorem trapEffect_of_cellForRowAt {row : Nat} (hidle : s.posting = none)
    (h : s.cellForRowAt row = .error (.trap trap)) :
  TrapEffect F s (.screen (.cellForRowAt row)) trap
  := by
  rw [cellForRowAt] at h
  split at h
  · next hrow =>
      split at h
      · next fault hbook =>
          obtain ⟨hnone, rfl⟩ := requestBook_eq_error.mp hbook
          cases h
          apply TrapEffect.cellIndex hidle hrow hnone
      · next ref hbook =>
          cases hread : s.read? ref with
          | none =>
              rw [hread] at h
              cases h
              apply TrapEffect.cell hidle hrow (requestBook_eq_ok.mp hbook) hread
          | some book =>
              rw [hread] at h
              cases h
  · cases h

/-- Where opening the popup of a row traps. -/
theorem trapEffect_of_presentBookDetailPopup {row : Nat} (hidle : s.posting = none)
    (h : s.presentBookDetailPopup row = .error (.trap trap)) :
  TrapEffect F s (.screen (.didSelectRowAt row)) trap
  := by
  rw [presentBookDetailPopup] at h
  split at h
  · next hrow =>
      have hdetails := Option.isNone_iff_eq_none.mp hrow.2
      split at h
      · next fault hbook =>
          obtain ⟨hnone, rfl⟩ := requestBook_eq_error.mp hbook
          cases h
          apply TrapEffect.popupIndex hidle hrow.1 hdetails hnone
      · next ref hbook =>
          cases hread : s.read? ref with
          | none =>
              rw [hread] at h
              cases h
              apply TrapEffect.popup hidle hrow.1 hdetails (requestBook_eq_ok.mp hbook) hread
          | some book =>
              rw [hread] at h
              cases h
  · cases h

/-- Where bringing a page of the popup into view traps. -/
theorem trapEffect_of_cellForItemAt {page : Nat} (hidle : s.posting = none)
    (h : s.cellForItemAt page = .error (.trap trap)) :
  TrapEffect F s (.screen (.cellForItemAt page)) trap
  := by
  rw [cellForItemAt] at h
  cases hdetails : s.screen.details with
  | none =>
      rw [hdetails] at h
      cases h
  | some details =>
      simp only [hdetails] at h
      split at h
      · next hpage =>
          cases hread : s.read? details.bookBeingDesplayed with
          | none =>
              rw [hread] at h
              cases h
              apply TrapEffect.page hidle hdetails hpage hread
          | some book =>
              rw [hread] at h
              cases h
      · cases h

theorem map_screen_eq_error {x : Except Fault Screen} {fault : Fault} :
  x.map (fun screen => (screen, ([] : List Event))) = .error fault ↔ x = .error fault
  := by
  cases x with
  | error fault' => simp [Except.map]
  | ok screen => simp [Except.map]

/-- An action of the screens traps only in the ways `TrapEffect` lists. -/
theorem trapEffect_of_screenStep {action : ScreenAction} (hidle : s.posting = none)
    (h : s.screenStep action = .error (.trap trap)) :
  TrapEffect F s (.screen action) trap
  := by
  cases action with
  | userSelectedTab state => cases h
  | searchBarTextDidChange searchText => cases h
  | topBarAnimationCompleted =>
      have hscreen := map_screen_eq_error.mp h
      rw [topBarAnimationCompleted] at hscreen
      split at hscreen
      · cases hscreen
      · cases hscreen
  | runMainBlock => apply trapEffect_of_runMainBlock hidle h
  | cellForRowAt row => apply trapEffect_of_cellForRowAt hidle h
  | didSelectRowAt row => apply trapEffect_of_presentBookDetailPopup hidle h
  | cellForItemAt page => apply trapEffect_of_cellForItemAt hidle (map_screen_eq_error.mp h)
  | userPressedCloseButton =>
      have hscreen := map_screen_eq_error.mp h
      rw [closePopup] at hscreen
      split at hscreen
      · cases hscreen
      · cases hscreen

/-- A step traps exactly in the ways `TrapEffect` lists. -/
theorem step_eq_trap {a : Action} :
  s.step F a = .error (.trap trap) ↔ TrapEffect F s a trap
  := by
  constructor
  · intro h
    cases a with
    | screen action =>
        obtain ⟨hidle, h⟩ := onMainThread_eq_trap.mp h
        apply trapEffect_of_screenStep hidle (onScreen_eq_trap.mp h)
    | beginRequest timer =>
        obtain ⟨hidle, h⟩ := onMainThread_eq_trap.mp h
        obtain ⟨htimer, bookQuery, hinfo, hurl, rfl⟩ := beginRequest_eq_trap.mp h
        apply TrapEffect.url hidle htimer hinfo hurl
    | bookInfoResponse r data =>
        obtain ⟨hr, docs, hdata, hbooks, rfl⟩ := bookInfoResponse_eq_trap.mp h
        apply TrapEffect.cast hr hdata hbooks
    | coverResponse task data => apply absurd h coverResponse_ne_trap
    | coversNotified r => apply absurd h coversNotified_ne_trap
    | userPressedWishlistButton row =>
        obtain ⟨hidle, h⟩ := onMainThread_eq_trap.mp h
        obtain ⟨ref, hpress, hread, rfl⟩ := userPressedWishlistButton_eq_trap.mp h
        apply TrapEffect.press hidle hpress hread
    | notifyWishlistOfUpdate =>
        obtain ⟨hidle, h⟩ := onMainThread_eq_trap.mp h
        obtain ⟨ref, hpress, hread, rfl⟩ := notifyWishlistOfUpdate_eq_trap.mp h
        apply TrapEffect.press hidle hpress hread
    | addOrDeleteBookFromWishlist =>
        obtain ⟨ref, hposting, hread, rfl⟩ := addOrDeleteBookFromWishlist_eq_trap.mp h
        apply TrapEffect.handler hposting hread
  · intro h
    cases h with
    | url hidle htimer hinfo hurl =>
        exact onMainThread_eq_trap.mpr
          ⟨hidle, beginRequest_eq_trap.mpr ⟨htimer, _, hinfo, hurl, rfl⟩⟩
    | cast hr hdata hbooks => exact bookInfoResponse_eq_trap.mpr ⟨hr, _, hdata, hbooks, rfl⟩
    | scroll hidle hqueue htab hempty =>
        refine onMainThread_eq_trap.mpr ⟨hidle, onScreen_eq_trap.mpr ?_⟩
        simp [screenStep, runMainBlock, hqueue, updateBookListBlock, reloadData, hempty, readable,
          htab]
    | bookList hidle hqueue hread =>
        refine onMainThread_eq_trap.mpr ⟨hidle, onScreen_eq_trap.mpr ?_⟩
        simp [screenStep, runMainBlock, hqueue, updateBookListBlock, reloadData, hread]
    | previewCell hidle hqueue hread =>
        refine onMainThread_eq_trap.mpr ⟨hidle, onScreen_eq_trap.mpr ?_⟩
        simp [screenStep, runMainBlock, hqueue, reloadData, hread]
    | cellIndex hidle hrow hbook =>
        refine onMainThread_eq_trap.mpr ⟨hidle, onScreen_eq_trap.mpr ?_⟩
        simp [screenStep, cellForRowAt, hrow, requestBook, hbook]
    | cell hidle hrow hbook hread =>
        refine onMainThread_eq_trap.mpr ⟨hidle, onScreen_eq_trap.mpr ?_⟩
        simp [screenStep, cellForRowAt, hrow, requestBook, hbook, hread]
    | popupIndex hidle hrow hdetails hbook =>
        refine onMainThread_eq_trap.mpr ⟨hidle, onScreen_eq_trap.mpr ?_⟩
        simp [screenStep, presentBookDetailPopup, hrow, hdetails, requestBook, hbook]
    | popup hidle hrow hdetails hbook hread =>
        refine onMainThread_eq_trap.mpr ⟨hidle, onScreen_eq_trap.mpr ?_⟩
        simp [screenStep, presentBookDetailPopup, hrow, hdetails, requestBook, hbook, hread]
    | page hidle hdetails hpage hread =>
        refine onMainThread_eq_trap.mpr ⟨hidle, onScreen_eq_trap.mpr ?_⟩
        simp [screenStep, cellForItemAt, hdetails, hpage, hread, Except.map]
    | press hidle hpress hread =>
        cases a with
        | userPressedWishlistButton row =>
            exact onMainThread_eq_trap.mpr
              ⟨hidle, userPressedWishlistButton_eq_trap.mpr ⟨_, hpress, hread, rfl⟩⟩
        | notifyWishlistOfUpdate =>
            exact onMainThread_eq_trap.mpr
              ⟨hidle, notifyWishlistOfUpdate_eq_trap.mpr ⟨_, hpress, hread, rfl⟩⟩
        | _ => cases hpress
    | handler hposting hread =>
        exact addOrDeleteBookFromWishlist_eq_trap.mpr ⟨_, hposting, hread, rfl⟩

end State

end OpenLibrary
