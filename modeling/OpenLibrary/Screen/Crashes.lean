import OpenLibrary.Screen.Deleted
import OpenLibrary.Search.Query
import OpenLibrary.Search.Structuring

/-!
# What stops the process

Five things stop a running process, and each can be read off the state and the input: a query that
makes no URL, a clean document with a value of another type, a row the books of the tab do not
have, an empty wishlist shown, and a record that was removed since it was displayed. Everything else
runs to its end, in every state a process reaches: the table is filled, the covers and the
completions of the calls are delivered, and the handler of a press that has begun runs
(`crashes_iff`).
-/

namespace OpenLibrary

/-- An action stops the process. -/
inductive Crash (s : State) : Action → Trap → Prop where
  /-- A timer fires with a text that is not the text of a query. -/
  | query {timer : Nat} {text : String} (hidle : s.posting = none)
      (htimer : (s.screen.scheduledTimers.lookup timer).isSome) (hinfo : s.userInfo = some text)
      (htext : ¬ IsQueryText text) :
      Crash s (.beginRequest timer) .forcedUnwrap
  /-- A response has a clean document with a value of another type. -/
  | document {r : Nat} {data : InfoData} {doc : JsonObject} (hr : r ∈ s.search.infoTasks)
      (hdoc : doc ∈ data.cleanDocuments) (htyped : ¬ WellTyped doc) :
      Crash s (.bookInfoResponse r data) .forcedCast
  /-- The block that shows the table runs in the Wishlist tab when the store has no record. -/
  | emptied {rest : List Block} (hidle : s.posting = none)
      (hqueue : s.screen.mainQueue = .updateBookList :: rest)
      (htab : s.screen.currentAppState = .wishlist) (hempty : s.realm.ids = []) :
      Crash s (.screen .runMainBlock) .scrollToRow
  /-- A row the table has and the books of the tab have not comes into view. -/
  | cell {row : Nat} (hidle : s.posting = none) (hrow : s.hasRow row)
      (hbook : s.requestBookCount ≤ row) :
      Crash s (.screen (.cellForRowAt row)) .indexOutOfRange
  /-- Such a row is selected. -/
  | popup {row : Nat} (hidle : s.posting = none) (hrow : s.hasRow row)
      (hdetails : s.screen.details = none) (hbook : s.requestBookCount ≤ row) :
      Crash s (.screen (.didSelectRowAt row)) .indexOutOfRange
  /-- A cell or the popup keeps a record that was removed since it was displayed, and is pressed or
  paged. -/
  | removed {a : Action} (h : s.TouchesRemoved a) :
      Crash s a .invalidatedObject

namespace State

variable {F : Foundation} {s : State} {a : Action} {trap : Trap}

theorem getElem?_shownBooks_eq_none {row : Nat} :
  s.shownBooks[row]? = none ↔ s.requestBookCount ≤ row
  := List.getElem?_eq_none_iff

/-- The Wishlist tab shows no book when the store has no record. -/
theorem Tracked.shownBooks_eq_nil (h : s.Tracked) (htab : s.screen.currentAppState = .wishlist) :
  s.shownBooks = [] ↔ s.realm.ids = []
  := by
  rw [shownBooks_of_wishlist htab, h.wishList, List.map_eq_nil_iff]

/-- No books are structured from a response that has a clean document with a value of another
type. -/
theorem structureBooks_eq_none_iff {data : InfoData} {docs : List JsonObject}
    (hdata : data.bookResultsJSON? = some docs) :
  structureBooks docs = none ↔ ∃ doc ∈ data.cleanDocuments, ¬ WellTyped doc
  := by
  rw [InfoData.cleanDocuments_of_some hdata, Option.eq_none_iff_forall_ne_some]
  have hbooks := not_congr (@exists_structureBooks_iff docs)
  push Not at hbooks
  apply hbooks

/-- A step from a state that a process reaches traps exactly in the ways `Crash` lists. -/
theorem Tracked.step_eq_trap_iff (h : s.Tracked) (hF : F.Lawful) :
  s.step F a = .error (.trap trap) ↔ Crash s a trap
  := by
  constructor
  · intro hstep
    have he : TrapEffect F s a trap := step_eq_trap.mp hstep
    cases he with
    | url hidle htimer hinfo hurl =>
        apply Crash.query hidle htimer hinfo
        intro htext
        apply hurl (hF.isURL_requestURL_iff.mpr htext)
    | cast hr hdata hbooks =>
        obtain ⟨doc, hdoc, htyped⟩ := (structureBooks_eq_none_iff hdata).mp hbooks
        apply Crash.document hr hdoc htyped
    | scroll hidle hqueue htab hempty =>
        apply Crash.emptied hidle hqueue htab ((h.shownBooks_eq_nil htab).mp hempty)
    | cellIndex hidle hrow hbook =>
        apply Crash.cell hidle hrow (getElem?_shownBooks_eq_none.mp hbook)
    | popupIndex hidle hrow hdetails hbook =>
        apply Crash.popup hidle hrow hdetails (getElem?_shownBooks_eq_none.mp hbook)
    | bookList | previewCell | cell | popup | page | press | handler =>
        apply Crash.removed (h.step_eq_invalidated_iff.mp hstep)
  · intro hcrash
    cases hcrash with
    | query hidle htimer hinfo htext =>
        apply step_eq_trap.mpr
        apply TrapEffect.url hidle htimer hinfo
        intro hurl
        apply htext (hF.isURL_requestURL_iff.mp hurl)
    | @document r data doc hr hdoc htyped =>
        apply step_eq_trap.mpr
        cases hdata : data.bookResultsJSON? with
        | none =>
            rw [InfoData.cleanDocuments_of_none hdata] at hdoc
            cases hdoc
        | some docs =>
            apply TrapEffect.cast hr hdata
            exact (structureBooks_eq_none_iff hdata).mpr ⟨doc, hdoc, htyped⟩
    | emptied hidle hqueue htab hempty =>
        apply step_eq_trap.mpr
        apply TrapEffect.scroll hidle hqueue htab ((h.shownBooks_eq_nil htab).mpr hempty)
    | cell hidle hrow hbook =>
        apply step_eq_trap.mpr
        apply TrapEffect.cellIndex hidle hrow (getElem?_shownBooks_eq_none.mpr hbook)
    | popup hidle hrow hdetails hbook =>
        apply step_eq_trap.mpr
        apply TrapEffect.popupIndex hidle hrow hdetails (getElem?_shownBooks_eq_none.mpr hbook)
    | removed htouches => apply h.step_eq_invalidated_iff.mpr htouches

end State

/-- In every state a process reaches, an action stops it exactly in the ways `Crash` lists, and a
run of a process is not stopped exactly when none of its steps is one of these. -/
theorem crashes_iff (F : Foundation) (hF : F.Lawful) (realm : Realm) (as : List Action) :
  (∀ s, (application F).run (launch realm) as = .ok s → ∀ a trap,
      (application F).step s a = .error (.trap trap) ↔ Crash s a trap) ∧
    ((∀ trap, (application F).run (launch realm) as ≠ .error (.trap trap)) ↔
      (application F).EveryStep (fun s a => ∀ trap, ¬ Crash s a trap) (launch realm) as)
  := by
  have hsteps : ∀ {pre s}, (application F).run (launch realm) pre = .ok s → ∀ a trap,
      (application F).step s a = .error (.trap trap) ↔ Crash s a trap := by
    intro pre s h a trap
    have htracked : s.Tracked := State.Tracked.of_run h
    apply htracked.step_eq_trap_iff hF
  constructor
  · intro s h
    apply hsteps h
  · constructor
    · intro h pre a post s has hs trap hcrash
      apply Machine.run_ne_error_iff.mp (h trap) pre a post s has hs
      apply (hsteps hs a trap).mpr hcrash
    · intro h trap
      apply Machine.run_ne_error_iff.mpr
      intro pre a post s has hs hstep
      apply h pre a post s has hs trap
      apply (hsteps hs a trap).mp hstep

/-- The book of a search is pressed. -/
theorem crashes_iff_dune :
  (∃ s, (application .onAscii).run (launch Table.empty)
      [.screen (.searchBarTextDidChange "dune"), .beginRequest 1,
        .bookInfoResponse 0 (responseOf [document 7 "Dune"]),
        .coverResponse ⟨0, 0, bookCoverRequestURL 7⟩ (some [1]), .coversNotified 0,
        .screen .runMainBlock, .userPressedWishlistButton 0,
        .addOrDeleteBookFromWishlist] = .ok s ∧
    ∀ a trap, (application .onAscii).step s a = .error (.trap trap) ↔ Crash s a trap) ∧
    ((∀ trap, (application .onAscii).run (launch Table.empty)
        [.screen (.searchBarTextDidChange "dune"), .beginRequest 1,
          .bookInfoResponse 0 (responseOf [document 7 "Dune"]),
          .coverResponse ⟨0, 0, bookCoverRequestURL 7⟩ (some [1]), .coversNotified 0,
          .screen .runMainBlock, .userPressedWishlistButton 0,
          .addOrDeleteBookFromWishlist] ≠ .error (.trap trap)) ↔
      (application .onAscii).EveryStep (fun s a => ∀ trap, ¬ Crash s a trap) (launch Table.empty)
        [.screen (.searchBarTextDidChange "dune"), .beginRequest 1,
          .bookInfoResponse 0 (responseOf [document 7 "Dune"]),
          .coverResponse ⟨0, 0, bookCoverRequestURL 7⟩ (some [1]), .coversNotified 0,
          .screen .runMainBlock, .userPressedWishlistButton 0,
          .addOrDeleteBookFromWishlist])
  := by
  obtain ⟨hsteps, hrun⟩ := crashes_iff .onAscii Foundation.onAscii_lawful Table.empty
    [.screen (.searchBarTextDidChange "dune"), .beginRequest 1,
      .bookInfoResponse 0 (responseOf [document 7 "Dune"]),
      .coverResponse ⟨0, 0, bookCoverRequestURL 7⟩ (some [1]), .coversNotified 0,
      .screen .runMainBlock, .userPressedWishlistButton 0, .addOrDeleteBookFromWishlist]
  constructor
  · apply (exists_congr (fun s => and_iff_left_of_imp _)).mpr
    · exact ⟨_, rfl⟩
    · apply hsteps
  · apply hrun

end OpenLibrary
