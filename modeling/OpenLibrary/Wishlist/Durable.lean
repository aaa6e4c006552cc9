import OpenLibrary.Model.Traps
import OpenLibrary.Wishlist.Presses
import OpenLibrary.Wishlist.Store

/-!
# The wishlist after a restart

A press counts once its handler has run, whatever happens to the process before or after that:
the `coverID`s the store holds are those that the presses handled make of the ones it held at
first (`covers_of_recorded_run`). A new process reads the store and nothing else, and so the
Wishlist tab, once selected, shows these books and no others (`wishlist_after_restart`).
-/

namespace OpenLibrary

/-! ### The presses handled -/

/-- The press a signal is the end of, if its handler runs: the `coverID` of the book, and the flag
the handler reads. -/
def handledPress (p : Process) : Signal → List (Int × Bool)
  | .act .addOrDeleteBookFromWishlist =>
      match p with
      | .running s => ((s.posting.bind s.read?).map (fun book =>
          (book.coverID, book.isInWishlist))).toList
      | .terminated _ => []
  | _ => []

/-- The device, with the presses handled. -/
def recordedLifecycle (F : Foundation) : Machine (Process × List (Int × Bool)) Signal Fault :=
  (lifecycle F).withLog handledPress

/-- What a step of a running process does to the `coverID`s the store holds is to assign the press
it handles, if it handles one. -/
theorem covers_of_effect {F : Foundation} {s t : State} {a : Action} (he : Effect F s a t) :
  t.realm.covers = (handledPress (.running s) (.act a)).foldl assign s.realm.covers
  := by
  cases State.storeEffect he with
  | quiet hrealm hwishList hposting =>
      have hnone : handledPress (.running s) (.act a) = [] := by
        cases a with
        | addOrDeleteBookFromWishlist =>
            cases he with
            | pressed _ hpress => cases hpress
            | updated hposted => cases hposting.trans hposted
        | _ => rfl
      rw [hnone, hrealm]
      rfl
  | @pressed _ ref book hidle hpress =>
      have hnone : handledPress (.running s) (.act a) = [] := by
        cases a with
        | addOrDeleteBookFromWishlist => cases hpress
        | _ => rfl
      rw [hnone, State.covers_toggled]
      rfl
  | @updated ref book hposting hread =>
      have hone : handledPress (.running s) (.act .addOrDeleteBookFromWishlist) =
          [(book.coverID, book.isInWishlist)] := by
        rw [handledPress, hposting, Option.bind_some, hread]
        rfl
      rw [hone]
      apply covers_addOrDelete

/-- A trap handles no press. -/
theorem handledPress_of_trap {F : Foundation} {s : State} {a : Action} {trap : Trap}
    (h : s.step F a = .error (.trap trap)) :
  handledPress (.running s) (.act a) = []
  := by
  cases a with
  | addOrDeleteBookFromWishlist =>
      obtain ⟨ref, hposting, hread, -⟩ := State.addOrDeleteBookFromWishlist_eq_trap.mp h
      rw [handledPress, hposting, Option.bind_some, hread]
      rfl
  | _ => rfl

/-- What a signal does to the `coverID`s the store holds is to assign the press it handles, if it
handles one. -/
theorem covers_of_signal {F : Foundation} {p q : Process} {signal : Signal}
    (h : (lifecycle F).step p signal = .ok q) :
  q.realm.covers = (handledPress p signal).foldl assign p.realm.covers
  := by
  cases p with
  | terminated realm =>
      cases signal with
      | launch =>
          obtain rfl := Except.ok.inj h
          rfl
      | act a => cases h
      | terminate => cases h
  | running s =>
      cases signal with
      | launch => cases h
      | terminate =>
          obtain rfl := Except.ok.inj h
          rfl
      | act a =>
          change Process.step F (.running s) (.act a) = .ok q at h
          rw [Process.step] at h
          split at h
          · next t ht =>
              obtain rfl := Except.ok.inj h
              apply covers_of_effect (State.step_eq_ok.mp ht)
          · next trap ht =>
              obtain rfl := Except.ok.inj h
              rw [handledPress_of_trap ht]
              rfl
          · cases h

/-- However processes are started and ended, the store holds the `coverID`s that the presses
handled make of those it held at first. -/
theorem covers_of_recorded_run {F : Foundation} {realm : Realm} {signals : List Signal}
    {x : Process × List (Int × Bool)}
    (h : (recordedLifecycle F).run (.terminated realm, []) signals = .ok x) :
  x.1.realm.covers = x.2.foldl assign realm.covers
  := by
  apply Machine.foldl_log_of_run (M := lifecycle F) (f := assign) (fun p => p.realm.covers)
    covers_of_signal h

/-! ### The new process -/

/-- The block that shows the table, when the books can be read and there are any. -/
theorem State.step_updateBookList {F : Foundation} {s : State} {rest : List Block}
    (hidle : s.posting = none) (hqueue : s.screen.mainQueue = .updateBookList :: rest)
    (hread : s.readable s.shownBooks) (hne : s.shownBooks ≠ []) :
  s.step F (.screen .runMainBlock) = .ok { s with
    screen := { s.screen with mainQueue := rest, isHidden := false, cells := s.shownBooks }
    history := s.history ++ s.shownBooks.flatMap s.displayed }
  := by
  have hblock : s.screenStep .runMainBlock =
      .ok ({ s.screen with mainQueue := rest, isHidden := false, cells := s.shownBooks },
        s.shownBooks.flatMap s.displayed) := by
    rw [screenStep, runMainBlock, hqueue]
    dsimp only
    rw [updateBookListBlock, reloadData, if_pos hread]
    dsimp only
    rw [if_neg]
    rintro ⟨-, hlength⟩
    apply hne (List.length_eq_zero_iff.mp hlength)
  apply step_eq_ok.mpr (Effect.screen hidle hblock)

/-- A new process once its Wishlist tab is selected and has enqueued `block`. -/
def selected (realm : Realm) (block : Block) : State :=
  { launch realm with
    screen := { (launch realm).screen with
      currentAppState := .wishlist
      clearingAnimations := 1
      mainQueue := [block] } }

/-- Selecting the Wishlist tab in a new process enqueues one block. -/
theorem changeAppState_launch (realm : Realm) :
  { launch realm with screen := (launch realm).changeAppState .wishlist } =
    selected realm (if realm.ids = [] then
        .updateMainArea .searchForBooks .searchForBooksToAddToWishlist
      else
        .updateBookList)
  := by
  have hne : AppState.wishlist ≠ (launch realm).screen.currentAppState := by
    intro he
    cases he
  rw [State.changeAppState, if_neg hne]
  dsimp only
  split
  · next hcount =>
      have hnone : realm.ids = [] := List.length_eq_zero_iff.mp hcount
      rw [if_pos hnone]
      rfl
  · next hcount =>
      have hsome : realm.ids ≠ [] := fun hnone => hcount (List.length_eq_zero_iff.mpr hnone)
      rw [if_neg hsome]
      rfl

/-- The Wishlist tab of a new process has a row for each record of the store, and is visible when
there are any. -/
theorem run_selectWishlist (F : Foundation) (realm : Realm) :
  ∃ s, (application F).run (launch realm)
      [.screen (.userSelectedTab .wishlist), .screen .runMainBlock] = .ok s ∧
    s.realm = realm ∧ s.screen.cells = realm.ids.map .stored ∧
    (s.screen.isHidden = false ↔ realm.ids ≠ [])
  := by
  have hselect : (application F).step (launch realm) (.screen (.userSelectedTab .wishlist)) =
      .ok { launch realm with screen := (launch realm).changeAppState .wishlist } := rfl
  rw [changeAppState_launch] at hselect
  rw [Machine.run_cons_of_ok hselect]
  split
  · next hnone =>
      refine ⟨_, rfl, rfl, ?_, ?_⟩
      · rw [hnone]
        rfl
      · rw [hnone]
        apply iff_of_false
        · intro hvisible
          cases hvisible
        · intro hne
          apply hne rfl
  · next hsome =>
      have hread : (selected realm .updateBookList).readable
          (selected realm .updateBookList).shownBooks := by
        apply List.all_eq_true.mpr
        intro ref href
        obtain ⟨row, hrow, rfl⟩ := List.mem_map.mp href
        apply Table.isSome_find?.mpr hrow
      have hne : (selected realm .updateBookList).shownBooks ≠ [] := by
        intro hnil
        apply hsome (List.map_eq_nil_iff.mp hnil)
      have hshow := State.step_updateBookList (F := F) (s := selected realm .updateBookList)
        rfl rfl hread hne
      refine ⟨_, Machine.run_cons.mpr ⟨_, hshow, rfl⟩, rfl, rfl, iff_of_true rfl hsome⟩

/-- The next process, once its Wishlist tab is selected and shown. -/
theorem exists_nextWishlist (F : Foundation) (realm : Realm) :
  ∃ s, (lifecycle F).run (.terminated realm)
      [.launch, .act (.screen (.userSelectedTab .wishlist)),
        .act (.screen .runMainBlock)] = .ok (.running s) ∧
    s.realm = realm ∧ s.screen.cells = realm.ids.map .stored ∧
    (s.screen.isHidden = false ↔ realm.ids ≠ [])
  := by
  obtain ⟨s, hs, hshown⟩ := run_selectWishlist F realm
  use s
  constructor
  · obtain ⟨t, ht, hrun⟩ := Machine.run_cons.mp hs
    obtain ⟨u, hu, hlast⟩ := Machine.run_cons.mp hrun
    obtain rfl := Except.ok.inj hlast
    have hlaunch : (lifecycle F).step (.terminated realm) .launch =
        .ok (.running (launch realm)) := rfl
    have hact : ∀ {s t : State} {a : Action}, (application F).step s a = .ok t →
        (lifecycle F).step (.running s) (.act a) = .ok (.running t) := by
      intro s t a hstep
      change Process.step F (.running s) (.act a) = _
      rw [Process.step, show s.step F a = .ok t from hstep]
    rw [Machine.run_cons_of_ok hlaunch, Machine.run_cons_of_ok (hact ht),
      Machine.run_cons_of_ok (hact hu)]
    rfl
  · apply hshown

/-- The books the Wishlist tab of the next process shows are those of the store. -/
theorem shown_iff {s : State} {realm : Realm} (hrealm : s.realm = realm)
    (hcells : s.screen.cells = realm.ids.map .stored) {book : Book} :
  (∃ ref ∈ s.screen.cells, s.read? ref = some book) ↔ ∃ row, (row, book) ∈ realm.rows
  := by
  rw [hcells]
  constructor
  · rintro ⟨ref, href, hread⟩
    obtain ⟨row, -, rfl⟩ := List.mem_map.mp href
    rw [State.read?, hrealm] at hread
    use row, Table.find?_eq_some.mp hread
  · rintro ⟨row, hbook⟩
    use .stored row, List.mem_map_of_mem (Table.mem_ids.mpr ⟨book, hbook⟩)
    rw [State.read?, hrealm]
    apply Table.find?_eq_some.mpr hbook

/-- However processes are started and ended, at whatever moment, on a store with distinct records,
the Wishlist tab of the next process shows a book for a `coverID` exactly when the last press
handled of a book with it left that book marked, or none was handled and the store held one at
first; it shows no two books with one `coverID`, and is visible when it shows any. -/
theorem wishlist_after_restart (F : Foundation) (realm : Realm) (hdistinct : realm.Distinct)
    (signals : List Signal) (x : Process × List (Int × Bool))
    (h : (recordedLifecycle F).run (.terminated realm, []) signals = .ok x) :
  ∃ s, (lifecycle F).run (.terminated x.1.realm)
      [.launch, .act (.screen (.userSelectedTab .wishlist)),
        .act (.screen .runMainBlock)] = .ok (.running s) ∧
    (s.screen.isHidden = false ↔ s.screen.cells ≠ []) ∧
    (∀ c, (∃ ref ∈ s.screen.cells, ∃ book, s.read? ref = some book ∧ book.coverID = c) ↔
      lastAssigned c x.2 = some true ∨ lastAssigned c x.2 = none ∧ realm.Holds c) ∧
    ∀ (i j : Nat) (ref ref' : BookRef) (book book' : Book), s.screen.cells[i]? = some ref →
      s.screen.cells[j]? = some ref' → s.read? ref = some book → s.read? ref' = some book' →
        book.coverID = book'.coverID → i = j
  := by
  obtain ⟨s, hs, hrealm, hcells, hvisible⟩ := exists_nextWishlist F x.1.realm
  have hcached : x.1.Cached := by
    apply Machine.invariant (M := recordedLifecycle F) (P := fun x => x.1.Cached) _ _ h
    · intro x signal y hx hy
      apply hx.step (Machine.step_withLog.mp hy).1
    · apply hdistinct
  refine ⟨s, hs, ?_, ?_, ?_⟩
  · rw [hvisible, hcells, Ne, Ne, List.map_eq_nil_iff]
  · intro c
    have hcovers : (lastAssigned c x.2 = some true ∨
        lastAssigned c x.2 = none ∧ realm.Holds c) ↔ x.1.realm.Holds c := by
      change _ ↔ c ∈ x.1.realm.covers
      rw [covers_of_recorded_run h]
      apply mem_foldl_assign.symm
    rw [hcovers]
    constructor
    · rintro ⟨ref, href, book, hread, rfl⟩
      obtain ⟨row, hbook⟩ := (shown_iff hrealm hcells).mp ⟨ref, href, hread⟩
      exact ⟨row, book, hbook, rfl⟩
    · rintro ⟨row, book, hbook, rfl⟩
      obtain ⟨ref, href, hread⟩ := (shown_iff hrealm hcells).mpr ⟨row, hbook⟩
      exact ⟨ref, href, book, hread, rfl⟩
  · intro i j ref ref' book book' href href' hread hread' hcover
    have hnodup : s.screen.cells.Nodup := by
      rw [hcells]
      apply List.Nodup.map _ x.1.realm.nodup
      intro row row' hrow
      apply BookRef.stored.inj hrow
    obtain ⟨row, hrow, rfl⟩ := List.mem_map.mp (hcells ▸ List.mem_of_getElem? href)
    obtain ⟨row', hrow', rfl⟩ := List.mem_map.mp (hcells ▸ List.mem_of_getElem? href')
    rw [State.read?, hrealm] at hread hread'
    have hsame : row = row' := hcached.distinct row book row' book'
      (Table.find?_eq_some.mp hread) (Table.find?_eq_some.mp hread') hcover
    rw [hsame, ← href'] at href
    apply (List.getElem?_inj (List.getElem?_eq_some_iff.mp (href.trans href')).1 hnodup).mp href

/-- One book is added, and the process ends between the two transactions that would remove it. -/
theorem wishlist_after_restart_dune :
  ∃ x, (recordedLifecycle .onPlainText).run (.terminated Table.empty, [])
      [.launch, .act (.screen (.searchBarTextDidChange "dune")), .act (.beginRequest 1),
        .act (.bookInfoResponse 0 (responseOf [document 7 "Dune"])),
        .act (.coverResponse ⟨0, 0, bookCoverRequestURL 7⟩ (some [1])),
        .act (.coversNotified 0), .act (.screen .runMainBlock),
        .act (.userPressedWishlistButton 0), .act .addOrDeleteBookFromWishlist,
        .act (.userPressedWishlistButton 0), .terminate] = .ok x ∧
    ∃ s, (lifecycle .onPlainText).run (.terminated x.1.realm)
        [.launch, .act (.screen (.userSelectedTab .wishlist)),
          .act (.screen .runMainBlock)] = .ok (.running s) ∧
      (s.screen.isHidden = false ↔ s.screen.cells ≠ []) ∧
      (∀ c, (∃ ref ∈ s.screen.cells, ∃ book, s.read? ref = some book ∧ book.coverID = c) ↔
        lastAssigned c x.2 = some true ∨
          lastAssigned c x.2 = none ∧ Realm.Holds Table.empty c) ∧
      ∀ (i j : Nat) (ref ref' : BookRef) (book book' : Book), s.screen.cells[i]? = some ref →
        s.screen.cells[j]? = some ref' → s.read? ref = some book → s.read? ref' = some book' →
          book.coverID = book'.coverID → i = j
  := by
  apply (exists_congr (fun x => and_iff_left_of_imp _)).mpr
  · exact ⟨_, rfl⟩
  · intro x h
    apply wishlist_after_restart .onPlainText Table.empty Realm.Distinct.empty _ x h

end OpenLibrary
