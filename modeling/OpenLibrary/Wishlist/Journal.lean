import OpenLibrary.Library.Keyed
import OpenLibrary.Wishlist.Durable

/-!
# The store as a map

The store holds at most one record for a `coverID`, and so it is a map from the `coverID`s to books.
Two kinds of write change it, in transactions of their own: a press on a record toggles its flag,
and the handler of a press keeps, adds or deletes the book it was posted. Whatever happens on the
device, the store is what these writes make of it in the order in which they are made, and the next
process shows just that (`store_replays_writes`). A process that ends between the two writes of
a removal so leaves a record that is not marked.
-/

namespace OpenLibrary

/-! ### Writes -/

/-- A write transaction: the flag of the record with a `coverID` is toggled, or the handler of a
press has been posted a book. -/
inductive Write where
  | toggle (c : Int)
  | handle (book : Book)

/-- The books of the store after a write. A marked book is added unless there is a record of it,
which is kept as it is, and the record of one that is not marked is deleted. -/
def write (books : Int → Option Book) : Write → Int → Option Book
  | .toggle c => Function.update books c ((books c).map Book.toggle)
  | .handle book =>
      if book.isInWishlist then
        Function.update books book.coverID
          ((books book.coverID).or (some (State.realmBook book)))
      else
        Function.update books book.coverID none

/-- The book the store has for each `coverID`. -/
def Realm.books (realm : Realm) : Int → Option Book :=
  Table.lookup Book.coverID realm

namespace State

/-- The write a press of a book makes: a result is not in the store. -/
def pressWrites (s : State) : BookRef → List Write
  | .detached _ => []
  | .stored row => ((s.realm.find? row).map (fun b => Write.toggle b.coverID)).toList

/-- The write an action makes. -/
def writes (s : State) : Action → List Write
  | .addOrDeleteBookFromWishlist => ((s.posting.bind s.read?).map Write.handle).toList
  | a => (s.pressedBook a).elim [] s.pressWrites

end State

/-- The write made when a signal arrives. -/
def Process.writes : Process → Signal → List Write
  | running s, .act a => s.writes a
  | _, _ => []

/-- The device, with the writes made. -/
def journaled (F : Foundation) : Machine (Process × List Write) Signal Fault :=
  (lifecycle F).withLog Process.writes

/-! ### What a write does to the store -/

section Writes

variable {realm : Realm}

theorem Realm.Distinct.keyed (h : realm.Distinct) :
  Table.Keyed Book.coverID realm
  := h

theorem Realm.books_eq_none_iff {c : Int} :
  realm.books c = none ↔ realm.countCover c = 0
  := by
  rw [books, Table.lookup_eq_none, countCover_eq_zero]
  constructor
  · rintro h ⟨row, b, hb, hc⟩
    apply h row b hb hc
  · intro h row b hb hc
    apply h ⟨row, b, hb, hc⟩

/-- The handler of a press does to the map what its write does. -/
theorem books_addOrDelete (h : realm.Distinct) (wishList : List Nat) (book : Book) :
  (State.addOrDelete realm wishList book).1.books = write realm.books (.handle book)
  := by
  rw [State.addOrDelete, write]
  split
  · split
    · next hcount =>
        have hnone : realm.books book.coverID = none := Realm.books_eq_none_iff.mpr hcount
        rw [hnone, Option.none_or]
        apply h.keyed.lookup_insert (b := State.realmBook book) hnone
    · next hcount =>
        obtain ⟨b, hb⟩ := Option.ne_none_iff_exists'.mp (mt Realm.books_eq_none_iff.mp hcount)
        rw [hb, Option.some_or, ← hb, Function.update_eq_self]
  · apply h.keyed.lookup_delete

/-- The first transaction of a press on a record does to the map what its write does. -/
theorem books_modify (h : realm.Distinct) {row : Nat} {b : Book}
    (hb : realm.find? row = some b) :
  Realm.books (realm.modify row Book.toggle) = write realm.books (.toggle b.coverID)
  := by
  apply h.keyed.lookup_modify Book.coverID_toggle (Table.find?_eq_some.mp hb)

end Writes

/-! ### Steps -/

variable {F : Foundation} {s t : State} {a : Action}

/-- Other actions than the handler of a press make the write of the book they press. -/
theorem writes_eq (h : a ≠ .addOrDeleteBookFromWishlist) :
  s.writes a = (s.pressedBook a).elim [] s.pressWrites
  := by
  cases a with
  | addOrDeleteBookFromWishlist => cases h rfl
  | _ => rfl

/-- A press makes the write of its book. -/
theorem writes_of_press {ref : BookRef} (h : s.pressedBook a = some ref) :
  s.writes a = s.pressWrites ref
  := by
  rw [writes_eq, h]
  · rfl
  · rintro rfl
    cases h

/-- What a step does to the map is to make its write. -/
theorem books_of_effect (h : s.realm.Distinct) (he : Effect F s a t) :
  t.realm.books = (s.writes a).foldl write s.realm.books
  := by
  cases State.storeEffect he with
  | quiet hrealm hwishList hposting _ hpress =>
      have hnone : s.writes a = [] := by
        rw [writes_eq, hpress]
        · rfl
        · rintro rfl
          cases he with
          | pressed _ hpressed => cases hpressed
          | updated hposted => cases hposting.trans hposted
      rw [hnone, hrealm]
      rfl
  | @pressed _ ref book hidle hpress hread =>
      rw [writes_of_press hpress]
      cases ref with
      | detached o => rfl
      | stored row =>
          have hfind : s.realm.find? row = some book := hread
          rw [State.pressWrites, hfind]
          apply books_modify h hfind
  | @updated ref book hposting hread =>
      have hone : s.writes .addOrDeleteBookFromWishlist = [.handle book] := by
        rw [State.writes, hposting, Option.bind_some, hread]
        rfl
      rw [hone]
      apply books_addOrDelete h

/-- A trap makes no write. -/
theorem writes_of_trap {trap : Trap} (h : s.step F a = .error (.trap trap)) :
  s.writes a = []
  := by
  by_cases hhandler : a = .addOrDeleteBookFromWishlist
  · rw [hhandler] at h
    obtain ⟨ref, hposting, hread, -⟩ := State.addOrDeleteBookFromWishlist_eq_trap.mp h
    rw [hhandler, State.writes, hposting, Option.bind_some, hread]
    rfl
  · cases hpress : s.pressedBook a with
    | none =>
        rw [writes_eq hhandler, hpress]
        rfl
    | some ref =>
        have he := State.step_eq_trap.mp h
        rw [writes_of_press hpress]
        cases ref with
        | detached o => rfl
        | stored row =>
            have hread : s.realm.find? row = none := by
              cases he with
              | press _ hpress' hread =>
                  obtain rfl := Option.some.inj (hpress.symm.trans hpress')
                  apply hread
              | _ => cases hpress
            rw [State.pressWrites, hread]
            rfl

/-- What a signal does to the map is to make its write. -/
theorem books_of_signal {p q : Process} {signal : Signal} (h : p.Cached)
    (hq : (lifecycle F).step p signal = .ok q) :
  q.realm.books = (p.writes signal).foldl write p.realm.books
  := by
  cases p with
  | terminated realm =>
      cases signal with
      | launch =>
          obtain rfl := Except.ok.inj hq
          rfl
      | act a => cases hq
      | terminate => cases hq
  | running s =>
      cases signal with
      | launch => cases hq
      | terminate =>
          obtain rfl := Except.ok.inj hq
          rfl
      | act a =>
          change Process.step F (.running s) (.act a) = .ok q at hq
          rw [Process.step] at hq
          split at hq
          · next t ht =>
              obtain rfl := Except.ok.inj hq
              apply books_of_effect h.distinct (State.step_eq_ok.mp ht)
          · next trap ht =>
              obtain rfl := Except.ok.inj hq
              rw [Process.writes, writes_of_trap ht]
              rfl
          · cases hq

/-! ### Runs -/

/-- However processes are started and ended, at whatever moment, on a store with distinct records,
the Wishlist tab of the next process shows exactly the books that the writes made, in the order in
which they were made, leave of those of the store. -/
theorem store_replays_writes (F : Foundation) (realm : Realm) (hdistinct : realm.Distinct)
    (signals : List Signal) (x : Process × List Write)
    (h : (journaled F).run (.terminated realm, []) signals = .ok x) :
  x.1.realm.books = x.2.foldl write realm.books ∧
    ∃ s, (lifecycle F).run (.terminated x.1.realm)
        [.launch, .act (.screen (.userSelectedTab .wishlist)),
          .act (.screen .runMainBlock)] = .ok (.running s) ∧
      ∀ book, (∃ ref ∈ s.screen.cells, s.read? ref = some book) ↔
        x.2.foldl write realm.books book.coverID = some book
  := by
  have hcached : x.1.Cached := by
    apply Machine.invariant (M := journaled F) (P := fun x => x.1.Cached) _ _ h
    · intro x signal y hx hy
      apply hx.step (Machine.step_withLog.mp hy).1
    · apply hdistinct
  have hbooks : x.1.realm.books = x.2.foldl write realm.books := by
    apply Machine.foldl_log_of_run_of_invariant (M := lifecycle F) (I := Process.Cached)
      (fun p => p.realm.books) _ _ _ h
    · intro p signal q hp hq
      apply hp.step hq
    · intro p signal q hp hq
      apply books_of_signal hp hq
    · apply hdistinct
  constructor
  · apply hbooks
  · obtain ⟨s, hs, hrealm, hcells, -⟩ := exists_nextWishlist F x.1.realm
    use s, hs
    intro book
    rw [shown_iff hrealm hcells, ← hbooks, Realm.books, hcached.distinct.keyed.lookup_eq_some]
    constructor
    · rintro ⟨row, hbook⟩
      exact ⟨row, hbook, rfl⟩
    · rintro ⟨row, hbook, -⟩
      use row

/-- One book is added, and the process ends between the two writes that would remove it. -/
theorem store_replays_writes_dune :
  ∃ x, (journaled .onPlainText).run (.terminated Table.empty, [])
      [.launch, .act (.screen (.searchBarTextDidChange "dune")), .act (.beginRequest 1),
        .act (.bookInfoResponse 0 (responseOf [document 7 "Dune"])),
        .act (.coverResponse ⟨0, 0, bookCoverRequestURL 7⟩ (some [1])),
        .act (.coversNotified 0), .act (.screen .runMainBlock),
        .act (.userPressedWishlistButton 0), .act .addOrDeleteBookFromWishlist,
        .act (.screen (.userSelectedTab .wishlist)), .act (.screen .runMainBlock),
        .act (.screen .runMainBlock), .act (.userPressedWishlistButton 0),
        .terminate] = .ok x ∧
    (x.1.realm.books = x.2.foldl write (Realm.books Table.empty) ∧
      ∃ s, (lifecycle .onPlainText).run (.terminated x.1.realm)
          [.launch, .act (.screen (.userSelectedTab .wishlist)),
            .act (.screen .runMainBlock)] = .ok (.running s) ∧
        ∀ book, (∃ ref ∈ s.screen.cells, s.read? ref = some book) ↔
          x.2.foldl write (Realm.books Table.empty) book.coverID = some book)
  := by
  apply (exists_congr (fun x => and_iff_left_of_imp _)).mpr
  · exact ⟨_, rfl⟩
  · intro x h
    apply store_replays_writes .onPlainText Table.empty Realm.Distinct.empty _ x h

end OpenLibrary
