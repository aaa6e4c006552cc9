import OpenLibrary.Model.Frame

/-!
# The store and its cache

`Book` declares no primary key, and `wishList` is read from the store anew only where the
handler of a press adds or deletes. Still no two records have the same `coverID`
(`Realm.Distinct`), and `wishList` is the list of the records there are (`State.Cached`),
whatever happens, the end of the process between the two transactions of a press included.
-/

namespace OpenLibrary

/-! ### Distinct records -/

namespace Realm

/-- No two records have the same `coverID`. -/
def Distinct (realm : Realm) : Prop :=
  ∀ row b row' b', (row, b) ∈ realm.rows → (row', b') ∈ realm.rows →
    b.coverID = b'.coverID → row = row'

namespace Distinct

variable {realm : Realm}

theorem empty :
  Distinct Table.empty
  := by
  intro row b row' b' hb
  cases hb

/-- A record may be added whose `coverID` the store does not hold. -/
theorem insert (h : realm.Distinct) {new : Book} (hnew : ¬ realm.Holds new.coverID) :
  Distinct (realm.insert new)
  := by
  intro row b row' b' hb hb' hcover
  rcases Table.mem_insert.mp hb with hold | he
  · rcases Table.mem_insert.mp hb' with hold' | he'
    · apply h row b row' b' hold hold' hcover
    · obtain ⟨-, rfl⟩ := Prod.mk.inj he'
      apply absurd _ hnew
      exact ⟨row, b, hold, hcover⟩
  · obtain ⟨rfl, rfl⟩ := Prod.mk.inj he
    rcases Table.mem_insert.mp hb' with hold' | he'
    · apply absurd _ hnew
      exact ⟨row', b', hold', hcover.symm⟩
    · apply (Prod.mk.inj he').1.symm

/-- Toggling a flag keeps the records distinct. -/
theorem toggle (h : realm.Distinct) (i : Nat) :
  Distinct (realm.modify i Book.toggle)
  := by
  intro row b row' b' hb hb' hcover
  obtain ⟨c, hc, rfl⟩ := Table.mem_modify.mp hb
  obtain ⟨c', hc', rfl⟩ := Table.mem_modify.mp hb'
  apply h row c row' c' hc hc'
  rw [apply_ite Book.coverID, apply_ite Book.coverID] at hcover
  simpa using hcover

/-- Deleting records keeps the others distinct. -/
theorem delete (h : realm.Distinct) (p : Book → Bool) :
  Distinct (realm.delete p)
  := by
  intro row b row' b' hb hb'
  apply h row b row' b' (Table.mem_delete.mp hb).1 (Table.mem_delete.mp hb').1

end Distinct

end Realm

/-! ### The handler of a press -/

section AddOrDelete

open State

variable {realm : Realm} {wishList : List Nat}

/-- The handler keeps the records distinct. -/
theorem distinct_addOrDelete (h : realm.Distinct) (book : Book) :
  (addOrDelete realm wishList book).1.Distinct
  := by
  rw [addOrDelete]
  split
  · split
    · next hcount =>
        have hnew : ¬ realm.Holds (realmBook book).coverID := Realm.countCover_eq_zero.mp hcount
        apply h.insert hnew
    · apply h
  · apply h.delete

/-- The handler leaves `wishList` the list of the records there are. -/
theorem ids_addOrDelete (h : wishList = realm.ids) (book : Book) :
  (addOrDelete realm wishList book).2 = Table.ids (addOrDelete realm wishList book).1
  := by
  rw [addOrDelete]
  split
  · split
    · rfl
    · apply h
  · rfl

end AddOrDelete

/-! ### Running processes -/

namespace State

/-- The records are distinct, and `wishList` is the list of the records there are. -/
structure Cached (s : State) : Prop where
  distinct : s.realm.Distinct
  wishList : s.wishList = s.realm.ids

theorem Cached.launch {realm : Realm} (h : realm.Distinct) :
  (launch realm).Cached
  := by
  constructor
  · apply h
  · rfl

variable {F : Foundation} {s t : State} {a : Action}

/-- `wishList` stays the list of the records there are. -/
theorem wishList_step (h : s.wishList = s.realm.ids) (he : StoreEffect s a t) :
  t.wishList = t.realm.ids
  := by
  cases he with
  | quiet hrealm hwishList =>
      rw [hrealm, hwishList]
      apply h
  | @pressed _ ref book hidle hpress hread =>
      rw [wishList_toggled, h]
      cases ref with
      | detached o => rfl
      | stored row => apply (Table.ids_modify _ _ _).symm
  | @updated ref book hposting hread => apply ids_addOrDelete h book

/-- The records stay distinct. -/
theorem distinct_step (h : s.realm.Distinct) (he : StoreEffect s a t) :
  t.realm.Distinct
  := by
  cases he with
  | quiet hrealm =>
      rw [hrealm]
      apply h
  | @pressed _ ref book hidle hpress hread =>
      cases ref with
      | detached o => apply h
      | stored row => apply h.toggle
  | @updated ref book hposting hread => apply distinct_addOrDelete h book

/-- A step keeps the records distinct and `wishList` the list of them. -/
theorem Cached.step (h : s.Cached) (he : Effect F s a t) :
  t.Cached
  := by
  constructor
  · apply distinct_step h.distinct (storeEffect he)
  · apply wishList_step h.wishList (storeEffect he)

end State

/-! ### Processes and their ends -/

/-- What holds of the store between processes, and of a running one. -/
def Process.Cached : Process → Prop
  | .running s => s.Cached
  | .terminated realm => realm.Distinct

/-- A start, a step or an end of the process keeps it so. -/
theorem Process.Cached.step {F : Foundation} {p q : Process} {signal : Signal}
    (h : p.Cached) (hq : p.step F signal = .ok q) :
  q.Cached
  := by
  cases p with
  | terminated realm =>
      cases signal with
      | launch =>
          obtain rfl := Except.ok.inj hq
          apply State.Cached.launch h
      | act a => cases hq
      | terminate => cases hq
  | running s =>
      cases signal with
      | launch => cases hq
      | act a =>
          rw [Process.step] at hq
          split at hq
          · next t ht =>
              obtain rfl := Except.ok.inj hq
              apply State.Cached.step h (State.step_eq_ok.mp ht)
          · obtain rfl := Except.ok.inj hq
            apply State.Cached.distinct h
          · cases hq
      | terminate =>
          obtain rfl := Except.ok.inj hq
          apply State.Cached.distinct h

theorem Process.Cached.distinct {p : Process} (h : p.Cached) :
  p.realm.Distinct
  := by
  cases p with
  | running s => apply State.Cached.distinct h
  | terminated realm => apply h

/-- However processes are started and ended on a store that was empty at first, no two records
have the same `coverID`, and `wishList` lists the records there are, each once: every index
below `getWishlistCount` is that of a record that has not been deleted. -/
theorem wishlist_store_invariant (F : Foundation) (signals : List Signal) (p : Process)
    (h : (lifecycle F).run (.terminated Table.empty) signals = .ok p) :
  p.realm.Distinct ∧ ∀ s, p = .running s →
    s.wishList.Nodup ∧ (∀ row, row ∈ s.wishList ↔ row ∈ s.realm.ids) ∧
      ∀ i < s.getWishlistCount, ∃ row book, s.wishList[i]? = some row ∧
        s.realm.find? row = some book
  := by
  have hcached : p.Cached := by
    apply Machine.invariant (M := lifecycle F) (P := Process.Cached) _ _ h
    · intro p signal q hp hq
      apply hp.step hq
    · apply Realm.Distinct.empty
  constructor
  · apply hcached.distinct
  · rintro s rfl
    have hids : s.wishList = s.realm.ids := State.Cached.wishList hcached
    refine ⟨?_, ?_, ?_⟩
    · rw [hids]
      apply s.realm.nodup
    · intro row
      rw [hids]
    · intro i hi
      have hrow : s.wishList[i] ∈ s.realm.ids := by
        rw [← hids]
        apply List.getElem_mem
      obtain ⟨book, hbook⟩ := Option.isSome_iff_exists.mp (Table.isSome_find?.mpr hrow)
      exact ⟨s.wishList[i], book, List.getElem?_eq_getElem hi, hbook⟩

/-- A book is added, and the process ends between the two transactions that would remove
it. -/
theorem wishlist_store_invariant_dune :
  ∃ p, (lifecycle .onPlainText).run (.terminated Table.empty)
      [.launch, .act (.screen (.searchBarTextDidChange "dune")), .act (.beginRequest 1),
        .act (.bookInfoResponse 0 (responseOf [document 7 "Dune"])),
        .act (.coverResponse ⟨0, 0, bookCoverRequestURL 7⟩ (some [1])),
        .act (.coversNotified 0), .act (.screen .runMainBlock),
        .act (.userPressedWishlistButton 0), .act .addOrDeleteBookFromWishlist,
        .act (.screen (.userSelectedTab .wishlist)), .act (.screen .runMainBlock),
        .act (.screen .runMainBlock), .act (.userPressedWishlistButton 0), .terminate,
        .launch] = .ok p ∧
    (p.realm.Distinct ∧ ∀ s, p = .running s →
      s.wishList.Nodup ∧ (∀ row, row ∈ s.wishList ↔ row ∈ s.realm.ids) ∧
        ∀ i < s.getWishlistCount, ∃ row book, s.wishList[i]? = some row ∧
          s.realm.find? row = some book)
  := by
  apply (exists_congr (fun p => and_iff_left_of_imp _)).mpr
  · exact ⟨_, rfl⟩
  · apply wishlist_store_invariant

end OpenLibrary
