import OpenLibrary.Library.Table
import OpenLibrary.Model.Foundation
import Mathlib.Logic.Function.Basic

/-!
# Books

A `Book` is detached, an object in memory that no store knows of, or stored, a record of the
Realm store. `Objects` is the memory of the detached ones, `Realm` the store, and `BookRef`
a reference to either kind. Objects and records are known by numbers, and so are the calls of
`requestAPI` and the timers of a process.
-/

namespace OpenLibrary

/-- The fields of `Book`, with the defaults the class declares. -/
structure Book where
  coverID : Int := intMin
  coverData : Data := []
  title : String := ""
  subtitle : String := ""
  authorName : String := ""
  firstPublishYear : Int := intMin
  publisher : String := ""
  editionCount : Int := intMin
  isInWishlist : Bool := false
deriving DecidableEq

/-- `isInWishlist = !isInWishlist`. -/
def Book.toggle (b : Book) : Book :=
  { b with isInWishlist := !b.isInWishlist }

@[simp]
theorem Book.coverID_toggle (b : Book) :
  b.toggle.coverID = b.coverID
  := rfl

@[simp]
theorem Book.isInWishlist_toggle (b : Book) :
  b.toggle.isInWishlist = !b.isInWishlist
  := rfl

/-- A reference to a `Book`. -/
inductive BookRef where
  | detached (o : Nat)
  | stored (row : Nat)
deriving DecidableEq

/-! ### Detached objects -/

/-- The detached objects: what each holds, and the identity the next one gets. -/
structure Objects where
  book : Nat → Book
  next : Nat

namespace Objects

/-- No object has been made yet. -/
def empty : Objects where
  book _ := {}
  next := 0

/-- The objects after making one more. -/
def alloc (objects : Objects) (b : Book) : Objects where
  book := Function.update objects.book objects.next b
  next := objects.next + 1

/-- The objects after changing one. -/
def modify (objects : Objects) (o : Nat) (f : Book → Book) : Objects where
  book := Function.update objects.book o (f (objects.book o))
  next := objects.next

@[simp]
theorem next_alloc (objects : Objects) (b : Book) :
  (objects.alloc b).next = objects.next + 1
  := rfl

theorem book_alloc (objects : Objects) (b : Book) (o : Nat) :
  (objects.alloc b).book o = if o = objects.next then b else objects.book o
  := Function.update_apply _ _ _ _

theorem book_modify (objects : Objects) (o p : Nat) (f : Book → Book) :
  (objects.modify o f).book p = if p = o then f (objects.book o) else objects.book p
  := Function.update_apply _ _ _ _

end Objects

/-! ### The store -/

/-- The Realm store: a table of `Book` records. -/
abbrev Realm := Table Book

namespace Realm

/-- `realm.objects(Book.self).filter("coverID == c").count`. -/
def countCover (realm : Realm) (c : Int) : Nat :=
  realm.count (fun b => b.coverID == c)

/-- The store holds a record whose `coverID` is `c`. -/
def Holds (realm : Realm) (c : Int) : Prop :=
  ∃ row b, (row, b) ∈ realm.rows ∧ b.coverID = c

theorem countCover_eq_zero {realm : Realm} {c : Int} :
  realm.countCover c = 0 ↔ ¬ realm.Holds c
  := by
  rw [countCover, Table.count_eq_zero]
  constructor
  · rintro h ⟨row, b, hb, rfl⟩
    simpa using h row b hb
  · intro h row b hb
    rw [beq_eq_false_iff_ne]
    intro hc
    apply h ⟨row, b, hb, hc⟩

theorem countCover_ne_zero {realm : Realm} {c : Int} :
  realm.countCover c ≠ 0 ↔ realm.Holds c
  := by
  rw [Ne, countCover_eq_zero, Classical.not_not]

/-- Adding a record adds its `coverID` to those the store holds. -/
theorem holds_insert {realm : Realm} {b : Book} {c : Int} :
  Holds (realm.insert b) c ↔ realm.Holds c ∨ c = b.coverID
  := by
  constructor
  · rintro ⟨row, d, hd, rfl⟩
    rcases Table.mem_insert.mp hd with hd | hd
    · left
      use row, d
    · right
      rw [(Prod.mk.inj hd).2]
  · rintro (⟨row, d, hd, rfl⟩ | rfl)
    · exact ⟨row, d, Table.mem_insert.mpr (Or.inl hd), rfl⟩
    · exact ⟨realm.next, b, Table.mem_insert.mpr (Or.inr rfl), rfl⟩

/-- Deleting the records with one `coverID` leaves the store holding the others. -/
theorem holds_delete {realm : Realm} {c d : Int} :
  Holds (realm.delete (fun b => b.coverID == c)) d ↔ realm.Holds d ∧ d ≠ c
  := by
  constructor
  · rintro ⟨row, b, hb, rfl⟩
    obtain ⟨hb, hc⟩ := Table.mem_delete.mp hb
    exact ⟨⟨row, b, hb, rfl⟩, beq_eq_false_iff_ne.mp hc⟩
  · rintro ⟨⟨row, b, hb, rfl⟩, hc⟩
    exact ⟨row, b, Table.mem_delete.mpr ⟨hb, beq_eq_false_iff_ne.mpr hc⟩, rfl⟩

/-- Toggling a flag leaves the store holding the same `coverID`s. -/
theorem holds_toggle {realm : Realm} {row : Nat} {c : Int} :
  Holds (realm.modify row Book.toggle) c ↔ realm.Holds c
  := by
  constructor
  · rintro ⟨i, d, hd, rfl⟩
    obtain ⟨b, hb, rfl⟩ := Table.mem_modify.mp hd
    use i, b, hb
    split <;> rfl
  · rintro ⟨i, b, hb, rfl⟩
    use i, if i = row then b.toggle else b
    constructor
    · apply Table.mem_modify.mpr
      use b, hb
    · split <;> rfl

end Realm

end OpenLibrary
