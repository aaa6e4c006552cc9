import Mathlib.Data.List.Basic
import Mathlib.Data.List.Nodup
import Mathlib.Data.List.Perm.Basic

/-!
# Tables of rows

A `Table β` is a list of rows of `β`, each under an identifier, together with the identifier
the next row gets. No two rows have the same identifier, and an identifier is never given
again. Rows are added at the end, changed in place, and deleted without keeping the order:
the last row takes the place of a deleted one (`removeUnordered`).
-/

section Unordered

variable {α : Type*}

/-- The elements of a list not satisfying `p`: going from the end to the beginning, the last
remaining element takes the place of each element removed. -/
def removeUnordered (p : α → Bool) : List α → List α
  | [] => []
  | x :: xs =>
      if p x then
        match (removeUnordered p xs).getLast? with
        | none => []
        | some y => y :: (removeUnordered p xs).dropLast
      else
        x :: removeUnordered p xs

theorem removeUnordered_perm (p : α → Bool) (l : List α) :
  (removeUnordered p l).Perm (l.filter (fun x => !p x))
  := by
  induction l with
  | nil => rfl
  | cons x xs ih =>
      cases hx : p x with
      | false =>
          rw [removeUnordered, hx, List.filter_cons_of_pos (by simp [hx])]
          apply List.Perm.cons x ih
      | true =>
          rw [removeUnordered, hx, List.filter_cons_of_neg (by simp [hx])]
          apply List.Perm.trans _ ih
          rcases List.eq_nil_or_concat (removeUnordered p xs) with h | ⟨ys, y, h⟩
          · simp [h]
          · rw [h]
            simpa using (List.perm_append_singleton y ys).symm

theorem mem_removeUnordered {p : α → Bool} {l : List α} {x : α} :
  x ∈ removeUnordered p l ↔ x ∈ l ∧ p x = false
  := by
  rw [(removeUnordered_perm p l).mem_iff, List.mem_filter]
  simp

/-- A beginning of a list none of whose elements is removed stays a beginning of it. -/
theorem prefix_removeUnordered {p : α → Bool} {k l : List α} (hk : ∀ x ∈ k, p x = false)
    (h : k <+: l) :
  k <+: removeUnordered p l
  := by
  induction k generalizing l with
  | nil => apply List.nil_prefix
  | cons x k ih =>
      obtain ⟨m, rfl⟩ := h
      have hx : p x = false := hk x List.mem_cons_self
      rw [List.cons_append, removeUnordered, hx]
      apply (List.prefix_cons_inj x).mpr
      apply ih
      · intro y hy
        apply hk y (List.mem_cons_of_mem x hy)
      · apply List.prefix_append

/-- Where only the last element is removed, the others stay in place. -/
theorem removeUnordered_concat {p : α → Bool} {l : List α} {y : α} (hl : ∀ x ∈ l, p x = false)
    (hy : p y = true) :
  removeUnordered p (l ++ [y]) = l
  := by
  induction l with
  | nil =>
      rw [List.nil_append, removeUnordered, if_pos hy]
      rfl
  | cons x l ih =>
      rw [List.cons_append, removeUnordered, hl x List.mem_cons_self,
        ih (fun z hz => hl z (List.mem_cons_of_mem x hz))]
      rfl

/-- Removing elements by what a function makes of them. -/
theorem map_removeUnordered {β : Type*} (f : α → β) (p : β → Bool) (l : List α) :
  (removeUnordered (fun x => p (f x)) l).map f = removeUnordered p (l.map f)
  := by
  induction l with
  | nil => rfl
  | cons x xs ih =>
      rw [List.map_cons, removeUnordered, removeUnordered, ← ih]
      split
      · rw [List.getLast?_map]
        cases (removeUnordered (fun x => p (f x)) xs).getLast? with
        | none => rfl
        | some y =>
            rw [Option.map_some]
            dsimp only
            rw [List.map_cons, List.map_dropLast]
      · rw [List.map_cons]

end Unordered

/-- Rows of `β`, each under an identifier of its own. -/
structure Table (β : Type*) where
  /-- The rows with their identifiers. -/
  rows : List (Nat × β)
  /-- The identifier the next row gets. -/
  next : Nat
  /-- No two rows have the same identifier. -/
  nodup : (rows.map Prod.fst).Nodup
  /-- The identifiers given so far are smaller than the next one. -/
  lt_next : ∀ r ∈ rows, r.1 < next

namespace Table

variable {β : Type*}

/-- The table without rows. -/
def empty : Table β where
  rows := []
  next := 0
  nodup := List.nodup_nil
  lt_next := by simp

/-- The identifiers of the rows. -/
def ids (t : Table β) : List Nat :=
  t.rows.map Prod.fst

/-- The row under an identifier. -/
def find? (t : Table β) (i : Nat) : Option β :=
  (t.rows.find? (fun r => r.1 == i)).map Prod.snd

/-- The number of rows satisfying `p`. -/
def count (t : Table β) (p : β → Bool) : Nat :=
  t.rows.countP (fun r => p r.2)

/-- The table with one more row, at the end. -/
def insert (t : Table β) (b : β) : Table β where
  rows := t.rows ++ [(t.next, b)]
  next := t.next + 1
  nodup := by
    rw [List.map_append, List.nodup_append]
    refine ⟨t.nodup, by simp, ?_⟩
    rintro i hi j hj rfl
    obtain ⟨r, hr, rfl⟩ := List.mem_map.mp hi
    have := t.lt_next r hr
    simp only [List.map_cons, List.map_nil, List.mem_singleton] at hj
    omega
  lt_next := by
    intro r hr
    rcases List.mem_append.mp hr with hr | hr
    · apply Nat.lt_succ_of_lt (t.lt_next r hr)
    · obtain rfl := List.mem_singleton.mp hr
      apply Nat.lt_succ_self

/-- A row with `f` applied to it if its identifier is `i`. -/
def modifyRow (i : Nat) (f : β → β) (r : Nat × β) : Nat × β :=
  (r.1, if r.1 = i then f r.2 else r.2)

theorem map_fst_modifyRow (i : Nat) (f : β → β) (l : List (Nat × β)) :
  (l.map (modifyRow i f)).map Prod.fst = l.map Prod.fst
  := by
  rw [List.map_map]
  rfl

/-- The table with `f` applied to the row under an identifier. -/
def modify (t : Table β) (i : Nat) (f : β → β) : Table β where
  rows := t.rows.map (modifyRow i f)
  next := t.next
  nodup := by
    rw [map_fst_modifyRow]
    apply t.nodup
  lt_next := by
    intro r hr
    obtain ⟨r', hr', rfl⟩ := List.mem_map.mp hr
    apply t.lt_next r' hr'

/-- The table without the rows satisfying `p`. -/
def delete (t : Table β) (p : β → Bool) : Table β where
  rows := removeUnordered (fun r => p r.2) t.rows
  next := t.next
  nodup := by
    apply (((removeUnordered_perm _ t.rows).map Prod.fst).nodup_iff).mpr
    apply List.Nodup.sublist (List.filter_sublist.map Prod.fst) t.nodup
  lt_next := by
    intro r hr
    apply t.lt_next r (mem_removeUnordered.mp hr).1

theorem ext {t u : Table β} (hrows : t.rows = u.rows) (hnext : t.next = u.next) :
  t = u
  := by
  cases t
  cases u
  obtain rfl := hrows
  obtain rfl := hnext
  rfl

/-- The rows under one identifier are equal. -/
theorem eq_of_mem {t : Table β} {i : Nat} {b c : β} (hb : (i, b) ∈ t.rows)
    (hc : (i, c) ∈ t.rows) :
  b = c
  := by
  have h := List.inj_on_of_nodup_map t.nodup hb hc rfl
  apply congrArg Prod.snd h

theorem find?_eq_some {t : Table β} {i : Nat} {b : β} :
  t.find? i = some b ↔ (i, b) ∈ t.rows
  := by
  constructor
  · intro h
    obtain ⟨r, hr, rfl⟩ := Option.map_eq_some_iff.mp h
    have hi : r.1 = i := by simpa using List.find?_some hr
    rw [← hi]
    apply List.mem_of_find?_eq_some hr
  · intro h
    cases hf : t.rows.find? (fun r => r.1 == i) with
    | none => simpa using List.find?_eq_none.mp hf (i, b) h
    | some r =>
        have hi : r.1 = i := by simpa using List.find?_some hf
        have hr := List.mem_of_find?_eq_some hf
        rw [find?, hf, ← eq_of_mem (hi ▸ hr : (i, r.2) ∈ t.rows) h]
        rfl

theorem mem_ids {t : Table β} {i : Nat} :
  i ∈ t.ids ↔ ∃ b, (i, b) ∈ t.rows
  := by
  rw [ids, List.mem_map]
  constructor
  · rintro ⟨⟨_, b⟩, hr, rfl⟩
    use b
  · rintro ⟨b, hr⟩
    use (i, b)

/-- An identifier has a row exactly when it is among the identifiers of the table. -/
theorem isSome_find? {t : Table β} {i : Nat} :
  (t.find? i).isSome ↔ i ∈ t.ids
  := by
  rw [mem_ids, Option.isSome_iff_exists]
  simp only [find?_eq_some]

theorem count_eq_zero {t : Table β} {p : β → Bool} :
  t.count p = 0 ↔ ∀ i b, (i, b) ∈ t.rows → p b = false
  := by
  rw [count, List.countP_eq_zero]
  constructor
  · intro h i b hb
    simpa using h (i, b) hb
  · rintro h ⟨i, b⟩ hb
    simpa using h i b hb

theorem mem_insert {t : Table β} {b : β} {r : Nat × β} :
  r ∈ (t.insert b).rows ↔ r ∈ t.rows ∨ r = (t.next, b)
  := by
  rw [insert, List.mem_append, List.mem_singleton]

theorem mem_modify {t : Table β} {i j : Nat} {f : β → β} {c : β} :
  (j, c) ∈ (t.modify i f).rows ↔ ∃ b, (j, b) ∈ t.rows ∧ c = if j = i then f b else b
  := by
  rw [modify, List.mem_map]
  constructor
  · rintro ⟨⟨k, b⟩, hr, he⟩
    obtain ⟨rfl, rfl⟩ := Prod.mk.inj he
    use b, hr
  · rintro ⟨b, hr, rfl⟩
    use (j, b), hr
    rfl

/-- The row under the identifier a table is changed at. -/
theorem find?_modify_self (t : Table β) (i : Nat) (f : β → β) :
  (t.modify i f).find? i = (t.find? i).map f
  := by
  ext b
  rw [Option.map_eq_some_iff, find?_eq_some, mem_modify]
  simp only [find?_eq_some, if_pos, @eq_comm _ b]

/-- The rows under other identifiers than the one a table is changed at. -/
theorem find?_modify_of_ne (t : Table β) {i j : Nat} (f : β → β) (h : j ≠ i) :
  (t.modify i f).find? j = t.find? j
  := by
  ext b
  rw [find?_eq_some, find?_eq_some, mem_modify]
  simp only [if_neg h]
  constructor
  · rintro ⟨c, hc, rfl⟩
    apply hc
  · intro hb
    use b, hb

/-- Inserting a row leaves those under the identifiers given before as they are. -/
theorem find?_insert_of_lt (t : Table β) (b : β) {i : Nat} (h : i < t.next) :
  (t.insert b).find? i = t.find? i
  := by
  ext c
  rw [find?_eq_some, find?_eq_some, mem_insert]
  apply or_iff_left
  intro he
  have hi := (Prod.mk.inj he).1
  omega

theorem mem_delete {t : Table β} {p : β → Bool} {r : Nat × β} :
  r ∈ (t.delete p).rows ↔ r ∈ t.rows ∧ p r.2 = false
  := mem_removeUnordered

/-- Deleting rows leaves the others as they are. -/
theorem find?_delete (t : Table β) (p : β → Bool) (i : Nat) :
  (t.delete p).find? i = (t.find? i).filter (fun b => !p b)
  := by
  ext b
  rw [Option.filter_eq_some_iff, find?_eq_some, find?_eq_some, mem_delete, Bool.not_eq_true']

@[simp]
theorem ids_insert (t : Table β) (b : β) :
  (t.insert b).ids = t.ids ++ [t.next]
  := by
  rw [ids, insert, List.map_append]
  rfl

@[simp]
theorem ids_modify (t : Table β) (i : Nat) (f : β → β) :
  (t.modify i f).ids = t.ids
  := map_fst_modifyRow i f t.rows

theorem mem_ids_delete {t : Table β} {p : β → Bool} {i : Nat} :
  i ∈ (t.delete p).ids ↔ ∃ b, (i, b) ∈ t.rows ∧ p b = false
  := by
  rw [mem_ids]
  simp only [mem_delete]

/-- A beginning of the identifiers none of whose rows is deleted stays a beginning of
them. -/
theorem prefix_ids_delete {t : Table β} {p : β → Bool} {k : List Nat} (h : k <+: t.ids)
    (hk : ∀ i ∈ k, ∀ b, (i, b) ∈ t.rows → p b = false) :
  k <+: (t.delete p).ids
  := by
  have htake := List.prefix_iff_eq_take.mp h
  rw [ids, ← List.map_take] at htake
  have hmem : ∀ r ∈ t.rows.take k.length, p r.2 = false := by
    intro r hr
    apply hk r.1 _ r.2 (List.mem_of_mem_take hr)
    rw [htake]
    apply List.mem_map_of_mem hr
  have hpre := prefix_removeUnordered hmem (List.take_prefix k.length t.rows)
  rw [htake]
  apply hpre.map Prod.fst

/-! ### Values -/

/-- The rows, without their identifiers. -/
def values (t : Table β) : List β :=
  t.rows.map Prod.snd

@[simp]
theorem values_insert (t : Table β) (b : β) :
  (t.insert b).values = t.values ++ [b]
  := by
  rw [values, insert, List.map_append]
  rfl

@[simp]
theorem values_delete (t : Table β) (p : β → Bool) :
  (t.delete p).values = removeUnordered p t.values
  := by
  apply map_removeUnordered Prod.snd

theorem count_eq_countP_values (t : Table β) (p : β → Bool) :
  t.count p = t.values.countP p
  := by
  rw [values, List.countP_map]
  rfl

theorem values_eq_nil {t : Table β} :
  t.values = [] ↔ t.ids = []
  := by
  rw [values, ids, List.map_eq_nil_iff, List.map_eq_nil_iff]

/-- The row of the identifier at an index. -/
theorem getElem?_rows {t : Table β} {k i : Nat} {b : β} (hi : t.ids[k]? = some i)
    (hb : t.find? i = some b) :
  t.rows[k]? = some (i, b)
  := by
  rw [ids, List.getElem?_map] at hi
  obtain ⟨⟨j, c⟩, hrow, rfl⟩ := Option.map_eq_some_iff.mp hi
  rw [hrow, eq_of_mem (List.mem_of_getElem? hrow) (find?_eq_some.mp hb)]

theorem getElem?_values {t : Table β} {k i : Nat} {b : β} (hi : t.ids[k]? = some i)
    (hb : t.find? i = some b) :
  t.values[k]? = some b
  := by
  rw [values, List.getElem?_map, getElem?_rows hi hb]
  rfl

/-- Changing a row changes the value at its index. -/
theorem values_modify {t : Table β} {k i : Nat} (hi : t.ids[k]? = some i) (f : β → β) :
  (t.modify i f).values = t.values.modify k f
  := by
  have hk : k < t.ids.length := (List.getElem?_eq_some_iff.mp hi).1
  apply List.ext_getElem?
  intro j
  change ((t.rows.map (modifyRow i f)).map Prod.snd)[j]? = _
  rw [List.map_map, List.getElem?_map, List.getElem?_modify, values, List.getElem?_map,
    Option.map_eq_map, Option.map_map]
  apply Option.map_congr
  intro r hr
  apply if_congr _ rfl rfl
  have hj : t.ids[j]? = some r.1 := by
    rw [ids, List.getElem?_map, hr]
    rfl
  rw [← List.getElem?_inj hk t.nodup, hi, hj, Option.some.injEq]
  apply eq_comm

end Table
