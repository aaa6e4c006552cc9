import Mathlib.Data.Set.Insert
import Mathlib.Data.List.Induction

/-!
# Sets under assignments

An assignment `(a, b)` puts `a` into a set when `b` is true and takes it out when `b` is
false. After a list of assignments, the last one of an element decides whether the element
is in the set (`mem_foldl_assign`).
-/

variable {α : Type*}

/-- The set after an assignment. -/
def assign (S : Set α) (w : α × Bool) : Set α :=
  {x | x = w.1 ∧ w.2 = true ∨ x ≠ w.1 ∧ x ∈ S}

theorem mem_assign {S : Set α} {w : α × Bool} {x : α} :
  x ∈ assign S w ↔ x = w.1 ∧ w.2 = true ∨ x ≠ w.1 ∧ x ∈ S
  := Iff.rfl

/-- Putting an element in. -/
theorem assign_true (S : Set α) (a : α) :
  assign S (a, true) = S ∪ {a}
  := by
  ext x
  rw [mem_assign, Set.mem_union, Set.mem_singleton_iff]
  rcases eq_or_ne x a with rfl | hx
  · simp
  · simp [hx]

/-- Taking an element out. -/
theorem assign_false (S : Set α) (a : α) :
  assign S (a, false) = S \ {a}
  := by
  ext x
  rw [mem_assign, Set.mem_sdiff, Set.mem_singleton_iff]
  simp [and_comm]

variable [DecidableEq α]

/-- What the last assignment of an element is, if there is one. -/
def lastAssigned (x : α) (ws : List (α × Bool)) : Option Bool :=
  (ws.filter (fun w => w.1 = x)).getLast?.map Prod.snd

@[simp]
theorem lastAssigned_nil (x : α) :
  lastAssigned x [] = none
  := rfl

/-- One more assignment is the last one of its element. -/
theorem lastAssigned_concat (x : α) (ws : List (α × Bool)) (w : α × Bool) :
  lastAssigned x (ws ++ [w]) = if w.1 = x then some w.2 else lastAssigned x ws
  := by
  rw [lastAssigned, List.filter_append]
  split
  · next hw => simp [hw]
  · next hw => simp [hw, lastAssigned]

/-- After a list of assignments an element is in the set exactly when its last assignment put
it in, or there was none and it was in the set before. -/
theorem mem_foldl_assign {S : Set α} {ws : List (α × Bool)} {x : α} :
  x ∈ ws.foldl assign S ↔
    lastAssigned x ws = some true ∨ lastAssigned x ws = none ∧ x ∈ S
  := by
  induction ws using List.reverseRecOn with
  | nil => simp
  | append_singleton ws w ih =>
      rw [List.foldl_append, List.foldl_cons, List.foldl_nil, mem_assign, lastAssigned_concat,
        ih]
      rcases eq_or_ne w.1 x with rfl | hw
      · simp
      · simp [hw, hw.symm]
