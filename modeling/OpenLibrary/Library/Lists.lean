import Mathlib.Data.List.Forall2
import Mathlib.Data.List.Count
import Mathlib.Data.List.Nodup
import Mathlib.Data.List.DropRight

/-!
# Lists

Lists mapped by a function that may fail, lists related element by element, counts after an
element is erased, and lists trimmed at both ends.
-/

namespace List

variable {α β : Type*}

/-- A list is mapped by a function that may fail exactly to the lists of what the function
gives for each element. -/
theorem mapM_eq_some_iff {f : α → Option β} {l : List α} {m : List β} :
  l.mapM f = some m ↔ Forall₂ (fun a b => f a = some b) l m
  := by
  induction l generalizing m with
  | nil =>
      rw [mapM_nil, forall₂_nil_left_iff]
      constructor
      · intro h
        apply (Option.some.inj h).symm
      · rintro rfl
        rfl
  | cons a l ih =>
      rw [mapM_cons, forall₂_cons_left_iff]
      constructor
      · intro h
        obtain ⟨b, hb, h⟩ := Option.bind_eq_some_iff.mp h
        obtain ⟨m', hm', h⟩ := Option.bind_eq_some_iff.mp h
        obtain rfl := Option.some.inj h
        exact ⟨b, m', hb, ih.mp hm', rfl⟩
      · rintro ⟨b, m', hb, hm', rfl⟩
        rw [hb, ih.mpr hm']
        rfl

/-- Where the function gives something for each element, the list is mapped. -/
theorem exists_mapM_eq_some {f : α → Option β} {l : List α} (h : ∀ a ∈ l, ∃ b, f a = some b) :
  ∃ m, l.mapM f = some m
  := by
  induction l with
  | nil => exact ⟨[], mapM_eq_some_iff.mpr Forall₂.nil⟩
  | cons a l ih =>
      obtain ⟨b, hb⟩ := h a mem_cons_self
      obtain ⟨m, hm⟩ := ih (fun a' ha' => h a' (mem_cons_of_mem a ha'))
      use b :: m
      apply mapM_eq_some_iff.mpr
      exact Forall₂.cons hb (mapM_eq_some_iff.mp hm)

/-- What a function that may fail gives for the elements of a list, where it gives something for
each, is related to them as each is. -/
theorem forall₂_filterMap {f : α → Option β} {R : α → β → Prop} {l : List α}
    (h : ∀ a ∈ l, ∃ b, f a = some b ∧ R a b) :
  Forall₂ R l (l.filterMap f)
  := by
  induction l with
  | nil => apply Forall₂.nil
  | cons a l ih =>
      obtain ⟨b, hb, hR⟩ := h a mem_cons_self
      rw [filterMap_cons_some hb]
      apply Forall₂.cons hR
      apply ih
      intro a' ha'
      apply h a' (mem_cons_of_mem a ha')

/-- A function that may fail, but gives something for each element of a list. -/
theorem map_some_filterMap {f : α → Option β} {l : List α} (h : ∀ a ∈ l, (f a).isSome) :
  (l.filterMap f).map some = l.map f
  := by
  induction l with
  | nil => rfl
  | cons a l ih =>
      obtain ⟨b, hb⟩ := Option.isSome_iff_exists.mp (h a mem_cons_self)
      rw [filterMap_cons_some hb, map_cons, map_cons, hb, ih]
      intro a' ha'
      apply h a' (mem_cons_of_mem a ha')

namespace Forall₂

variable {R : α → β → Prop} {l : List α} {m : List β}

/-- Related elements may be put at one index. -/
theorem set (h : Forall₂ R l m) {a : α} {b : β} (hR : R a b) (i : Nat) :
  Forall₂ R (l.set i a) (m.set i b)
  := by
  induction h generalizing i with
  | nil => apply Forall₂.nil
  | cons hhead htail ih =>
      cases i with
      | zero => apply Forall₂.cons hR htail
      | succ i => apply Forall₂.cons hhead (ih i)

/-- An element may be changed so that it stays related to the one at its index. -/
theorem modify (h : Forall₂ R l m) {f : β → β} {i : Nat}
    (hf : ∀ a b, l[i]? = some a → R a b → R a (f b)) :
  Forall₂ R l (m.modify i f)
  := by
  induction h generalizing i with
  | nil =>
      rw [modify_nil]
      apply Forall₂.nil
  | cons hhead htail ih =>
      cases i with
      | zero =>
          rw [modify_zero_cons]
          apply Forall₂.cons (hf _ _ rfl hhead) htail
      | succ i =>
          rw [modify_succ_cons]
          apply Forall₂.cons hhead
          apply ih
          intro a b ha
          apply hf a b ha

/-- The elements at one index are related. -/
theorem of_getElem? (h : Forall₂ R l m) {i : Nat} {a : α} {b : β} (ha : l[i]? = some a)
    (hb : m[i]? = some b) :
  R a b
  := by
  obtain ⟨hi, rfl⟩ := getElem?_eq_some_iff.mp ha
  obtain ⟨hj, rfl⟩ := getElem?_eq_some_iff.mp hb
  apply h.get hi hj

end Forall₂

/-- Changing an element before a list is mapped, or after. -/
theorem map_modify {g : α → β} {f : α → α} {f' : β → β} (h : ∀ a, g (f a) = f' (g a))
    (l : List α) (i : Nat) :
  (l.modify i f).map g = (l.map g).modify i f'
  := by
  induction l generalizing i with
  | nil => rw [modify_nil, map_nil, modify_nil]
  | cons a l ih =>
      cases i with
      | zero => rw [modify_zero_cons, map_cons, map_cons, modify_zero_cons, h]
      | succ i => rw [modify_succ_cons, map_cons, map_cons, modify_succ_cons, ih]

/-- In a list without repetitions an element has one index. -/
theorem idxOf_of_getElem? [DecidableEq α] {l : List α} (hl : l.Nodup) {i : Nat} {a : α}
    (h : l[i]? = some a) :
  l.idxOf a = i
  := by
  have ha : a ∈ l := mem_of_getElem? h
  apply (getElem?_inj (idxOf_lt_length_iff.mpr ha) hl).mp
  rw [getElem?_idxOf ha, h]

/-- Changing a function at an element of a list without repetitions changes the list it maps the
list to at the index of the element. -/
theorem map_update_eq_modify [DecidableEq α] {l : List α} (hl : l.Nodup) (g : α → β) (a : α)
    (f : β → β) :
  l.map (Function.update g a (f (g a))) = (l.map g).modify (l.idxOf a) f
  := by
  induction l with
  | nil => rw [map_nil, map_nil, modify_nil]
  | cons b l ih =>
      obtain ⟨hb, hl⟩ := nodup_cons.mp hl
      rw [map_cons, map_cons]
      rcases eq_or_ne b a with rfl | hne
      · rw [idxOf_cons_self, modify_zero_cons, Function.update_self]
        apply congrArg (cons _)
        apply map_congr_left
        intro c hc
        apply Function.update_of_ne
        rintro rfl
        apply hb hc
      · rw [idxOf_cons_ne l hne, modify_succ_cons, Function.update_of_ne hne, ih hl]

/-- Erasing an element that is in a list leaves one less of that element. -/
theorem count_erase_add_count_singleton [DecidableEq α] {l : List α} {a b : α} (h : b ∈ l) :
  (l.erase b).count a + [b].count a = l.count a
  := by
  rcases eq_or_ne a b with rfl | hab
  · have := count_pos_iff.mpr h
    rw [count_erase_self, count_singleton_self]
    omega
  · rw [count_erase_of_ne hab, count_singleton, if_neg (by simpa using hab.symm), Nat.add_zero]

/-- Of the elements with a property, one less is left when one of them is left out. -/
theorem countP_and_ne_add_one [DecidableEq α] {p : α → Bool} {l : List α} {x : α} (hl : l.Nodup)
    (hx : x ∈ l) (hp : p x) :
  l.countP (fun a => p a && a != x) + 1 = l.countP p
  := by
  have hperm := perm_cons_erase hx
  have hne : ∀ a ∈ l.erase x, (p a && a != x) = p a := by
    intro a ha
    rw [bne_iff_ne.mpr (hl.mem_erase_iff.mp ha).1, Bool.and_true]
  rw [hperm.countP_eq, hperm.countP_eq, countP_cons_of_neg (by simp), countP_cons_of_pos hp,
    countP_congr (fun a ha => by rw [hne a ha])]

/-! ### Trimming -/

/-- A list without the elements with a property at its two ends. -/
def trimWhile (p : α → Bool) (l : List α) : List α :=
  (l.dropWhile p).rdropWhile p

section Trimming

variable {p q : α → Bool} {l : List α} {x : α}

theorem trimWhile_map {p : β → Bool} (f : α → β) :
  (l.map f).trimWhile p = (l.trimWhile (p ∘ f)).map f
  := by
  rw [trimWhile, dropWhile_map, rdropWhile, ← map_reverse, dropWhile_map, ← map_reverse]
  rfl

theorem trimWhile_sublist :
  l.trimWhile p <+ l
  := by
  apply Sublist.trans _ (dropWhile_sublist p)
  apply IsPrefix.sublist
  apply rdropWhile_prefix

theorem mem_of_mem_trimWhile (h : x ∈ l.trimWhile p) :
  x ∈ l
  := trimWhile_sublist.subset h

theorem dropWhile_congr (h : ∀ x ∈ l, p x = q x) :
  l.dropWhile p = l.dropWhile q
  := by
  induction l with
  | nil => rfl
  | cons a l ih =>
      rw [dropWhile_cons, dropWhile_cons, h a mem_cons_self,
        ih (fun x hx => h x (mem_cons_of_mem a hx))]

/-- Trimming depends only on which elements of the list have the property. -/
theorem trimWhile_congr (h : ∀ x ∈ l, p x = q x) :
  l.trimWhile p = l.trimWhile q
  := by
  rw [trimWhile, trimWhile, dropWhile_congr h, rdropWhile, rdropWhile]
  rw [dropWhile_congr (p := p)]
  intro x hx
  apply h x ((dropWhile_suffix q).subset (mem_reverse.mp hx))

/-- What trimming leaves does not begin with an element that has the property. -/
theorem not_of_trimWhile_eq_cons {m : List α} (h : l.trimWhile p = x :: m) :
  ¬ p x
  := by
  obtain ⟨b, hb⟩ := rdropWhile_prefix p (l.dropWhile p)
  rw [← trimWhile, h, cons_append] at hb
  have hx := head?_dropWhile_not p l
  rw [← hb, head?_cons] at hx
  simpa using hx

/-- What trimming leaves does not end with an element that has the property. -/
theorem not_of_trimWhile_eq_concat {m : List α} (h : l.trimWhile p = m ++ [x]) :
  ¬ p x
  := by
  have hx := head?_dropWhile_not p (l.dropWhile p).reverse
  rw [← reverse_reverse (dropWhile p _), ← rdropWhile, ← trimWhile, h, reverse_concat,
    head?_cons] at hx
  simpa using hx

/-- A list is what trimming leaves, between elements with the property. -/
theorem exists_append_trimWhile (p : α → Bool) (l : List α) :
  ∃ a b, l = a ++ l.trimWhile p ++ b ∧ (∀ x ∈ a, p x) ∧ ∀ x ∈ b, p x
  := by
  refine ⟨l.takeWhile p, (l.dropWhile p).rtakeWhile p, ?_, ?_, ?_⟩
  · rw [append_assoc, trimWhile, rdropWhile_append_rtakeWhile, takeWhile_append_dropWhile]
  · intro x hx
    apply mem_takeWhile_imp hx
  · intro x hx
    apply mem_rtakeWhile_imp hx

/-- Elements with the property at the ends of a list do not matter. -/
theorem trimWhile_append_append {a b : List α} (ha : ∀ x ∈ a, p x) (hb : ∀ x ∈ b, p x) :
  (a ++ l ++ b).trimWhile p = l.trimWhile p
  := by
  have hright {m : List α} : (m ++ b).rdropWhile p = m.rdropWhile p := by
    rw [rdropWhile, reverse_append, dropWhile_append_of_pos]
    · rfl
    · intro x hx
      apply hb x (mem_reverse.mp hx)
  rw [trimWhile, append_assoc, dropWhile_append_of_pos ha, dropWhile_append]
  split
  · next h =>
      rw [trimWhile, isEmpty_iff.mp h, dropWhile_eq_nil_iff.mpr hb]
  · rw [hright]
    rfl

/-- What does not begin or end with an element that has the property is left alone. -/
theorem trimWhile_eq_self (hfirst : ∀ x m, l = x :: m → ¬ p x)
    (hlast : ∀ m x, l = m ++ [x] → ¬ p x) :
  l.trimWhile p = l
  := by
  have hd : l.dropWhile p = l := by
    cases l with
    | nil => rfl
    | cons x m => apply dropWhile_cons_of_neg (hfirst x m rfl)
  rw [trimWhile, hd]
  cases l using reverseRecOn with
  | nil => rfl
  | append_singleton m x => apply rdropWhile_concat_neg _ _ _ (hlast m x rfl)

/-- Trimming fewer elements first does not matter. -/
theorem trimWhile_trimWhile (hqp : ∀ x, q x → p x) :
  (l.trimWhile q).trimWhile p = l.trimWhile p
  := by
  obtain ⟨a, b, hl, ha, hb⟩ := exists_append_trimWhile q l
  conv_rhs => rw [hl]
  rw [trimWhile_append_append]
  · intro x hx
    apply hqp x (ha x hx)
  · intro x hx
    apply hqp x (hb x hx)

theorem takeWhile_append_of_not {a c b : List α} (ha : ∀ x ∈ a, p x) (hne : c ≠ [])
    (hc : ∀ x m, c = x :: m → ¬ p x) :
  (a ++ c ++ b).takeWhile p = a
  := by
  cases c with
  | nil => contradiction
  | cons x m =>
      rw [append_assoc, takeWhile_append_of_pos ha, cons_append,
        takeWhile_cons_of_neg (hc x m rfl), append_nil]

/-- Trimming fewer elements leaves the same exactly when no others are at the ends. -/
theorem trimWhile_eq_trimWhile_iff (hqp : ∀ x, q x → p x) :
  l.trimWhile q = l.trimWhile p ↔
    (∀ x ∈ l.takeWhile p, q x) ∧ ∀ x ∈ l.reverse.takeWhile p, q x
  := by
  constructor
  · intro h
    obtain ⟨a, b, hl, ha, hb⟩ := exists_append_trimWhile q l
    rw [h] at hl
    rcases eq_or_ne (l.trimWhile p) [] with hc | hc
    · have hall : ∀ x ∈ l, q x := by
        intro x hx
        rw [hl, hc, append_nil] at hx
        apply (mem_append.mp hx).elim (ha x) (hb x)
      constructor
      · intro x hx
        apply hall x ((takeWhile_sublist p).subset hx)
      · intro x hx
        apply hall x (mem_reverse.mp ((takeWhile_sublist p).subset hx))
    · constructor
      · rw [hl, takeWhile_append_of_not (fun x hx => hqp x (ha x hx)) hc]
        · apply ha
        · intro x m hm
          apply not_of_trimWhile_eq_cons hm
      · rw [hl, reverse_append, reverse_append, ← append_assoc, takeWhile_append_of_not]
        · intro x hx
          apply hb x (mem_reverse.mp hx)
        · intro x hx
          apply hqp x (hb x (mem_reverse.mp hx))
        · apply reverse_ne_nil_iff.mpr hc
        · intro x m hm
          apply not_of_trimWhile_eq_concat (m := m.reverse)
          rw [← reverse_reverse (trimWhile p l), hm, reverse_cons]
  · rintro ⟨hleft, hright⟩
    obtain ⟨a, b, hl, ha, hb⟩ := exists_append_trimWhile p l
    have haq : ∀ x ∈ a, q x := by
      intro x hx
      apply hleft x
      rw [hl, append_assoc, takeWhile_append_of_pos ha]
      apply mem_append_left _ hx
    have hbq : ∀ x ∈ b, q x := by
      intro x hx
      apply hright x
      rw [hl, reverse_append, takeWhile_append_of_pos]
      · apply mem_append_left _ (mem_reverse.mpr hx)
      · intro y hy
        apply hb y (mem_reverse.mp hy)
    conv_lhs => rw [hl]
    rw [trimWhile_append_append haq hbq]
    apply trimWhile_eq_self
    · intro x m hm hx
      apply not_of_trimWhile_eq_cons hm (hqp x hx)
    · intro m x hm hx
      apply not_of_trimWhile_eq_concat hm (hqp x hx)

end Trimming

end List
