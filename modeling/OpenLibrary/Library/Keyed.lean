import OpenLibrary.Library.Table
import Mathlib.Logic.Function.Basic

/-!
# Tables with a key

A table whose rows have different keys is a finite map from the keys: `lookup` gives the row with a
key, and inserting, changing and deleting rows are updates of it (`lookup_insert`,
`lookup_modify`, `lookup_delete`).
-/

namespace Table

variable {β κ : Type*} (key : β → κ)

/-- No two rows have the same key. -/
def Keyed (t : Table β) : Prop :=
  ∀ i b j c, (i, b) ∈ t.rows → (j, c) ∈ t.rows → key b = key c → i = j

variable {key} {t : Table β} {i : Nat} {b : β} {k : κ}

theorem Keyed.modify (h : t.Keyed key) {f : β → β} (hf : ∀ b, key (f b) = key b) (i : Nat) :
  (t.modify i f).Keyed key
  := by
  have hkey (j : Nat) (b : β) : key (if j = i then f b else b) = key b := by
    split
    · apply hf
    · rfl
  intro j c l d hc hd hk
  obtain ⟨c', hc', rfl⟩ := mem_modify.mp hc
  obtain ⟨d', hd', rfl⟩ := mem_modify.mp hd
  rw [hkey, hkey] at hk
  apply h j c' l d' hc' hd' hk

theorem Keyed.delete (h : t.Keyed key) (p : β → Bool) :
  (t.delete p).Keyed key
  := by
  intro i b j c hb hc
  apply h i b j c (mem_delete.mp hb).1 (mem_delete.mp hc).1

variable [DecidableEq κ]

variable (key) in
/-- The first row with a key. -/
def lookup (t : Table β) (k : κ) : Option β :=
  (t.rows.find? (fun r => key r.2 == k)).map Prod.snd

theorem mem_of_lookup (h : t.lookup key k = some b) :
  ∃ i, (i, b) ∈ t.rows ∧ key b = k
  := by
  obtain ⟨r, hr, rfl⟩ := Option.map_eq_some_iff.mp h
  use r.1, List.mem_of_find?_eq_some hr
  apply eq_of_beq
  apply List.find?_some hr

theorem lookup_eq_none :
  t.lookup key k = none ↔ ∀ i b, (i, b) ∈ t.rows → key b ≠ k
  := by
  rw [lookup, Option.map_eq_none_iff, List.find?_eq_none]
  constructor
  · intro h i b hb hk
    apply h (i, b) hb
    apply beq_iff_eq.mpr hk
  · intro h r hr hk
    apply h r.1 r.2 hr (eq_of_beq hk)

namespace Keyed

/-- Where the keys differ, the row with a key is the one that is found. -/
theorem lookup_eq_some (h : t.Keyed key) :
  t.lookup key k = some b ↔ ∃ i, (i, b) ∈ t.rows ∧ key b = k
  := by
  constructor
  · apply mem_of_lookup
  · rintro ⟨i, hb, hk⟩
    cases hfound : t.lookup key k with
    | none => apply absurd hk (lookup_eq_none.mp hfound i b hb)
    | some c =>
        obtain ⟨j, hc, hk'⟩ := mem_of_lookup hfound
        obtain rfl := h i b j c hb hc (hk.trans hk'.symm)
        rw [eq_of_mem hb hc]

theorem insert (h : t.Keyed key) (hnew : t.lookup key (key b) = none) :
  (t.insert b).Keyed key
  := by
  intro i c j d hc hd hk
  rcases mem_insert.mp hc with hold | he
  · rcases mem_insert.mp hd with hold' | he'
    · apply h i c j d hold hold' hk
    · obtain ⟨rfl, rfl⟩ := Prod.mk.inj he'
      apply absurd hk (lookup_eq_none.mp hnew i c hold)
  · obtain ⟨rfl, rfl⟩ := Prod.mk.inj he
    rcases mem_insert.mp hd with hold' | he'
    · apply absurd hk.symm (lookup_eq_none.mp hnew j d hold')
    · apply (Prod.mk.inj he').1.symm

/-- Inserting a row with a new key maps the key to it. -/
theorem lookup_insert (h : t.Keyed key) (hnew : t.lookup key (key b) = none) :
  (t.insert b).lookup key = Function.update (t.lookup key) (key b) (some b)
  := by
  funext k
  apply Option.ext
  intro c
  rw [(h.insert hnew).lookup_eq_some, Function.update_apply]
  simp only [mem_insert]
  split
  · next hk =>
      constructor
      · rintro ⟨i, hc | hc, hck⟩
        · apply absurd (hck.trans hk) (lookup_eq_none.mp hnew i c hc)
        · rw [(Prod.mk.inj hc).2]
      · intro hc
        obtain rfl := Option.some.inj hc
        exact ⟨t.next, Or.inr rfl, hk.symm⟩
  · next hk =>
      rw [h.lookup_eq_some]
      constructor
      · rintro ⟨i, hc | hc, hck⟩
        · exact ⟨i, hc, hck⟩
        · obtain ⟨-, rfl⟩ := Prod.mk.inj hc
          apply absurd hck.symm hk
      · rintro ⟨i, hc, hck⟩
        exact ⟨i, Or.inl hc, hck⟩

/-- Changing a row, but not its key, changes what its key is mapped to. -/
theorem lookup_modify (h : t.Keyed key) {f : β → β} (hf : ∀ b, key (f b) = key b)
    (hb : (i, b) ∈ t.rows) :
  (t.modify i f).lookup key =
    Function.update (t.lookup key) (key b) ((t.lookup key (key b)).map f)
  := by
  have hfound : t.lookup key (key b) = some b := h.lookup_eq_some.mpr ⟨i, hb, rfl⟩
  funext k
  apply Option.ext
  intro c
  rw [(h.modify hf i).lookup_eq_some, Function.update_apply, hfound]
  simp only [mem_modify]
  split
  · next hk =>
      rw [hk]
      constructor
      · rintro ⟨j, ⟨d, hd, rfl⟩, hkey⟩
        rw [apply_ite key, hf, ite_self] at hkey
        obtain rfl := h j d i b hd hb hkey
        rw [if_pos rfl, eq_of_mem hd hb]
        rfl
      · intro hc
        obtain rfl := Option.some.inj hc
        refine ⟨i, ⟨b, hb, ?_⟩, hf b⟩
        rw [if_pos rfl]
  · next hk =>
      rw [h.lookup_eq_some]
      have hother {j : Nat} {d : β} (hd : (j, d) ∈ t.rows) (hdk : key d = k) : j ≠ i := by
        rintro rfl
        apply hk
        rw [← hdk, eq_of_mem hd hb]
      constructor
      · rintro ⟨j, ⟨d, hd, rfl⟩, hkey⟩
        have hdk : key d = k := by
          rw [apply_ite key, hf, ite_self] at hkey
          apply hkey
        rw [if_neg (hother hd hdk)]
        exact ⟨j, hd, hdk⟩
      · rintro ⟨j, hc, hck⟩
        refine ⟨j, ⟨c, hc, ?_⟩, hck⟩
        rw [if_neg (hother hc hck)]

/-- Deleting the rows with a key maps the key to nothing. -/
theorem lookup_delete (h : t.Keyed key) (k : κ) :
  (t.delete (fun b => key b == k)).lookup key = Function.update (t.lookup key) k none
  := by
  funext l
  apply Option.ext
  intro c
  rw [(h.delete _).lookup_eq_some, Function.update_apply]
  simp only [mem_delete, beq_eq_false_iff_ne]
  split
  · next hl =>
      constructor
      · rintro ⟨i, ⟨-, hne⟩, hc⟩
        apply absurd (hc.trans hl) hne
      · intro hc
        cases hc
  · next hl =>
      rw [h.lookup_eq_some]
      constructor
      · rintro ⟨i, ⟨hc, -⟩, hck⟩
        exact ⟨i, hc, hck⟩
      · rintro ⟨i, hc, hck⟩
        refine ⟨i, ⟨hc, ?_⟩, hck⟩
        rw [hck]
        apply hl

end Keyed

end Table
