import OpenLibrary.Library.Machine
import Mathlib.Data.List.Perm.Basic

/-!
# Runs up to the order of independent actions

Two actions that commute can be exchanged where they are neighbours in a run: it succeeds or fails
to succeed as before, and ends in the same state (`run_iff_of_exchange`). In particular actions that
commute with one another can be performed in any order (`Exchange.of_perm`).
-/

namespace Machine

variable {σ α ε : Type*}

/-- Two lists of actions that differ by exchanges of neighbours that are independent. -/
inductive Exchange (I : α → α → Prop) : List α → List α → Prop
  | nil : Exchange I [] []
  | cons (a : α) {as bs : List α} (h : Exchange I as bs) : Exchange I (a :: as) (a :: bs)
  | swap {a b : α} (h : I a b) (as : List α) : Exchange I (a :: b :: as) (b :: a :: as)
  | trans {as bs cs : List α} (h : Exchange I as bs) (h' : Exchange I bs cs) : Exchange I as cs

namespace Exchange

variable {I : α → α → Prop} {as bs : List α}

theorem symm (hI : ∀ {a b}, I a b → I b a) (h : Exchange I as bs) :
  Exchange I bs as
  := by
  induction h with
  | nil => apply Exchange.nil
  | cons a _ ih => apply ih.cons a
  | swap h as => apply Exchange.swap (hI h) as
  | trans _ _ ih ih' => apply ih'.trans ih

/-- Actions independent of one another can be put in any order. -/
theorem of_perm (hI : ∀ {a b}, I a b → I b a) (h : as.Perm bs) (hpairwise : as.Pairwise I) :
  Exchange I as bs
  := by
  induction h with
  | nil => apply Exchange.nil
  | cons a _ ih => apply (ih (List.pairwise_cons.mp hpairwise).2).cons a
  | swap a b as =>
      apply Exchange.swap
      apply (List.pairwise_cons.mp hpairwise).1 a List.mem_cons_self
  | trans h _ ih ih' =>
      apply (ih hpairwise).trans
      apply ih'
      apply (h.pairwise_iff hI).mp hpairwise

end Exchange

variable (M : Machine σ α ε)

/-- Where one action succeeds after another, it does so before it too, with the same state after
both. -/
def Commute (a b : α) : Prop :=
  ∀ s t u, M.step s a = .ok t → M.step t b = .ok u →
    ∃ v, M.step s b = .ok v ∧ M.step v a = .ok u

variable {M} {I : α → α → Prop}

/-- Actions that commute, and bring a history variable to the same value in either order, commute
with the history variable. -/
theorem Commute.withHistory {γ : Type*} {next : σ → γ → α → γ} {a b : α} (h : M.Commute a b)
    (hnext : ∀ {s t v} g, M.step s a = .ok t → M.step s b = .ok v →
      next t (next s g a) b = next v (next s g b) a) :
  (M.withHistory next).Commute a b
  := by
  rintro x y z hy hz
  obtain ⟨hy, hg⟩ := step_withHistory.mp hy
  obtain ⟨hz, hg'⟩ := step_withHistory.mp hz
  obtain ⟨v, hv, hvz⟩ := h x.1 y.1 z.1 hy hz
  use (v, next x.1 x.2 b)
  constructor
  · exact step_withHistory.mpr ⟨hv, rfl⟩
  · apply step_withHistory.mpr
    use hvz
    rw [hg', hg]
    apply hnext x.2 hy hv

/-- Exchanging actions that commute leaves a run that succeeds where it leads. -/
theorem run_of_exchange (hI : ∀ {a b}, I a b → M.Commute a b) {as bs : List α}
    (h : Exchange I as bs) {s u : σ} (hrun : M.run s as = .ok u) :
  M.run s bs = .ok u
  := by
  induction h generalizing s with
  | nil => apply hrun
  | cons a _ ih =>
      obtain ⟨t, ht, hrun⟩ := run_cons.mp hrun
      apply run_cons.mpr
      use t, ht
      apply ih hrun
  | @swap a b hab as =>
      obtain ⟨t, ht, hrun⟩ := run_cons.mp hrun
      obtain ⟨v, hv, hrun⟩ := run_cons.mp hrun
      obtain ⟨w, hw, hvw⟩ := hI hab s t v ht hv
      apply run_cons.mpr
      use w, hw
      apply run_cons.mpr
      use v, hvw
  | trans _ _ ih ih' => apply ih' (ih hrun)

/-- A run succeeds in either order of independent actions, with the same state in the end. -/
theorem run_iff_of_exchange (hsymm : ∀ {a b}, I a b → I b a)
    (hI : ∀ {a b}, I a b → M.Commute a b) {as bs : List α} (h : Exchange I as bs) {s u : σ} :
  M.run s as = .ok u ↔ M.run s bs = .ok u
  := by
  constructor
  · apply run_of_exchange hI h
  · apply run_of_exchange hI (h.symm hsymm)

end Machine
