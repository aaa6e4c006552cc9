import OpenLibrary.Library.Machine
import Mathlib.Order.WellFounded

/-!
# Machines that come to rest

Actions that lower a rank cannot go on forever (`not_endless`). From every state some of them
lead to one in which none can happen, or to a fault (`exists_run_idle`).
-/

namespace Machine

variable {σ α ε : Type*} (M : Machine σ α ε)

/-- A state follows another by an action satisfying `C`. -/
def Follows (C : α → Prop) (t s : σ) : Prop :=
  ∃ a, C a ∧ M.step s a = .ok t

/-- An endless run of actions satisfying `C`. -/
def Endless (C : α → Prop) (states : Nat → σ) (actions : Nat → α) : Prop :=
  ∀ n, C (actions n) ∧ M.step (states n) (actions n) = .ok (states (n + 1))

/-- No action satisfying `C` can happen: each ends in the fault `disabled`. -/
def Idle (C : α → Prop) (disabled : ε) (s : σ) : Prop :=
  ∀ a, C a → M.step s a = .error disabled

variable {M} {C : α → Prop}

/-- Actions that lower a rank lead down a well-founded relation. -/
theorem wellFounded_follows {β : Type*} {r : β → β → Prop} (hr : WellFounded r) (rank : σ → β)
    (h : ∀ {s a t}, C a → M.step s a = .ok t → r (rank t) (rank s)) :
  WellFounded (M.Follows C)
  := by
  apply Subrelation.wf _ (InvImage.wf rank hr)
  rintro t s ⟨a, ha, ht⟩
  apply h ha ht

/-- Such actions cannot go on forever. -/
theorem not_endless (h : WellFounded (M.Follows C)) (states : Nat → σ) (actions : Nat → α) :
  ¬ M.Endless C states actions
  := by
  intro hendless
  apply (wellFounded_iff_isEmpty_descending_chain.mp h).false
  use states
  intro n
  exact ⟨actions n, hendless n⟩

/-- From every state such actions lead to one in which none of them can happen, or to another
fault. -/
theorem exists_run_idle (h : WellFounded (M.Follows C)) (disabled : ε) (s : σ) :
  ∃ as, (∀ a ∈ as, C a) ∧ ((∃ t, M.run s as = .ok t ∧ M.Idle C disabled t) ∨
    ∃ fault, fault ≠ disabled ∧ M.run s as = .error fault)
  := by
  induction s using h.induction with
  | h s ih =>
      by_cases hidle : M.Idle C disabled s
      · use []
        refine ⟨?_, Or.inl ⟨s, rfl, hidle⟩⟩
        intro a ha
        cases ha
      · obtain ⟨a, ha⟩ := Classical.not_forall.mp hidle
        obtain ⟨hC, hstep⟩ := Classical.not_imp.mp ha
        cases ht : M.step s a with
        | error fault =>
            use [a]
            refine ⟨?_, Or.inr ⟨fault, ?_, run_cons_of_error ht []⟩⟩
            · intro b hb
              rw [List.mem_singleton.mp hb]
              apply hC
            · rintro rfl
              apply hstep ht
        | ok t =>
            obtain ⟨as, has, hrun⟩ := ih t ⟨a, hC, ht⟩
            use a :: as
            rw [run_cons_of_ok ht]
            refine ⟨?_, hrun⟩
            intro b hb
            rcases List.mem_cons.mp hb with rfl | hb
            · apply hC
            · apply has b hb

end Machine
