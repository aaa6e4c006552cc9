import Mathlib.Data.List.Induction

/-!
# Machines and their runs

A `Machine σ α ε` has states `σ`, is driven by actions `α`, and a step of it leads to the
next state or fails with a fault of `ε`. `run` performs a list of actions, and fails with
the fault of the first step that fails. `EveryState P s as` says that `P` holds of every
state the run of `as` from `s` goes through, and `EveryStep C s as` that `C` holds of every
action of the run in the state it is performed in.

`invariant` and `traced` are the induction principles for what a run preserves;
`everyState_iff_everyStep` turns an exact condition for one step into an exact condition
for a run. `withHistory` gives a machine a history variable, for what is to be said of a state
and of what led to it, and `withLog` one to which steps only add.
-/

/-- A machine with states `σ`, actions `α` and faults `ε`. -/
structure Machine (σ α ε : Type*) where
  /-- The state after an action, or the fault the action ends in. -/
  step : σ → α → Except ε σ

namespace Machine

variable {σ α ε : Type*} (M : Machine σ α ε)

/-- The state after a list of actions, or the fault of the first of them that fails. -/
def run (s : σ) (as : List α) : Except ε σ :=
  as.foldlM M.step s

/-- `P` holds of every state of the run of `as` from `s`. -/
def EveryState (P : σ → Prop) (s : σ) (as : List α) : Prop :=
  ∀ pre post t, as = pre ++ post → M.run s pre = .ok t → P t

/-- `C` holds of every action of the run of `as` from `s`, in the state before it. -/
def EveryStep (C : σ → α → Prop) (s : σ) (as : List α) : Prop :=
  ∀ pre a post t, as = pre ++ a :: post → M.run s pre = .ok t → C t a

variable {M}

/-- A computation followed by another succeeds exactly when both do. -/
theorem bind_eq_ok {x : Except ε σ} {f : σ → Except ε σ} {u : σ} :
  x >>= f = .ok u ↔ ∃ t, x = .ok t ∧ f t = .ok u
  := by
  cases x with
  | error e =>
      constructor
      · intro h
        cases h
      · rintro ⟨t, h, -⟩
        cases h
  | ok t =>
      constructor
      · intro h
        exact ⟨t, rfl, h⟩
      · rintro ⟨_, ⟨⟩, h⟩
        apply h

/-- A run of an action and the actions after it. -/
theorem run_cons {s u : σ} {a : α} {as : List α} :
  M.run s (a :: as) = .ok u ↔ ∃ t, M.step s a = .ok t ∧ M.run t as = .ok u
  := by
  rw [run, List.foldlM_cons]
  apply bind_eq_ok

/-- A run goes on from the state after its first action. -/
theorem run_cons_of_ok {s t : σ} {a : α} (h : M.step s a = .ok t) (as : List α) :
  M.run s (a :: as) = M.run t as
  := by
  rw [run, List.foldlM_cons, h]
  rfl

/-- A run ends in the fault of its first action. -/
theorem run_cons_of_error {s : σ} {a : α} {fault : ε} (h : M.step s a = .error fault)
    (as : List α) :
  M.run s (a :: as) = .error fault
  := by
  rw [run, List.foldlM_cons, h]
  rfl

/-- A run of two lists of actions, one after the other. -/
theorem run_append {s u : σ} {as bs : List α} :
  M.run s (as ++ bs) = .ok u ↔ ∃ t, M.run s as = .ok t ∧ M.run t bs = .ok u
  := by
  rw [run, List.foldlM_append]
  apply bind_eq_ok

/-- A run of a list of actions and one action after them. -/
theorem run_concat {s u : σ} {as : List α} {a : α} :
  M.run s (as ++ [a]) = .ok u ↔ ∃ t, M.run s as = .ok t ∧ M.step t a = .ok u
  := by
  rw [run_append]
  constructor
  · rintro ⟨t, ht, hu⟩
    obtain ⟨v, hv, hvu⟩ := run_cons.mp hu
    obtain rfl := Except.ok.inj hvu
    use t, ht, hv
  · rintro ⟨t, ht, hu⟩
    use t, ht
    apply run_cons.mpr
    use u, hu
    rfl

/-- What holds of every state holds weakened of every state. -/
theorem EveryState.imp {P Q : σ → Prop} {s : σ} {as : List α} (h : M.EveryState P s as)
    (hPQ : ∀ t, P t → Q t) :
  M.EveryState Q s as
  := by
  intro pre post t he ht
  apply hPQ t (h pre post t he ht)

/-- What holds of every step holds weakened of every step. -/
theorem EveryStep.imp {C D : σ → α → Prop} {s : σ} {as : List α} (h : M.EveryStep C s as)
    (hCD : ∀ t a, C t a → D t a) :
  M.EveryStep D s as
  := by
  intro pre a post t he ht
  apply hCD t a (h pre a post t he ht)

/-- The states of a run of `as ++ [a]` are those of the run of `as` and the last one. -/
theorem everyState_concat {P : σ → Prop} {s u : σ} {as : List α} {a : α}
    (h : M.run s (as ++ [a]) = .ok u) :
  M.EveryState P s (as ++ [a]) ↔ M.EveryState P s as ∧ P u
  := by
  constructor
  · intro hP
    constructor
    · intro pre post t he ht
      apply hP pre (post ++ [a]) t _ ht
      rw [he, List.append_assoc]
    · apply hP (as ++ [a]) [] u (List.append_nil _).symm h
  · rintro ⟨hP, hu⟩ pre post t he ht
    induction post using List.reverseRecOn with
    | nil =>
        rw [List.append_nil] at he
        rw [← he, h] at ht
        obtain rfl := Except.ok.inj ht
        apply hu
    | append_singleton post b _ =>
        rw [← List.append_assoc] at he
        obtain ⟨he, -⟩ := List.append_inj' he rfl
        apply hP pre post t he ht

/-- The steps of a run of `as ++ [a]` are those of the run of `as` and the last one. -/
theorem everyStep_concat {C : σ → α → Prop} {s t : σ} {as : List α} {a : α}
    (h : M.run s as = .ok t) :
  M.EveryStep C s (as ++ [a]) ↔ M.EveryStep C s as ∧ C t a
  := by
  constructor
  · intro hC
    constructor
    · intro pre b post v he hv
      apply hC pre b (post ++ [a]) v _ hv
      rw [he, List.append_assoc, List.cons_append]
    · apply hC as a [] t rfl h
  · rintro ⟨hC, ha⟩ pre b post v he hv
    induction post using List.reverseRecOn with
    | nil =>
        obtain ⟨rfl, hb⟩ := List.append_inj' he rfl
        obtain rfl := (List.cons.inj hb).1
        rw [h] at hv
        obtain rfl := Except.ok.inj hv
        apply ha
    | append_singleton post c _ =>
        rw [← List.cons_append, ← List.append_assoc] at he
        obtain ⟨he, -⟩ := List.append_inj' he rfl
        apply hC pre b post v he hv

/-- The states of a run of `a :: as` are the first one and those of the run of `as`. -/
theorem everyState_cons {P : σ → Prop} {s t : σ} {a : α} {as : List α}
    (h : M.step s a = .ok t) :
  M.EveryState P s (a :: as) ↔ P s ∧ M.EveryState P t as
  := by
  constructor
  · intro hP
    constructor
    · apply hP [] (a :: as) s rfl rfl
    · rintro pre post u rfl hu
      apply hP (a :: pre) post u rfl
      apply run_cons.mpr
      use t, h
  · rintro ⟨hs, hP⟩ pre post u he hu
    cases pre with
    | nil =>
        obtain rfl := Except.ok.inj hu
        apply hs
    | cons b pre =>
        obtain ⟨rfl, rfl⟩ := List.cons.inj he
        obtain ⟨v, hv, hu⟩ := run_cons.mp hu
        obtain rfl := Except.ok.inj (h.symm.trans hv)
        apply hP pre post u rfl hu

theorem everyState_nil {P : σ → Prop} {s : σ} :
  M.EveryState P s [] ↔ P s
  := by
  constructor
  · intro hP
    apply hP [] [] s rfl rfl
  · intro hP pre post t he ht
    obtain ⟨rfl, rfl⟩ := List.append_eq_nil_iff.mp he.symm
    obtain rfl := Except.ok.inj ht
    apply hP

theorem everyStep_nil {C : σ → α → Prop} {s : σ} :
  M.EveryStep C s []
  := by
  intro pre a post t he _
  cases pre with
  | nil => cases he
  | cons b pre => cases he

/-- The steps of a run of `a :: as` are the first one and those of the run of `as`. -/
theorem everyStep_cons {C : σ → α → Prop} {s t : σ} {a : α} {as : List α}
    (h : M.step s a = .ok t) :
  M.EveryStep C s (a :: as) ↔ C s a ∧ M.EveryStep C t as
  := by
  constructor
  · intro hC
    constructor
    · apply hC [] a as s rfl rfl
    · rintro pre b post u rfl hu
      apply hC (a :: pre) b post u rfl
      apply run_cons.mpr
      use t, h
  · rintro ⟨hs, hC⟩ pre b post u he hu
    cases pre with
    | nil =>
        obtain rfl := Except.ok.inj hu
        obtain ⟨rfl, -⟩ := List.cons.inj he
        apply hs
    | cons c pre =>
        obtain ⟨rfl, rfl⟩ := List.cons.inj he
        obtain ⟨v, hv, hu⟩ := run_cons.mp hu
        obtain rfl := Except.ok.inj (h.symm.trans hv)
        apply hC pre b post u rfl hu

/-- A run ends in a fault exactly when one of its steps does. -/
theorem run_ne_error_iff {s : σ} {as : List α} {fault : ε} :
  M.run s as ≠ .error fault ↔ M.EveryStep (fun t a => M.step t a ≠ .error fault) s as
  := by
  induction as generalizing s with
  | nil =>
      apply iff_of_true _ everyStep_nil
      intro h
      cases h
  | cons a as ih =>
      cases ht : M.step s a with
      | error fault' =>
          have hrun := run_cons_of_error ht as
          constructor
          · intro h pre b post u he hu
            cases pre with
            | nil =>
                obtain rfl := Except.ok.inj hu
                obtain ⟨rfl, -⟩ := List.cons.inj he
                rw [ht, ← hrun]
                apply h
            | cons c pre =>
                obtain ⟨rfl, -⟩ := List.cons.inj he
                obtain ⟨v, hv, -⟩ := run_cons.mp hu
                cases ht.symm.trans hv
          · intro h
            rw [hrun, ← ht]
            apply h [] a as s rfl rfl
      | ok t =>
          rw [run_cons_of_ok ht, everyStep_cons ht, ih]
          apply (and_iff_right _).symm
          rw [ht]
          intro he
          cases he

/-- Runs whose steps meet the same conditions. -/
theorem everyStep_congr {C D : σ → α → Prop} {s : σ} {as : List α}
    (h : ∀ {pre t}, M.run s pre = .ok t → ∀ a, C t a ↔ D t a) :
  M.EveryStep C s as ↔ M.EveryStep D s as
  := by
  constructor
  · intro hC pre a post t he ht
    apply (h ht a).mp (hC pre a post t he ht)
  · intro hD pre a post t he ht
    apply (h ht a).mpr (hD pre a post t he ht)

/-- A predicate on the actions performed and the state reached holds of every run when it
holds initially and every step preserves it. -/
theorem traced {P : List α → σ → Prop} {s : σ} (hinit : P [] s)
    (hstep : ∀ as t a u, M.run s as = .ok t → P as t → M.step t a = .ok u → P (as ++ [a]) u) :
  ∀ {as : List α} {u : σ}, M.run s as = .ok u → P as u
  := by
  intro as
  induction as using List.reverseRecOn with
  | nil =>
      intro u h
      obtain rfl := Except.ok.inj h
      apply hinit
  | append_singleton as a ih =>
      intro u h
      obtain ⟨t, ht, hu⟩ := run_concat.mp h
      apply hstep as t a u ht (ih ht) hu

/-- A predicate that holds initially and that every step preserves holds of the state every
run reaches. -/
theorem invariant {P : σ → Prop} (hstep : ∀ {s a t}, P s → M.step s a = .ok t → P t)
    {s u : σ} {as : List α} (hs : P s) (h : M.run s as = .ok u) :
  P u
  := by
  apply traced (M := M) (P := fun _ t => P t) hs _ h
  intro as t a u _ ht hu
  apply hstep ht hu

/-- A predicate that holds initially, and that every step meeting `C` from a state satisfying
the invariant `I` preserves, holds of the state reached by every run whose steps all meet
`C`. -/
theorem invariant_of_everyStep_of_invariant {I P : σ → Prop} {C : σ → α → Prop} {s u : σ}
    {as : List α} (hI : ∀ {as t}, M.run s as = .ok t → I t)
    (hstep : ∀ {t a v}, I t → P t → C t a → M.step t a = .ok v → P v)
    (hs : P s) (h : M.run s as = .ok u) (hC : M.EveryStep C s as) :
  P u
  := by
  revert hC
  apply traced (M := M) (P := fun as t => M.EveryStep C s as → P t) _ _ h
  · intro _
    apply hs
  · intro as t a v ht ih hv hC
    obtain ⟨hC, ha⟩ := (everyStep_concat ht).mp hC
    apply hstep (hI ht) (ih hC) ha hv

/-- A predicate that holds initially and that every step meeting `C` preserves holds of the
state reached by every run whose steps all meet `C`. -/
theorem invariant_of_everyStep {P : σ → Prop} {C : σ → α → Prop}
    (hstep : ∀ {s a t}, P s → C s a → M.step s a = .ok t → P t)
    {s u : σ} {as : List α} (hs : P s) (h : M.run s as = .ok u) (hC : M.EveryStep C s as) :
  P u
  := by
  apply invariant_of_everyStep_of_invariant (I := fun _ => True) _ _ hs h hC
  · intro as t _
    trivial
  · intro t a v _ ht ha hv
    apply hstep ht ha hv

/-- The steps of a beginning of a run are steps of the run. -/
theorem everyStep_of_append {C : σ → α → Prop} {s : σ} {as bs : List α}
    (h : M.EveryStep C s (as ++ bs)) :
  M.EveryStep C s as
  := by
  rintro pre a post t rfl ht
  apply h pre a (post ++ bs) t _ ht
  rw [List.append_assoc, List.cons_append]

/-- What holds of every action holds of every step. -/
theorem everyStep_of_forall_mem {A : α → Prop} {s : σ} {as : List α} (h : ∀ a ∈ as, A a) :
  M.EveryStep (fun _ a => A a) s as
  := by
  rintro pre a post t rfl _
  apply h a (List.mem_append_right pre List.mem_cons_self)

/-- The steps of a run of one action, over and over. -/
theorem everyStep_replicate {C : σ → α → Prop} {s : σ} {a : α} (h : ∀ t, C t a) (n : Nat) :
  M.EveryStep C s (List.replicate n a)
  := by
  intro pre b post t hb _
  have hmem : b ∈ List.replicate n a := by
    rw [hb]
    apply List.mem_append_right pre List.mem_cons_self
  rw [List.eq_of_mem_replicate hmem]
  apply h

/-- A predicate that holds initially and that every step meeting `C` preserves holds of every
state of a run whose steps all meet `C`. -/
theorem everyState_of_everyStep {P : σ → Prop} {C : σ → α → Prop}
    (hstep : ∀ {s a t}, P s → C s a → M.step s a = .ok t → P t)
    {s : σ} {as : List α} (hs : P s) (hC : M.EveryStep C s as) :
  M.EveryState P s as
  := by
  rintro pre post t rfl ht
  apply invariant_of_everyStep hstep hs ht (everyStep_of_append hC)

/-- Where, in a state satisfying `P`, a step meets `D` exactly when it meets `C`, and then keeps
`P`, all steps of a run meet `D` exactly when they all meet `C`. -/
theorem everyStep_iff_everyStep {P : σ → Prop} {C D : σ → α → Prop}
    (hkeep : ∀ {s a t}, P s → C s a → M.step s a = .ok t → P t)
    (hCD : ∀ {s a t}, P s → M.step s a = .ok t → (D s a ↔ C s a))
    {s u : σ} {as : List α} (hs : P s) (h : M.run s as = .ok u) :
  M.EveryStep D s as ↔ M.EveryStep C s as
  := by
  apply traced (M := M) (P := fun as _ => M.EveryStep D s as ↔ M.EveryStep C s as) _ _ h
  · apply iff_of_true everyStep_nil everyStep_nil
  · intro as t a u ht ih hu
    rw [everyStep_concat ht, everyStep_concat ht, ih]
    apply and_congr_right
    intro hC
    apply hCD (invariant_of_everyStep hkeep hs ht hC) hu

/-- Where a step from a state satisfying `P` leads to another when it meets `C`, and to one
satisfying the weaker `Q` only when it meets `C`, a run satisfies `Q` throughout exactly when
all its steps meet `C`. -/
theorem everyState_iff_everyStep_of_imp {P Q : σ → Prop} {C : σ → α → Prop}
    (hkeep : ∀ {s a t}, P s → C s a → M.step s a = .ok t → P t)
    (hneed : ∀ {s a t}, P s → M.step s a = .ok t → Q t → C s a)
    (hPQ : ∀ {s}, P s → Q s) {s u : σ} {as : List α} (hs : P s) (h : M.run s as = .ok u) :
  M.EveryState Q s as ↔ M.EveryStep C s as
  := by
  apply traced (M := M) (P := fun as _ => M.EveryState Q s as ↔ M.EveryStep C s as) _ _ h
  · apply iff_of_true (everyState_nil.mpr (hPQ hs)) everyStep_nil
  · intro as t a u ht ih hu
    have hrun : M.run s (as ++ [a]) = .ok u := run_concat.mpr ⟨t, ht, hu⟩
    rw [everyState_concat hrun, everyStep_concat ht, ih]
    apply and_congr_right
    intro hC
    have hP : P t := invariant_of_everyStep hkeep hs ht hC
    constructor
    · apply hneed hP hu
    · intro ha
      apply hPQ (hkeep hP ha hu)

/-- Where, in a state satisfying `P` and the invariant `I`, a step keeps `P` exactly when it
meets `C`, a run keeps `P` throughout exactly when all its steps meet `C`. -/
theorem everyState_iff_everyStep {I P : σ → Prop} {C : σ → α → Prop}
    (hI : ∀ {s a t}, I s → M.step s a = .ok t → I t)
    (hstep : ∀ {s a t}, I s → P s → M.step s a = .ok t → (P t ↔ C s a))
    {s u : σ} {as : List α} (hIs : I s) (hPs : P s) (h : M.run s as = .ok u) :
  M.EveryState P s as ↔ M.EveryStep C s as
  := by
  apply everyState_iff_everyStep_of_imp (P := fun s => I s ∧ P s) _ _ And.right ⟨hIs, hPs⟩ h
  · rintro s a t ⟨hIs, hPs⟩ ha ht
    exact ⟨hI hIs ht, (hstep hIs hPs ht).mpr ha⟩
  · rintro s a t ⟨hIs, hPs⟩ ht hPt
    apply (hstep hIs hPs ht).mp hPt

/-- Where a step meeting `D`, from a state satisfying the invariant `I`, keeps `P` exactly when it
meets `C`, and never brings back `P` once it is lost, a run ends in a state satisfying `P` exactly
when all its steps meet `C`. -/
theorem iff_everyStep_of_lost {I P : σ → Prop} {C D : σ → α → Prop}
    (hI : ∀ {s a t}, I s → D s a → M.step s a = .ok t → I t)
    (hkeep : ∀ {s a t}, I s → D s a → P s → M.step s a = .ok t → (P t ↔ C s a))
    (hlost : ∀ {s a t}, I s → D s a → ¬ P s → M.step s a = .ok t → ¬ P t)
    {s u : σ} {as : List α} (hIs : I s) (hPs : P s) (h : M.run s as = .ok u)
    (hD : M.EveryStep D s as) :
  P u ↔ M.EveryStep C s as
  := by
  suffices hall : M.EveryStep D s as → I u ∧ (P u ↔ M.EveryStep C s as) by
    apply (hall hD).2
  apply traced (M := M)
    (P := fun as t => M.EveryStep D s as → I t ∧ (P t ↔ M.EveryStep C s as)) _ _ h
  · intro _
    exact ⟨hIs, iff_of_true hPs everyStep_nil⟩
  · intro as t a u ht ih hu hD
    obtain ⟨hD, ha⟩ := (everyStep_concat ht).mp hD
    obtain ⟨hIt, hPt⟩ := ih hD
    use hI hIt ha hu
    rw [everyStep_concat ht, ← hPt]
    constructor
    · intro hPu
      have hP : P t := by
        apply Classical.byContradiction
        intro hnot
        apply hlost hIt ha hnot hu hPu
      exact ⟨hP, (hkeep hIt ha hP hu).mp hPu⟩
    · rintro ⟨hP, hC⟩
      apply (hkeep hIt ha hP hu).mpr hC

/-! ### History variables -/

section WithHistory

variable {γ : Type*} (M : Machine σ α ε) (next : σ → γ → α → γ)

/-- The machine with a history variable, which every step brings up to date with what it finds
and does, and which no step depends on. -/
def withHistory : Machine (σ × γ) α ε where
  step x a := (M.step x.1 a).map (fun t => (t, next x.1 x.2 a))

variable {M next}

theorem step_withHistory {x y : σ × γ} {a : α} :
  (M.withHistory next).step x a = .ok y ↔ M.step x.1 a = .ok y.1 ∧ y.2 = next x.1 x.2 a
  := by
  obtain ⟨u, g⟩ := y
  change (M.step x.1 a).map (fun t => (t, next x.1 x.2 a)) = .ok (u, g) ↔ _
  cases M.step x.1 a with
  | error fault =>
      constructor
      · intro h
        cases h
      · rintro ⟨h, -⟩
        cases h
  | ok t =>
      constructor
      · intro h
        obtain ⟨rfl, rfl⟩ := Prod.mk.inj (Except.ok.inj h)
        exact ⟨rfl, rfl⟩
      · rintro ⟨h, rfl⟩
        obtain rfl := Except.ok.inj h
        rfl

/-- A history variable neither adds runs to a machine nor takes any away. -/
theorem run_withHistory {s t : σ} {as : List α} (g : γ) :
  M.run s as = .ok t ↔ ∃ g', (M.withHistory next).run (s, g) as = .ok (t, g')
  := by
  induction as generalizing s g with
  | nil =>
      constructor
      · intro h
        obtain rfl := Except.ok.inj h
        exact ⟨g, rfl⟩
      · rintro ⟨g', h⟩
        obtain ⟨rfl, -⟩ := Prod.mk.inj (Except.ok.inj h)
        rfl
  | cons a as ih =>
      constructor
      · intro h
        obtain ⟨u, hu, hrun⟩ := run_cons.mp h
        obtain ⟨g', hg'⟩ := (ih (next s g a)).mp hrun
        use g'
        apply run_cons.mpr
        exact ⟨(u, next s g a), step_withHistory.mpr ⟨hu, rfl⟩, hg'⟩
      · rintro ⟨g', h⟩
        obtain ⟨⟨u, g''⟩, hu, hrun⟩ := run_cons.mp h
        apply run_cons.mpr
        use u, (step_withHistory.mp hu).1
        apply (ih g'').mpr ⟨g', hrun⟩

end WithHistory

/-! ### Logs -/

section WithLog

variable {β τ : Type*} (M : Machine σ α ε) (label : σ → α → List β)

/-- The machine with a log, to which every step adds what its label says. -/
def withLog : Machine (σ × List β) α ε :=
  M.withHistory (fun s log a => log ++ label s a)

variable {M label}

theorem step_withLog {x y : σ × List β} {a : α} :
  (M.withLog label).step x a = .ok y ↔ M.step x.1 a = .ok y.1 ∧ y.2 = x.2 ++ label x.1 a
  := step_withHistory

/-- A log neither adds runs to a machine nor takes any away. -/
theorem run_withLog {s t : σ} {as : List α} (log : List β) :
  M.run s as = .ok t ↔ ∃ log', (M.withLog label).run (s, log) as = .ok (t, log')
  := run_withHistory log

/-- Where, under an invariant, what a step does to an abstraction of the state is to apply its
label, what a run does to it is to apply the log. -/
theorem foldl_log_of_run_of_invariant {f : τ → β → τ} {I : σ → Prop} (abs : σ → τ)
    (hI : ∀ {s a t}, I s → M.step s a = .ok t → I t)
    (h : ∀ {s a t}, I s → M.step s a = .ok t → abs t = (label s a).foldl f (abs s))
    {s : σ} {x : σ × List β} {as : List α} (hs : I s)
    (hrun : (M.withLog label).run (s, []) as = .ok x) :
  abs x.1 = x.2.foldl f (abs s)
  := by
  have hinvariant : I x.1 ∧ abs x.1 = x.2.foldl f (abs s) := by
    apply invariant (M := M.withLog label) (P := fun x => I x.1 ∧ abs x.1 = x.2.foldl f (abs s))
      _ _ hrun
    · rintro x a y ⟨hIx, hx⟩ hy
      obtain ⟨ht, hlog⟩ := step_withLog.mp hy
      constructor
      · apply hI hIx ht
      · rw [hlog, List.foldl_append, ← hx]
        apply h hIx ht
    · exact ⟨hs, rfl⟩
  apply hinvariant.2

/-- Where what a step does to an abstraction of the state is to apply its label, what a run does to
it is to apply the log. -/
theorem foldl_log_of_run {f : τ → β → τ} (abs : σ → τ)
    (h : ∀ {s a t}, M.step s a = .ok t → abs t = (label s a).foldl f (abs s))
    {s : σ} {x : σ × List β} {as : List α} (hrun : (M.withLog label).run (s, []) as = .ok x) :
  abs x.1 = x.2.foldl f (abs s)
  := by
  apply foldl_log_of_run_of_invariant (I := fun _ => True) abs _ _ trivial hrun
  · intro s a t _ _
    trivial
  · intro s a t _ ht
    apply h ht

end WithLog

end Machine
