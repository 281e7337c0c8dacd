/-
Runs of a step function.

`exec` is total: an operation that fails leaves the state as it was. A
run applies a list of operations, left to right. An invariant of the
step is an invariant of the run (`run_invariant`); what a step keeps
under an invariant, a run keeps (`run_keeps`); and a run is its first
part followed by the rest (`run_append`). What holds at every step of a
run is read off one step at a time (`everyStep_cons`), and an invariant of
the steps that are allowed is one of a run of them
(`EveryStep.invariant`). Steps that do
nothing or grow the state end where they began exactly when each of them
does nothing there (`run_eq_self_iff`).
-/
import Mathlib.Logic.Relation

namespace Warehouse.Lib.Runs

variable {σ ω : Type*} {exec : σ → ω → σ}

/-- The state after a list of operations. -/
def run (exec : σ → ω → σ) (s : σ) (ops : List ω) : σ := ops.foldl exec s

@[simp] theorem run_nil (s : σ) : run exec s [] = s := rfl

@[simp] theorem run_cons (s : σ) (op : ω) (ops : List ω) :
    run exec s (op :: ops) = run exec (exec s op) ops := rfl

theorem run_append (s : σ) (ops ops' : List ω) :
    run exec s (ops ++ ops') = run exec (run exec s ops) ops' :=
  List.foldl_append

/-- An invariant of the step is an invariant of the run. -/
theorem run_invariant {Inv : σ → Prop}
    (hstep : ∀ s op, Inv s → Inv (exec s op)) (ops : List ω) :
    ∀ s, Inv s → Inv (run exec s ops) := by
  induction ops with
  | nil => exact fun s h => h
  | cons op rest ih => exact fun s h => ih _ (hstep s op h)

/-- What every step keeps under an invariant, the run keeps. -/
theorem run_keeps {Inv P : σ → Prop}
    (hinv : ∀ s op, Inv s → Inv (exec s op))
    (hkeep : ∀ s op, Inv s → P s → P (exec s op)) (ops : List ω) (s : σ)
    (h : Inv s) (hp : P s) : P (run exec s ops) := by
  have hstep : ∀ s op, (Inv s ∧ P s) → Inv (exec s op) ∧ P (exec s op) :=
    fun s op hs => ⟨hinv s op hs.1, hkeep s op hs.1 hs.2⟩
  exact (run_invariant hstep ops s ⟨h, hp⟩).2

/-- `R` relates every state the run goes through to the operation applied
there. -/
def EveryStep (exec : σ → ω → σ) (R : σ → ω → Prop) (s : σ)
    (ops : List ω) : Prop :=
  ∀ before op after, ops = before ++ op :: after → R (run exec s before) op

theorem everyStep_nil (R : σ → ω → Prop) (s : σ) :
    EveryStep exec R s [] := by
  intro before op after h
  simp at h

/-- Every step: the first, and then the rest from where it led. -/
theorem everyStep_cons (R : σ → ω → Prop) (s : σ) (op : ω) (ops : List ω) :
    EveryStep exec R s (op :: ops)
      ↔ R s op ∧ EveryStep exec R (exec s op) ops := by
  constructor
  · intro h
    refine ⟨h [] op ops rfl, fun before next after heq => ?_⟩
    exact h (op :: before) next after (by rw [heq, List.cons_append])
  · intro h before next after heq
    cases before with
    | nil =>
        cases heq
        exact h.1
    | cons first rest =>
        cases heq
        exact h.2 rest next after rfl

/-- What is kept by every step that is allowed where it is taken, a run of
such steps keeps. -/
theorem EveryStep.invariant {Inv : σ → Prop} {R : σ → ω → Prop}
    (hstep : ∀ s op, R s op → Inv s → Inv (exec s op)) (ops : List ω) :
    ∀ s, EveryStep exec R s ops → Inv s → Inv (run exec s ops) := by
  induction ops with
  | nil => exact fun s _ h => h
  | cons op rest ih =>
      intro s hsteps h
      obtain ⟨hfirst, hrest⟩ := (everyStep_cons R s op rest).mp hsteps
      exact ih _ hrest (hstep s op hfirst h)

section Growing

variable (size : σ → Nat)

/-- Where each step is idle or grows, a run never shrinks. -/
theorem size_le_run (hgrow : ∀ s op, exec s op = s ∨ size s < size (exec s op))
    (ops : List ω) : ∀ s, size s ≤ size (run exec s ops) := by
  induction ops with
  | nil => exact fun s => Nat.le_refl _
  | cons op rest ih =>
      intro s
      have hrest := ih (exec s op)
      rw [run_cons]
      rcases hgrow s op with h | h
      · rw [h] at hrest ⊢
        exact hrest
      · omega

/-- A run of steps that do nothing or grow the state. -/
theorem run_eq_self_iff
    (hgrow : ∀ s op, exec s op = s ∨ size s < size (exec s op))
    (ops : List ω) (s : σ) :
    run exec s ops = s ↔ ∀ op ∈ ops, exec s op = s := by
  induction ops with
  | nil => simp
  | cons op rest ih =>
      rw [run_cons, List.forall_mem_cons]
      rcases hgrow s op with h | h
      · rw [h, ih]
        exact (and_iff_right rfl).symm
      · have hrest := size_le_run size hgrow rest (exec s op)
        constructor
        · intro hrun
          rw [hrun] at hrest
          omega
        · rintro ⟨heq, -⟩
          rw [heq] at h
          omega

end Growing

end Warehouse.Lib.Runs
