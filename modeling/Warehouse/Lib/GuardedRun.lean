/-
Runs of steps that are refused outside a guard.

A guarded step goes through exactly where its guard holds, and acts there.
If no step that goes through changes what another's guard says, a run goes
through exactly when every guard holds where it starts (`run_ok_iff`), so
which step is refused first never matters to whether the run is; and if
the actions commute, the order of the steps does not matter at all
(`run_perm`).
-/
import Mathlib.Data.List.Perm.Basic

namespace Warehouse.Lib

variable {σ α ε : Type}

/-- A step that succeeds exactly under its guard, where no step disturbs
another's guard. -/
structure Guarded (step : σ → α → Except ε σ) (guard : σ → α → Prop)
    (act : σ → α → σ) : Prop where
  ok_iff : ∀ s a s', step s a = .ok s' ↔ guard s a ∧ s' = act s a
  stable : ∀ s a b, guard s b → (guard (act s b) a ↔ guard s a)

namespace Guarded

variable {step : σ → α → Except ε σ} {guard : σ → α → Prop}
  {act : σ → α → σ}

/-- A run goes through exactly when every guard holds at its start. -/
theorem run_ok_iff (h : Guarded step guard act) (as : List α) (s s' : σ) :
    as.foldlM step s = .ok s'
      ↔ (∀ a ∈ as, guard s a) ∧ s' = as.foldl act s := by
  induction as generalizing s with
  | nil =>
      constructor
      · rintro hs
        cases hs
        exact ⟨List.forall_mem_nil _, rfl⟩
      · rintro ⟨-, rfl⟩
        rfl
  | cons a rest ih =>
      rw [List.foldlM_cons, List.foldl_cons, List.forall_mem_cons]
      cases hstep : step s a with
      | error e =>
          have hnot : ¬guard s a := by
            intro hguard
            have hok := (h.ok_iff s a _).mpr ⟨hguard, rfl⟩
            rw [hstep] at hok
            cases hok
          exact ⟨fun hrun => (nomatch hrun), fun hrun => absurd hrun.1.1 hnot⟩
      | ok next =>
          obtain ⟨hguard, rfl⟩ := (h.ok_iff s a next).mp hstep
          have hrest : (∀ b ∈ rest, guard (act s a) b)
              ↔ ∀ b ∈ rest, guard s b :=
            forall₂_congr fun b _ => h.stable s b a hguard
          show rest.foldlM step (act s a) = .ok s' ↔ _
          rw [ih, hrest]
          exact ⟨fun ⟨hall, hs⟩ => ⟨⟨hguard, hall⟩, hs⟩,
            fun ⟨⟨_, hall⟩, hs⟩ => ⟨hall, hs⟩⟩

/-- Where the actions commute, the order of the steps does not matter. -/
theorem run_perm (h : Guarded step guard act)
    (hcomm : ∀ s a b, act (act s a) b = act (act s b) a)
    {as bs : List α} (hperm : as.Perm bs) (s s' : σ) :
    as.foldlM step s = .ok s' ↔ bs.foldlM step s = .ok s' := by
  have hact : as.foldl act s = bs.foldl act s :=
    hperm.foldl_eq' (fun a _ b _ t => hcomm t a b) s
  have hguards : (∀ a ∈ as, guard s a) ↔ ∀ b ∈ bs, guard s b :=
    forall_congr' fun a => by rw [hperm.mem_iff]
  rw [h.run_ok_iff, h.run_ok_iff, hact, hguards]

end Guarded

end Warehouse.Lib
