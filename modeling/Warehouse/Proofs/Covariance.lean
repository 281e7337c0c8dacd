/-
The Euler decomposition of the portfolio variance.

A state moves by its exposure, its weight times its volatility, and the
variance is the exposures' sum of products with the correlations. The
double loop over indices comes to sums over the states
(`portfolioCovariance_eq`), in which a state's contribution is its exposure
times what its class meets in the portfolio (`coMovement`). The latter reads
the states through one sum, so neither their order nor how a class is cut
into slots changes it.

# Order and grouping

Both follow from the sum over states: a permutation moves no term out of it
(`statesVariance_perm`), and a slot cut in two of the same class and
volatility keeps its exposure (`SplitInto.exposure`), so the halves share
what the whole contributed and no other share moves. The source divides by
the variance only where it is positive; otherwise every share is zero, and
the shares do not sum to one.

Decimals are exact here, as in the statement: in 28 digits a sum in another
order may end in another digit.
-/
import Warehouse.Research.Engine
import Mathlib.Algebra.BigOperators.Ring.List
import Mathlib.Tactic.Ring

namespace Warehouse

-- ====================================================== sums over the states

/-- A sum over indices into a list is a sum over the list. -/
theorem sumRange_eq_sum {α : Type*} (zs : List α) {F : Nat → ℚ} {G : α → ℚ}
    (h : ∀ i (hi : i < zs.length), F i = G zs[i]) :
    sumRange zs.length F = (zs.map G).sum := by
  unfold sumRange
  congr 1
  apply List.ext_getElem
  · simp
  · intro i hi _
    have hlt : i < zs.length := by simpa using hi
    simp [h i hlt]

/-- What a state contributes to the portfolio's moves. -/
def SleeveRiskState.exposure (state : SleeveRiskState) : ℚ :=
  state.slot.weight * state.annualVolatility

variable (assumptions : RiskAssumptions)

/-- What a class meets in the portfolio: the exposures, each at its
correlation with the class. -/
def coMovement (states : List SleeveRiskState) (c : RiskClass) : ℚ :=
  (states.map fun t =>
    assumptions.pairwiseCorrelation c t.slot.assetClass * t.exposure).sum

/-- What one state contributes to the variance. -/
def stateMarginal (states : List SleeveRiskState) (s : SleeveRiskState) : ℚ :=
  s.exposure * coMovement assumptions states s.slot.assetClass

/-- The variance of a list of states. -/
def statesVariance (states : List SleeveRiskState) : ℚ :=
  (states.map (stateMarginal assumptions states)).sum

/-- A state's share of the variance, zero where there is none. -/
def stateShare (states : List SleeveRiskState) (s : SleeveRiskState) : ℚ :=
  if statesVariance assumptions states > 0 then
    stateMarginal assumptions states s / statesVariance assumptions states
  else 0

/-- The source's matrix, unweighted. -/
def stateCovariances (states : List SleeveRiskState) : List (List ℚ) :=
  states.map fun left => states.map fun right =>
    left.annualVolatility * right.annualVolatility
      * assumptions.pairwiseCorrelation left.slot.assetClass
        right.slot.assetClass

section Entries

variable {states : List SleeveRiskState} {i j : Nat}

theorem item_stateCovariances (hi : i < states.length)
    (hj : j < states.length) :
    item ((stateCovariances assumptions states).getD i []) j
      = states[i].annualVolatility * states[j].annualVolatility
        * assumptions.pairwiseCorrelation states[i].slot.assetClass
          states[j].slot.assetClass := by
  unfold stateCovariances
  rw [List.getD_eq_getElem?_getD]
  simp [item, List.getD_eq_getElem?_getD, hi, hj]

/-- A row of the matrix against the weights. -/
theorem stateCovariances_row (hi : i < states.length) :
    (item (states.map (·.slot.weight)) i
      * sumRange states.length fun j =>
        item ((stateCovariances assumptions states).getD i []) j
          * item (states.map (·.slot.weight)) j)
      = stateMarginal assumptions states states[i] := by
  have hsum : (sumRange states.length fun j =>
        item ((stateCovariances assumptions states).getD i []) j
          * item (states.map (·.slot.weight)) j)
      = (states.map fun t => states[i].annualVolatility
        * (assumptions.pairwiseCorrelation states[i].slot.assetClass
          t.slot.assetClass * t.exposure)).sum := by
    apply sumRange_eq_sum
    intro j hj
    rw [item_stateCovariances assumptions hi hj, item_map _ hj]
    unfold SleeveRiskState.exposure
    ring
  rw [hsum, List.sum_map_mul_left, item_map _ hi, ← mul_assoc]
  rfl

end Entries

/-- The result, of what the two loops come to. -/
def covarianceOf (n : Nat) (variance : ℚ) (marginal : List ℚ) :
    CovarianceResult where
  portfolioVariance := variance
  pctVarianceContributions :=
    if variance > 0 then marginal.map (· / variance) else List.replicate n 0
  marginalVariance := marginal

/-- The source's loops, over a list that is not empty. -/
theorem portfolioCovariance_loops {states : List SleeveRiskState}
    (hne : states.length ≠ 0) :
    portfolioCovariance states assumptions = covarianceOf states.length
      (sumRange states.length fun i => sumRange states.length fun j =>
        item (states.map (·.slot.weight)) i * item (states.map (·.slot.weight)) j
          * item ((stateCovariances assumptions states).getD i []) j)
      ((List.range states.length).map fun i =>
        item (states.map (·.slot.weight)) i
          * sumRange states.length fun j =>
            item ((stateCovariances assumptions states).getD i []) j
              * item (states.map (·.slot.weight)) j) := by
  unfold portfolioCovariance
  rw [if_neg hne]
  rfl

/-- The module's loop computes the marginals. -/
theorem marginal_loop (states : List SleeveRiskState) :
    ((List.range states.length).map fun i =>
      item (states.map (·.slot.weight)) i
        * sumRange states.length fun j =>
          item ((stateCovariances assumptions states).getD i []) j
            * item (states.map (·.slot.weight)) j)
      = states.map (stateMarginal assumptions states) := by
  apply List.ext_getElem
  · simp
  · intro i hi _
    have hlt : i < states.length := by simpa using hi
    rw [List.getElem_map, List.getElem_map, List.getElem_range]
    exact stateCovariances_row assumptions hlt

/-- Row by row the variance is the sum of the marginals. -/
theorem variance_loop (states : List SleeveRiskState) :
    (sumRange states.length fun i => sumRange states.length fun j =>
      item (states.map (·.slot.weight)) i * item (states.map (·.slot.weight)) j
        * item ((stateCovariances assumptions states).getD i []) j)
      = statesVariance assumptions states := by
  apply sumRange_eq_sum
  intro i hi
  rw [← stateCovariances_row assumptions hi]
  unfold sumRange
  rw [← List.sum_map_mul_left]
  congr 1
  apply List.map_congr_left
  intro j _
  ring

/-- The double loops as sums over the states. -/
theorem portfolioCovariance_eq (states : List SleeveRiskState) :
    portfolioCovariance states assumptions =
      { portfolioVariance := statesVariance assumptions states
        pctVarianceContributions := states.map (stateShare assumptions states)
        marginalVariance := states.map (stateMarginal assumptions states) } := by
  by_cases hnil : states.length = 0
  · rw [List.length_eq_zero_iff.mp hnil]
    rfl
  · rw [portfolioCovariance_loops assumptions hnil, variance_loop,
      marginal_loop]
    unfold covarianceOf
    congr 1
    unfold stateShare
    by_cases hpos : statesVariance assumptions states > 0
    · simp only [if_pos hpos, List.map_map]
      rfl
    · simp only [if_neg hpos]
      exact (List.map_const' ..).symm

-- ========================================================= the decomposition

/-- The shares of a positive variance are all of it. -/
theorem sum_stateShare {states : List SleeveRiskState}
    (h : 0 < statesVariance assumptions states) :
    (states.map (stateShare assumptions states)).sum = 1 := by
  have hshare : stateShare assumptions states = fun s =>
      stateMarginal assumptions states s
        * (statesVariance assumptions states)⁻¹ := by
    funext s
    unfold stateShare
    rw [if_pos h, div_eq_mul_inv]
  rw [hshare, List.sum_map_mul_right]
  exact mul_inv_cancel₀ h.ne'

/-- A class row reports the share the covariance gives its slot. -/
theorem pct_evaluateClassContributions (states : List SleeveRiskState) :
    (evaluateClassContributions states (portfolioCovariance states assumptions)
        assumptions).map (·.pctVarianceContribution)
      = (portfolioCovariance states assumptions).pctVarianceContributions := by
  rw [portfolioCovariance_eq]
  unfold evaluateClassContributions
  dsimp only
  rw [List.zipWith_map_right, List.zipWith_self, List.map_map]
  rfl

section Sums

variable {assumptions} {states states' : List SleeveRiskState}

/-- States that every class meets alike give one state the same
contribution. -/
theorem stateMarginal_congr
    (h : coMovement assumptions states' = coMovement assumptions states) :
    stateMarginal assumptions states' = stateMarginal assumptions states := by
  funext s
  unfold stateMarginal
  rw [h]

/-- A share depends on the marginal and the variance alone. -/
theorem stateShare_congr
    (hmarginal : stateMarginal assumptions states'
      = stateMarginal assumptions states)
    (hvariance : statesVariance assumptions states'
      = statesVariance assumptions states) :
    stateShare assumptions states' = stateShare assumptions states := by
  funext s
  unfold stateShare
  rw [hmarginal, hvariance]

/-- The order of the states is not read. -/
theorem coMovement_perm (h : states'.Perm states) :
    coMovement assumptions states' = coMovement assumptions states := by
  funext c
  exact (h.map _).sum_eq

/-- The variance does not depend on the order. -/
theorem statesVariance_perm (h : states'.Perm states) :
    statesVariance assumptions states' = statesVariance assumptions states := by
  unfold statesVariance
  rw [stateMarginal_congr (coMovement_perm h)]
  exact (h.map _).sum_eq

theorem stateShare_perm (h : states'.Perm states) :
    stateShare assumptions states' = stateShare assumptions states :=
  stateShare_congr (stateMarginal_congr (coMovement_perm h))
    (statesVariance_perm h)

end Sums

-- =================================================================== splitting

/-- Two slots that one is split into: its class and volatility, and its
weight between them. -/
structure SplitInto (s first second : SleeveRiskState) : Prop where
  firstClass : first.slot.assetClass = s.slot.assetClass
  secondClass : second.slot.assetClass = s.slot.assetClass
  firstVol : first.annualVolatility = s.annualVolatility
  secondVol : second.annualVolatility = s.annualVolatility
  weights : first.slot.weight + second.slot.weight = s.slot.weight

section Split

variable {assumptions} {before after : List SleeveRiskState}
  {s first second : SleeveRiskState}

/-- A split keeps the exposure. -/
theorem SplitInto.exposure (h : SplitInto s first second) :
    first.exposure + second.exposure = s.exposure := by
  unfold SleeveRiskState.exposure
  rw [h.firstVol, h.secondVol, ← h.weights]
  ring

/-- Every class meets the two as it met the one. -/
theorem SplitInto.coMovement (h : SplitInto s first second) :
    coMovement assumptions (before ++ first :: second :: after)
      = coMovement assumptions (before ++ s :: after) := by
  funext c
  unfold Warehouse.coMovement
  simp only [List.map_append, List.map_cons, List.sum_append, List.sum_cons]
  rw [h.firstClass, h.secondClass, ← h.exposure]
  ring

/-- And the marginal, in any book. -/
theorem SplitInto.stateMarginal (h : SplitInto s first second)
    (states : List SleeveRiskState) :
    stateMarginal assumptions states first
        + stateMarginal assumptions states second
      = stateMarginal assumptions states s := by
  unfold Warehouse.stateMarginal
  rw [h.firstClass, h.secondClass, ← h.exposure]
  ring

/-- So it keeps the variance of the book it is made in. -/
theorem SplitInto.statesVariance (h : SplitInto s first second) :
    statesVariance assumptions (before ++ first :: second :: after)
      = statesVariance assumptions (before ++ s :: after) := by
  unfold Warehouse.statesVariance
  rw [stateMarginal_congr h.coMovement]
  simp only [List.map_append, List.map_cons, List.sum_append, List.sum_cons]
  rw [← h.stateMarginal, add_assoc]

/-- The two halves share what the whole had. -/
theorem SplitInto.stateShare (h : SplitInto s first second)
    (states : List SleeveRiskState) :
    stateShare assumptions states first + stateShare assumptions states second
      = stateShare assumptions states s := by
  unfold Warehouse.stateShare
  split
  · rw [← add_div, h.stateMarginal]
  · exact add_zero 0

/-- Contributions where the one at a place is cut in two. -/
def CutAt (place : Nat) (whole cut : List ℚ) : Prop :=
  ∃ left p first second right, left.length = place
    ∧ whole = left ++ p :: right ∧ cut = left ++ first :: second :: right
    ∧ first + second = p

/-- A function that splits with the state cuts its list at that place. -/
theorem cutAt_map {f : SleeveRiskState → ℚ} (h : f first + f second = f s) :
    CutAt before.length ((before ++ s :: after).map f)
      ((before ++ first :: second :: after).map f) := by
  refine ⟨before.map f, f s, f first, f second, after.map f,
    List.length_map _, ?_, ?_, h⟩
  · rw [List.map_append, List.map_cons]
  · rw [List.map_append, List.map_cons, List.map_cons]

end Split

/-- The shares of a positive variance sum to one, in the rows too; a slot
split in two leaves the variance and cuts its contribution in two; and slots
in another order keep the variance and each its contribution. -/
theorem euler_decomposition (states : List SleeveRiskState) :
    (0 < (portfolioCovariance states assumptions).portfolioVariance →
      (portfolioCovariance states
        assumptions).pctVarianceContributions.sum = 1
      ∧ ((evaluateClassContributions states
          (portfolioCovariance states assumptions) assumptions).map
            (·.pctVarianceContribution)).sum = 1)
    ∧ (∀ before s after first second, states = before ++ s :: after →
        SplitInto s first second →
        let split := portfolioCovariance
          (before ++ first :: second :: after) assumptions
        let whole := portfolioCovariance states assumptions
        split.portfolioVariance = whole.portfolioVariance
        ∧ CutAt before.length whole.pctVarianceContributions
            split.pctVarianceContributions
        ∧ CutAt before.length whole.marginalVariance split.marginalVariance)
    ∧ (∀ reordered, reordered.Perm states →
        let other := portfolioCovariance reordered assumptions
        let whole := portfolioCovariance states assumptions
        other.portfolioVariance = whole.portfolioVariance
        ∧ (reordered.zip other.pctVarianceContributions).Perm
            (states.zip whole.pctVarianceContributions)
        ∧ (reordered.zip other.marginalVariance).Perm
            (states.zip whole.marginalVariance)) := by
  refine ⟨?_, ?_, ?_⟩
  · intro hpos
    rw [pct_evaluateClassContributions]
    rw [portfolioCovariance_eq] at hpos ⊢
    exact ⟨sum_stateShare assumptions hpos, sum_stateShare assumptions hpos⟩
  · rintro before s after first second rfl h
    have hmarginal : stateMarginal assumptions
          (before ++ first :: second :: after)
        = stateMarginal assumptions (before ++ s :: after) :=
      stateMarginal_congr h.coMovement
    have hvariance : statesVariance assumptions
          (before ++ first :: second :: after)
        = statesVariance assumptions (before ++ s :: after) :=
      h.statesVariance
    simp only [portfolioCovariance_eq]
    rw [stateShare_congr hmarginal hvariance, hmarginal]
    exact ⟨hvariance, cutAt_map (h.stateShare _), cutAt_map (h.stateMarginal _)⟩
  · intro reordered hperm
    have hzip : ∀ (f : SleeveRiskState → ℚ) (zs : List SleeveRiskState),
        zs.zip (zs.map f) = zs.map fun s => (s, f s) := by
      intro f zs
      unfold List.zip
      rw [List.zipWith_map_right, List.zipWith_self]
    simp only [portfolioCovariance_eq]
    rw [stateShare_perm hperm, stateMarginal_congr (coMovement_perm hperm),
      hzip, hzip, hzip, hzip]
    exact ⟨statesVariance_perm hperm, hperm.map _, hperm.map _⟩

end Warehouse
