/-
The stress overlay beside the base solve.

The overlay re-solves without the caller's tax estimator. What that changes
is the expected returns and nothing else: the base solve takes the drag off
each sleeve, the re-solve does not.

# A uniform drag

A drag that is the same on every sleeve moves every gradient by one
constant (`ascend_shiftDown`). The projection's multiplier absorbs it: the
bracket of the bisection moves along, and the clipped point of every
multiplier is the one it was (`projectCappedSimplex_shiftDown`). So the
iterates are the same ones (`solveQp_shiftDown`), and under equal
assumptions the two solves report the same targets.

This is a statement about exact iterates. In floats a constant shift of the
returns is rounded into each gradient, and the iterates may part in their
last digits; without a drag, or under an identity or a zero one, the two
solves are given the same numbers.

# A drag that tells sleeves apart

Then the two solves are two problems, and their difference is reported as a
regime gap (`stress_overlay_drops_drag`).
-/
import Warehouse.Proofs.Turnover

namespace Warehouse

open Lib

-- ===================================================== shifting a problem

section Shift

variable {v wMin wMax mu w : List ℚ} {sigma : List (List ℚ)} {lam step tol : ℚ}

/-- Every entry less `k`. -/
def shiftDown (k : ℚ) (v : List ℚ) : List ℚ := v.map fun x => x - k

theorem item_shiftDown (k : ℚ) {i : Nat} (hi : i < v.length) :
    item (shiftDown k v) i = item v i - k := by
  simp [shiftDown, item, List.getD_eq_getElem?_getD, hi]

theorem length_shiftDown (k : ℚ) (v : List ℚ) :
    (shiftDown k v).length = v.length := List.length_map _

private theorem foldl_shiftDown {op : ℚ → ℚ → ℚ} {k : ℚ}
    (hop : ∀ a b, op (a - k) (b - k) = op a b - k) (xs : List ℚ) :
    ∀ a, (shiftDown k xs).foldl op (a - k) = xs.foldl op a - k := by
  induction xs with
  | nil => exact fun _ => rfl
  | cons x rest ih =>
      intro a
      show (shiftDown k rest).foldl op (op (a - k) (x - k)) = _
      rw [hop]
      exact ih (op a x)

theorem minOf_shiftDown (k : ℚ) {xs : List ℚ} (hne : xs ≠ []) :
    minOf (shiftDown k xs) = minOf xs - k := by
  cases xs with
  | nil => exact absurd rfl hne
  | cons x rest =>
      have hop : ∀ a b : ℚ, min (a - k) (b - k) = min a b - k :=
        fun a b => min_sub_sub_right a b k
      exact foldl_shiftDown hop (x :: rest) x

theorem maxOf_shiftDown (k : ℚ) {xs : List ℚ} (hne : xs ≠ []) :
    maxOf (shiftDown k xs) = maxOf xs - k := by
  cases xs with
  | nil => exact absurd rfl hne
  | cons x rest =>
      have hop : ∀ a b : ℚ, max (a - k) (b - k) = max a b - k :=
        fun a b => max_sub_sub_right a b k
      exact foldl_shiftDown hop (x :: rest) x

/-- The clipped point does not change when the multiplier moves along. -/
theorem summed_shiftDown (k tau : ℚ) :
    summed (shiftDown k v) wMin wMax (tau - k) = summed v wMin wMax tau := by
  have hpoint : (List.range v.length).map (fun i =>
      min (max (item (shiftDown k v) i - (tau - k)) (item wMin i))
        (item wMax i))
      = (List.range v.length).map fun i =>
        min (max (item v i - tau) (item wMin i)) (item wMax i) := by
    refine List.map_congr_left fun i hi => ?_
    rw [item_shiftDown k (List.mem_range.mp hi), sub_sub_sub_cancel_right]
  unfold summed
  rw [length_shiftDown, hpoint]

/-- The bisection over a shifted vector ends in the same clipped point. -/
theorem bisectTau_shiftDown (k total : ℚ) (iters : Nat) :
    ∀ loTau hiTau last, bisectTau (shiftDown k v) wMin wMax total iters
        (loTau - k) (hiTau - k) last
      = bisectTau v wMin wMax total iters loTau hiTau last := by
  induction iters with
  | zero => exact fun _ _ _ => rfl
  | succ iters ih =>
      intro loTau hiTau last
      have hmid : 1 / 2 * (loTau - k + (hiTau - k))
          = 1 / 2 * (loTau + hiTau) - k := by ring
      unfold bisectTau
      dsimp only
      rw [hmid, summed_shiftDown]
      split
      · rfl
      · split
        · exact ih _ _ _
        · exact ih _ _ _

/-- The projection absorbs a shift. -/
theorem projectCappedSimplex_shiftDown (k total : ℚ) (iters : Nat)
    (hv : v ≠ []) :
    projectCappedSimplex (shiftDown k v) wMin wMax total (iters + 1)
      = projectCappedSimplex v wMin wMax total (iters + 1) := by
  have hne : ∀ f : Nat → ℚ, (List.range v.length).map f ≠ [] := by
    intro f
    simpa using hv
  have hends : ∀ bounds : List ℚ, (List.range v.length).map (fun i =>
      item (shiftDown k v) i - item bounds i)
      = shiftDown k ((List.range v.length).map fun i =>
          item v i - item bounds i) := by
    intro bounds
    unfold shiftDown
    rw [List.map_map]
    refine List.map_congr_left fun i hi => ?_
    show item (shiftDown k v) i - _ = _
    rw [item_shiftDown k (List.mem_range.mp hi)]
    exact sub_right_comm _ _ _
  have hlo : loTau (shiftDown k v) wMax = loTau v wMax - k := by
    unfold loTau
    rw [length_shiftDown, hends, minOf_shiftDown k (hne _)]
  have hhi : hiTau (shiftDown k v) wMin = hiTau v wMin - k := by
    unfold hiTau
    rw [length_shiftDown, hends, maxOf_shiftDown k (hne _)]
  unfold projectCappedSimplex
  dsimp only
  rw [hlo, hhi, bisectTau_shiftDown]
  -- the first turn discards the clipped starting point
  rfl

/-- A constant off the returns is a constant off the step. -/
theorem ascend_shiftDown (c : ℚ) :
    ascend (shiftDown c mu) sigma lam step w
      = shiftDown (step * c) (ascend mu sigma lam step w) := by
  unfold ascend
  dsimp only
  rw [length_shiftDown]
  conv_rhs => rw [shiftDown, List.map_map]
  refine List.map_congr_left fun i hi => ?_
  have hi := List.mem_range.mp hi
  simp only [Function.comp_apply]
  rw [item_map_range _ hi, item_map_range _ hi, item_shiftDown c hi]
  ring

theorem ascendLoop_shiftDown (c : ℚ) (hmu : mu ≠ []) (iters : Nat) :
    ∀ w, ascendLoop (shiftDown c mu) sigma wMin wMax lam step tol iters w
      = ascendLoop mu sigma wMin wMax lam step tol iters w := by
  induction iters with
  | zero => exact fun _ => rfl
  | succ iters ih =>
      intro w
      have hne : ascend mu sigma lam step w ≠ [] := by
        simpa [ascend] using hmu
      have hproj : projectCappedSimplex
          (ascend (shiftDown c mu) sigma lam step w) wMin wMax
          = projectCappedSimplex (ascend mu sigma lam step w) wMin wMax := by
        rw [ascend_shiftDown]
        exact projectCappedSimplex_shiftDown _ 1 199 hne
      unfold ascendLoop
      dsimp only
      rw [hproj, length_shiftDown]
      split
      · rfl
      · exact ih _

/-- One constant off every return leaves the optimum where it is. -/
theorem solveQp_shiftDown (c : ℚ) (maxIters : Nat) :
    solveQp (shiftDown c mu) sigma wMin wMax lam tol maxIters
      = solveQp mu sigma wMin wMax lam tol maxIters := by
  unfold solveQp
  dsimp only
  rw [length_shiftDown]
  split
  · rfl
  · next hlen =>
    have hmu : mu ≠ [] := fun hnil => hlen (by rw [hnil]; rfl)
    rw [ascendLoop_shiftDown c hmu]

end Shift

-- ================================================================ the drag

variable {positions : List LotPositionView} {ips : InvestmentPolicyStatement}
  {priors : RiskAssumptions} {cfg : Settings} {estimator : TaxEstimator}
  {proposal : RebalanceProposal}

/-- The sleeves of the solve: those held and those the policy targets. -/
def universeOf (positions : List LotPositionView)
    (ips : InvestmentPolicyStatement) : List IpsSleeve :=
  sleeveUniverse (sleeveWeights (totalMarketValue positions) positions)
    (targetByClass ips)

/-- What an estimator takes off a sleeve's return. -/
def dragOf (estimator : TaxEstimator) (cfg : Settings)
    (sleeves : List IpsSleeve) (s : IpsSleeve) : ℚ :=
  if estimator.isZero then 0
  else ((estimator.sleeveMuDrag sleeves cfg).get? s).getD 0

/-- The estimator tells no two sleeves apart. -/
def UniformDrag (estimator : TaxEstimator) (cfg : Settings)
    (sleeves : List IpsSleeve) : Prop :=
  ∃ c, ∀ s ∈ sleeves, dragOf estimator cfg sleeves s = c

/-- Returns are priors less drags. -/
theorem expectedReturns_eq (sleeves : List IpsSleeve) :
    expectedReturns priors estimator cfg sleeves
      = sleeves.map fun s => priors.classExpectedReturn (riskClassFor s)
          - dragOf estimator cfg sleeves s := by
  unfold expectedReturns dragOf
  cases estimator.isZero with
  | true => simp
  | false => rfl

theorem dragOf_zeroTaxEstimator (sleeves : List IpsSleeve) (s : IpsSleeve) :
    dragOf zeroTaxEstimator cfg sleeves s = 0 := rfl

variable (priors) in
/-- Under a uniform drag the two solves have the same returns, up to a
constant. -/
theorem expectedReturns_uniform {sleeves : List IpsSleeve}
    (h : UniformDrag estimator cfg sleeves) :
    ∃ c, expectedReturns priors estimator cfg sleeves
      = shiftDown c (expectedReturns priors zeroTaxEstimator cfg sleeves) := by
  obtain ⟨c, hc⟩ := h
  refine ⟨c, ?_⟩
  rw [expectedReturns_eq, expectedReturns_eq, shiftDown, List.map_map]
  refine List.map_congr_left fun s hs => ?_
  rw [Function.comp_apply, dragOf_zeroTaxEstimator, sub_zero, hc s hs]

-- ============================================================== the overlay

/-- Two equal sets of weights have no gap between them. -/
theorem regimeGap_self (weights : Dict IpsSleeve ℚ)
    (reported : List IpsSleeve) :
    ((Dict.tabulate reported fun s =>
      weightOf weights s - weightOf weights s).values.map fun d => |d|).sum
      = 0 := by
  rw [Dict.values_eq, List.map_map]
  apply List.sum_eq_zero
  intro d hd
  obtain ⟨s, -, rfl⟩ := List.mem_map.mp hd
  show |((Dict.tabulate reported _).get? s).getD 0| = 0
  rw [Dict.get?_tabulate]
  split
  · rw [Option.getD_some, sub_self, abs_zero]
  · rw [Option.getD_none, abs_zero]

/-- Stress overlay consistency, as far as it goes.

Under equal base and stress assumptions the overlay reports the base
targets and no gap whenever the estimator tells no two sleeves of the
universe apart: none is given, it is the identity, or its drag is one
constant, whose shift exact iterates do not see. -/
theorem stress_overlay_consistent {positions : List LotPositionView}
    {ips : InvestmentPolicyStatement} {cfg : Settings}
    {assumptions stress : Option RiskAssumptions}
    {taxEstimator : Option TaxEstimator} {proposal : RebalanceProposal}
    (hsame : assumptionsOr stress cfg.optimizerStressRegime
      = assumptionsOr assumptions "base")
    (hrun : runMvRebalance positions ips assumptions cfg taxEstimator true
      stress = .ok proposal)
    (huniform : UniformDrag (taxEstimator.getD zeroTaxEstimator) cfg
      (universeOf positions ips)) :
    proposal.stressTargetWeights = proposal.targetWeights
      ∧ proposal.regimeGapL1 = 0 := by
  obtain ⟨priors, base, hpriors, hbase, -, hoverlay⟩ := runMvRebalance_ok hrun
  obtain ⟨crisis, inner, hcrisis, hinner, rfl⟩ :=
    computeStressOverlay_ok (hoverlay rfl)
  rw [hsame, hpriors] at hcrisis
  cases hcrisis
  obtain ⟨w, hbase⟩ := rebalanceCore_ok hbase
  obtain ⟨w', hinner⟩ := rebalanceCore_ok hinner
  have hw := hbase.solved
  rw [universeOf, sleeveUniverse_eq] at huniform
  obtain ⟨c, hc⟩ := expectedReturns_uniform priors huniform
  rw [hc, solveQp_shiftDown, hinner.solved] at hw
  cases hw
  have hequal : inner.targetWeights = base.targetWeights :=
    hinner.targets.trans hbase.targets.symm
  unfold overlaid
  rw [hequal]
  exact ⟨rfl, regimeGap_self _ _⟩

-- ============================================================ concrete calls

/-- At most three tenths in equity, the rest in bonds. -/
def cappedPolicy : InvestmentPolicyStatement where
  ipsId := "ips_1"
  householdId := "h"
  version := 1
  effectiveDate := "2026-01-01"
  allocationTargets :=
    [{ assetClass := .equity
       minWeight := 0
       maxWeight := 3 / 10
       targetWeight := 3 / 10
       minFraction := by decide +kernel
       maxFraction := by decide +kernel
       targetFraction := by decide +kernel },
     { assetClass := .fixedIncome
       minWeight := 0
       maxWeight := 1
       targetWeight := 7 / 10
       minFraction := by decide +kernel
       maxFraction := by decide +kernel
       targetFraction := by decide +kernel }]
  concentrationFraction := isFraction_quarter
  liquidityFraction := isFraction_none
  turnoverFraction := isFraction_none

/-- A drag of `equity` on equity and `bonds` on fixed income. -/
def sleeveDrag (equity bonds : ℚ) : TaxEstimator where
  isZero := false
  sleeveMuDrag _ _ :=
    Dict.ofPairs [(.equity, equity), (.fixedIncome, bonds)]

/-- The gap the stress overlay of `evenBook` reports under one set of
assumptions and this drag. -/
def reportedGap (equity bonds : ℚ) : Option ℚ :=
  (runMvRebalance evenBook cappedPolicy (some baseAssumptions) {}
    (some (sleeveDrag equity bonds)) true
    (some baseAssumptions)).toOption.map (·.regimeGapL1)

/-- Ten points off both sleeves: no gap. -/
theorem stress_overlay_consistent_uniform : ∃ proposal,
    runMvRebalance evenBook cappedPolicy (some baseAssumptions) {}
        (some (sleeveDrag (1 / 10) (1 / 10))) true (some baseAssumptions)
        = .ok proposal
      ∧ proposal.stressTargetWeights = proposal.targetWeights
      ∧ proposal.regimeGapL1 = 0 := by
  have hgap : reportedGap (1 / 10) (1 / 10) = some 0 := by decide +kernel
  unfold reportedGap at hgap
  cases hrun : runMvRebalance evenBook cappedPolicy (some baseAssumptions) {}
      (some (sleeveDrag (1 / 10) (1 / 10))) true (some baseAssumptions) with
  | error e =>
    rw [hrun] at hgap
    cases hgap
  | ok proposal =>
    refine ⟨proposal, rfl, stress_overlay_consistent rfl hrun ?_⟩
    exact ⟨1 / 10, by decide +kernel⟩

/-- Ten points off equity alone: the same assumptions, and a regime gap of
six tenths. -/
theorem stress_overlay_drops_drag : ∃ proposal,
    runMvRebalance evenBook cappedPolicy (some baseAssumptions) {}
        (some (sleeveDrag (1 / 10) 0)) true (some baseAssumptions)
        = .ok proposal
      ∧ proposal.regimeGapL1 = 6 / 10
      ∧ ¬ (proposal.stressTargetWeights = proposal.targetWeights
        ∧ proposal.regimeGapL1 = 0) := by
  have hgap : reportedGap (1 / 10) 0 = some (6 / 10) := by decide +kernel
  unfold reportedGap at hgap
  cases hrun : runMvRebalance evenBook cappedPolicy (some baseAssumptions) {}
      (some (sleeveDrag (1 / 10) 0)) true (some baseAssumptions) with
  | error e =>
    rw [hrun] at hgap
    cases hgap
  | ok proposal =>
    rw [hrun] at hgap
    have hgap : proposal.regimeGapL1 = 6 / 10 := Option.some.inj hgap
    refine ⟨proposal, rfl, hgap, fun hnone => ?_⟩
    rw [hgap] at hnone
    exact absurd hnone.2 (by norm_num)

end Warehouse
