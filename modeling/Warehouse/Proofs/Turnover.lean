/-
The turnover cap of the rebalance.

Under a binding budget the targets are the budget-scaled step from the
current weights towards the optimum, projected once more and quantized.
The step is within half a quantum of the box and within a few millionths
of the budget, so the projection moves it by a few millionths
(`abs_projection_sub_le`), and so does the rounding: each target is
within 1e-5 of the step, whose own turnover is the budget exactly.

# Two projections

The cap scales the way from the current weights to the optimum so that its
length is the budget, and projects the point once more. Being convex, the
box contains the step where it contains both ends, up to the quantum by
which the ends are off; the projection is nearly the identity on such
points, and quantizing is within half a quantum. These three errors are what
separates a target from the step.

# Repeated targets

A statement may list a sleeve twice. The source keeps the later one, so a
statement is replaced by the one that keeps last targets only
(`rebalanceCore_lastTargets`) before the argument starts.
-/
import Mathlib.Algebra.BigOperators.Ring.List
import Warehouse.Proofs.Rebalance

namespace Warehouse

open Lib Bisection

variable {positions : List LotPositionView} {ips : InvestmentPolicyStatement}
  {w : List ℚ}

/-- Between `a` and `b`, up to `tolerance`. -/
def Between (tolerance a b x : ℚ) : Prop :=
  min a b - tolerance ≤ x ∧ x ≤ max a b + tolerance

/-- Every sleeve's current weight is within its box. -/
def CurrentInBox (positions : List LotPositionView)
    (ips : InvestmentPolicyStatement) : Prop :=
  ∀ s, (sleeveBox (targetByClass ips) s).1
      ≤ weightOf (sleeveWeights (totalMarketValue positions) positions) s
    ∧ weightOf (sleeveWeights (totalMarketValue positions) positions) s
      ≤ (sleeveBox (targetByClass ips) s).2

-- ============================================================ convex steps

/-- A convex step stays between its ends. -/
theorem between_convex {c u alpha : ℚ} (h : IsFraction alpha) :
    Between 0 c u (c + alpha * (u - c)) := by
  unfold Between
  rw [sub_zero, add_zero]
  rcases le_total c u with hcu | huc
  · rw [min_eq_left hcu, max_eq_right hcu]
    have hstep := mul_nonneg h.1 (sub_nonneg.mpr hcu)
    have hleft := mul_le_mul_of_nonneg_right h.2 (sub_nonneg.mpr hcu)
    exact ⟨by linarith, by linarith⟩
  · rw [min_eq_right huc, max_eq_left huc]
    have hstep := mul_nonneg h.1 (sub_nonneg.mpr huc)
    have hleft := mul_le_mul_of_nonneg_right h.2 (sub_nonneg.mpr huc)
    exact ⟨by linarith, by linarith⟩

/-- A small error widens the interval by as much. -/
theorem Between.widen {a b x y tolerance : ℚ} (h : Between 0 a b x)
    (hxy : |y - x| ≤ tolerance) : Between tolerance a b y := by
  obtain ⟨hlo, hhi⟩ := h
  obtain ⟨hdown, hup⟩ := abs_le.mp hxy
  rw [sub_zero] at hlo
  rw [add_zero] at hhi
  exact ⟨by linarith, by linarith⟩

/-- Sums of lists whose terms differ by at most `c`. -/
theorem sum_le_sum_add {sleeves : List IpsSleeve} {f g : IpsSleeve → ℚ}
    {c : ℚ} (h : ∀ s ∈ sleeves, f s ≤ g s + c) :
    (sleeves.map f).sum ≤ (sleeves.map g).sum + sleeves.length * c := by
  induction sleeves with
  | nil => simp
  | cons s rest ih =>
      have hrest := ih fun t ht => h t (List.mem_cons_of_mem _ ht)
      have hs := h s (List.mem_cons_self ..)
      rw [List.map_cons, List.map_cons, List.sum_cons, List.sum_cons,
        List.length_cons]
      push_cast
      linarith

-- ============================================================== the weights

theorem weightOf_tabulate {sleeves : List IpsSleeve} (f : IpsSleeve → ℚ)
    {s : IpsSleeve} (hs : s ∈ sleeves) :
    weightOf (Dict.tabulate sleeves f) s = f s := by
  unfold weightOf
  rw [Dict.get?_tabulate, if_pos hs, Option.getD_some]

/-- The weights held are the whole of the book. -/
theorem sum_values_sleeveWeights (totalMv : ℚ)
    (positions : List LotPositionView) :
    (sleeveWeights totalMv positions).values.sum
      = totalMarketValue positions / totalMv := by
  induction positions using List.reverseRecOn with
  | nil => simp [sleeveWeights, totalMarketValue, Dict.values, Dict.empty]
  | append_singleton rest p ih =>
      have htotal : totalMarketValue (rest ++ [p])
          = totalMarketValue rest + p.marketValue.getD 0 := by
        simp [totalMarketValue]
      rw [sleeveWeights_append, htotal, add_div]
      cases p.marketValue with
      | none => simpa using ih
      | some v =>
          show ((sleeveWeights totalMv rest).add (ipsSleeveForPosition p)
            (v / totalMv)).values.sum = _
          rw [Dict.sum_values_add, ih, Option.getD_some]

/-- The current weights of the universe sum to one. -/
theorem sum_currentOf (hin : RebalanceInput positions ips) :
    ((heldOrTargeted positions ips).map
      (weightOf (currentOf positions ips))).sum = 1 := by
  have hread : (heldOrTargeted positions ips).map
      (weightOf (currentOf positions ips))
      = (heldOrTargeted positions ips).map (weightOf (sleeveWeights
          (totalMarketValue positions) positions)) :=
    List.map_congr_left fun s hs => weightOf_tabulate _ hs
  have hsub : ∀ s ∈ (sleeveWeights (totalMarketValue positions)
      positions).keys, s ∈ heldOrTargeted positions ips := by
    intro s hs
    rw [mem_keys_sleeveWeights] at hs
    unfold heldOrTargeted
    rw [List.mem_filter, decide_eq_true_eq]
    exact ⟨IpsSleeve.mem_all s, Or.inl hs⟩
  have hsum := Dict.sum_getD_of_subset (sleeveWeights
    (totalMarketValue positions) positions)
    (heldOrTargeted_nodup positions ips) hsub
  rw [sum_values_sleeveWeights, div_self hin.nav.ne'] at hsum
  rw [hread]
  exact hsum

/-- Quantized targets, read back by position in the universe. -/
theorem weightOf_quantizedTargets {sleeves : List IpsSleeve}
    (hnodup : sleeves.Nodup) (wMin wMax w : List ℚ) {i : Nat}
    (hi : i < sleeves.length) :
    weightOf (quantizedTargets sleeves wMin wMax w) sleeves[i]
      = quantizeBox wMin wMax (item w i) i := by
  have hmem : (sleeves[i], quantizeBox wMin wMax (item w i) i)
      ∈ (quantizedTargets sleeves wMin wMax w).entries := by
    unfold quantizedTargets
    rw [Dict.entries_enumerated hnodup]
    refine List.mem_map.mpr ⟨(sleeves[i], i), ?_, rfl⟩
    exact List.mem_zipIdx_iff_getElem?.mpr (List.getElem?_eq_getElem hi)
  unfold weightOf
  rw [Dict.get?_eq_some_iff.mpr hmem, Option.getD_some]

/-- The targets a projection quantizes to sum to one, within a few
millionths, and are within half a quantum of the projection and of the
box. -/
theorem weightOf_unconstrainedOf (hin : RebalanceInput positions ips)
    (hw : Projected (heldOrTargeted positions ips).length
      (boxMins ips (heldOrTargeted positions ips))
      (boxMaxs ips (heldOrTargeted positions ips)) w) {i : Nat}
    (hi : i < (heldOrTargeted positions ips).length) :
    |weightOf (unconstrainedOf positions ips w)
        (heldOrTargeted positions ips)[i] - item w i| ≤ 5 / 10 ^ 7
      ∧ sleeveMin ips (heldOrTargeted positions ips)[i] ≤ item w i
      ∧ item w i ≤ sleeveMax ips (heldOrTargeted positions ips)[i] := by
  obtain ⟨hsame, hlo, hhi⟩ := quantizeBox_eq hin hw hi
  refine ⟨?_, hlo, hhi⟩
  unfold unconstrainedOf
  rw [weightOf_quantizedTargets (heldOrTargeted_nodup positions ips) _ _ _ hi,
    hsame]
  refine (abs_quantize_sub_le 6 (item w i)).trans ?_
  norm_num

/-- The solver's weights sum to the budget, up to its tolerance. -/
theorem sum_unconstrainedOf (hin : RebalanceInput positions ips)
    (hw : Projected (heldOrTargeted positions ips).length
      (boxMins ips (heldOrTargeted positions ips))
      (boxMaxs ips (heldOrTargeted positions ips)) w) :
    |((heldOrTargeted positions ips).map
        (weightOf (unconstrainedOf positions ips w))).sum - 1|
      ≤ 4 / 10 ^ 6 := by
  have hnodup := heldOrTargeted_nodup positions ips
  have hbudget := budget_quantizedTargets hin hnodup
    (heldOrTargeted_length_le positions ips) hw
  rw [Dict.values_eq, keys_quantizedTargets hnodup] at hbudget
  exact hbudget

-- ================================================================= the step

/-- A step from within the box towards a point half a quantum outside it
at most stays that near, and the sum moves no further than the point's. -/
theorem budgetStep_near {c u lo hi alpha : ℚ} (halpha : IsFraction alpha)
    (hlo : lo ≤ c) (hhi : c ≤ hi) (hulo : lo - 5 / 10 ^ 7 ≤ u)
    (huhi : u ≤ hi + 5 / 10 ^ 7) :
    |clip (c + alpha * (u - c)) lo hi - (c + alpha * (u - c))|
      ≤ 5 / 10 ^ 7 := by
  obtain ⟨hstepLo, hstepHi⟩ := between_convex (c := c) (u := u) halpha
  rw [sub_zero] at hstepLo
  rw [add_zero] at hstepHi
  apply abs_clip_sub_le (hlo.trans hhi) (by norm_num)
  · exact (le_min (by linarith) hulo).trans hstepLo
  · exact hstepHi.trans (max_le (by linarith) huhi)

/-- A step's sum is between the sums of its ends. -/
theorem sum_budgetStep (sleeves : List IpsSleeve)
    (unconstrained current : Dict IpsSleeve ℚ) (alpha : ℚ) :
    (budgetStep sleeves unconstrained current alpha).sum
      = (sleeves.map (weightOf current)).sum
        + alpha * ((sleeves.map (weightOf unconstrained)).sum
          - (sleeves.map (weightOf current)).sum) := by
  unfold budgetStep
  induction sleeves with
  | nil => simp
  | cons s rest ih =>
      simp only [List.map_cons, List.sum_cons, ih]
      ring

theorem item_budgetStep {sleeves : List IpsSleeve}
    (unconstrained current : Dict IpsSleeve ℚ) (alpha : ℚ) {j : Nat}
    (hj : j < sleeves.length) :
    item (budgetStep sleeves unconstrained current alpha) j
      = weightOf current sleeves[j]
        + alpha * (weightOf unconstrained sleeves[j]
          - weightOf current sleeves[j]) :=
  item_map _ hj

/-- From a book within its box, every entry of the step is in the box or half
a quantum outside. -/
theorem item_budgetStep_near (hin : RebalanceInput positions ips)
    (hbox : ∀ s, sleeveMin ips s ≤ weightOf (sleeveWeights
        (totalMarketValue positions) positions) s
      ∧ weightOf (sleeveWeights (totalMarketValue positions) positions) s
        ≤ sleeveMax ips s)
    (hw : Projected (heldOrTargeted positions ips).length
      (boxMins ips (heldOrTargeted positions ips))
      (boxMaxs ips (heldOrTargeted positions ips)) w)
    {alpha : ℚ} (halpha : IsFraction alpha) {j : Nat}
    (hj : j < (heldOrTargeted positions ips).length) :
    |clip (item (budgetStep (heldOrTargeted positions ips)
          (unconstrainedOf positions ips w) (currentOf positions ips) alpha) j)
        (item (boxMins ips (heldOrTargeted positions ips)) j)
        (item (boxMaxs ips (heldOrTargeted positions ips)) j)
      - item (budgetStep (heldOrTargeted positions ips)
          (unconstrainedOf positions ips w) (currentOf positions ips) alpha) j|
      ≤ 5 / 10 ^ 7 := by
  have hcur : weightOf (currentOf positions ips)
        (heldOrTargeted positions ips)[j]
      = weightOf (sleeveWeights (totalMarketValue positions) positions)
          (heldOrTargeted positions ips)[j] :=
    weightOf_tabulate _ (List.getElem_mem hj)
  obtain ⟨hq, hlo, hhi⟩ := weightOf_unconstrainedOf hin hw hj
  rw [abs_le] at hq
  rw [item_budgetStep _ _ _ hj]
  unfold boxMins boxMaxs
  rw [item_map _ hj, item_map _ hj]
  apply budgetStep_near halpha
  · rw [hcur]
    exact (hbox _).1
  · rw [hcur]
    exact (hbox _).2
  · linarith [hq.1]
  · linarith [hq.2]

theorem sum_budgetStep_near (hin : RebalanceInput positions ips)
    (hw : Projected (heldOrTargeted positions ips).length
      (boxMins ips (heldOrTargeted positions ips))
      (boxMaxs ips (heldOrTargeted positions ips)) w)
    {alpha : ℚ} (halpha : IsFraction alpha) :
    |(budgetStep (heldOrTargeted positions ips)
        (unconstrainedOf positions ips w) (currentOf positions ips)
        alpha).sum - 1| ≤ 4 / 10 ^ 6 := by
  have hunit : (budgetStep (heldOrTargeted positions ips)
      (unconstrainedOf positions ips w) (currentOf positions ips)
      alpha).sum - 1
    = alpha * (((heldOrTargeted positions ips).map (weightOf
      (unconstrainedOf positions ips w))).sum - 1) := by
    rw [sum_budgetStep, sum_currentOf hin]
    ring
  rw [hunit, abs_mul, abs_of_nonneg halpha.1]
  exact (mul_le_of_le_one_left (abs_nonneg _) halpha.2).trans
    (sum_unconstrainedOf hin hw)

/-- Projected and quantized, the budget step has moved by at most 1e-5 in
every sleeve. -/
theorem abs_quantized_sub_step_le (hin : RebalanceInput positions ips)
    (hbox : ∀ s, sleeveMin ips s ≤ weightOf (sleeveWeights
        (totalMarketValue positions) positions) s
      ∧ weightOf (sleeveWeights (totalMarketValue positions) positions) s
        ≤ sleeveMax ips s)
    (hw : Projected (heldOrTargeted positions ips).length
      (boxMins ips (heldOrTargeted positions ips))
      (boxMaxs ips (heldOrTargeted positions ips)) w)
    {alpha : ℚ} (halpha : IsFraction alpha)
    (hproj : Projected (heldOrTargeted positions ips).length
      (boxMins ips (heldOrTargeted positions ips))
      (boxMaxs ips (heldOrTargeted positions ips))
      (projectCappedSimplex (budgetStep (heldOrTargeted positions ips)
          (unconstrainedOf positions ips w) (currentOf positions ips) alpha)
        (boxMins ips (heldOrTargeted positions ips))
        (boxMaxs ips (heldOrTargeted positions ips))))
    {s : IpsSleeve} (hs : s ∈ heldOrTargeted positions ips) :
    |weightOf (unconstrainedOf positions ips
        (projectCappedSimplex (budgetStep (heldOrTargeted positions ips)
            (unconstrainedOf positions ips w) (currentOf positions ips) alpha)
          (boxMins ips (heldOrTargeted positions ips))
          (boxMaxs ips (heldOrTargeted positions ips)))) s
      - (weightOf (currentOf positions ips) s
        + alpha * (weightOf (unconstrainedOf positions ips w) s
          - weightOf (currentOf positions ips) s))| ≤ 1 / 10 ^ 5 := by
  obtain ⟨i, hi, rfl⟩ := List.getElem_of_mem hs
  have hstep := item_budgetStep (unconstrainedOf positions ips w)
    (currentOf positions ips) alpha hi
  have hnear := fun j => item_budgetStep_near (j := j) hin hbox hw halpha
  have hsum := sum_budgetStep_near hin hw halpha
  have hlen : (budgetStep (heldOrTargeted positions ips)
      (unconstrainedOf positions ips w) (currentOf positions ips)
      alpha).length = (heldOrTargeted positions ips).length :=
    List.length_map _
  rw [← hstep]
  generalize budgetStep (heldOrTargeted positions ips)
    (unconstrainedOf positions ips w) (currentOf positions ips) alpha = v
    at hproj hnear hsum hlen ⊢
  rw [← hlen] at hnear
  have hmove := abs_projection_sub_le hnear hsum hproj.budget
    (by rw [hlen]; exact hi)
  obtain ⟨hq, -⟩ := weightOf_unconstrainedOf hin hproj hi
  have hsix : (v.length : ℚ) * (5 / 10 ^ 7) ≤ 6 * (5 / 10 ^ 7) := by
    have hle : (v.length : ℚ) ≤ 6 := by
      rw [hlen]
      exact_mod_cast heldOrTargeted_length_le positions ips
    exact mul_le_mul_of_nonneg_right hle (by norm_num)
  have htri := abs_sub_le (weightOf (unconstrainedOf positions ips
    (projectCappedSimplex v (boxMins ips (heldOrTargeted positions ips))
      (boxMaxs ips (heldOrTargeted positions ips))))
    (heldOrTargeted positions ips)[i])
    (item (projectCappedSimplex v
      (boxMins ips (heldOrTargeted positions ips))
      (boxMaxs ips (heldOrTargeted positions ips))) i) (item v i)
  have hnum : (5 : ℚ) / 10 ^ 7 + (2 / 10 ^ 9 + 4 / 10 ^ 6 + 6 * (5 / 10 ^ 7)
      + 5 / 10 ^ 7) ≤ 1 / 10 ^ 5 := by norm_num
  linarith

-- ================================================================== the cap

/-- The policy without its turnover budget. -/
def InvestmentPolicyStatement.withoutBudget
    (ips : InvestmentPolicyStatement) : InvestmentPolicyStatement :=
  { ips with
    turnoverBudgetPct := none
    turnoverFraction := isFraction_none }

/-- The two arms of the cap. -/
theorem cappedOf_cases (positions : List LotPositionView) {budget : ℚ}
    (hbudget : ips.turnoverBudgetPct = some budget) (w : List ℚ) :
    (turnoverL1 (heldOrTargeted positions ips) (unconstrainedOf positions ips w)
          (currentOf positions ips) > budget
      ∧ cappedOf positions ips w = (true, unconstrainedOf positions ips
          (projectCappedSimplex (budgetStep (heldOrTargeted positions ips)
              (unconstrainedOf positions ips w) (currentOf positions ips)
              (budget / turnoverL1 (heldOrTargeted positions ips)
                (unconstrainedOf positions ips w) (currentOf positions ips)))
            (boxMins ips (heldOrTargeted positions ips))
            (boxMaxs ips (heldOrTargeted positions ips)))))
    ∨ (turnoverL1 (heldOrTargeted positions ips)
          (unconstrainedOf positions ips w) (currentOf positions ips) ≤ budget
      ∧ cappedOf positions ips w = (false, unconstrainedOf positions ips w)) := by
  unfold cappedOf cappedTargets
  rw [hbudget]
  dsimp only
  split
  · next hover => exact Or.inl ⟨hover, rfl⟩
  · next hwithin => exact Or.inr ⟨not_lt.mp hwithin, rfl⟩

/-- Outside the universe nothing weighs anything. -/
theorem weightOf_outside {s : IpsSleeve}
    (hs : s ∉ heldOrTargeted positions ips) (w : List ℚ) :
    weightOf (currentOf positions ips) s = 0
      ∧ weightOf (unconstrainedOf positions ips w) s = 0 := by
  have hnodup := heldOrTargeted_nodup positions ips
  constructor
  · unfold weightOf currentOf
    rw [Dict.get?_tabulate, if_neg hs, Option.getD_none]
  · have hkeys : s ∉ (unconstrainedOf positions ips w).keys := by
      unfold unconstrainedOf
      rwa [keys_quantizedTargets hnodup]
    unfold weightOf
    rw [Dict.get?_eq_none_iff.mpr hkeys, Option.getD_none]

/-- The step's own turnover is the budget, so the targets' is within six
times 1e-5 of it. -/
theorem turnoverL1_capped_le {targets : Dict IpsSleeve ℚ} {budget turnover : ℚ}
    {unconstrained current : Dict IpsSleeve ℚ}
    (hturnover : turnover = turnoverL1 (heldOrTargeted positions ips)
      unconstrained current)
    (hover : turnover > budget) (hbudget : IsFraction budget)
    (hnear : ∀ s ∈ heldOrTargeted positions ips,
      |weightOf targets s - (weightOf current s + budget / turnover
        * (weightOf unconstrained s - weightOf current s))| ≤ 1 / 10 ^ 5) :
    turnoverL1 (heldOrTargeted positions ips) targets current
      ≤ budget + 1 / 10 ^ 4 := by
  have hpos : 0 < turnover := lt_of_le_of_lt hbudget.1 hover
  have halpha := budget_ratio_fraction hbudget hover
  have hterm : ∀ s ∈ heldOrTargeted positions ips,
      |weightOf targets s - weightOf current s|
        ≤ budget / turnover * |weightOf unconstrained s - weightOf current s|
          + 1 / 10 ^ 5 := by
    intro s hs
    have htri := abs_sub_le (weightOf targets s) (weightOf current s
      + budget / turnover * (weightOf unconstrained s - weightOf current s))
      (weightOf current s)
    rw [add_sub_cancel_left, abs_mul, abs_of_nonneg halpha.1] at htri
    have hs := hnear s hs
    linarith
  have hsum := sum_le_sum_add hterm
  have hstep : ((heldOrTargeted positions ips).map fun s =>
      budget / turnover * |weightOf unconstrained s - weightOf current s|).sum
        = budget := by
    rw [List.sum_map_mul_left]
    show budget / turnover * turnoverL1 (heldOrTargeted positions ips)
      unconstrained current = budget
    rw [← hturnover]
    exact div_mul_cancel₀ budget hpos.ne'
  have hsix : ((heldOrTargeted positions ips).length : ℚ) ≤ 6 := by
    exact_mod_cast heldOrTargeted_length_le positions ips
  rw [hstep] at hsum
  unfold turnoverL1
  have hnum : (6 : ℚ) * (1 / 10 ^ 5) ≤ 1 / 10 ^ 4 := by norm_num
  have hmul := mul_le_mul_of_nonneg_right hsix
    (show (0 : ℚ) ≤ 1 / 10 ^ 5 by norm_num)
  linarith

variable {priors : RiskAssumptions} {cfg : Settings}
  {estimator : TaxEstimator} {base : RebalanceProposal}

/-- The cap on an ordered policy: the turnover, and where the targets
are. -/
theorem turnover_cap_core (hin : RebalanceInput positions ips)
    (hbox : ∀ s, sleeveMin ips s ≤ weightOf (sleeveWeights
        (totalMarketValue positions) positions) s
      ∧ weightOf (sleeveWeights (totalMarketValue positions) positions) s
        ≤ sleeveMax ips s)
    (hp : priors.Bounded) (he : estimator.Bounded cfg)
    (hlam : |cfg.riskAversionLambda| ≤ 10 ^ 6) {budget : ℚ}
    (hbudget : ips.turnoverBudgetPct = some budget)
    (hrun : rebalanceCore positions ips priors cfg estimator = .ok base) :
    base.turnoverL1 ≤ budget + 1 / 10 ^ 4
      ∧ ∃ free, rebalanceCore positions ips.withoutBudget priors cfg estimator
          = .ok free
        ∧ (base.turnoverBinding = false →
          base.targetWeights = free.targetWeights)
        ∧ (base.turnoverBinding = true → ∀ s,
          Between (1 / 10 ^ 5) (weightOf base.currentWeights s)
            (weightOf free.targetWeights s)
            (weightOf base.targetWeights s)) := by
  have hfraction : IsFraction budget := ips.turnoverFraction budget hbudget
  have hinFree : RebalanceInput positions ips.withoutBudget :=
    ⟨hin.marketValues, hin.nav, hin.distinct, hin.ordered⟩
  rcases rebalanceCore_cases hin hp he hlam with
    ⟨-, msg, herror⟩ | ⟨hguard, proposal, hok, -, w, hopt, hreb⟩
  · rw [herror] at hrun
    cases hrun
  cases hok.symm.trans hrun
  -- the same optimum, this time uncapped
  rcases rebalanceCore_cases hinFree hp he hlam with
    ⟨hmisses, -⟩ | ⟨-, free, hfree, -, w', hopt', hrebFree⟩
  · exact absurd hguard hmisses
  cases hopt.symm.trans hopt'
  have hfreeTargets : free.targetWeights = unconstrainedOf positions ips w :=
    hrebFree.targets
  have hqp := qpBounded_of_rebalanceInput hin hp he hlam
  have hlen : (expectedReturns priors estimator cfg
      (heldOrTargeted positions ips)).length
        = (heldOrTargeted positions ips).length := by
    rw [← hqp.minSize]
    exact List.length_map _
  rw [hreb.turnover, hreb.binding, hreb.targets, hreb.current]
  rcases cappedOf_cases positions hbudget w with
    ⟨hover, hcapped⟩ | ⟨hwithin, hcapped⟩
  · have halpha := budget_ratio_fraction hfraction hover
    have hproj := budgetStep_projected hqp hlen hguard
      (quantizedTargets_onTarget hin hreb.projected).weightOf
      (weightOf_current hin (heldOrTargeted positions ips)) halpha
    have hnear := fun s hs =>
      abs_quantized_sub_step_le hin hbox hreb.projected halpha hproj (s := s) hs
    rw [hcapped]
    refine ⟨turnoverL1_capped_le rfl hover hfraction hnear, free, hfree,
      fun h => (nomatch h), fun _ s => ?_⟩
    rw [hfreeTargets]
    by_cases hs : s ∈ heldOrTargeted positions ips
    · exact (between_convex halpha).widen (hnear s hs)
    · rw [(weightOf_outside hs w).1, (weightOf_outside hs w).2,
        (weightOf_outside hs _).2]
      norm_num [Between]
  · rw [hcapped]
    refine ⟨?_, free, hfree, fun _ => hfreeTargets.symm, fun h => nomatch h⟩
    have hslack : (0 : ℚ) ≤ 1 / 10 ^ 4 := by norm_num
    exact hwithin.trans (le_add_of_nonneg_right hslack)

-- ================================================== policies as they come

/-- The policy with the targets the rebalance reads: of several for one
sleeve, the last. -/
def InvestmentPolicyStatement.lastTargets
    (ips : InvestmentPolicyStatement) : InvestmentPolicyStatement :=
  { ips with allocationTargets := (targetByClass ips).values }

/-- Every entry is keyed by its own sleeve. -/
theorem targetByClass_key (ips : InvestmentPolicyStatement) :
    ∀ e ∈ (targetByClass ips).entries, e.1 = e.2.assetClass := by
  have hset : ∀ (pairs : List (IpsSleeve × AllocationTarget))
      (d : Dict IpsSleeve AllocationTarget),
      (∀ e ∈ pairs, e.1 = e.2.assetClass) →
      (∀ e ∈ d.entries, e.1 = e.2.assetClass) →
      ∀ e ∈ (d.setAll pairs).entries, e.1 = e.2.assetClass := by
    intro pairs
    induction pairs with
    | nil => exact fun d _ hd => hd
    | cons p rest ih =>
        intro d hpairs hd
        apply ih (d.set p.1 p.2)
          fun e he => hpairs e (List.mem_cons_of_mem _ he)
        rintro ⟨s, t⟩ he
        rw [Dict.mem_entries_set] at he
        split at he
        · next hs =>
          rw [hs, he]
          exact hpairs p (List.mem_cons_self ..)
        · exact hd _ he
  apply hset _ Dict.empty
  · intro e he
    obtain ⟨t, -, rfl⟩ := List.mem_map.mp he
    rfl
  · intro e he
    cases he

/-- Keeping the last target of a sleeve keeps the sleeves. -/
theorem map_assetClass_lastTargets (ips : InvestmentPolicyStatement) :
    ips.lastTargets.allocationTargets.map (·.assetClass)
      = (targetByClass ips).keys := by
  show ((targetByClass ips).entries.map Prod.snd).map _ = _
  rw [List.map_map]
  exact List.map_congr_left fun e he => (targetByClass_key ips e he).symm

/-- The rebalance reads the same boxes from it. -/
theorem targetByClass_lastTargets (ips : InvestmentPolicyStatement) :
    targetByClass ips.lastTargets = targetByClass ips := by
  have hpairs : ips.lastTargets.allocationTargets.map
      (fun t => (t.assetClass, t)) = (targetByClass ips).entries := by
    show ((targetByClass ips).entries.map Prod.snd).map _ = _
    rw [List.map_map]
    refine (List.map_congr_left fun e he => ?_).trans (List.map_id _)
    exact Prod.ext (targetByClass_key ips e he).symm rfl
  have hentries : (targetByClass ips.lastTargets).entries
      = (targetByClass ips).entries := by
    show (Dict.ofPairs _).entries = _
    rw [hpairs]
    exact Dict.entries_ofPairs (targetByClass ips).nodupKeys
  cases hleft : targetByClass ips.lastTargets
  cases hright : targetByClass ips
  rw [hleft, hright] at hentries
  cases hentries
  rfl

/-- The core reads the last target of a sleeve only. -/
theorem rebalanceCore_lastTargets (ips : InvestmentPolicyStatement) :
    rebalanceCore positions ips.lastTargets priors cfg estimator
      = rebalanceCore positions ips priors cfg estimator := by
  unfold rebalanceCore
  rw [targetByClass_lastTargets]
  rfl

/-- A rebalance that runs on a book within its boxes is one of an ordered
policy. -/
theorem rebalanceInput_of_inBox
    (hmv : ∀ p ∈ positions, ∀ v ∈ p.marketValue, 0 ≤ v)
    (hnav : 0 < totalMarketValue positions)
    (hbox : CurrentInBox positions ips) :
    RebalanceInput positions ips.lastTargets where
  marketValues := hmv
  nav := hnav
  distinct := by
    rw [map_assetClass_lastTargets]
    exact (targetByClass ips).nodupKeys
  ordered := by
    intro t ht
    obtain ⟨e, he, rfl⟩ := List.mem_map.mp ht
    have hget : (targetByClass ips).get? e.1 = some e.2 :=
      Dict.get?_eq_some_iff.mpr he
    obtain ⟨hlo, hhi⟩ := hbox e.1
    unfold sleeveBox at hlo hhi
    rw [hget] at hlo hhi
    exact hlo.trans hhi

/-- With its stress overlay or without, it reports the base's own
targets. -/
theorem runMvRebalance_base {assumptions stress : Option RiskAssumptions}
    {taxEstimator : Option TaxEstimator} {computeStress : Bool}
    {proposal : RebalanceProposal}
    (hrun : runMvRebalance positions ips assumptions cfg taxEstimator
      computeStress stress = .ok proposal) :
    ∃ priors base, assumptionsOr assumptions "base" = .ok priors
      ∧ rebalanceCore positions ips priors cfg
          (taxEstimator.getD zeroTaxEstimator) = .ok base
      ∧ proposal.targetWeights = base.targetWeights
      ∧ proposal.currentWeights = base.currentWeights
      ∧ proposal.turnoverL1 = base.turnoverL1
      ∧ proposal.turnoverBinding = base.turnoverBinding := by
  obtain ⟨priors, base, hpriors, hcore, hplain, hoverlay⟩ :=
    runMvRebalance_ok hrun
  refine ⟨priors, base, hpriors, hcore, ?_⟩
  cases computeStress with
  | false =>
    rw [hplain rfl]
    exact ⟨rfl, rfl, rfl, rfl⟩
  | true =>
    obtain ⟨-, -, -, -, rfl⟩ := computeStressOverlay_ok (hoverlay rfl)
    exact ⟨rfl, rfl, rfl, rfl⟩

/-- The turnover cap.

Whenever the rebalance reports a proposal for a book whose current weights
are within their boxes, its turnover is at most the budget plus 1e-4. Under
a budget that does not bind the targets are those of the same policy
without a budget; under one that binds each lies, up to 1e-5, between the
current weight and that unconstrained target. -/
theorem turnover_cap {positions : List LotPositionView}
    {ips : InvestmentPolicyStatement}
    (hmv : ∀ p ∈ positions, ∀ v ∈ p.marketValue, 0 ≤ v)
    (hbox : CurrentInBox positions ips)
    {budget : ℚ} (hbudget : ips.turnoverBudgetPct = some budget)
    (assumptions stress : Option RiskAssumptions) (cfg : Settings)
    (taxEstimator : Option TaxEstimator) (computeStress : Bool)
    (hassumptions : ∀ a ∈ assumptions, a.Bounded)
    (htax : ∀ e ∈ taxEstimator, e.Bounded cfg)
    (hlam : |cfg.riskAversionLambda| ≤ 10 ^ 6)
    {proposal : RebalanceProposal}
    (hrun : runMvRebalance positions ips assumptions cfg taxEstimator
      computeStress stress = .ok proposal) :
    proposal.turnoverL1 ≤ budget + 1 / 10 ^ 4
      ∧ ∃ free, runMvRebalance positions ips.withoutBudget assumptions cfg
          taxEstimator false none = .ok free
        ∧ (proposal.turnoverBinding = false →
          proposal.targetWeights = free.targetWeights)
        ∧ (proposal.turnoverBinding = true → ∀ s,
          Between (1 / 10 ^ 5) (weightOf proposal.currentWeights s)
            (weightOf free.targetWeights s)
            (weightOf proposal.targetWeights s)) := by
  obtain ⟨priors, base, hpriors, hcore, htargets, hcurrent, hturnover,
    hbinding⟩ := runMvRebalance_base hrun
  have hp : priors.Bounded := by
    rcases assumptionsOr_cases hassumptions "base" with
      ⟨priors', hpriors', hp⟩ | ⟨-, -, key, herror⟩
    · cases hpriors.symm.trans hpriors'
      exact hp
    · cases hpriors.symm.trans herror
  have he : (taxEstimator.getD zeroTaxEstimator).Bounded cfg := by
    cases taxEstimator with
    | some estimator => exact htax estimator rfl
    | none => exact zeroTaxEstimator_bounded cfg
  obtain ⟨_, hsolved⟩ := rebalanceCore_ok hcore
  have hin := rebalanceInput_of_inBox hmv hsolved.nav hbox
  have hbounds : ∀ s, sleeveMin ips.lastTargets s ≤ weightOf (sleeveWeights
        (totalMarketValue positions) positions) s
      ∧ weightOf (sleeveWeights (totalMarketValue positions) positions) s
        ≤ sleeveMax ips.lastTargets s := by
    intro s
    have h := hbox s
    rw [← targetByClass_lastTargets, sleeveBox_eq hin.distinct] at h
    exact h
  rw [← rebalanceCore_lastTargets] at hcore
  obtain ⟨hcap, free, hfree, hslack, hbinds⟩ :=
    turnover_cap_core hin hbounds hp he hlam hbudget hcore
  have hfreeRun : runMvRebalance positions ips.withoutBudget assumptions cfg
      taxEstimator false none = .ok free := by
    have hfree' : rebalanceCore positions ips.withoutBudget priors cfg
        (taxEstimator.getD zeroTaxEstimator) = .ok free := by
      rw [← rebalanceCore_lastTargets]
      exact hfree
    unfold runMvRebalance
    rw [hpriors]
    simp only [bind, Except.bind, hfree']
    rfl
  rw [hturnover, hbinding, htargets, hcurrent]
  exact ⟨hcap, free, hfreeRun, hslack, hbinds⟩

/-- Half in equity, half in bonds: within the boxes of the balanced
policy. -/
def evenBook : List LotPositionView :=
  [equityLot,
   { equityLot with
     lotId := "lot_2"
     securityId := "sec_bnd"
     ticker := some "BND"
     securityName := "BND"
     securityAssetClass := .fixedIncome }]

/-- On it the rebalance runs, within its budget of 15%. -/
theorem turnover_cap_even : ∃ proposal,
    runMvRebalance evenBook balancedPolicy (some baseAssumptions) {} none
        false none = .ok proposal
      ∧ proposal.turnoverL1 ≤ 3 / 20 + 1 / 10 ^ 4 := by
  have hmv : ∀ p ∈ evenBook, ∀ v ∈ p.marketValue, 0 ≤ v := by decide +kernel
  have hbox : CurrentInBox evenBook balancedPolicy := by
    intro s
    cases s <;> decide +kernel
  have hin : RebalanceInput evenBook balancedPolicy := by
    refine ⟨hmv, ?_, ?_, ?_⟩ <;> decide +kernel
  have hguard : GuardPasses
      (boxMins balancedPolicy (heldOrTargeted evenBook balancedPolicy))
      (boxMaxs balancedPolicy (heldOrTargeted evenBook balancedPolicy)) := by
    unfold GuardPasses
    decide +kernel
  have hlam : |({} : Settings).riskAversionLambda| ≤ 10 ^ 6 := by
    decide +kernel
  rcases rebalanceCore_cases hin baseAssumptions_bounded
      (zeroTaxEstimator_bounded {}) hlam with
    ⟨hmisses, -⟩ | ⟨-, proposal, hcore, -⟩
  · exact absurd hguard hmisses
  have hrun : runMvRebalance evenBook balancedPolicy (some baseAssumptions) {}
      none false none = .ok proposal := by
    unfold runMvRebalance
    simp only [assumptionsOr, bind, Except.bind, Option.getD_none, hcore]
    rfl
  refine ⟨proposal, hrun, ?_⟩
  refine (turnover_cap hmv hbox rfl (some baseAssumptions) none {} none false
    ?_ (fun _ h => nomatch h) hlam hrun).1
  rintro a ⟨⟩
  exact baseAssumptions_bounded

end Warehouse
