/-
Feasibility and budget of the mean-variance rebalance.

The universe and its box are first read off the positions and the policy
(`heldOrTargeted`, `sleeveMin`, `sleeveMax`). On inputs of bounded size
the assembled problem is `QpBounded`, so `solveQp` refuses it exactly when
the box sums miss the budget, and otherwise returns a `Projected` point;
the turnover branch projects once more. Quantizing six sleeves of such a
point moves the sum by a few millionths at most, so the last re-check
never fires (`quantizedTargets_onTarget`).

# From the box to the report

Between the solver's point and the report lie a quantization and a re-check.
Targets are quantized inside their bounds (`quantizeBox`), so each stays
within half a quantum of its box; at most six sleeves are summed
(`heldOrTargeted_length_le`), so the sum moves by a few millionths. The
re-check of the source is looser than that, which is why it never fires.

# Errors

On feasible boxes only an unknown stress regime stops the rebalance of a
book worth something. Inversions are lemmas of their own, so that each error
of a run is traced to the one place that raises it.
-/
import Warehouse.Decision.Rebalance
import Warehouse.Proofs.Qp

namespace Warehouse

open Lib Bisection

-- ============================================================ the universe

/-- The sleeves a position with a market value or an IPS target names, in
enum order. -/
def heldOrTargeted (positions : List LotPositionView)
    (ips : InvestmentPolicyStatement) : List IpsSleeve :=
  IpsSleeve.all.filter fun s =>
    (∃ p ∈ positions, p.marketValue.isSome ∧ ipsSleeveForPosition p = s)
      ∨ ∃ t ∈ ips.allocationTargets, t.assetClass = s

/-- The IPS minimum of a sleeve, 0 without a target. -/
def sleeveMin (ips : InvestmentPolicyStatement) (s : IpsSleeve) : ℚ :=
  match ips.allocationTargets.find? (·.assetClass = s) with
  | none => 0
  | some target => target.minWeight

/-- The IPS maximum of a sleeve, 1 without a target. -/
def sleeveMax (ips : InvestmentPolicyStatement) (s : IpsSleeve) : ℚ :=
  match ips.allocationTargets.find? (·.assetClass = s) with
  | none => 1
  | some target => target.maxWeight

/-- Non-negative market values, positive NAV, one ordered target per
sleeve. -/
structure RebalanceInput (positions : List LotPositionView)
    (ips : InvestmentPolicyStatement) : Prop where
  marketValues : ∀ p ∈ positions, ∀ v ∈ p.marketValue, 0 ≤ v
  nav : 0 < totalMarketValue positions
  distinct : (ips.allocationTargets.map (·.assetClass)).Nodup
  ordered : ∀ t ∈ ips.allocationTargets, t.minWeight ≤ t.maxWeight

variable {positions : List LotPositionView} {ips : InvestmentPolicyStatement}

/-- One more position adds its share, if it is marked. -/
theorem sleeveWeights_append (totalMv : ℚ) (positions : List LotPositionView)
    (p : LotPositionView) :
    sleeveWeights totalMv (positions ++ [p])
      = match p.marketValue with
        | none => sleeveWeights totalMv positions
        | some v => (sleeveWeights totalMv positions).set
            (ipsSleeveForPosition p)
            (weightOf (sleeveWeights totalMv positions)
              (ipsSleeveForPosition p) + v / totalMv) := by
  unfold sleeveWeights
  rw [List.foldl_append]
  rfl

/-- A sleeve has a weight when some position of it has a market value. -/
theorem mem_keys_sleeveWeights (totalMv : ℚ)
    (positions : List LotPositionView) (s : IpsSleeve) :
    s ∈ (sleeveWeights totalMv positions).keys
      ↔ ∃ p ∈ positions, p.marketValue.isSome ∧ ipsSleeveForPosition p = s := by
  induction positions using List.reverseRecOn with
  | nil => simp [sleeveWeights]
  | append_singleton positions p ih =>
      rw [sleeveWeights_append]
      cases hv : p.marketValue with
      | none => simp [ih, hv]
      | some v =>
          dsimp only
          rw [Dict.mem_keys_set, ih]
          refine ⟨fun h => ?_, fun h => ?_⟩
          · rcases h with rfl | ⟨q, hq, hheld⟩
            · exact ⟨p, by simp, by simp [hv], rfl⟩
            · exact ⟨q, List.mem_append_left _ hq, hheld⟩
          · obtain ⟨q, hq, hsome, hs⟩ := h
            rcases List.mem_append.mp hq with hq | hq
            · exact Or.inr ⟨q, hq, hsome, hs⟩
            · rw [List.mem_singleton.mp hq] at hs
              exact Or.inl hs.symm

/-- Weights are non-negative, and no sleeve weighs more than all. -/
theorem weightOf_sleeveWeights {totalMv : ℚ} (hpos : 0 < totalMv)
    (positions : List LotPositionView)
    (hmv : ∀ p ∈ positions, ∀ v ∈ p.marketValue, 0 ≤ v) (s : IpsSleeve) :
    0 ≤ weightOf (sleeveWeights totalMv positions) s
      ∧ weightOf (sleeveWeights totalMv positions) s
        ≤ totalMarketValue positions / totalMv := by
  induction positions using List.reverseRecOn generalizing s with
  | nil => simp [sleeveWeights, weightOf, totalMarketValue]
  | append_singleton positions p ih =>
      have hrest := ih fun q hq => hmv q (List.mem_append_left _ hq)
      have htotal : totalMarketValue (positions ++ [p])
          = totalMarketValue positions + p.marketValue.getD 0 := by
        simp [totalMarketValue]
      rw [sleeveWeights_append, htotal]
      cases hv : p.marketValue with
      | none => simpa using hrest s
      | some v =>
          have hv0 : 0 ≤ v / totalMv := by
            have := hmv p (by simp) v hv
            positivity
          dsimp only
          unfold weightOf
          rw [Dict.get?_set, Option.getD_some, add_div]
          split
          · next hs =>
            obtain ⟨hlo, hhi⟩ := hrest (ipsSleeveForPosition p)
            rw [Option.getD_some]
            exact ⟨add_nonneg hlo hv0, add_le_add_left hhi _⟩
          · obtain ⟨hlo, hhi⟩ := hrest s
            exact ⟨hlo, hhi.trans (le_add_of_nonneg_right hv0)⟩

/-- Without repeated sleeves a target is looked up as it stands. -/
theorem get?_targetByClass
    (hdistinct : (ips.allocationTargets.map (·.assetClass)).Nodup)
    (s : IpsSleeve) : (targetByClass ips).get? s
      = ips.allocationTargets.find? (·.assetClass = s) := by
  have hkeys : ((ips.allocationTargets.map fun t => (t.assetClass, t)).map
      Prod.fst).Nodup := by
    rw [List.map_map]
    exact hdistinct
  unfold targetByClass Dict.get?
  rw [Dict.entries_ofPairs hkeys, List.find?_map, Option.map_map]
  exact Option.map_id_apply' ..

/-- The box of a sleeve is its band. -/
theorem sleeveBox_eq
    (hdistinct : (ips.allocationTargets.map (·.assetClass)).Nodup)
    (s : IpsSleeve) :
    sleeveBox (targetByClass ips) s = (sleeveMin ips s, sleeveMax ips s) := by
  unfold sleeveBox sleeveMin sleeveMax
  rw [get?_targetByClass hdistinct]
  cases ips.allocationTargets.find? (·.assetClass = s) with
  | none => rfl
  | some target => rfl

/-- Every sleeve's box is an interval of fractions. -/
theorem sleeveMin_le_sleeveMax (hin : RebalanceInput positions ips)
    (s : IpsSleeve) :
    0 ≤ sleeveMin ips s ∧ sleeveMin ips s ≤ sleeveMax ips s
      ∧ sleeveMax ips s ≤ 1 := by
  unfold sleeveMin sleeveMax
  cases hfind : ips.allocationTargets.find? (·.assetClass = s) with
  | none => norm_num
  | some target =>
      exact ⟨target.minFraction.1,
        hin.ordered target (List.mem_of_find?_eq_some hfind),
        target.maxFraction.2⟩

/-- The targeted sleeves are those of the statement. -/
theorem mem_keys_targetByClass {s : IpsSleeve} :
    s ∈ (targetByClass ips).keys
      ↔ ∃ t ∈ ips.allocationTargets, t.assetClass = s := by
  rw [targetByClass, Dict.mem_keys_ofPairs, List.map_map, List.mem_map]
  rfl

/-- The universe the code assembles. -/
theorem sleeveUniverse_eq (totalMv : ℚ) :
    sleeveUniverse (sleeveWeights totalMv positions) (targetByClass ips)
      = heldOrTargeted positions ips := by
  unfold sleeveUniverse heldOrTargeted
  apply List.filter_congr
  intro s _
  simp only [mem_keys_sleeveWeights, mem_keys_targetByClass]

/-- The weights exist exactly for a book worth something. -/
theorem currentWeights_iff {held : Dict IpsSleeve ℚ} :
    currentWeights positions = .ok held
      ↔ 0 < totalMarketValue positions
        ∧ sleeveWeights (totalMarketValue positions) positions = held := by
  unfold currentWeights
  dsimp only
  by_cases hnav : totalMarketValue positions ≤ 0
  · rw [if_pos hnav]
    exact ⟨fun h => (nomatch h), fun h => absurd h.1 (not_lt.mpr hnav)⟩
  · rw [if_neg hnav]
    exact ⟨fun h => ⟨not_le.mp hnav, Except.ok.inj h⟩,
      fun h => congrArg Except.ok h.2⟩

/-- The universe repeats no sleeve. -/
theorem heldOrTargeted_nodup (positions : List LotPositionView)
    (ips : InvestmentPolicyStatement) : (heldOrTargeted positions ips).Nodup :=
  IpsSleeve.nodup_all.filter _

/-- There are six sleeves at most. -/
theorem heldOrTargeted_length_le (positions : List LotPositionView)
    (ips : InvestmentPolicyStatement) :
    (heldOrTargeted positions ips).length ≤ 6 :=
  List.length_filter_le _ _

/-- Positive NAV leaves something to allocate. -/
theorem heldOrTargeted_ne_nil (hin : RebalanceInput positions ips) :
    heldOrTargeted positions ips ≠ [] := by
  have hheld : ∃ p ∈ positions, p.marketValue.isSome := by
    by_contra hnone
    have hzero : totalMarketValue positions = 0 := by
      unfold totalMarketValue
      apply List.sum_eq_zero
      intro x hx
      obtain ⟨p, hp, rfl⟩ := List.mem_map.mp hx
      cases hv : p.marketValue with
      | none => rfl
      | some v => exact absurd ⟨p, hp, by simp [hv]⟩ hnone
    exact absurd hin.nav (by rw [hzero]; exact lt_irrefl 0)
  obtain ⟨p, hp, hsome⟩ := hheld
  apply List.ne_nil_of_mem (a := ipsSleeveForPosition p)
  refine List.mem_filter.mpr ⟨IpsSleeve.mem_all _, ?_⟩
  exact decide_eq_true (Or.inl ⟨p, hp, hsome, rfl⟩)

-- ============================================================== the problem

/-- Vols and returns up to a million, correlations in `[-1, 1]`. -/
structure RiskAssumptions.Bounded (priors : RiskAssumptions) : Prop where
  vols : ∀ c, |priors.classAnnualVol c| ≤ 10 ^ 6
  returns : ∀ c, |priors.classExpectedReturn c| ≤ 10 ^ 6
  default : |priors.defaultClassCorrelation| ≤ 1
  correlations : ∀ e ∈ priors.classCorrelations.entries, |e.2| ≤ 1

/-- A drag up to a million on every sleeve. -/
def TaxEstimator.Bounded (estimator : TaxEstimator) (cfg : Settings) : Prop :=
  ∀ sleeves, ∀ e ∈ (estimator.sleeveMuDrag sleeves cfg).entries,
    |e.2| ≤ 10 ^ 6

variable {priors : RiskAssumptions} {estimator : TaxEstimator}
  {cfg : Settings}

/-- Bounded priors correlate any two classes within one. -/
theorem RiskAssumptions.Bounded.pairwise (h : priors.Bounded)
    (left right : RiskClass) :
    |priors.pairwiseCorrelation left right| ≤ 1 := by
  unfold RiskAssumptions.pairwiseCorrelation
  split
  · norm_num
  · cases hget : priors.classCorrelations.get? s(left, right) with
    | none => exact h.default
    | some rho =>
        exact h.correlations (s(left, right), rho)
          (Dict.get?_eq_some_iff.mp hget)

/-- Bounded priors and drags keep the returns far from overflow. -/
theorem mem_expectedReturns_le (hp : priors.Bounded)
    (he : estimator.Bounded cfg) (sleeves : List IpsSleeve) :
    ∀ x ∈ expectedReturns priors estimator cfg sleeves, |x| ≤ 10 ^ 12 := by
  intro x hx
  unfold expectedReturns at hx
  dsimp only at hx
  split at hx
  · obtain ⟨s, -, rfl⟩ := List.mem_map.mp hx
    exact (hp.returns _).trans (by norm_num)
  · obtain ⟨s, -, rfl⟩ := List.mem_map.mp hx
    have hdrag : |((estimator.sleeveMuDrag sleeves cfg).get? s).getD 0|
        ≤ 10 ^ 6 := by
      cases hget : (estimator.sleeveMuDrag sleeves cfg).get? s with
      | none => norm_num
      | some v => exact he sleeves (s, v) (Dict.get?_eq_some_iff.mp hget)
    have hreturn := hp.returns (riskClassFor s)
    have hdiff := abs_sub (priors.classExpectedReturn (riskClassFor s))
      (((estimator.sleeveMuDrag sleeves cfg).get? s).getD 0)
    linarith

theorem mem_covarianceMatrix_le (hp : priors.Bounded)
    (sleeves : List IpsSleeve) :
    ∀ row ∈ covarianceMatrix priors sleeves, ∀ x ∈ row, |x| ≤ 10 ^ 12 := by
  intro row hrow x hx
  obtain ⟨left, -, rfl⟩ := List.mem_map.mp hrow
  obtain ⟨right, -, rfl⟩ := List.mem_map.mp hx
  have hleft := hp.vols (riskClassFor left)
  have hright := hp.vols (riskClassFor right)
  have hrho := hp.pairwise (riskClassFor left) (riskClassFor right)
  have hmillion : (0 : ℚ) ≤ 10 ^ 6 := by norm_num
  have hvols := mul_le_mul hleft hright (abs_nonneg _) hmillion
  have hall := mul_le_mul hvols hrho (abs_nonneg _)
    (mul_nonneg hmillion hmillion)
  rw [abs_mul, abs_mul]
  linarith

/-- The box of a universe, as the code lists it. -/
def boxMins (ips : InvestmentPolicyStatement) (sleeves : List IpsSleeve) :
    List ℚ := sleeves.map (sleeveMin ips)

/-- The upper bounds of the box, sleeve by sleeve. -/
def boxMaxs (ips : InvestmentPolicyStatement) (sleeves : List IpsSleeve) :
    List ℚ := sleeves.map (sleeveMax ips)

/-- The assembled problem is one `solveQp` is specified on. -/
theorem qpBounded_of_rebalanceInput (hin : RebalanceInput positions ips)
    (hp : priors.Bounded) (he : estimator.Bounded cfg)
    (hlam : |cfg.riskAversionLambda| ≤ 10 ^ 6) :
    QpBounded (10 ^ 12)
      (expectedReturns priors estimator cfg (heldOrTargeted positions ips))
      (covarianceMatrix priors (heldOrTargeted positions ips))
      (boxMins ips (heldOrTargeted positions ips))
      (boxMaxs ips (heldOrTargeted positions ips))
      cfg.riskAversionLambda := by
  have hmuLen : (expectedReturns priors estimator cfg
      (heldOrTargeted positions ips)).length
        = (heldOrTargeted positions ips).length := by
    unfold expectedReturns
    dsimp only
    split
    · exact List.length_map _
    · exact List.length_map _
  have hbox : ∀ s, |sleeveMin ips s| ≤ 10 ^ 6 ∧ |sleeveMax ips s| ≤ 10 ^ 6 := by
    intro s
    obtain ⟨hlo, hle, hhi⟩ := sleeveMin_le_sleeveMax hin s
    rw [abs_of_nonneg hlo, abs_of_nonneg (hlo.trans hle)]
    have hone : (1 : ℚ) ≤ 10 ^ 6 := by norm_num
    exact ⟨(hle.trans hhi).trans hone, hhi.trans hone⟩
  refine ⟨?_, ?_, ?_, ?_, ?_, ?_, mem_expectedReturns_le hp he _,
    mem_covarianceMatrix_le hp _, ?_, ?_, hlam⟩
  · rw [hmuLen]
    exact List.length_pos_of_ne_nil (heldOrTargeted_ne_nil hin)
  · rw [hmuLen]
    exact (heldOrTargeted_length_le _ _).trans (by norm_num)
  · rw [hmuLen]
    exact List.length_map _
  · intro row hrow
    obtain ⟨left, -, rfl⟩ := List.mem_map.mp hrow
    rw [hmuLen]
    exact List.length_map _
  · rw [hmuLen]
    exact List.length_map _
  · rw [hmuLen]
    exact List.length_map _
  · intro x hx
    obtain ⟨s, -, rfl⟩ := List.mem_map.mp hx
    exact (hbox s).1
  · intro x hx
    obtain ⟨s, -, rfl⟩ := List.mem_map.mp hx
    exact (hbox s).2

-- ============================================================== the targets

/-- Targets for the universe: on budget within 1e-4, each within 5e-7 of
its box, each a fraction. -/
structure OnTarget (positions : List LotPositionView)
    (ips : InvestmentPolicyStatement) (targets : Dict IpsSleeve ℚ) : Prop where
  keys : targets.keys = heldOrTargeted positions ips
  budget : |targets.values.sum - 1| ≤ 1 / 10 ^ 4
  box : ∀ e ∈ targets.entries, sleeveMin ips e.1 - 5 / 10 ^ 7 ≤ e.2
    ∧ e.2 ≤ sleeveMax ips e.1 + 5 / 10 ^ 7
  fraction : ∀ e ∈ targets.entries, IsFraction e.2

/-- Each weight of a projection onto the universe's box is in its box, so
clipping it again does nothing. -/
theorem quantizeBox_eq (hin : RebalanceInput positions ips)
    {sleeves : List IpsSleeve} {w : List ℚ}
    (hw : Projected sleeves.length (boxMins ips sleeves) (boxMaxs ips sleeves)
      w) {i : Nat} (hi : i < sleeves.length) :
    quantizeBox (boxMins ips sleeves) (boxMaxs ips sleeves) (item w i) i
        = quantize 6 (item w i)
      ∧ sleeveMin ips sleeves[i] ≤ item w i
      ∧ item w i ≤ sleeveMax ips sleeves[i] := by
  obtain ⟨-, hle, -⟩ := sleeveMin_le_sleeveMax hin sleeves[i]
  obtain ⟨x, hx⟩ := hw.clipped i hi
  unfold boxMins boxMaxs at hx
  rw [item_map _ hi, item_map _ hi] at hx
  have hlo : sleeveMin ips sleeves[i] ≤ item w i := by
    rw [hx]
    exact le_clip x hle
  have hhi : item w i ≤ sleeveMax ips sleeves[i] := by
    rw [hx]
    exact clip_le x _ _
  refine ⟨?_, hlo, hhi⟩
  unfold quantizeBox boxMins boxMaxs
  rw [item_map _ hi, item_map _ hi]
  exact congrArg (quantize 6) (clip_of_mem hlo hhi)

/-- The quantized targets list the universe, in order. -/
theorem keys_quantizedTargets {sleeves : List IpsSleeve}
    (hnodup : sleeves.Nodup) (wMin wMax w : List ℚ) :
    (quantizedTargets sleeves wMin wMax w).keys = sleeves :=
  Dict.keys_enumerated hnodup _

theorem sum_quantizedTargets {sleeves : List IpsSleeve}
    (hnodup : sleeves.Nodup) (wMin wMax w : List ℚ) :
    (quantizedTargets sleeves wMin wMax w).values.sum
      = sumRange sleeves.length fun i =>
          quantizeBox wMin wMax (item w i) i := by
  unfold quantizedTargets Dict.values sumRange
  rw [Dict.entries_enumerated hnodup, List.map_map, List.range_eq_range',
    ← List.zipIdx_map_snd 0 sleeves, List.map_map]
  rfl

theorem mem_quantizedTargets {sleeves : List IpsSleeve}
    (hnodup : sleeves.Nodup) {wMin wMax w : List ℚ} {e : IpsSleeve × ℚ}
    (he : e ∈ (quantizedTargets sleeves wMin wMax w).entries) :
    ∃ i, ∃ hi : i < sleeves.length,
      e = (sleeves[i], quantizeBox wMin wMax (item w i) i) := by
  unfold quantizedTargets at he
  rw [Dict.entries_enumerated hnodup] at he
  obtain ⟨⟨s, i⟩, hp, rfl⟩ := List.mem_map.mp he
  obtain ⟨hi, hs⟩ := List.getElem?_eq_some_iff.mp
    (List.mem_zipIdx_iff_getElem?.mp hp)
  exact ⟨i, hi, by rw [hs]⟩

/-- Six quanta and the solver's own slack. -/
theorem budget_quantizedTargets (hin : RebalanceInput positions ips)
    {sleeves : List IpsSleeve} {w : List ℚ} (hnodup : sleeves.Nodup)
    (hlength : sleeves.length ≤ 6)
    (hw : Projected sleeves.length (boxMins ips sleeves) (boxMaxs ips sleeves)
      w) :
    |(quantizedTargets sleeves (boxMins ips sleeves) (boxMaxs ips sleeves)
        w).values.sum - 1| ≤ 4 / 10 ^ 6 := by
  have hquanta : ∀ i < sleeves.length,
      |quantizeBox (boxMins ips sleeves) (boxMaxs ips sleeves) (item w i) i
        - item w i| ≤ 1 / 2 / 10 ^ 6 := by
    intro i hi
    rw [(quantizeBox_eq hin hw hi).1]
    exact abs_quantize_sub_le 6 _
  have hsum : w.sum = sumRange sleeves.length (item w) := by
    rw [sum_eq_sumRange, hw.length]
  have hdiff := abs_sumRange_sub_le hquanta
  rw [← sum_quantizedTargets hnodup, ← hsum] at hdiff
  have hlen : (sleeves.length : ℚ) ≤ 6 := by exact_mod_cast hlength
  have hsix : (sleeves.length : ℚ) * (1 / 2 / 10 ^ 6)
      ≤ 6 * (1 / 2 / 10 ^ 6) :=
    mul_le_mul_of_nonneg_right hlen (by norm_num)
  have hd := abs_le.mp (hdiff.trans hsix)
  have hb := abs_le.mp hw.budget
  rw [abs_le]
  refine ⟨?_, ?_⟩
  · linarith [hd.1, hb.1]
  · linarith [hd.2, hb.2]

/-- Quantizing a projection keeps the box, and the budget to within half a
quantum a sleeve. -/
theorem quantizedTargets_onTarget (hin : RebalanceInput positions ips)
    {w : List ℚ}
    (hw : Projected (heldOrTargeted positions ips).length
      (boxMins ips (heldOrTargeted positions ips))
      (boxMaxs ips (heldOrTargeted positions ips)) w) :
    OnTarget positions ips
      (quantizedTargets (heldOrTargeted positions ips)
        (boxMins ips (heldOrTargeted positions ips))
        (boxMaxs ips (heldOrTargeted positions ips)) w) := by
  have hnodup := heldOrTargeted_nodup positions ips
  have hbudget := budget_quantizedTargets hin hnodup
    (heldOrTargeted_length_le positions ips) hw
  refine ⟨keys_quantizedTargets hnodup _ _ _, hbudget.trans (by norm_num),
    fun e he => ?_, fun e he => ?_⟩
  · obtain ⟨i, hi, rfl⟩ := mem_quantizedTargets hnodup he
    obtain ⟨hsame, hlo, hhi⟩ := quantizeBox_eq hin hw hi
    have hq := abs_le.mp (abs_quantize_sub_le 6 (item w i))
    dsimp only
    rw [hsame]
    refine ⟨?_, ?_⟩
    · linarith [hq.1]
    · linarith [hq.2]
  · obtain ⟨i, hi, rfl⟩ := mem_quantizedTargets hnodup he
    obtain ⟨hsame, hlo, hhi⟩ := quantizeBox_eq hin hw hi
    obtain ⟨hzero, -, hone⟩ :=
      sleeveMin_le_sleeveMax hin (heldOrTargeted positions ips)[i]
    have hmono : quantize 6 0 ≤ quantize 6 (item w i)
        ∧ quantize 6 (item w i) ≤ quantize 6 1 :=
      ⟨quantize_mono 6 (hzero.trans hlo), quantize_mono 6 (hhi.trans hone)⟩
    rw [quantize_zero, quantize_one] at hmono
    dsimp only
    rw [hsame]
    exact hmono

/-- A sleeve's weight in targets for the universe is a fraction. -/
theorem OnTarget.weightOf {targets : Dict IpsSleeve ℚ}
    (h : OnTarget positions ips targets) (s : IpsSleeve) :
    IsFraction (weightOf targets s) := by
  unfold Warehouse.weightOf
  cases hget : targets.get? s with
  | none => exact ⟨le_refl 0, zero_le_one⟩
  | some w => exact h.fraction (s, w) (Dict.get?_eq_some_iff.mp hget)

/-- Held weights, spread over the universe, are fractions. -/
theorem weightOf_current (hin : RebalanceInput positions ips)
    (sleeves : List IpsSleeve) (s : IpsSleeve) :
    IsFraction (weightOf (Dict.tabulate sleeves
      (weightOf (sleeveWeights (totalMarketValue positions) positions))) s) := by
  have hheld := weightOf_sleeveWeights hin.nav positions hin.marketValues s
  rw [div_self hin.nav.ne'] at hheld
  have hread : weightOf (Dict.tabulate sleeves
      (weightOf (sleeveWeights (totalMarketValue positions) positions))) s
        = if s ∈ sleeves then weightOf (sleeveWeights
            (totalMarketValue positions) positions) s else 0 := by
    show ((Dict.tabulate sleeves _).get? s).getD 0 = _
    rw [Dict.get?_tabulate]
    split
    · rfl
    · rfl
  rw [hread]
  split
  · exact hheld
  · exact ⟨le_refl 0, zero_le_one⟩

/-- The step between two fractions, by a fraction of the way, is short. -/
private theorem abs_convex_step_le {c u alpha : ℚ} (hc : IsFraction c)
    (hu : IsFraction u) (ha : IsFraction alpha) :
    |c + alpha * (u - c)| ≤ 10 ^ 43 := by
  have hgap : |u - c| ≤ 1 := by
    rw [abs_le]
    exact ⟨by linarith [hc.2, hu.1], by linarith [hc.1, hu.2]⟩
  have hmove : |alpha * (u - c)| ≤ 1 * 1 := by
    rw [abs_mul, abs_of_nonneg ha.1]
    exact mul_le_mul ha.2 hgap (abs_nonneg _) zero_le_one
  have hstart : |c| ≤ 1 := by
    rw [abs_of_nonneg hc.1]
    exact hc.2
  have htri := abs_add_le c (alpha * (u - c))
  have hnum : (1 : ℚ) + 1 * 1 ≤ 10 ^ 43 := by norm_num
  linarith

/-- The budget is a fraction of a turnover above it. -/
theorem budget_ratio_fraction {budget turnover : ℚ} (hbudget : IsFraction budget)
    (hover : turnover > budget) : IsFraction (budget / turnover) := by
  have hpos : 0 < turnover := lt_of_le_of_lt hbudget.1 hover
  exact ⟨div_nonneg hbudget.1 hpos.le, (div_le_one hpos).mpr hover.le⟩

/-- The budget step projects back onto the box and the budget. -/
theorem budgetStep_projected {m lam : ℚ} {mu : List ℚ} {sigma : List (List ℚ)}
    (hqp : QpBounded m mu sigma (boxMins ips (heldOrTargeted positions ips))
      (boxMaxs ips (heldOrTargeted positions ips)) lam)
    (hlen : mu.length = (heldOrTargeted positions ips).length)
    (hguard : GuardPasses (boxMins ips (heldOrTargeted positions ips))
      (boxMaxs ips (heldOrTargeted positions ips)))
    {unconstrained current : Dict IpsSleeve ℚ} {alpha : ℚ}
    (hunconstrained : ∀ s, IsFraction (weightOf unconstrained s))
    (hcurrent : ∀ s, IsFraction (weightOf current s))
    (halpha : IsFraction alpha) :
    Projected (heldOrTargeted positions ips).length
      (boxMins ips (heldOrTargeted positions ips))
      (boxMaxs ips (heldOrTargeted positions ips))
      (projectCappedSimplex (budgetStep (heldOrTargeted positions ips)
          unconstrained current alpha)
        (boxMins ips (heldOrTargeted positions ips))
        (boxMaxs ips (heldOrTargeted positions ips))) := by
  rw [← hlen]
  apply projected_of_bounded hqp hguard
  · rw [hlen]
    exact List.length_map _
  · intro i hi
    rw [hlen] at hi
    unfold budgetStep
    rw [item_map _ hi]
    exact abs_convex_step_le (hcurrent _) (hunconstrained _) halpha

/-- The turnover cap, binding or not, leaves the targets on target. -/
theorem cappedTargets_onTarget (hin : RebalanceInput positions ips)
    {m lam : ℚ} {mu : List ℚ} {sigma : List (List ℚ)}
    (hqp : QpBounded m mu sigma (boxMins ips (heldOrTargeted positions ips))
      (boxMaxs ips (heldOrTargeted positions ips)) lam)
    (hlen : mu.length = (heldOrTargeted positions ips).length)
    (hguard : GuardPasses (boxMins ips (heldOrTargeted positions ips))
      (boxMaxs ips (heldOrTargeted positions ips)))
    {unconstrained current : Dict IpsSleeve ℚ}
    (hunconstrained : OnTarget positions ips unconstrained)
    (hcurrent : ∀ s, IsFraction (weightOf current s)) :
    OnTarget positions ips
      (cappedTargets (heldOrTargeted positions ips)
        (boxMins ips (heldOrTargeted positions ips))
        (boxMaxs ips (heldOrTargeted positions ips)) ips.turnoverBudgetPct
        unconstrained current).2 := by
  unfold cappedTargets
  dsimp only
  cases hbudget : ips.turnoverBudgetPct with
  | none => exact hunconstrained
  | some budget =>
      dsimp only
      split
      · next hover =>
        have hfraction : IsFraction budget :=
          ips.turnoverFraction budget (by rw [hbudget]; rfl)
        exact quantizedTargets_onTarget hin
          (budgetStep_projected hqp hlen hguard hunconstrained.weightOf
            hcurrent (budget_ratio_fraction hfraction hover))
      · exact hunconstrained

-- ================================================================== the run

/-- Slots of fractions validate. -/
theorem riskStates_ok (priors : RiskAssumptions)
    {targets : Dict IpsSleeve ℚ}
    (h : ∀ s, IsFraction (weightOf targets s)) (sleeves : List IpsSleeve) :
    ∃ states, riskStates priors targets sleeves = .ok states := by
  unfold riskStates
  induction sleeves with
  | nil => exact ⟨[], rfl⟩
  | cons s rest ih =>
      obtain ⟨states, hstates⟩ := ih
      obtain ⟨slot, hslot, -⟩ : ∃ slot, AllocationSlot.validated
          (riskClassFor s) (weightOf targets s) = .ok slot ∧ _ :=
        AllocationSlot.validated_ok (h s) (by simp) (by decide)
      exact ⟨_, by rw [List.mapM_cons, hstates, hslot]; rfl⟩

/-- The universe's current weights, as the proposal reports them. -/
def currentOf (positions : List LotPositionView)
    (ips : InvestmentPolicyStatement) : Dict IpsSleeve ℚ :=
  Dict.tabulate (heldOrTargeted positions ips)
    (weightOf (sleeveWeights (totalMarketValue positions) positions))

/-- The quantized optimum, before the turnover cap. -/
def unconstrainedOf (positions : List LotPositionView)
    (ips : InvestmentPolicyStatement) (w : List ℚ) : Dict IpsSleeve ℚ :=
  quantizedTargets (heldOrTargeted positions ips)
    (boxMins ips (heldOrTargeted positions ips))
    (boxMaxs ips (heldOrTargeted positions ips)) w

/-- The optimum under the policy's turnover budget. -/
def cappedOf (positions : List LotPositionView)
    (ips : InvestmentPolicyStatement) (w : List ℚ) :
    Bool × Dict IpsSleeve ℚ :=
  cappedTargets (heldOrTargeted positions ips)
    (boxMins ips (heldOrTargeted positions ips))
    (boxMaxs ips (heldOrTargeted positions ips)) ips.turnoverBudgetPct
    (unconstrainedOf positions ips w) (currentOf positions ips)

/-- How a proposal comes from the optimum `w`. -/
structure Rebalanced (positions : List LotPositionView)
    (ips : InvestmentPolicyStatement) (w : List ℚ)
    (proposal : RebalanceProposal) : Prop where
  projected : Projected (heldOrTargeted positions ips).length
    (boxMins ips (heldOrTargeted positions ips))
    (boxMaxs ips (heldOrTargeted positions ips)) w
  current : proposal.currentWeights = currentOf positions ips
  binding : proposal.turnoverBinding = (cappedOf positions ips w).1
  targets : proposal.targetWeights = (cappedOf positions ips w).2
  turnover : proposal.turnoverL1 = turnoverL1 (heldOrTargeted positions ips)
    (cappedOf positions ips w).2 (currentOf positions ips)

/-- The optimum of the assembled problem. -/
def optimumOf (positions : List LotPositionView)
    (ips : InvestmentPolicyStatement) (priors : RiskAssumptions)
    (cfg : Settings) (estimator : TaxEstimator) : Except Exc (List ℚ) :=
  solveQp
    (expectedReturns priors estimator cfg (heldOrTargeted positions ips))
    (covarianceMatrix priors (heldOrTargeted positions ips))
    (boxMins ips (heldOrTargeted positions ips))
    (boxMaxs ips (heldOrTargeted positions ips)) cfg.riskAversionLambda
    cfg.qpTolerance cfg.qpMaxIters

/-- What the rebalance does, stress apart: refuse when the box sums miss
the budget, and otherwise report targets on target. -/
theorem rebalanceCore_cases (hin : RebalanceInput positions ips)
    (hp : priors.Bounded) (he : estimator.Bounded cfg)
    (hlam : |cfg.riskAversionLambda| ≤ 10 ^ 6) :
    (¬ GuardPasses (boxMins ips (heldOrTargeted positions ips))
        (boxMaxs ips (heldOrTargeted positions ips))
      ∧ ∃ msg, rebalanceCore positions ips priors cfg estimator
        = .error (.optimizerInfeasible msg))
    ∨ (GuardPasses (boxMins ips (heldOrTargeted positions ips))
        (boxMaxs ips (heldOrTargeted positions ips))
      ∧ ∃ proposal, rebalanceCore positions ips priors cfg estimator
          = .ok proposal
        ∧ OnTarget positions ips proposal.targetWeights
        ∧ ∃ w, optimumOf positions ips priors cfg estimator = .ok w
          ∧ Rebalanced positions ips w proposal) := by
  have hqp := qpBounded_of_rebalanceInput hin hp he hlam
  have hheld : currentWeights positions
      = .ok (sleeveWeights (totalMarketValue positions) positions) :=
    currentWeights_iff.mpr ⟨hin.nav, rfl⟩
  have hmins : (heldOrTargeted positions ips).map (fun s =>
      (sleeveBox (targetByClass ips) s).1)
        = boxMins ips (heldOrTargeted positions ips) :=
    List.map_congr_left fun s _ => by rw [sleeveBox_eq hin.distinct]
  have hmaxs : (heldOrTargeted positions ips).map (fun s =>
      (sleeveBox (targetByClass ips) s).2)
        = boxMaxs ips (heldOrTargeted positions ips) :=
    List.map_congr_left fun s _ => by rw [sleeveBox_eq hin.distinct]
  unfold rebalanceCore optimumOf
  rw [hheld]
  simp only [bind, Except.bind, hmins, hmaxs, sleeveUniverse_eq]
  have hlen : (expectedReturns priors estimator cfg
      (heldOrTargeted positions ips)).length
        = (heldOrTargeted positions ips).length := by
    rw [← hqp.minSize]
    exact List.length_map _
  rcases solveQp_cases hqp (le_refl _) cfg.qpTolerance cfg.qpMaxIters with
    ⟨hguard, msg, hcall⟩ | ⟨hguard, w, hcall, hw⟩
  · rw [hcall]
    exact Or.inl ⟨hguard, msg, rfl⟩
  · rw [hcall]
    rw [hlen] at hw
    right
    refine ⟨hguard, ?_⟩
    have hon := cappedTargets_onTarget hin hqp hlen hguard
      (quantizedTargets_onTarget hin hw)
      (weightOf_current hin (heldOrTargeted positions ips))
    have hsum : ¬ |(Dict.values _).sum - 1| > sumTolerance :=
      not_lt.mpr hon.budget
    obtain ⟨states, hstates⟩ := riskStates_ok priors hon.weightOf
      (heldOrTargeted positions ips)
    dsimp only
    rw [if_neg hsum, hstates]
    exact ⟨_, rfl, hon, w, rfl, hw, rfl, rfl, rfl, rfl⟩

-- ============================================================== inversions

/-- What a rebalance did that returned: the optimum `w` it found, and what
it made of it. -/
structure CoreRun (positions : List LotPositionView)
    (ips : InvestmentPolicyStatement) (priors : RiskAssumptions)
    (cfg : Settings) (estimator : TaxEstimator) (w : List ℚ)
    (proposal : RebalanceProposal) : Prop where
  nav : 0 < totalMarketValue positions
  solved : solveQp
    (expectedReturns priors estimator cfg (heldOrTargeted positions ips))
    (covarianceMatrix priors (heldOrTargeted positions ips))
    ((heldOrTargeted positions ips).map fun s =>
      (sleeveBox (targetByClass ips) s).1)
    ((heldOrTargeted positions ips).map fun s =>
      (sleeveBox (targetByClass ips) s).2)
    cfg.riskAversionLambda cfg.qpTolerance cfg.qpMaxIters = .ok w
  current : proposal.currentWeights = currentOf positions ips
  targets : proposal.targetWeights = (cappedTargets
    (heldOrTargeted positions ips)
    ((heldOrTargeted positions ips).map fun s =>
      (sleeveBox (targetByClass ips) s).1)
    ((heldOrTargeted positions ips).map fun s =>
      (sleeveBox (targetByClass ips) s).2)
    ips.turnoverBudgetPct
    (quantizedTargets (heldOrTargeted positions ips)
      ((heldOrTargeted positions ips).map fun s =>
        (sleeveBox (targetByClass ips) s).1)
      ((heldOrTargeted positions ips).map fun s =>
        (sleeveBox (targetByClass ips) s).2) w)
    (currentOf positions ips)).2
  valued : proposal.objectiveValue = quantize 8 (objective
    (heldOrTargeted positions ips)
    (expectedReturns priors estimator cfg (heldOrTargeted positions ips))
    (covarianceMatrix priors (heldOrTargeted positions ips))
    cfg.riskAversionLambda proposal.targetWeights)

/-- A proposal comes from weights the solver returned. -/
theorem rebalanceCore_ok {proposal : RebalanceProposal}
    (hrun : rebalanceCore positions ips priors cfg estimator = .ok proposal) :
    ∃ w, CoreRun positions ips priors cfg estimator w proposal := by
  unfold rebalanceCore at hrun
  obtain ⟨held, hheld, hrun⟩ := bind_ok_iff.mp hrun
  obtain ⟨hnav, rfl⟩ := currentWeights_iff.mp hheld
  dsimp only at hrun
  rw [sleeveUniverse_eq] at hrun
  obtain ⟨w, hsolved, hrun⟩ := bind_ok_iff.mp hrun
  split at hrun
  · cases hrun
  · obtain ⟨states, -, hrun⟩ := bind_ok_iff.mp hrun
    cases hrun
    exact ⟨w, hnav, hsolved, rfl, rfl, rfl⟩

/-- A base proposal with the overlay's fields beside its own. -/
def overlaid (regime : String) (base inner : RebalanceProposal) :
    RebalanceProposal :=
  let stressDeltaW := Dict.tabulate (base.targetWeights.keys
    ++ inner.targetWeights.keys.filter fun s => s ∉ base.targetWeights.keys)
    fun s => weightOf inner.targetWeights s - weightOf base.targetWeights s
  { base with
    stressRegime := some regime
    stressTargetWeights := inner.targetWeights
    stressDeltaW := stressDeltaW
    regimeGapL1 := (stressDeltaW.values.map fun d => |d|).sum
    stressObjectiveValue := inner.objectiveValue
    stressRiskContributions := inner.riskContributions }

/-- The overlay that returns re-solved. -/
theorem computeStressOverlay_ok {stress : Option RiskAssumptions}
    {base proposal : RebalanceProposal}
    (hrun : computeStressOverlay positions ips base cfg stress
      = .ok proposal) :
    ∃ crisis inner, assumptionsOr stress cfg.optimizerStressRegime = .ok crisis
      ∧ rebalanceCore positions ips crisis cfg zeroTaxEstimator = .ok inner
      ∧ overlaid cfg.optimizerStressRegime base inner = proposal := by
  unfold computeStressOverlay at hrun
  obtain ⟨crisis, hcrisis, hrun⟩ := bind_ok_iff.mp hrun
  obtain ⟨inner, hinner, hrun⟩ := bind_ok_iff.mp hrun
  exact ⟨crisis, inner, hcrisis, hinner, Except.ok.inj hrun⟩

/-- The rebalance solves the base problem first. -/
theorem runMvRebalance_ok {assumptions stress : Option RiskAssumptions}
    {taxEstimator : Option TaxEstimator} {computeStress : Bool}
    {proposal : RebalanceProposal}
    (hrun : runMvRebalance positions ips assumptions cfg taxEstimator
      computeStress stress = .ok proposal) :
    ∃ priors base, assumptionsOr assumptions "base" = .ok priors
      ∧ rebalanceCore positions ips priors cfg
          (taxEstimator.getD zeroTaxEstimator) = .ok base
      ∧ (computeStress = false → base = proposal)
      ∧ (computeStress = true →
        computeStressOverlay positions ips base cfg stress = .ok proposal) := by
  unfold runMvRebalance at hrun
  obtain ⟨priors, hpriors, hrun⟩ := bind_ok_iff.mp hrun
  obtain ⟨base, hbase, hrun⟩ := bind_ok_iff.mp hrun
  refine ⟨priors, base, hpriors, hbase, ?_, ?_⟩
  · rintro rfl
    exact Except.ok.inj hrun
  · rintro rfl
    exact hrun

-- ================================================================= catalog

/-- The transforms keep correlations within one. -/
theorem abs_transformCorrelation_le {rho : ℚ} (h : |rho| ≤ 1) (crisis : Bool) :
    |transformCorrelation crisis rho| ≤ 1 := by
  rw [abs_le] at h ⊢
  unfold transformCorrelation crisisCorrelation crisisBlend
    benignCorrelationScale
  cases crisis with
  | true =>
      rw [if_pos rfl]
      exact ⟨by linarith, by linarith⟩
  | false =>
      rw [if_neg Bool.false_ne_true]
      exact ⟨by linarith, by linarith⟩

theorem baseAssumptions_bounded : baseAssumptions.Bounded where
  vols c := by
    cases c <;> norm_num [baseAssumptions, classAnnualVol]
  returns c := by
    cases c <;> norm_num [baseAssumptions, classExpectedReturn]
  default := by norm_num [baseAssumptions, defaultClassCorrelation]
  correlations := by decide +kernel

/-- A regime built from the base is bounded as the base is. -/
theorem regimeFrom_bounded (regime : String) {volMultiplier : ℚ}
    (hvol : |volMultiplier| ≤ 10) (esMultiplier : ℚ) (crisis : Bool) :
    (regimeFrom baseAssumptions regime volMultiplier esMultiplier
      crisis).Bounded where
  vols c := by
    show |classAnnualVol c * volMultiplier| ≤ 10 ^ 6
    have hbase : |classAnnualVol c| ≤ 1 := by
      cases c <;> norm_num [classAnnualVol]
    have hmul := mul_le_mul hbase hvol (abs_nonneg _) zero_le_one
    rw [abs_mul]
    linarith
  returns := baseAssumptions_bounded.returns
  default := abs_transformCorrelation_le baseAssumptions_bounded.default crisis
  correlations := by
    intro e he
    obtain ⟨e', he', rfl⟩ := List.mem_map.mp he
    exact abs_transformCorrelation_le
      (baseAssumptions_bounded.correlations e' he') crisis

/-- Every regime of the catalog is bounded. -/
theorem assumptionsFor_bounded {name : String} {assumptions : RiskAssumptions}
    (h : assumptionsFor name = .ok assumptions) : assumptions.Bounded := by
  rcases (assumptionsFor_cases h).1 with rfl | rfl | rfl
  · exact baseAssumptions_bounded
  · exact regimeFrom_bounded _ (by norm_num [highVolMultiplier]) _ true
  · exact regimeFrom_bounded _ (by norm_num [lowVolMultiplier]) _ false

/-- Priors given or looked up are bounded; only an unknown regime fails. -/
theorem assumptionsOr_cases {given : Option RiskAssumptions}
    (hgiven : ∀ a ∈ given, a.Bounded) (name : String) :
    (∃ priors, assumptionsOr given name = .ok priors ∧ priors.Bounded)
    ∨ (given = none ∧ name ∉ catalog.keys
      ∧ ∃ key, assumptionsOr given name = .error (.keyError key)) := by
  cases given with
  | some priors => exact Or.inl ⟨priors, rfl, hgiven priors rfl⟩
  | none =>
      unfold assumptionsOr
      cases hcall : assumptionsFor name with
      | ok priors => exact Or.inl ⟨priors, rfl, assumptionsFor_bounded hcall⟩
      | error e =>
          unfold assumptionsFor at hcall
          cases hget : catalog.get? name with
          | none =>
              rw [hget] at hcall
              cases hcall
              exact Or.inr ⟨rfl, Dict.get?_eq_none_iff.mp hget, _, rfl⟩
          | some found =>
              rw [hget] at hcall
              cases hcall

theorem base_mem_catalog : "base" ∈ catalog.keys :=
  Dict.mem_keys_ofPairs.mpr (List.mem_cons_self ..)

theorem zeroTaxEstimator_bounded (cfg : Settings) :
    zeroTaxEstimator.Bounded cfg := by
  intro sleeves e he
  have hget := Dict.get?_eq_some_iff.mpr he
  unfold zeroTaxEstimator at hget
  rw [Dict.get?_tabulate] at hget
  split at hget
  · rw [← Option.some.inj hget]
    norm_num
  · cases hget

-- ============================================================= the theorem

/-- The box sums of the universe miss the budget by more than the slack. -/
def BoxMissesBudget (positions : List LotPositionView)
    (ips : InvestmentPolicyStatement) : Prop :=
  1 + 1 / 10 ^ 9 < ((heldOrTargeted positions ips).map (sleeveMin ips)).sum
    ∨ ((heldOrTargeted positions ips).map (sleeveMax ips)).sum
      < 1 - 1 / 10 ^ 9

/-- The guard fails exactly when the box misses the budget. -/
theorem not_guardPasses_iff :
    ¬ GuardPasses (boxMins ips (heldOrTargeted positions ips))
        (boxMaxs ips (heldOrTargeted positions ips))
      ↔ BoxMissesBudget positions ips := by
  unfold GuardPasses BoxMissesBudget boxMins boxMaxs
  rw [not_and_or, not_le, not_le]
  rfl

/-- The overlay on a feasible box: an unknown regime, or a proposal with the
base's targets and stress targets on target. -/
theorem computeStressOverlay_cases (hin : RebalanceInput positions ips)
    (hlam : |cfg.riskAversionLambda| ≤ 10 ^ 6)
    (hguard : GuardPasses (boxMins ips (heldOrTargeted positions ips))
      (boxMaxs ips (heldOrTargeted positions ips)))
    {stress : Option RiskAssumptions} (hstress : ∀ a ∈ stress, a.Bounded)
    (base : RebalanceProposal) :
    (stress = none ∧ cfg.optimizerStressRegime ∉ catalog.keys
      ∧ ∃ key, computeStressOverlay positions ips base cfg stress
        = .error (.keyError key))
    ∨ ∃ proposal, computeStressOverlay positions ips base cfg stress
        = .ok proposal
      ∧ proposal.targetWeights = base.targetWeights
      ∧ OnTarget positions ips proposal.stressTargetWeights := by
  -- the inner solve, under whatever bounded priors
  have hinner : ∀ priors : RiskAssumptions, priors.Bounded →
      ∃ proposal, rebalanceCore positions ips priors cfg zeroTaxEstimator
          = .ok proposal
        ∧ OnTarget positions ips proposal.targetWeights := by
    intro priors hp
    rcases rebalanceCore_cases hin hp (zeroTaxEstimator_bounded cfg) hlam
      with ⟨hmisses, -⟩ | ⟨-, hok⟩
    · exact absurd hguard hmisses
    · obtain ⟨proposal, hcall, hon, -⟩ := hok
      exact ⟨proposal, hcall, hon⟩
  unfold computeStressOverlay
  dsimp only
  rcases assumptionsOr_cases hstress cfg.optimizerStressRegime with
    ⟨priors, hpriors, hp⟩ | ⟨hnone, hunknown, key, herror⟩
  · obtain ⟨inner, hcall, hon⟩ := hinner priors hp
    rw [hpriors]
    simp only [bind, Except.bind, hcall]
    exact Or.inr ⟨_, rfl, rfl, hon⟩
  · rw [herror]
    exact Or.inl ⟨hnone, hunknown, key, rfl⟩

/-- The rebalance with its stress overlay: refused for its box, refused for
an unknown regime, or on target twice over. -/
theorem runMvRebalance_cases (hin : RebalanceInput positions ips)
    (assumptions stress : Option RiskAssumptions) (cfg : Settings)
    (taxEstimator : Option TaxEstimator)
    (hassumptions : ∀ a ∈ assumptions, a.Bounded)
    (hstress : ∀ a ∈ stress, a.Bounded)
    (htax : ∀ e ∈ taxEstimator, e.Bounded cfg)
    (hlam : |cfg.riskAversionLambda| ≤ 10 ^ 6) (computeStress : Bool) :
    (BoxMissesBudget positions ips
      ∧ ∃ msg, runMvRebalance positions ips assumptions cfg taxEstimator
        computeStress stress = .error (.optimizerInfeasible msg))
    ∨ (¬ BoxMissesBudget positions ips
      ∧ (computeStress = true ∧ stress = none
        ∧ cfg.optimizerStressRegime ∉ catalog.keys)
      ∧ ∃ key, runMvRebalance positions ips assumptions cfg taxEstimator
        computeStress stress = .error (.keyError key))
    ∨ (¬ BoxMissesBudget positions ips
      ∧ ∃ proposal, runMvRebalance positions ips assumptions cfg taxEstimator
          computeStress stress = .ok proposal
        ∧ OnTarget positions ips proposal.targetWeights
        ∧ (computeStress = true →
          OnTarget positions ips proposal.stressTargetWeights)) := by
  obtain ⟨priors, hpriors, hp⟩ : ∃ priors,
      assumptionsOr assumptions "base" = .ok priors ∧ priors.Bounded := by
    rcases assumptionsOr_cases hassumptions "base" with hok | ⟨-, hnot, -⟩
    · exact hok
    · exact absurd base_mem_catalog hnot
  have he : (taxEstimator.getD zeroTaxEstimator).Bounded cfg := by
    cases taxEstimator with
    | some estimator => exact htax estimator rfl
    | none => exact zeroTaxEstimator_bounded cfg
  have hrun : runMvRebalance positions ips assumptions cfg taxEstimator
      computeStress stress
      = (rebalanceCore positions ips priors cfg
          (taxEstimator.getD zeroTaxEstimator)).bind fun base =>
        if computeStress then
          computeStressOverlay positions ips base cfg stress
        else .ok base := by
    unfold runMvRebalance
    rw [hpriors]
    rfl
  rw [← not_guardPasses_iff, not_not, hrun]
  rcases rebalanceCore_cases hin hp he hlam with
    ⟨hguard, msg, hcore⟩ | ⟨hguard, base, hcore, hon, -⟩
  · rw [hcore]
    exact Or.inl ⟨hguard, msg, rfl⟩
  · right
    rw [hcore]
    cases computeStress with
    | false =>
      exact Or.inr ⟨hguard, base, rfl, hon, fun h => nomatch h⟩
    | true =>
      rcases computeStressOverlay_cases hin hlam hguard hstress base with
        ⟨hnone, hunknown, key, hcall⟩ | ⟨proposal, hcall, hsame, hstressed⟩
      · exact Or.inl ⟨hguard, ⟨rfl, hnone, hunknown⟩, key, hcall⟩
      · refine Or.inr ⟨hguard, proposal, hcall, ?_, fun _ => hstressed⟩
        rw [hsame]
        exact hon

/-- Feasibility and budget of the rebalance.

It refuses with `OptimizerInfeasibleError` exactly when the box sums over
the universe miss the budget. Otherwise, unless the stress overlay is asked
for under a regime the catalog does not have, it reports a proposal; and
every proposal it reports, with or without a turnover budget, binding or
not, has targets for the universe that sum to 1 within 1e-4, each within
5e-7 of its box, and so has its stress overlay. -/
theorem rebalance_feasibility_budget {positions : List LotPositionView}
    {ips : InvestmentPolicyStatement} (hin : RebalanceInput positions ips)
    (assumptions stress : Option RiskAssumptions) (cfg : Settings)
    (taxEstimator : Option TaxEstimator)
    (hassumptions : ∀ a ∈ assumptions, a.Bounded)
    (hstress : ∀ a ∈ stress, a.Bounded)
    (htax : ∀ e ∈ taxEstimator, e.Bounded cfg)
    (hlam : 0 ≤ cfg.riskAversionLambda)
    (hlam' : cfg.riskAversionLambda ≤ 10 ^ 6) (computeStress : Bool) :
    ((∃ msg, runMvRebalance positions ips assumptions cfg taxEstimator
        computeStress stress = .error (.optimizerInfeasible msg))
      ↔ BoxMissesBudget positions ips)
    ∧ (¬ BoxMissesBudget positions ips →
        (computeStress = true → stress.isSome
          ∨ cfg.optimizerStressRegime ∈ catalog.keys) →
        ∃ proposal, runMvRebalance positions ips assumptions cfg taxEstimator
          computeStress stress = .ok proposal)
    ∧ ∀ proposal, runMvRebalance positions ips assumptions cfg taxEstimator
        computeStress stress = .ok proposal →
        OnTarget positions ips proposal.targetWeights
        ∧ (computeStress = true →
          OnTarget positions ips proposal.stressTargetWeights) := by
  have habs : |cfg.riskAversionLambda| ≤ 10 ^ 6 := by
    rw [abs_of_nonneg hlam]
    exact hlam'
  rcases runMvRebalance_cases hin assumptions stress cfg taxEstimator
      hassumptions hstress htax habs computeStress
    with ⟨hmisses, msg, hrun⟩ | ⟨hfits, hunknown, key, hrun⟩
      | ⟨hfits, proposal, hrun, hon, hstressed⟩
  · rw [hrun]
    exact ⟨⟨fun _ => hmisses, fun _ => ⟨msg, rfl⟩⟩,
      fun h => absurd hmisses h, fun _ hok => nomatch hok⟩
  · rw [hrun]
    refine ⟨⟨fun ⟨_, h⟩ => (nomatch h), fun h => absurd h hfits⟩,
      fun _ hknown => ?_, fun _ hok => nomatch hok⟩
    obtain ⟨hcompute, hnone, hregime⟩ := hunknown
    rw [hnone] at hknown
    rcases hknown hcompute with h | h
    · cases h
    · exact absurd h hregime
  · rw [hrun]
    refine ⟨⟨fun ⟨_, h⟩ => (nomatch h), fun h => absurd h hfits⟩,
      fun _ _ => ⟨proposal, rfl⟩, fun reported hok => ?_⟩
    cases hok
    exact ⟨hon, hstressed⟩

/-- One lot of equity. -/
def equityLot : LotPositionView where
  lotId := "lot_1"
  accountId := "acct_a"
  accountName := "A"
  securityId := "sec_vti"
  ticker := some "VTI"
  securityName := "VTI"
  securityAssetClass := .equity
  quantity := 1
  costBasisPerShare := 100
  totalCostBasis := 100
  marketPrice := some 100
  marketValue := some 100
  unrealizedGain := some 0
  acquisitionDate := 0
  isRestricted := false
  washSaleSubstituteGroup := none

/-- At most half in equity, under a turnover budget of 15%. -/
def balancedPolicy : InvestmentPolicyStatement where
  ipsId := "ips_1"
  householdId := "h"
  version := 1
  effectiveDate := "2026-01-01"
  allocationTargets :=
    [{ assetClass := .equity
       minWeight := 1 / 5
       maxWeight := 1 / 2
       targetWeight := 1 / 2
       minFraction := by decide +kernel
       maxFraction := by decide +kernel
       targetFraction := by decide +kernel },
     { assetClass := .fixedIncome
       minWeight := 1 / 5
       maxWeight := 3 / 5
       targetWeight := 1 / 2
       minFraction := by decide +kernel
       maxFraction := by decide +kernel
       targetFraction := by decide +kernel }]
  turnoverBudgetPct := some (3 / 20)
  concentrationFraction := isFraction_quarter
  liquidityFraction := isFraction_none
  turnoverFraction := by decide +kernel

/-- The lot breaches its box and the budget; the proposal does not. -/
theorem rebalance_feasibility_budget_balanced :
    ∃ proposal, runMvRebalance [equityLot] balancedPolicy none {} none true
        none = .ok proposal
      ∧ OnTarget [equityLot] balancedPolicy proposal.targetWeights := by
  have hin : RebalanceInput [equityLot] balancedPolicy := by
    refine ⟨?_, ?_, ?_, ?_⟩ <;> decide +kernel
  obtain ⟨-, hok, hall⟩ := rebalance_feasibility_budget hin none none {} none
    (fun _ h => nomatch h) (fun _ h => nomatch h) (fun _ h => nomatch h)
    (by decide +kernel) (by decide +kernel) true
  have hfeasible : ¬ BoxMissesBudget [equityLot] balancedPolicy := by
    unfold BoxMissesBudget
    decide +kernel
  obtain ⟨proposal, hrun⟩ := hok hfeasible
    (fun _ => Or.inr (by decide +kernel))
  exact ⟨proposal, hrun, (hall proposal hrun).1⟩

end Warehouse
