/-
What an emitted household is like.

Read off the generator once: what every lot it makes has (`EmittedLot`),
what a household that is returned was made of (`Generated`), and what a
target of its statement is to the weight it is drawn around (`Boxed`). From
the last comes that the boxes of a generated household leave room for the
budget: the mins are under weights that add up to one, and what the one
capped sleeve gives up, a band gives back (`BoxedStatement.feasible`).

# What is read off

The lemmas about single emitters say the same three things of every lot (a
positive quantity, a positive price, an acquisition before the smokes) and
are put together once, for whole fixtures (`emittedLot_assembleFixture`).
Statements are read off in the same way: one lemma about a capped target,
one about a free one, and then the targets of any policy
(`emitIpsForCohort_boxed`). Modules on the smokes, the panels and the theses
start from these facts and unfold no emitter.
-/
import Warehouse.Proofs.Rebalance
import Warehouse.Proofs.SyntheticIps

namespace Warehouse

open Lib

-- ==================================================================== lots

/-- A lot of the concentrated name, bought above today's price. -/
structure AtLoss (lot : SyntheticLot) : Prop where
  flagged : lot.isLossLot = true
  ticker : lot.ticker = "AAPL"
  basis : lot.costBasisPerShare = 210
  price : lot.marketPrice = 180
  issuer : truthy lot.concentrationIssuer = true

/-- Every lot is bought, at a price, on a day before the second quarter of
2024; one that is not flagged is not under water. -/
structure EmittedLot (lot : SyntheticLot) : Prop where
  quantity : 0 < lot.quantity
  basis : 0 < lot.costBasisPerShare
  price : 0 < lot.marketPrice
  acquired : lot.acquisitionDate ≤ dateOf 2024 3 1
  marked : AtLoss lot
    ∨ lot.isLossLot = false ∧ lot.costBasisPerShare ≤ lot.marketPrice

theorem EmittedLot.marketValue_pos {lot : SyntheticLot} (h : EmittedLot lot) :
    0 < lot.marketValue := mul_pos h.quantity h.price

/-- Below the fourth rung every lot is emitted with a positive value. -/
theorem emittedLot_sleeveOnlyLots {householdId accountId : String}
    {weights : Dict RiskClass ℚ} {nav : ℚ} {lot : SyntheticLot}
    (hlot : lot ∈ sleeveOnlyLots householdId accountId weights nav) :
    EmittedLot lot := by
  unfold sleeveOnlyLots at hlot
  obtain ⟨⟨c, ticker, price, basis⟩, hspec, hmade⟩ := List.mem_filterMap.mp hlot
  have hpriced : ∀ spec ∈ sleeveSpecs, 0 < spec.2.2.1 ∧ 0 < spec.2.2.2
      ∧ spec.2.2.2 ≤ spec.2.2.1 := by
    decide +kernel
  obtain ⟨hprice, hbasis, hgain⟩ := hpriced _ hspec
  dsimp only at hmade
  split at hmade
  · cases hmade
  · next hnav =>
    cases hmade
    exact ⟨div_pos (not_le.mp hnav) hprice, hbasis, hprice,
      (by decide : baseDate ≤ dateOf 2024 3 1), .inr ⟨rfl, hgain⟩⟩

/-- So is every concentrated lot of a positive position. -/
theorem emittedLot_concentratedLots {householdId accountId : String}
    {perLot : ℚ} {lotCount : Nat} (hpos : 0 < perLot) (hcount : lotCount ≤ 5)
    {lot : SyntheticLot}
    (hlot : lot ∈ concentratedLots householdId accountId perLot lotCount) :
    EmittedLot lot := by
  unfold concentratedLots at hlot
  obtain ⟨idx, hidx, rfl⟩ := List.mem_map.mp hlot
  have hlt : idx < 5 := lt_of_lt_of_le (List.mem_range.mp hidx) hcount
  refine ⟨div_pos hpos (by norm_num), ?_, by norm_num, ?_, ?_⟩
  · dsimp only
    split
    · norm_num
    · norm_num
  · -- the last of five is bought in 2024
    have hdates : ∀ i < 5, dateOf (2020 + ((i : Nat) : Int)) 3 1
        ≤ dateOf 2024 3 1 := by decide
    exact hdates idx hlt
  · by_cases hfirst : (idx == 0) = true
    · exact .inl ⟨hfirst, rfl, if_pos hfirst, rfl, rfl⟩
    · refine .inr ⟨Bool.eq_false_iff.mpr hfirst, ?_⟩
      dsimp only
      rw [if_neg hfirst]
      norm_num

theorem emittedLot_diversifiedLot {householdId accountId : String} {nav : ℚ}
    (hpos : 0 < nav) :
    EmittedLot (diversifiedLot householdId accountId nav) :=
  ⟨div_pos hpos (by norm_num), by norm_num [diversifiedLot],
    by norm_num [diversifiedLot],
    (by decide : dateOf 2021 6 1 ≤ dateOf 2024 3 1),
    .inr ⟨rfl, by norm_num [diversifiedLot]⟩⟩

theorem emittedLot_splitEquityLots {rng : SeededRandom}
    {householdId accountId : String} {equityNav : ℚ} {seed : Int}
    {cohortId : String} (hpos : 0 < equityNav) {lot : SyntheticLot}
    (hlot : lot ∈ splitEquityLots rng householdId accountId equityNav seed
      cohortId) : EmittedLot lot := by
  unfold splitEquityLots at hlot
  by_cases hconcentrated : cohortId = "founder_executive"
      ∨ cohortId = "concentrated_stress"
  · rw [if_pos hconcentrated] at hlot
    have hshare : (0 : ℚ) < if cohortId = "concentrated_stress" then 40 / 100
        else 25 / 100 := by
      split
      · norm_num
      · norm_num
    dsimp only at hlot
    generalize (if cohortId = "concentrated_stress" then (40 / 100 : ℚ)
      else 25 / 100) = concentrate at hlot hshare
    obtain ⟨hlow, hhigh⟩ := rng.randintRange (seed + 1) 0 3 5 (by norm_num)
    have hcount : (0 : ℚ) < rng.randint (seed + 1) 0 3 5 := by
      exact_mod_cast lt_of_lt_of_le (by norm_num) hlow
    rcases List.mem_append.mp hlot with hlot | hlot
    · exact emittedLot_concentratedLots
        (div_pos (mul_pos hpos hshare) hcount) (by omega) hlot
    · split at hlot
      · next hrest =>
        rw [List.mem_singleton.mp hlot]
        exact emittedLot_diversifiedLot hrest
      · cases hlot
  · rw [if_neg hconcentrated] at hlot
    rw [List.mem_singleton.mp hlot]
    exact emittedLot_diversifiedLot hpos

/-- A lot of a sleeve that is emitted when it is worth something. -/
theorem emittedLot_whenPositive {nav : ℚ} {lots : List SyntheticLot}
    {lot : SyntheticLot} (h : 0 < nav → ∀ lot ∈ lots, EmittedLot lot)
    (hlot : lot ∈ if nav > 0 then lots else []) : EmittedLot lot := by
  split at hlot
  · next hpos => exact h hpos lot hlot
  · cases hlot

theorem emittedLot_splitPublicLots {rng : SeededRandom}
    {householdId accountId : String} {weights : Dict RiskClass ℚ} {nav : ℚ}
    {seed : Int} {cohortId : String} {lot : SyntheticLot}
    (hlot : lot ∈ splitPublicLots rng householdId accountId weights nav seed
      cohortId) : EmittedLot lot := by
  unfold splitPublicLots at hlot
  dsimp only at hlot
  rcases List.mem_append.mp hlot with hlot | hlot
  · rcases List.mem_append.mp hlot with hlot | hlot
    · rcases List.mem_append.mp hlot with hlot | hlot
      · exact emittedLot_whenPositive
          (fun hpos _ h => emittedLot_splitEquityLots hpos h) hlot
      · refine emittedLot_whenPositive (fun hpos lot h => ?_) hlot
        rw [List.mem_singleton.mp h]
        exact ⟨div_pos hpos (by norm_num), by norm_num, by norm_num,
          (by decide : dateOf 2022 1 1 ≤ dateOf 2024 3 1),
          .inr ⟨rfl, by norm_num⟩⟩
    · refine emittedLot_whenPositive (fun hpos lot h => ?_) hlot
      rw [List.mem_singleton.mp h]
      exact ⟨hpos, by norm_num, by norm_num,
        (by decide : baseDate ≤ dateOf 2024 3 1), .inr ⟨rfl, le_refl 1⟩⟩
  · refine emittedLot_whenPositive (fun hpos lot h => ?_) hlot
    rw [List.mem_singleton.mp h]
    exact ⟨div_pos hpos (by norm_num), by norm_num, by norm_num,
      (by decide : dateOf 2023 4 1 ≤ dateOf 2024 3 1),
      .inr ⟨rfl, by norm_num⟩⟩

theorem emittedLot_assembleFixture {rt : SyntheticRuntime} {cohortId : String}
    {seed rung : Int} {hhId : String} {nav : ℚ} {weights : Dict RiskClass ℚ}
    {lot : SyntheticLot} (hlot : lot ∈ (assembleFixture rt cohortId seed rung
      hhId nav weights).lots) : EmittedLot lot := by
  unfold assembleFixture at hlot
  dsimp only at hlot
  split at hlot
  · exact emittedLot_sleeveOnlyLots hlot
  · exact emittedLot_splitPublicLots hlot

-- =================================================================== views

/-- What a view has of its lot. -/
structure LotViewed (lot : SyntheticLot) (pos : LotPositionView) : Prop where
  accountId : pos.accountId = lot.accountId
  ticker : pos.ticker = some lot.ticker
  securityId : pos.securityId = lot.ticker
  marketValue : pos.marketValue = some lot.marketValue
  costBasis : pos.totalCostBasis = lot.quantity * lot.costBasisPerShare
  gain : pos.unrealizedGain = some (lot.marketValue
    - lot.quantity * lot.costBasisPerShare)
  acquired : pos.acquisitionDate = lot.acquisitionDate
  sleeve : ipsSleeveForPosition pos = lotSleeve lot
  tier : lotLiquidityTier lot = .ok pos.liquidityTier

/-- A lot's position is the view of it. -/
theorem lotPosition_viewed {accounts : Dict String String}
    {restricted : List String} {lot : SyntheticLot} {pos : LotPositionView}
    (h : lotPosition accounts restricted lot = .ok pos) :
    LotViewed lot pos := by
  unfold lotPosition at h
  obtain ⟨tier, htier, h⟩ := bind_ok_iff.mp h
  cases h
  exact ⟨rfl, rfl, rfl, rfl, rfl, rfl, rfl, rfl, htier⟩

/-- The views of a fixture, lot by lot. -/
theorem lotPositions_viewed {fixture : HouseholdFixture}
    {restricted : Option (List String)} {positions : List LotPositionView}
    (h : lotPositionsFromFixture fixture restricted = .ok positions) :
    List.Forall₂ LotViewed fixture.lots positions :=
  (mapM_eq_ok_iff.mp h).imp fun _ _ => lotPosition_viewed

theorem LotViewed.lotView {lot : SyntheticLot} {pos : LotPositionView}
    (h : LotViewed lot pos) : LotView lot pos := ⟨h.marketValue, h.sleeve⟩

-- =================================================================== boxes

/-- A target beside the weight it is drawn around: the capped sleeve gives
up little, and every other has room above it. -/
structure Boxed (cohortId : String) (weight : ℚ) (t : AllocationTarget) :
    Prop where
  ordered : t.minWeight ≤ t.maxWeight
  low : t.minWeight ≤ weight
  room : ¬ Capped cohortId t.assetClass →
    t.maxWeight = 1 ∨ weight + 19 / 1000 ≤ t.maxWeight
  cap : Capped cohortId t.assetClass → t.maxWeight < weight
  gap : weight - 6 / 1000 ≤ t.maxWeight

/-- A created target has the values given. -/
theorem AllocationTarget.create_reads {sleeve : IpsSleeve}
    {low high target : ℚ} {t : AllocationTarget}
    (h : AllocationTarget.create sleeve low high target = .ok t) :
    t.assetClass = sleeve ∧ t.minWeight = low ∧ t.maxWeight = high := by
  unfold AllocationTarget.create at h
  split at h
  · split at h
    · split at h
      · cases h
        exact ⟨rfl, rfl, rfl⟩
      · cases h
    · cases h
  · cases h

section Boxes

variable {cohortId : String} {sleeve : IpsSleeve} {weight band : ℚ}
  {t : AllocationTarget}

/-- The stressed cohort's equity target is a band below the weight. -/
theorem bandTarget_boxed_capped (hcapped : Capped cohortId sleeve)
    (hlow : 5 / 1000 ≤ weight) (hband : 0 ≤ band)
    (h : bandTarget cohortId sleeve weight band = .ok t) :
    t.assetClass = sleeve ∧ Boxed cohortId weight t := by
  have hcapped' := hcapped
  unfold Capped at hcapped'
  unfold bandTarget at h
  rw [if_pos hcapped'] at h
  obtain ⟨hclass, hmin, hmax⟩ := AllocationTarget.create_reads h
  have hnear := abs_le.mp (abs_quantize_sub_le 7 (weight - 5 / 1000))
  norm_num at hnear
  have hcap : 0 ≤ quantize 7 (weight - 5 / 1000) := by
    have := quantize_mono 7 (sub_nonneg.mpr hlow)
    rw [quantize_zero] at this
    exact this
  have hordered : t.minWeight ≤ t.maxWeight := by
    rw [hmin, hmax, ← quantize_quantize 7 (weight - 5 / 1000)]
    apply quantize_mono
    rw [quantize_quantize]
    exact max_le hcap (by linarith)
  refine ⟨hclass, hordered, ?_, fun hfree => ?_, fun _ => ?_, ?_⟩
  · refine hordered.trans ?_
    rw [hmax]
    linarith
  · rw [hclass] at hfree
    exact absurd hcapped hfree
  · rw [hmax]
    linarith
  · rw [hmax]
    linarith

/-- Every other target is a band around it. -/
theorem bandTarget_boxed_free (hfree : ¬ Capped cohortId sleeve)
    (hweight : IsFraction weight) (hband : 2 / 100 ≤ band)
    (h : bandTarget cohortId sleeve weight band = .ok t) :
    t.assetClass = sleeve ∧ Boxed cohortId weight t := by
  obtain ⟨made, hmade, -, hlow, hhigh⟩ := bandTarget_ok hfree hweight
    (le_trans (by norm_num) hband)
  have hfree' := hfree
  unfold Capped at hfree'
  rw [h] at hmade
  cases hmade
  unfold bandTarget at h
  rw [if_neg hfree'] at h
  obtain ⟨hclass, hmin, hmax⟩ := AllocationTarget.create_reads h
  have htarget := quantize_isFraction 7 hweight
  have hnear := abs_le.mp (abs_quantize_sub_le 7 weight)
  norm_num at hnear
  refine ⟨hclass, hlow.trans hhigh, hlow, fun _ => ?_, fun hcapped => ?_,
    by linarith⟩
  swap
  · rw [hclass] at hcapped
    exact absurd hcapped hfree
  rw [hmax]
  rcases le_total 1 (quantize 7 weight + band) with hle | hle
  · left
    rw [min_eq_left hle, quantize_one]
  · right
    rw [min_eq_right hle]
    have hround :=
      (abs_le.mp (abs_quantize_sub_le 7 (quantize 7 weight + band))).1
    norm_num at hround
    linarith

/-- Every target of a statement is boxed around its class's weight. -/
theorem bandTarget_boxed (hweight : IsFraction weight)
    (hcap : Capped cohortId sleeve → 5 / 1000 ≤ weight)
    (hband : 2 / 100 ≤ band)
    (h : bandTarget cohortId sleeve weight band = .ok t) :
    t.assetClass = sleeve ∧ Boxed cohortId weight t := by
  by_cases hcapped : Capped cohortId sleeve
  · exact bandTarget_boxed_capped hcapped (hcap hcapped)
      (le_trans (by norm_num) hband) h
  · exact bandTarget_boxed_free hcapped hweight hband h

end Boxes

-- ============================================================== statements

/-- What a statement that is returned was made of. -/
theorem emitIpsForCohort_inv {rng : SeededRandom} {cohortId householdId : String}
    {seed rung : Int} {weights : Dict RiskClass ℚ}
    {ips : InvestmentPolicyStatement}
    (h : emitIpsForCohort rng cohortId seed householdId weights rung
      = .ok ips) :
    ∃ priors, cohortIpsPriors cohortId = .ok priors
      ∧ (targetClasses weights).mapM (fun c =>
          bandTarget cohortId (assetToIpsSleeve c) ((weights.get? c).getD 0)
            priors.allocationBandPct) = .ok ips.allocationTargets
      ∧ ips.turnoverBudgetPct = priors.turnoverBudgetPct := by
  unfold emitIpsForCohort at h
  obtain ⟨priors, hpriors, h⟩ := bind_ok_iff.mp h
  obtain ⟨limit, -, h⟩ := bind_ok_iff.mp h
  obtain ⟨targets, htargets, h⟩ := bind_ok_iff.mp h
  refine ⟨priors, hpriors, ?_⟩
  split at h
  · cases h
  · unfold InvestmentPolicyStatement.create at h
    split at h
    · split at h
      · split at h
        · cases h
          exact ⟨htargets, rfl⟩
        · cases h
      · cases h
    · cases h

/-- A statement's targets, one boxed around each class with a weight. -/
structure BoxedStatement (cohortId : String) (weights : Dict RiskClass ℚ)
    (targets : List AllocationTarget) : Prop where
  classes : targets.map (·.assetClass)
    = (targetClasses weights).map assetToIpsSleeve
  boxed : ∀ t ∈ targets, ∃ c, t.assetClass = assetToIpsSleeve c
    ∧ Boxed cohortId (weightIn weights c) t

/-- So an emitted policy is boxed around the weights. -/
theorem emitIpsForCohort_boxed {rng : SeededRandom}
    {cohortId householdId : String} {seed rung : Int}
    {weights : Dict RiskClass ℚ} {ips : InvestmentPolicyStatement}
    (hweights : ∀ c, IsFraction (weightIn weights c))
    (hcap : cohortId = "concentrated_stress" →
      5 / 1000 ≤ weightIn weights .equity)
    (hband : ∀ priors, cohortIpsPriors cohortId = .ok priors →
      2 / 100 ≤ priors.allocationBandPct)
    (h : emitIpsForCohort rng cohortId seed householdId weights rung
      = .ok ips) :
    BoxedStatement cohortId weights ips.allocationTargets := by
  obtain ⟨priors, hpriors, hmade, -⟩ := emitIpsForCohort_inv h
  have hone : ∀ c t, bandTarget cohortId (assetToIpsSleeve c)
      ((weights.get? c).getD 0) priors.allocationBandPct = .ok t →
      t.assetClass = assetToIpsSleeve c
        ∧ Boxed cohortId (weightIn weights c) t := by
    intro c t hct
    refine bandTarget_boxed (hweights c) (fun hcapped => ?_)
      (hband priors hpriors) hct
    have hc : c = .equity := assetToIpsSleeve_injective hcapped.2
    rw [hc]
    exact hcap hcapped.1
  refine ⟨mapM_map_eq hmade fun c t hct => (hone c t hct).1, fun t ht => ?_⟩
  obtain ⟨c, -, hct⟩ := mapM_mem hmade ht
  exact ⟨c, hone c t hct⟩

/-- No cohort's band is under two points. -/
theorem cohortIpsPriors_band {cohortId : String} {priors : CohortIpsPriors}
    (h : cohortIpsPriors cohortId = .ok priors) :
    2 / 100 ≤ priors.allocationBandPct := by
  unfold cohortIpsPriors at h
  split at h
  all_goals first | cases h; norm_num | cases h

-- ============================================================= feasibility

section Feasible

variable {cohortId : String} {weights : Dict RiskClass ℚ}
  {positions : List LotPositionView} {ips : InvestmentPolicyStatement}

/-- A sleeve's class, under the other name. -/
theorem assetToIpsSleeve_riskClassFor (s : IpsSleeve) :
    assetToIpsSleeve (riskClassFor s) = s := by cases s <;> rfl

/-- A sleeve's box beside its class's weight; without a target the sleeve is
free. -/
theorem BoxedStatement.sleeve
    (h : BoxedStatement cohortId weights ips.allocationTargets)
    (hweights : ∀ c, IsFraction (weightIn weights c)) (s : IpsSleeve) :
    sleeveMin ips s ≤ weightIn weights (riskClassFor s)
      ∧ weightIn weights (riskClassFor s)
        - (if s = .equity then 6 / 1000 else 0) ≤ sleeveMax ips s
      ∧ (¬ Capped cohortId s → sleeveMax ips s = 1
        ∨ weightIn weights (riskClassFor s) + 19 / 1000 ≤ sleeveMax ips s) := by
  have hfraction := hweights (riskClassFor s)
  unfold sleeveMin sleeveMax
  cases hfind : ips.allocationTargets.find? (·.assetClass = s) with
  | none =>
      dsimp only
      refine ⟨hfraction.1, ?_, fun _ => .inl rfl⟩
      have := hfraction.2
      split
      · linarith
      · linarith
  | some t =>
      dsimp only
      obtain ⟨c, hclass, hboxed⟩ := h.boxed t (List.mem_of_find?_eq_some hfind)
      have hs : t.assetClass = s := by
        have := List.find?_some hfind
        exact of_decide_eq_true this
      have hc : riskClassFor s = c := by
        apply assetToIpsSleeve_injective
        rw [assetToIpsSleeve_riskClassFor, ← hs, hclass]
      rw [hc]
      refine ⟨hboxed.low, ?_, fun hfree => hboxed.room (by rw [hs]; exact hfree)⟩
      split
      · exact hboxed.gap
      · next hother =>
        rcases hboxed.room (by rw [hs]; exact fun hcapped => hother hcapped.2)
          with hone | hroom
        · rw [hone, sub_zero]
          exact (hweights c).2
        · linarith

/-- A sleeve with a weight is targeted. -/
theorem BoxedStatement.targeted
    (h : BoxedStatement cohortId weights ips.allocationTargets)
    {s : IpsSleeve} (hpos : 0 < weightIn weights (riskClassFor s)) :
    s ∈ heldOrTargeted positions ips := by
  have hmem : s ∈ ips.allocationTargets.map (·.assetClass) := by
    rw [h.classes]
    exact List.mem_map.mpr ⟨riskClassFor s, mem_targetClasses.mpr hpos,
      assetToIpsSleeve_riskClassFor s⟩
  obtain ⟨t, ht, hs⟩ := List.mem_map.mp hmem
  refine List.mem_filter.mpr ⟨IpsSleeve.mem_all s, ?_⟩
  exact decide_eq_true (Or.inr ⟨t, ht, hs⟩)

/-- A bound of a sleeve of the universe, none for the others. -/
def inUniverse (positions : List LotPositionView)
    (ips : InvestmentPolicyStatement) (f : IpsSleeve → ℚ) (s : IpsSleeve) : ℚ :=
  if s ∈ heldOrTargeted positions ips then f s else 0

/-- What the universe adds up is a sum over all six sleeves. -/
theorem sum_heldOrTargeted (f : IpsSleeve → ℚ) :
    ((heldOrTargeted positions ips).map f).sum
      = (IpsSleeve.all.map (inUniverse positions ips f)).sum := by
  have hsum : ∀ (p : IpsSleeve → Bool) (sleeves : List IpsSleeve),
      ((sleeves.filter p).map f).sum
        = (sleeves.map fun s => if p s then f s else 0).sum := by
    intro p sleeves
    induction sleeves with
    | nil => rfl
    | cons s rest ih =>
        rw [List.map_cons, List.sum_cons, ← ih]
        by_cases hp : p s = true
        · rw [List.filter_cons_of_pos hp, if_pos hp, List.map_cons,
            List.sum_cons]
        · rw [List.filter_cons_of_neg hp, if_neg hp, zero_add]
  unfold inUniverse heldOrTargeted
  rw [hsum]
  congr 1
  apply List.map_congr_left
  intro s hs
  simp only [List.mem_filter, hs, true_and]

variable (positions) in
/-- The lower bounds stay below the weights. -/
theorem BoxedStatement.universeMin_le
    (h : BoxedStatement cohortId weights ips.allocationTargets)
    (hweights : ∀ c, IsFraction (weightIn weights c)) (s : IpsSleeve) :
    inUniverse positions ips (sleeveMin ips) s
      ≤ weightIn weights (riskClassFor s) := by
  unfold inUniverse
  split
  · exact (h.sleeve hweights s).1
  · exact (hweights _).1

variable (positions) in
/-- The upper bounds stay above them, but for the cap. -/
theorem BoxedStatement.le_universeMax
    (h : BoxedStatement cohortId weights ips.allocationTargets)
    (hweights : ∀ c, IsFraction (weightIn weights c)) (s : IpsSleeve) :
    0 ≤ inUniverse positions ips (sleeveMax ips) s
      ∧ weightIn weights (riskClassFor s)
        - (if s = .equity then 6 / 1000 else 0)
          ≤ inUniverse positions ips (sleeveMax ips) s := by
  unfold inUniverse
  by_cases hin : s ∈ heldOrTargeted positions ips
  · rw [if_pos hin]
    refine ⟨?_, (h.sleeve hweights s).2.1⟩
    unfold sleeveMax
    split
    · exact zero_le_one
    · next t _ => exact t.maxFraction.1
  · rw [if_neg hin]
    have hzero : weightIn weights (riskClassFor s) ≤ 0 :=
      not_lt.mp fun hpos => hin (h.targeted hpos)
    refine ⟨le_refl 0, ?_⟩
    split
    · linarith
    · linarith

/-- A mark on one sleeve adds up to itself. -/
theorem sum_oneSleeve (s : IpsSleeve) (q : ℚ) :
    (IpsSleeve.all.map fun s' => if s' = s then q else 0).sum = q := by
  unfold IpsSleeve.all
  cases s <;> simp

/-- The boxes of a statement leave room for the budget: one sleeve gives up
six thousandths, a band gives back nineteen. -/
theorem BoxedStatement.feasible
    (h : BoxedStatement cohortId weights ips.allocationTargets)
    (hweights : ∀ c, IsFraction (weightIn weights c))
    (hwhole : (assetClasses.map (weightIn weights)).sum = 1)
    (hfree : ∃ s, ¬ Capped cohortId s
      ∧ 0 < weightIn weights (riskClassFor s)) :
    ¬ BoxMissesBudget positions ips := by
  have hhigh := h.le_universeMax positions hweights
  have hall : (IpsSleeve.all.map fun s =>
      weightIn weights (riskClassFor s)).sum = 1 := hwhole
  obtain ⟨s, hs, hpos⟩ := hfree
  unfold BoxMissesBudget
  rw [sum_heldOrTargeted, sum_heldOrTargeted, not_or, not_lt, not_lt]
  constructor
  · have hlow := List.sum_le_sum fun s (_ : s ∈ IpsSleeve.all) =>
      h.universeMin_le positions hweights s
    rw [hall] at hlow
    linarith
  · have hback : inUniverse positions ips (sleeveMax ips) s = 1
        ∨ weightIn weights (riskClassFor s) + 19 / 1000
          ≤ inUniverse positions ips (sleeveMax ips) s := by
      unfold inUniverse
      rw [if_pos (h.targeted hpos)]
      exact (h.sleeve hweights s).2.2 hs
    rcases hback with hone | hroom
    · -- a sleeve that may hold everything
      have hsingle := List.single_le_sum
        (l := IpsSleeve.all.map (inUniverse positions ips (sleeveMax ips)))
        (fun q hq => by
          obtain ⟨s', -, rfl⟩ := List.mem_map.mp hq
          exact (hhigh s').1) _ (List.mem_map_of_mem (IpsSleeve.mem_all s))
      rw [hone] at hsingle
      linarith
    · have hterm : ∀ s', weightIn weights (riskClassFor s')
          + ((if s' = s then 19 / 1000 else 0)
            + if s' = .equity then -6 / 1000 else 0)
          ≤ inUniverse positions ips (sleeveMax ips) s' := by
        intro s'
        have hlow := (hhigh s').2
        by_cases hsame : s' = s
        · subst hsame
          rw [if_pos rfl]
          split
          · linarith
          · linarith
        · rw [if_neg hsame]
          split at hlow
          · next hequity =>
            rw [if_pos hequity]
            linarith
          · next hother =>
            rw [if_neg hother]
            linarith
      have hsum := List.sum_le_sum fun s' (_ : s' ∈ IpsSleeve.all) => hterm s'
      rw [List.sum_map_add, List.sum_map_add, hall, sum_oneSleeve,
        sum_oneSleeve] at hsum
      linarith

end Feasible

-- ============================================================== households

section Generated

variable {rt : SyntheticRuntime} {cohortId : String} {seed rung : Int}
  {householdId : Option String} {nav : ℚ} {validate : Bool}
  {ranges : List (RiskClass × ℚ × ℚ)} {weights : Dict RiskClass ℚ}
  {portfolio : AssetPortfolio} {bundle : SyntheticHouseholdBundle}

/-- A household made of sampled weights: its fixture under Shape A, and the
statement drawn around that. -/
structure Generated (rt : SyntheticRuntime) (cohortId : String)
    (seed rung : Int) (householdId : Option String) (nav : ℚ)
    (ranges : List (RiskClass × ℚ × ℚ)) (weights : Dict RiskClass ℚ)
    (portfolio : AssetPortfolio) (bundle : SyntheticHouseholdBundle) :
    Prop where
  sampled : ∃ d, Sampled ranges d weights
  fixture : bundle.fixture = sealIpsProvenance rt
    { assembleFixture rt cohortId seed rung
        (householdIdOr householdId cohortId seed) nav weights with
      assetPortfolio := some portfolio } bundle.ips.ipsId
  emitted : emitHnwFixture rt cohortId seed rung householdId nav (some weights)
    = .ok { assembleFixture rt cohortId seed rung
        (householdIdOr householdId cohortId seed) nav weights with
      assetPortfolio := some portfolio }
  statement : emitIpsForCohort rt.toSeededRandom cohortId seed
    (householdIdOr householdId cohortId seed) (shapeAWeights portfolio) rung
      = .ok bundle.ips
  shapeA : ∀ c, weightIn (shapeAWeights portfolio) c = weightIn weights c

/-- Whatever is returned was generated. -/
theorem emitSyntheticHousehold_generated
    (hcohort : sleeveRanges cohortId = some ranges)
    (hrung : rung = 3 ∨ rung = 4) (hnav : 0 < nav)
    (h : emitSyntheticHousehold rt cohortId seed rung householdId nav validate
      none = .ok bundle) :
    ∃ weights portfolio, Generated rt cohortId seed rung householdId nav ranges
      weights portfolio bundle := by
  have hranged := sleeveRanges_ranged hcohort
  obtain ⟨d, weights, hsample, hsampled⟩ :=
    sampleSleeveWeights_ok rt.toSeededRandom seed hcohort hranged
  obtain ⟨portfolio, hrun, hshapeA⟩ := hsampled.shapeA cohortId hranged
    rt seed householdId hrung hnav
  refine ⟨weights, portfolio, ?_⟩
  unfold emitSyntheticHousehold at h
  rw [emitHnwFixture_sampled rt cohortId seed householdId hsample, hrun,
    ok_bind] at h
  dsimp only at h
  obtain ⟨portfolio', hportfolio, h⟩ := bind_ok_iff.mp h
  cases hportfolio
  obtain ⟨ips, hips, h⟩ := bind_ok_iff.mp h
  obtain ⟨validation, -, h⟩ := bind_ok_iff.mp h
  split at h
  · cases h
  · cases h
    exact ⟨⟨d, hsampled⟩, rfl, hrun, hips, hshapeA⟩

/-- What passes its gate is returned without it too. -/
theorem emitSyntheticHousehold_ungated
    (h : emitSyntheticHousehold rt cohortId seed rung householdId nav true none
      = .ok bundle) :
    emitSyntheticHousehold rt cohortId seed rung householdId nav validate none
      = .ok bundle := by
  unfold emitSyntheticHousehold at h ⊢
  obtain ⟨fixture, hfixture, h⟩ := bind_ok_iff.mp h
  rw [hfixture, ok_bind]
  dsimp only at h ⊢
  -- the gate is the last step, after the statement and its validation
  have hgate : ∀ made : Except Exc AssetPortfolio,
      (made >>= fun portfolio => do
        let ips ← emitIpsForCohort rt.toSeededRandom cohortId seed
          fixture.householdId (shapeAWeights portfolio) rung
        let validation ← validateIps fixture ips
        if true = true ∧ validation.ok = false then
          throw (ipsValidationError validation)
        else pure (⟨sealIpsProvenance rt fixture ips.ipsId, ips, validation⟩ :
          SyntheticHouseholdBundle)) = .ok bundle →
      (made >>= fun portfolio => do
        let ips ← emitIpsForCohort rt.toSeededRandom cohortId seed
          fixture.householdId (shapeAWeights portfolio) rung
        let validation ← validateIps fixture ips
        if validate = true ∧ validation.ok = false then
          throw (ipsValidationError validation)
        else pure (⟨sealIpsProvenance rt fixture ips.ipsId, ips, validation⟩ :
          SyntheticHouseholdBundle)) = .ok bundle := by
    intro made h
    obtain ⟨portfolio, hportfolio, h⟩ := bind_ok_iff.mp h
    obtain ⟨ips, hips, h⟩ := bind_ok_iff.mp h
    obtain ⟨validation, hvalidation, h⟩ := bind_ok_iff.mp h
    rw [hportfolio, ok_bind, hips, ok_bind, hvalidation, ok_bind]
    split at h
    · cases h
    · next hpassed =>
      rw [if_neg fun hfails => hpassed ⟨rfl, hfails.2⟩]
      exact h
  cases hportfolio : fixture.assetPortfolio with
  | none =>
    rw [hportfolio] at h
    exact hgate _ h
  | some portfolio =>
    rw [hportfolio] at h
    exact hgate (.ok portfolio) h

namespace Generated

variable (h : Generated rt cohortId seed rung householdId nav ranges weights
  portfolio bundle)

include h

/-- The bundle's lots are those assembled. -/
theorem lots : bundle.fixture.lots = (assembleFixture rt cohortId seed rung
    (householdIdOr householdId cohortId seed) nav weights).lots := by
  rw [h.fixture]
  rfl

/-- Its provenance says what it was emitted for. -/
theorem cohort : bundle.fixture.provenance.cohortId = cohortId
    ∧ bundle.fixture.provenance.seed = seed
    ∧ bundle.fixture.provenance.rung = rung := by
  rw [h.fixture]
  exact ⟨rfl, rfl, rfl⟩

theorem assetPortfolio : bundle.fixture.assetPortfolio = some portfolio := by
  rw [h.fixture]
  rfl

/-- The views of its lots. -/
theorem positions (restricted : Option (List String)) :
    ∃ positions, lotPositionsFromFixture bundle.fixture restricted
        = .ok positions
      ∧ List.Forall₂ LotViewed bundle.fixture.lots positions := by
  have hlots := bySleeve_assembleFixture rt cohortId seed rung
    (householdIdOr householdId cohortId seed) nav weights
  rw [← h.lots] at hlots
  obtain ⟨positions, hviews, -⟩ :=
    lotPositionsFromFixture_ok bundle.fixture hlots restricted
  exact ⟨positions, hviews, lotPositions_viewed hviews⟩

end Generated

end Generated

end Warehouse
