/-
The fixture's views beside its Shape A.

A view keeps its lot's value and takes its class from the ticker, so the
two tables compose to a reading of the lot alone (`lotSleeve`), and on
what the generator emits that reading is a reading of the sleeve
(`lotSleeve_emitted`). It is the sleeve itself but for commodities, whose
fund is an ETF and rolls up to equity (`rolledSleeve`).

Weights are exact here. The monitor adds up a sleeve's rounded weights and
Shape A rounds the weight of the sleeve's sum, which in 28 digits can differ
in the last one.
-/
import Warehouse.Proofs.IpsBreaches
import Warehouse.Proofs.Synthetic
import Warehouse.Research.FixtureViews

namespace Warehouse

open Lib

-- ================================================================ the reading

/-- The sleeve of a lot's view. -/
def lotSleeve (lot : SyntheticLot) : IpsSleeve :=
  rollupSecurityToIpsSleeve (securityAssetClass lot) (some lot.ticker)
    (washGroup lot.ticker)

/-- A view of a lot has its value, in its sleeve. -/
def LotView (lot : SyntheticLot) (pos : LotPositionView) : Prop :=
  pos.marketValue = some lot.marketValue ∧ ipsSleeveForPosition pos = lotSleeve lot

/-- A lot that states its class has that class's tier. -/
theorem lotLiquidityTier_of_value {lot : SyntheticLot} {c : RiskClass}
    (h : lot.assetClass = c.value) :
    lotLiquidityTier lot = .ok (classLiquidityTier c false) := by
  unfold lotLiquidityTier classLiquidityTier
  rw [h, RiskClass.ofValue_value, ok_bind]
  cases c <;> rfl

theorem lotPosition_ok (accounts : Dict String String)
    (restricted : List String) {lot : SyntheticLot} {c : RiskClass}
    (h : lot.assetClass = c.value) :
    ∃ pos, lotPosition accounts restricted lot = .ok pos
      ∧ LotView lot pos := by
  unfold lotPosition
  dsimp only
  rw [lotLiquidityTier_of_value h, ok_bind]
  exact ⟨_, rfl, rfl, rfl⟩

/-- What the generator emits of a sleeve is viewed in this one. -/
def rolledSleeve : RiskClass → IpsSleeve
  | .commodities => .equity
  | c => assetToIpsSleeve c

/-- The broad equity group names no bond. -/
theorem rollup_vti : rollupSecurityToIpsSleeve .etf (some "VTI")
    (some "us_equity_broad") = .equity := by decide

/-- Emitted lots roll up as their sleeves do. -/
theorem lotSleeve_emitted : ∀ c ∈ publicClasses, ∀ lot : SyntheticLot,
    lot.assetClass = c.value → lot.ticker ∈ sleeveTickers c →
      lotSleeve lot = rolledSleeve c := by
  intro c hc lot _ hticker
  unfold lotSleeve securityAssetClass
  cases c with
  | equity =>
      rcases List.mem_pair.mp hticker with hticker | hticker
      · rw [hticker]
        rfl
      · rw [hticker]
        exact rollup_vti
  | fixedIncome =>
      rw [List.mem_singleton.mp hticker]
      rfl
  | cash =>
      rw [List.mem_singleton.mp hticker]
      rfl
  | commodities =>
      rw [List.mem_singleton.mp hticker]
      rfl
  | fx => exact absurd hc (by decide)
  | alternatives => exact absurd hc (by decide)

-- ================================================================== the values

variable {lots : List SyntheticLot} {positions : List LotPositionView}

/-- The positions are worth what the lots are. -/
theorem totalMarketValue_views (h : List.Forall₂ LotView lots positions) :
    totalMarketValue positions
      = (lots.map SyntheticLot.marketValue).sum := by
  unfold totalMarketValue
  induction h with
  | nil => rfl
  | cons hview _ ih =>
      rw [List.map_cons, List.map_cons, List.sum_cons, List.sum_cons, ih,
        hview.1, Option.getD_some]

theorem valueWhere_views (h : List.Forall₂ LotView lots positions)
    (s : IpsSleeve) :
    valueWhere (ipsSleeveForPosition · = s) positions
      = ((lots.filter (lotSleeve · = s)).map SyntheticLot.marketValue).sum := by
  refine totalMarketValue_views (List.rel_filter ?_ h)
  intro lot pos hview
  show decide (lotSleeve lot = s) = true
    ↔ decide (ipsSleeveForPosition pos = s) = true
  rw [hview.2]

/-- Emitted lots are viewed sleeve by sleeve. -/
theorem BySleeve.valueWhere_views {value : RiskClass → ℚ}
    (hlots : BySleeve value lots)
    (h : List.Forall₂ LotView lots positions) (s : IpsSleeve) :
    valueWhere (ipsSleeveForPosition · = s) positions
      = (publicClasses.map fun c =>
          if rolledSleeve c = s then value c else 0).sum := by
  rw [Warehouse.valueWhere_views h s]
  exact hlots.sum_filter rolledSleeve lotSleeve_emitted s

/-- The fixture's views are made. -/
theorem lotPositionsFromFixture_ok (fixture : HouseholdFixture)
    {value : RiskClass → ℚ} (hlots : BySleeve value fixture.lots)
    (restricted : Option (List String)) :
    ∃ positions, lotPositionsFromFixture fixture restricted = .ok positions
      ∧ List.Forall₂ LotView fixture.lots positions := by
  unfold lotPositionsFromFixture
  apply mapM_forall₂
  intro lot hlot
  obtain ⟨c, -, hvalue, -⟩ := hlots.mem hlot
  exact lotPosition_ok _ _ hvalue

-- ================================================================= the gate

/-- No two classes share a sleeve. -/
theorem assetToIpsSleeve_injective : Function.Injective assetToIpsSleeve := by
  intro c c' h
  cases c <;> cases c' <;> first | rfl | cases h

/-- The gate's weights are Shape A's, under the sleeves' names. -/
theorem get?_shapeASleeveWeights (portfolio : AssetPortfolio) (c : RiskClass) :
    (shapeASleeveWeights portfolio).get? (assetToIpsSleeve c)
      = (shapeAWeights portfolio).get? c := by
  have hpairs := Dict.get?_ofPairs_rename assetToIpsSleeve_injective
    (portfolio.allocations.map fun slot => (slot.assetClass, slot.weight)) c
  rw [List.map_map] at hpairs
  exact hpairs

/-- The class of a sleeve's name. -/
theorem exists_assetToIpsSleeve (s : IpsSleeve) :
    ∃ c, assetToIpsSleeve c = s := by
  cases s with
  | equity => exact ⟨.equity, rfl⟩
  | fixedIncome => exact ⟨.fixedIncome, rfl⟩
  | commodities => exact ⟨.commodities, rfl⟩
  | fx => exact ⟨.fx, rfl⟩
  | alternatives => exact ⟨.alternatives, rfl⟩
  | cash => exact ⟨.cash, rfl⟩

/-- The views put into every sleeve the weight Shape A puts there, so the
drift monitor and the validation gate judge one allocation. -/
structure SleevesPreserved (positions : List LotPositionView)
    (portfolio : AssetPortfolio) : Prop where
  weights : ∀ s,
    ((sleeveWeights (totalMarketValue positions) positions).get? s).getD 0
      = ((shapeASleeveWeights portfolio).get? s).getD 0
  judged : ∀ target : AllocationTarget,
    targetWeightNow (totalMarketValue positions) (classMarketValue positions)
        target
      = ((shapeASleeveWeights portfolio).get? target.assetClass).getD 0

/-- Both sides' sums agree sleeve by sleeve or not at all. -/
theorem sleevesPreserved_iff {portfolio : AssetPortfolio}
    (hpos : 0 < totalMarketValue positions) :
    SleevesPreserved positions portfolio
      ↔ ∀ c, sleeveShare positions (assetToIpsSleeve c)
        = ((shapeAWeights portfolio).get? c).getD 0 := by
  constructor
  · intro h c
    have hweight := h.weights (assetToIpsSleeve c)
    rw [getD_sleeveWeights, get?_shapeASleeveWeights] at hweight
    exact hweight
  · intro h
    have hshare : ∀ s, sleeveShare positions s
        = ((shapeASleeveWeights portfolio).get? s).getD 0 := by
      intro s
      obtain ⟨c, rfl⟩ := exists_assetToIpsSleeve s
      rw [h, get?_shapeASleeveWeights]
    refine ⟨fun s => ?_, fun target => ?_⟩
    · rw [getD_sleeveWeights]
      exact hshare s
    · unfold targetWeightNow
      dsimp only
      rw [if_pos hpos, getD_classMarketValue]
      exact hshare target.assetClass

-- ============================================================= the fixtures

section Emitted

variable (rt : SyntheticRuntime) (cohortId : String) (seed : Int) {rung : Int}
  (householdId : Option String) {nav : ℚ} {weights : Dict RiskClass ℚ}
  {fixture : HouseholdFixture}

/-- Without holdings the alternatives have no weight. -/
theorem alternatives_eq_zero {rng : SeededRandom} {hhId entityId : String}
    (hweights : ∀ q ∈ weights.values, 0 ≤ q)
    (hnone : buildAlts rng hhId entityId weights nav seed = []) :
    weightIn weights .alternatives = 0 := by
  have hnonneg := weightIn_nonneg hweights .alternatives
  by_contra hne
  unfold buildAlts at hnone
  unfold weightIn at hnonneg hne
  rw [if_neg (by
    rw [not_le]
    exact lt_of_le_of_ne hnonneg (Ne.symm hne))] at hnone
  cases hnone

/-- The weights as the views roll them up. -/
def rolledWeight (weights : Dict RiskClass ℚ) : RiskClass → ℚ
  | .equity => weightIn weights .equity + weightIn weights .commodities
  | .fixedIncome => weightIn weights .fixedIncome
  | .cash => weightIn weights .cash
  | _ => 0

/-- What a class rolls up is the NAV of its sleeve. -/
theorem sum_rolledSleeve (hnav : 0 ≤ nav)
    (hweights : ∀ q ∈ weights.values, 0 ≤ q) (c : RiskClass) :
    (publicClasses.map fun c' =>
        if rolledSleeve c' = assetToIpsSleeve c then emittedNav weights nav c'
        else 0).sum
      = nav * rolledWeight weights c := by
  have hworth : ∀ c, emittedNav weights nav c = nav * weightIn weights c :=
    fun c => max_eq_left (mul_nonneg hnav (weightIn_nonneg hweights c))
  unfold publicClasses
  simp only [List.map_cons, List.map_nil, List.sum_cons, List.sum_nil, hworth]
  cases c with
  | equity =>
      simp [rolledSleeve, assetToIpsSleeve, rolledWeight]
      ring
  | fixedIncome => simp [rolledSleeve, assetToIpsSleeve, rolledWeight]
  | cash => simp [rolledSleeve, assetToIpsSleeve, rolledWeight]
  | commodities => simp [rolledSleeve, assetToIpsSleeve, rolledWeight]
  | fx => simp [rolledSleeve, assetToIpsSleeve, rolledWeight]
  | alternatives => simp [rolledSleeve, assetToIpsSleeve, rolledWeight]

/-- Without alternatives the lots are the emitted weight. -/
theorem sum_emittedNav (hnav : 0 ≤ nav)
    (hweights : ∀ q ∈ weights.values, 0 ≤ q)
    (halts : weightIn weights .alternatives = 0) :
    (publicClasses.map (emittedNav weights nav)).sum
      = nav * emittedWeight weights := by
  have hworth : ∀ c, emittedNav weights nav c = nav * weightIn weights c :=
    fun c => max_eq_left (mul_nonneg hnav (weightIn_nonneg hweights c))
  unfold publicClasses emittedWeight
  rw [sum_weightIn]
  unfold assetClasses
  simp only [List.map_cons, List.map_nil, List.sum_cons, List.sum_nil, hworth,
    halts]
  ring

/-- Rolled up, the weights are what they were exactly when commodities had
none. -/
theorem rolledWeight_eq_iff (halts : weightIn weights .alternatives = 0) :
    (∀ c, rolledWeight weights c = if c = .fx then 0 else weightIn weights c)
      ↔ weightIn weights .commodities = 0 := by
  constructor
  · intro h
    have hcommodities := h .commodities
    rw [if_neg (by decide)] at hcommodities
    exact hcommodities.symm
  · intro hcommodities c
    cases c with
    | equity =>
        rw [if_neg (by decide)]
        show weightIn weights .equity + weightIn weights .commodities = _
        rw [hcommodities, add_zero]
    | fixedIncome => rw [if_neg (by decide)]; rfl
    | cash => rw [if_neg (by decide)]; rfl
    | commodities => rw [if_neg (by decide), hcommodities]; rfl
    | alternatives => rw [if_neg (by decide), halts]; rfl
    | fx => rw [if_pos rfl]; rfl

/-- Emitted without alternatives, a fixture has no holdings, and its views
give every sleeve its Shape A weight exactly when it holds no
commodities. -/
theorem emitted_views (hrung : rung = 3 ∨ rung = 4) (hnav : 0 < nav)
    (hweights : ∀ q ∈ weights.values, 0 ≤ q)
    (hemitted : 0 < emittedWeight weights)
    (halts : weightIn weights .alternatives = 0)
    (restricted : Option (List String)) :
    ∃ fixture positions portfolio,
      emitHnwFixture rt cohortId seed rung householdId nav (some weights)
        = .ok fixture
      ∧ fixture.alternativeHoldings = []
      ∧ lotPositionsFromFixture fixture restricted = .ok positions
      ∧ projectToAssetPortfolio fixture = .ok portfolio
      ∧ fixture.assetPortfolio = some portfolio
      ∧ (SleevesPreserved positions portfolio
        ↔ weightIn weights .commodities = 0) := by
  obtain ⟨portfolio, hrun, -, hshares⟩ :=
    emitHnwFixture_ok rt cohortId seed householdId hrung hnav hweights hemitted
  obtain ⟨-, _, hproject, hsame⟩ :=
    emitHnwFixture_returned rt cohortId seed householdId hrun
  cases hsame
  have hlots := bySleeve_assembleFixture rt cohortId seed rung
    (householdIdOr householdId cohortId seed) nav weights
  obtain ⟨positions, hviews, hview⟩ := lotPositionsFromFixture_ok
    { assembleFixture rt cohortId seed rung
        (householdIdOr householdId cohortId seed) nav weights with
      assetPortfolio := some portfolio } hlots restricted
  have hnone : (assembleFixture rt cohortId seed rung
      (householdIdOr householdId cohortId seed) nav
      weights).alternativeHoldings = [] := by
    unfold assembleFixture buildAlts
    unfold weightIn at halts
    dsimp only
    rw [if_pos halts.le]
  refine ⟨_, positions, portfolio, hrun, hnone, hviews, hproject, rfl, ?_⟩
  have htotal : totalMarketValue positions = nav * emittedWeight weights := by
    rw [totalMarketValue_views hview]
    exact hlots.sum.trans (sum_emittedNav hnav.le hweights halts)
  rw [sleevesPreserved_iff (by rw [htotal]; exact mul_pos hnav hemitted),
    ← rolledWeight_eq_iff halts]
  apply forall_congr'
  intro c
  have hshare : sleeveShare positions (assetToIpsSleeve c)
      = rolledWeight weights c / emittedWeight weights := by
    unfold sleeveShare
    rw [hlots.valueWhere_views hview, sum_rolledSleeve hnav.le hweights,
      htotal, mul_div_mul_left _ _ hnav.ne']
  have hshapeA : ((shapeAWeights portfolio).get? c).getD 0 = _ := hshares c
  rw [hshare, hshapeA, div_left_inj' hemitted.ne']

/-- In exact arithmetic the views of a fixture without alternative holdings
give every sleeve its Shape A weight exactly when the fixture holds no
commodities. -/
theorem fixture_views_preserve_sleeves_iff (rung : Int) (nav : ℚ)
    (weights : Dict RiskClass ℚ) (fixture : HouseholdFixture)
    (restricted : Option (List String))
    (hweights : ∀ q ∈ weights.values, 0 ≤ q)
    (hrun : emitHnwFixture rt cohortId seed rung householdId nav
      (some weights) = .ok fixture)
    (hnone : fixture.alternativeHoldings = []) :
    ∃ positions portfolio,
      lotPositionsFromFixture fixture restricted = .ok positions
      ∧ projectToAssetPortfolio fixture = .ok portfolio
      ∧ fixture.assetPortfolio = some portfolio
      ∧ (SleevesPreserved positions portfolio
        ↔ weightIn weights .commodities = 0) := by
  obtain ⟨hrung, hnav, hemitted⟩ :=
    emitHnwFixture_inv rt cohortId seed householdId hweights hrun
  have halts : weightIn weights .alternatives = 0 := by
    obtain ⟨-, _, -, hsame⟩ :=
      emitHnwFixture_returned rt cohortId seed householdId hrun
    rw [hsame] at hnone
    exact alternatives_eq_zero seed hweights hnone
  obtain ⟨fixture', positions, portfolio, hrun', -, hviews⟩ := emitted_views rt
    cohortId seed householdId hrung hnav hweights hemitted halts restricted
  rw [hrun'] at hrun
  cases hrun
  exact ⟨positions, portfolio, hviews⟩

/-- Equity, bonds and cash. -/
def balancedWeights : Dict RiskClass ℚ :=
  Dict.ofPairs [(.equity, 6 / 10), (.fixedIncome, 3 / 10), (.cash, 1 / 10)]

/-- Without commodities the views keep every sleeve. -/
theorem fixture_views_preserve_balanced :
    ∃ fixture, emitHnwFixture .least "concentrated_stress" 7 4 none 10000000
        (some balancedWeights) = .ok fixture
      ∧ ∃ positions portfolio,
        lotPositionsFromFixture fixture none = .ok positions
        ∧ projectToAssetPortfolio fixture = .ok portfolio
        ∧ fixture.assetPortfolio = some portfolio
        ∧ SleevesPreserved positions portfolio := by
  have hweights : ∀ q ∈ balancedWeights.values, 0 ≤ q := by decide +kernel
  obtain ⟨fixture, _, _, hrun, hnone, -⟩ := emitted_views .least
    "concentrated_stress" 7 none (.inr rfl) (by norm_num : (0 : ℚ) < 10000000)
    hweights (by decide +kernel) (by decide +kernel) none
  obtain ⟨positions, portfolio, hviews, hproject, hshapeA, hiff⟩ :=
    fixture_views_preserve_sleeves_iff .least "concentrated_stress" 7 none 4
      10000000 balancedWeights fixture none hweights hrun hnone
  exact ⟨fixture, hrun, positions, portfolio, hviews, hproject, hshapeA,
    hiff.mpr (by decide +kernel)⟩

/-- Nine tenths in equity, one in commodities. -/
def equityAndCommodities : Dict RiskClass ℚ :=
  Dict.ofPairs [(.equity, 9 / 10), (.commodities, 1 / 10)]

/-- The commodity fund is viewed as equity. -/
theorem commodities_viewed_as_equity :
    ∃ fixture positions portfolio,
      emitHnwFixture .least "uhnw_inherited" 7 3 none 10000000
        (some equityAndCommodities) = .ok fixture
      ∧ fixture.alternativeHoldings = []
      ∧ lotPositionsFromFixture fixture none = .ok positions
      ∧ projectToAssetPortfolio fixture = .ok portfolio
      ∧ fixture.assetPortfolio = some portfolio
      ∧ ¬ SleevesPreserved positions portfolio := by
  obtain ⟨fixture, positions, portfolio, hrun, hnone, hviews, hproject,
    hcarried, hiff⟩ := emitted_views .least "uhnw_inherited" 7 none (.inl rfl)
    (by norm_num : (0 : ℚ) < 10000000)
    (by decide +kernel : ∀ q ∈ equityAndCommodities.values, 0 ≤ q)
    (by decide +kernel) (by decide +kernel) none
  exact ⟨fixture, positions, portfolio, hrun, hnone, hviews, hproject,
    hcarried, fun h => absurd (hiff.mp h) (by decide +kernel)⟩

end Emitted

end Warehouse
