/-
The breakdowns of a risk report beside the totals they break down.

The stress replay assigns a class its slot's contribution, and the duration
buckets look a slot's percentage up by its class, so where slots share a
class the last of them stands for all. The total goes by slot. What the
replay loses is the superseded slots' contributions
(`stressReplay_additive_iff`); the buckets count the last slot's percentage
once a slot of the class (`durationBuckets_conserve_iff`).

Decimals are exact here. In the 28 digits of the default context a sum by
bucket and a sum by class may differ in the last digit, also where the
theorem finds the two equal.
-/
import Warehouse.Lib.Keyed
import Warehouse.Proofs.PsdGate
import Warehouse.Proofs.RiskRun

namespace Warehouse

open Lib

-- ============================================================ stress replay

/-- A scenario's breakdown adds up to its return. -/
def StressScenarioResult.Additive (scenario : StressScenarioResult) : Prop :=
  scenario.byClass.values.sum = scenario.portfolioReturn.value

/-- The slots a later slot of their class supersedes lose or gain nothing
between them. -/
def LostNothing (slots : List AllocationSlot) (shocks : Dict RiskClass ℚ) :
    Prop :=
  ((Dict.superseded (·.assetClass) slots).map (shockContribution shocks)).sum
    = 0

/-- A scenario adds up exactly when the superseded slots' parts cancel. -/
theorem stressScenario_additive_iff (slots : List AllocationSlot)
    (notionalUsd : Option ℚ) (markSource name : String)
    (shocks : Dict RiskClass ℚ) :
    (stressScenario slots notionalUsd markSource name shocks).Additive
      ↔ LostNothing slots shocks := by
  have hsum := Dict.sum_values_ofPairs (fun s : AllocationSlot => s.assetClass)
    (shockContribution shocks) slots
  show (Dict.ofPairs (slots.map fun slot =>
      (slot.assetClass, shockContribution shocks slot))).values.sum
    = (slots.map (shockContribution shocks)).sum ↔ _
  rw [← hsum]
  unfold LostNothing
  exact left_eq_add

/-- One slot a class loses nothing. -/
theorem lostNothing_of_nodup {slots : List AllocationSlot}
    (h : (slots.map (·.assetClass)).Nodup) (shocks : Dict RiskClass ℚ) :
    LostNothing slots shocks := by
  unfold LostNothing
  rw [Dict.superseded_eq_nil h]
  rfl

variable {priors : RiskAssumptions}

/-- What a slot contributes to the portfolio's moves. -/
def slotExposure (priors : RiskAssumptions) (slot : AllocationSlot) : ℚ :=
  slot.weight * sleeveAnnualVolatility slot priors

/-- The exposure of the last slot of a class. -/
def lastExposure (priors : RiskAssumptions) (slots : List AllocationSlot)
    (c : RiskClass) : ℚ :=
  (((slots.filter (·.assetClass = c)).getLast?).map
    (slotExposure priors)).getD 0

/-- What a class meets in the portfolio of the slots. -/
def slotsCoMovement (priors : RiskAssumptions) (slots : List AllocationSlot)
    (c : RiskClass) : ℚ :=
  (slots.map fun t =>
    priors.pairwiseCorrelation c t.assetClass * slotExposure priors t).sum

/-- A slot's share reads its exposure and its class's co-movement. -/
theorem varianceShare_eq (slots : List AllocationSlot) (s : AllocationSlot) :
    varianceShare priors slots s = if slotsVariance priors slots > 0 then
      slotExposure priors s * slotsCoMovement priors slots s.assetClass
        / slotsVariance priors slots else 0 := by
  unfold varianceShare
  rw [← stateMarginal_buildSleeveState]
  unfold stateMarginal coMovement buildSleeveStates
  rw [List.map_map]
  rfl

/-- The percentage a class is looked up at: its last slot's. -/
def lastShare (priors : RiskAssumptions) (slots : List AllocationSlot)
    (c : RiskClass) : ℚ :=
  (((slots.filter (·.assetClass = c)).getLast?).map
    (varianceShare priors slots)).getD 0

/-- The share kept for a class is that of its last slot. -/
theorem lastShare_eq (slots : List AllocationSlot) (c : RiskClass) :
    lastShare priors slots c = if slotsVariance priors slots > 0 then
      lastExposure priors slots c * slotsCoMovement priors slots c
        / slotsVariance priors slots else 0 := by
  unfold lastShare lastExposure
  cases hlast : (slots.filter (·.assetClass = c)).getLast? with
  | none =>
      rw [Option.map_none, Option.map_none, Option.getD_none, zero_mul,
        zero_div, ite_self]
  | some s =>
      have hmem := List.mem_of_getLast? hlast
      have hclass : s.assetClass = c := by
        simpa using (List.mem_filter.mp hmem).2
      rw [Option.map_some, Option.map_some, Option.getD_some, Option.getD_some,
        varianceShare_eq, hclass]

/-- The dictionary of percentages by class. -/
theorem get?_pctByClass (slots : List AllocationSlot) (c : RiskClass) :
    ((Dict.ofPairs ((slots.map (slotContribution priors slots)).map fun row =>
      (row.assetClass, row.pctVarianceContribution))).get? c).getD 0
      = lastShare priors slots c := by
  rw [List.map_map]
  show ((Dict.ofPairs (slots.map fun s =>
    (s.assetClass, varianceShare priors slots s))).get? c).getD 0 = _
  rw [Dict.get?_ofPairs_map]
  rfl

/-- What the buckets add up to. -/
theorem sum_evaluateDurationRisk (slots : List AllocationSlot)
    (horizon : RiskHorizon) :
    ((evaluateDurationRisk slots horizon
        (slots.map (slotContribution priors slots))).map
          (·.pctVarianceContribution)).sum
      = (slots.map fun s => lastShare priors slots s.assetClass).sum
    ∧ ((evaluateDurationRisk slots horizon
        (slots.map (slotContribution priors slots))).map (·.weight)).sum
      = (slots.map (·.weight)).sum := by
  have hsorted : ∀ g : AllocationSlot → ℚ,
      (((Dict.groupBy (fun slot : AllocationSlot =>
          durationBucket slot.durationYears) slots).entries.mergeSort
            fun a b => a.1 ≤ b.1).map fun e => (e.2.map g).sum).sum
        = (slots.map g).sum := by
    intro g
    rw [((List.mergeSort_perm _ _).map _).sum_eq]
    exact Dict.sum_groupBy _ g slots
  constructor
  · rw [← hsorted]
    unfold evaluateDurationRisk
    rw [List.map_map]
    congr 1
    apply List.map_congr_left
    intro e _
    show (e.2.map fun m => _).sum = _
    simp only [get?_pctByClass]
  · rw [← hsorted]
    unfold evaluateDurationRisk
    rw [List.map_map]
    rfl

/-- Buckets and classes hold the same variance, and the buckets the slots'
weights. -/
def DurationConserved (slots : List AllocationSlot)
    (report : PortfolioRiskReport) : Prop :=
  (report.level2Contributions.byDuration.map (·.pctVarianceContribution)).sum
      = (report.level2Contributions.byClass.map
        (·.pctVarianceContribution)).sum
    ∧ (report.level2Contributions.byDuration.map (·.weight)).sum
      = (slots.map (·.weight)).sum

/-- The exposures of the slots, each at what its class meets, come to what
they do with the last slot of the class for each. -/
def LastSlotsStandIn (priors : RiskAssumptions) (slots : List AllocationSlot) :
    Prop :=
  (slots.map fun s => lastExposure priors slots s.assetClass
      * slotsCoMovement priors slots s.assetClass).sum
    = (slots.map fun s => slotExposure priors s
      * slotsCoMovement priors slots s.assetClass).sum

/-- With risk in the book, the shares kept add up exactly when the last slots
stand in for their classes. -/
theorem sum_shares_eq_iff {slots : List AllocationSlot}
    (hpos : 0 < slotsVariance priors slots) :
    (slots.map fun s => lastShare priors slots s.assetClass).sum
        = (slots.map (varianceShare priors slots)).sum
      ↔ LastSlotsStandIn priors slots := by
  have hlast : (slots.map fun s => lastShare priors slots s.assetClass).sum
      = (slots.map fun s => lastExposure priors slots s.assetClass
          * slotsCoMovement priors slots s.assetClass).sum
        * (slotsVariance priors slots)⁻¹ := by
    rw [← List.sum_map_mul_right]
    simp only [lastShare_eq, if_pos hpos, div_eq_mul_inv]
  have hshare : (slots.map (varianceShare priors slots)).sum
      = (slots.map fun s => slotExposure priors s
          * slotsCoMovement priors slots s.assetClass).sum
        * (slotsVariance priors slots)⁻¹ := by
    rw [← List.sum_map_mul_right]
    congr 1
    apply List.map_congr_left
    intro s _
    rw [varianceShare_eq, if_pos hpos, div_eq_mul_inv]
  rw [hlast, hshare, mul_left_inj' (inv_ne_zero hpos.ne')]
  rfl

theorem sum_shares_of_nonpos {slots : List AllocationSlot}
    (h : slotsVariance priors slots ≤ 0) :
    (slots.map fun s => lastShare priors slots s.assetClass).sum
      = (slots.map (varianceShare priors slots)).sum := by
  congr 1
  apply List.map_congr_left
  intro s _
  rw [lastShare_eq, varianceShare_eq, if_neg (not_lt.mpr h),
    if_neg (not_lt.mpr h)]

/-- In exact arithmetic a report's buckets conserve its risk exactly when
there is no variance to share, or the last slots of the classes stand in for
the others. -/
theorem durationBuckets_conserve_iff {ctx : DecimalContext}
    {digest : FingerprintPayload → String} {portfolio : AssetPortfolio}
    {horizon : RiskHorizon} {notionalUsd : Option ℚ}
    {assumptions : Option RiskAssumptions} {stressFilter : Option String}
    {report : PortfolioRiskReport}
    (hrun : evaluatePortfolioRisk ctx digest portfolio horizon notionalUsd
      assumptions stressFilter = .ok report) :
    DurationConserved portfolio.allocations report
      ↔ slotsVariance (assumptions.getD baseAssumptions)
            portfolio.allocations ≤ 0
        ∨ LastSlotsStandIn (assumptions.getD baseAssumptions)
            portfolio.allocations := by
  obtain ⟨varMetric, esMetric, hreport⟩ := engineReport_of_run hrun
  generalize assumptions.getD baseAssumptions = priors at hreport ⊢
  obtain ⟨hpct, hweight⟩ : _ ∧ _ :=
    sum_evaluateDurationRisk portfolio.allocations horizon
  have hrows : ((portfolio.allocations.map (slotContribution priors
        portfolio.allocations)).map (·.pctVarianceContribution))
      = portfolio.allocations.map
        (varianceShare priors portfolio.allocations) := by
    rw [List.map_map]
    rfl
  unfold DurationConserved
  rw [hreport.byDuration, hreport.byClass, hpct, hweight, hrows]
  by_cases hpos : 0 < slotsVariance priors portfolio.allocations
  · rw [sum_shares_eq_iff hpos]
    constructor
    · exact fun h => Or.inr h.1
    · rintro (hle | hstand)
      · exact absurd hpos (not_lt.mpr hle)
      · exact ⟨hstand, rfl⟩
  · have hle := not_lt.mp hpos
    exact ⟨fun _ => Or.inl hle, fun _ => ⟨sum_shares_of_nonpos hle, rfl⟩⟩

/-- One slot a class stands in for itself. -/
theorem lastSlotsStandIn_of_nodup {slots : List AllocationSlot}
    (h : (slots.map (·.assetClass)).Nodup) : LastSlotsStandIn priors slots := by
  unfold LastSlotsStandIn
  congr 1
  apply List.map_congr_left
  intro s hs
  unfold lastExposure
  rw [Keyed.filter_own h hs]
  rfl

/-- Stocks and cash, a slot each: the buckets conserve the risk. -/
theorem durationBuckets_conserve_iff_halves :
    ∃ report, evaluatePortfolioRisk squareRoots (fun _ => "digest")
        (halves .equity .cash) fourYears none = .ok report
      ∧ DurationConserved (halves .equity .cash).allocations report := by
  obtain ⟨report, hrun⟩ := engine_reports squareRoots (fun _ => "digest")
    (halves .equity .cash) fourYears
  exact ⟨report, hrun, (durationBuckets_conserve_iff hrun).mpr
    (Or.inr (lastSlotsStandIn_of_nodup (by decide)))⟩

/-- Stocks in two slots of two durations, a quarter and the rest. -/
def unevenStocks : AssetPortfolio where
  portfolioId := some "uneven"
  allocations :=
    [{ assetClass := .equity
       weight := 1 / 4
       durationYears := some 2
       weightFraction := by norm_num [IsFraction] },
     { assetClass := .equity
       weight := 3 / 4
       durationYears := some 10
       weightFraction := by norm_num [IsFraction] }]
  nonempty := by simp
  budget := by norm_num [WeightsSumToOne]

/-- Both buckets are given the second slot's three quarters. -/
theorem buckets_of_uneven_stocks :
    ∃ report, evaluatePortfolioRisk squareRoots (fun _ => "digest")
        unevenStocks fourYears none = .ok report
      ∧ (report.level2Contributions.byDuration.map
        (·.pctVarianceContribution)).sum = 3 / 2
      ∧ (report.level2Contributions.byClass.map
        (·.pctVarianceContribution)).sum = 1
      ∧ ¬DurationConserved unevenStocks.allocations report := by
  obtain ⟨report, hrun⟩ := engine_reports squareRoots (fun _ => "digest")
    unevenStocks fourYears
  obtain ⟨varMetric, esMetric, hreport⟩ := engineReport_of_run hrun
  have hbuckets : (report.level2Contributions.byDuration.map
      (·.pctVarianceContribution)).sum = 3 / 2 := by
    rw [hreport.byDuration, (sum_evaluateDurationRisk _ fourYears).1]
    decide +kernel
  have hclasses : (report.level2Contributions.byClass.map
      (·.pctVarianceContribution)).sum = 1 := by
    rw [hreport.byClass]
    decide +kernel
  refine ⟨report, hrun, hbuckets, hclasses, ?_⟩
  rintro ⟨hpct, -⟩
  rw [hbuckets, hclasses] at hpct
  norm_num at hpct

end Warehouse
