/-
A neutral overlay: no tilt, add, drop or stress pack.

It still rebuilds the manifest: the slots of a class are merged into one of
their summed weight, at the first slot's tier and measurement, and the
deltas compare the merged slot's share of the variance with that of the
class's last slot. So it changes nothing exactly when the merged exposures
give the portfolio the same volatility and every class the share its last
slot has (`neutralOverlay_noop_iff`). One slot a class always does.

Decimals are exact here. The overlay sorts the slots by class, so in the 28
digits of the default context the two volatilities may differ in the last
digit where the theorem finds no delta.

# Merging

An overlay rebuilds one slot a class. The rebuilt slot takes its measurement
and tier from the first slot of the class, while the report's share of a
class is that of its last one, so slots of one class in two tiers or two
modes of measurement are enough for a difference. `MergesEvenly` says when
there is none: the merged exposures give the portfolio the same volatility,
and each class the share its last slot had.
-/
import Warehouse.Proofs.Breakdowns
import Warehouse.Proofs.Overlay

namespace Warehouse

open Lib

/-- The overlay asks for nothing. -/
structure ManifestOverlay.Neutral (overlay : ManifestOverlay) : Prop where
  tilts : overlay.weightTilts.entries = []
  adds : overlay.addSleeves = []
  drops : overlay.dropSleeves = []
  stressPack : overlay.stressPack = none

variable {priors : RiskAssumptions} {manifest : AssetPortfolio}
  {overlay : ManifestOverlay}

-- =========================================================== the merged slots

/-- The volatility of the first slot of a class. -/
def firstVolatility (priors : RiskAssumptions) (slots : List AllocationSlot)
    (c : RiskClass) : ℚ :=
  ((slots.find? (·.assetClass = c)).map (sleeveAnnualVolatility · priors)).getD 0

/-- A class's summed weight at the volatility of its first slot. -/
def mergedExposure (priors : RiskAssumptions) (slots : List AllocationSlot)
    (c : RiskClass) : ℚ :=
  slotsOf slots c * firstVolatility priors slots c

/-- The templates are the first slots. -/
theorem get?_slotTemplates (slots : List AllocationSlot) (st : OverlayState)
    (c : RiskClass) :
    (slots.foldl OverlayState.keepSlot st).slotTemplates.get? c
      = (st.slotTemplates.get? c).or (slots.find? (·.assetClass = c)) := by
  induction slots generalizing st with
  | nil => simp
  | cons s slots ih =>
      rw [List.foldl_cons, ih]
      unfold OverlayState.keepSlot
      dsimp only
      by_cases hkey : s.assetClass ∈ st.slotTemplates.keys
      · rw [if_pos hkey]
        by_cases hc : s.assetClass = c
        · obtain ⟨t, ht⟩ : ∃ t, st.slotTemplates.get? c = some t := by
            rw [← Option.ne_none_iff_exists', Ne, Dict.get?_eq_none_iff, ← hc]
            exact not_not_intro hkey
          rw [ht]
          rfl
        · simp [hc]
      · rw [if_neg hkey, Dict.get?_set]
        by_cases hc : s.assetClass = c
        · have hnone : st.slotTemplates.get? c = none := by
            rw [Dict.get?_eq_none_iff, ← hc]
            exact hkey
          simp [hc, hnone]
        · simp [hc, Ne.symm hc]

/-- A neutral overlay only rebuilds the weights. -/
theorem ManifestOverlay.Neutral.overlayState (h : overlay.Neutral) :
    overlayState manifest overlay
      = manifest.allocations.foldl OverlayState.keepSlot {} := by
  unfold Warehouse.overlayState
  rw [h.tilts, h.adds, h.drops]
  rfl

/-- The overlaid weights are the classes' own. -/
theorem ManifestOverlay.Neutral.overlaidWeight (h : overlay.Neutral) :
    overlaidWeight manifest overlay = slotsOf manifest.allocations := by
  have htilts : ∀ c, overlay.weightTilts.get? c = none := by
    intro c
    rw [Dict.get?_eq_none_iff]
    unfold Dict.keys
    rw [h.tilts]
    exact List.not_mem_nil
  funext c
  unfold Warehouse.overlaidWeight
  rw [h.drops, h.adds, if_neg List.not_mem_nil, htilts]
  unfold slotsOf
  simp

/-- The classes involved are those of the manifest. -/
theorem ManifestOverlay.Neutral.involved_iff (h : overlay.Neutral)
    (c : RiskClass) : Involved manifest overlay c
      ↔ ∃ s ∈ manifest.allocations, s.assetClass = c := by
  unfold Involved Dict.keys
  rw [h.tilts, h.adds, h.drops]
  simp

theorem ManifestOverlay.Neutral.totalWeight (h : overlay.Neutral) :
    totalWeight manifest overlay
      = (manifest.allocations.map (·.weight)).sum := by
  have hclasses := sum_by_class (fun s : AllocationSlot => s.assetClass)
    manifest.allocations (fun _ => 1) (·.weight)
  simp only [one_mul] at hclasses
  unfold Warehouse.totalWeight
  rw [h.overlaidWeight, hclasses]
  rfl

/-- Weights that sum to one renormalise. -/
theorem ManifestOverlay.Neutral.normalizable (h : overlay.Neutral)
    (hsum : (manifest.allocations.map (·.weight)).sum = 1) :
    Normalizable (Warehouse.overlayState manifest overlay).weights := by
  rw [normalizable_iff, h.overlaidWeight, h.totalWeight, hsum]
  refine ⟨fun c => List.sum_nonneg ?_, one_pos⟩
  intro w hw
  obtain ⟨s, -, rfl⟩ := List.mem_map.mp hw
  exact s.weightFraction.1

section Rebuilt

variable (h : overlay.Neutral)
  (hsum : (manifest.allocations.map (·.weight)).sum = 1)
  (hweights : Normalizable (Warehouse.overlayState manifest overlay).weights)
include h hsum

/-- The slot a class is merged into has its weight. -/
theorem ManifestOverlay.Neutral.slotWeight (c : RiskClass) :
    (normalizedSlot hweights c).weight = slotsOf manifest.allocations c := by
  rw [normalizedSlot_weight]
  unfold normalizedWeight
  rw [getD_overlayState, sum_overlayState, h.totalWeight, hsum, div_one,
    h.overlaidWeight]

/-- It moves as that weight does at the first slot's volatility. -/
theorem ManifestOverlay.Neutral.slotExposure {c : RiskClass}
    (hc : Involved manifest overlay c) :
    slotExposure priors (normalizedSlot hweights c)
      = mergedExposure priors manifest.allocations c := by
  obtain ⟨s, hs, hsc⟩ := (h.involved_iff c).mp hc
  obtain ⟨first, hfirst⟩ : ∃ first,
      manifest.allocations.find? (·.assetClass = c) = some first := by
    rw [← Option.isSome_iff_exists, List.find?_isSome]
    exact ⟨s, hs, decide_eq_true hsc⟩
  have htemplate : (Warehouse.overlayState manifest
      overlay).slotTemplates.get? c = some first := by
    rw [h.overlayState, get?_slotTemplates, hfirst]
    rfl
  have hvol : sleeveAnnualVolatility (normalizedSlot hweights c) priors
      = sleeveAnnualVolatility first priors := by
    unfold normalizedSlot
    split
    · next t ht =>
      rw [htemplate] at ht
      cases ht
      rfl
    · next ht =>
      rw [htemplate] at ht
      cases ht
  unfold Warehouse.slotExposure mergedExposure firstVolatility
  rw [h.slotWeight hsum, hvol, hfirst]
  rfl

/-- The rebuilt manifest has the merged exposures. -/
theorem ManifestOverlay.Neutral.classExposure :
    classExposure priors (renormalised manifest hweights).allocations
      = mergedExposure priors manifest.allocations := by
  funext c
  unfold Warehouse.classExposure
  by_cases hc : Involved manifest overlay c
  · rw [filter_renormalised hweights hc, ← h.slotExposure hsum hweights hc]
    exact add_zero _
  · have hweight : slotsOf manifest.allocations c = 0 := by
      rw [← h.overlaidWeight]
      exact overlaidWeight_eq_zero manifest overlay hc
    unfold mergedExposure
    rw [filter_renormalised_of_not hweights hc, hweight, zero_mul]
    rfl

/-- And the class weights of the manifest. -/
theorem ManifestOverlay.Neutral.slotsOf_renormalised (c : RiskClass) :
    slotsOf (renormalised manifest hweights).allocations c
      = slotsOf manifest.allocations c := by
  by_cases hc : Involved manifest overlay c
  · unfold slotsOf
    rw [filter_renormalised hweights hc]
    exact (add_zero _).trans (h.slotWeight hsum hweights c)
  · have hweight : slotsOf manifest.allocations c = 0 := by
      rw [← h.overlaidWeight]
      exact overlaidWeight_eq_zero manifest overlay hc
    rw [hweight]
    unfold slotsOf
    rw [filter_renormalised_of_not hweights hc]
    rfl

/-- So its expected return. -/
theorem ManifestOverlay.Neutral.expectedReturn :
    portfolioExpectedReturn (buildSleeveStates
        (renormalised manifest hweights).allocations priors) priors
      = portfolioExpectedReturn (buildSleeveStates manifest.allocations priors)
        priors := by
  have hclasses : ∀ slots : List AllocationSlot,
      (slots.map fun s => s.weight * priors.classExpectedReturn s.assetClass).sum
        = classSum fun c => priors.classExpectedReturn c * slotsOf slots c := by
    intro slots
    simp only [mul_comm (AllocationSlot.weight _)]
    exact sum_by_class (fun s : AllocationSlot => s.assetClass) slots
      priors.classExpectedReturn (·.weight)
  rw [portfolioExpectedReturn_slots, portfolioExpectedReturn_slots, hclasses,
    hclasses]
  simp only [h.slotsOf_renormalised hsum hweights]

end Rebuilt

-- ================================================================ exposures

/-- Where no class recurs its exposure is its slot's. -/
theorem lastExposure_of_nodup {slots : List AllocationSlot}
    (h : (slots.map (·.assetClass)).Nodup) :
    lastExposure priors slots = classExposure priors slots := by
  funext c
  unfold lastExposure classExposure
  rw [Keyed.filter_key h]
  cases Keyed.get AllocationSlot.assetClass slots c with
  | none => rfl
  | some s => exact (add_zero _).symm

/-- The root of a variance, if it is positive. -/
def varianceRoot (ctx : DecimalContext) (variance : ℚ) : ℚ :=
  if variance > 0 then ctx.sqrt variance else 0

/-- A class's share of the variance at some exposures, of a part of what the
class has there. -/
def exposureShare (priors : RiskAssumptions) (exposures part : RiskClass → ℚ)
    (c : RiskClass) : ℚ :=
  if quadraticForm priors.pairwiseCorrelation exposures > 0 then
    part c * (classSum fun d =>
        priors.pairwiseCorrelation c d * exposures d)
      / quadraticForm priors.pairwiseCorrelation exposures
  else 0

/-- The share kept for a class is that of its last slot. -/
theorem lastShare_eq_exposureShare (slots : List AllocationSlot) :
    lastShare priors slots = exposureShare priors (classExposure priors slots)
      (lastExposure priors slots) := by
  funext c
  have hmeets : slotsCoMovement priors slots c = classSum fun d =>
      priors.pairwiseCorrelation c d * classExposure priors slots d :=
    sum_by_class (fun s : AllocationSlot => s.assetClass) slots
      (priors.pairwiseCorrelation c) (slotExposure priors)
  rw [lastShare_eq, slotsVariance_eq, hmeets]
  rfl

/-- The volatility is a function of the exposures by class. -/
theorem portfolioVolatility_slots (ctx : DecimalContext)
    (slots : List AllocationSlot) :
    (slotsCovariance priors slots).portfolioVolatility ctx
      = varianceRoot ctx (quadraticForm priors.pairwiseCorrelation
        (classExposure priors slots)) := by
  unfold CovarianceResult.portfolioVolatility
  rw [portfolioVariance_slots, slotsVariance_eq]
  rfl

-- ==================================================================== deltas

/-- Every delta reported is zero. -/
structure RiskDeltas.Zero (deltas : RiskDeltas) : Prop where
  headline : ∀ row ∈ deltas.headline, row.delta = 0
  byClass : ∀ v ∈ deltas.byClassVarianceDelta.values, v = 0

/-- The values of a comprehension are the function's at its keys. -/
theorem mem_values_tabulate {κ ν : Type*} [DecidableEq κ] (keys : List κ)
    (f : κ → ν) (v : ν) :
    v ∈ (Dict.tabulate keys f).values ↔ ∃ k ∈ keys, f k = v := by
  unfold Dict.values
  simp only [List.mem_map, Prod.exists, exists_eq_right]
  constructor
  · rintro ⟨k, hk⟩
    have hget := Dict.get?_eq_some_iff.mpr hk
    rw [Dict.get?_tabulate] at hget
    split at hget
    · next hmem => exact ⟨k, hmem, Option.some.inj hget⟩
    · cases hget
  · rintro ⟨k, hk, rfl⟩
    refine ⟨k, Dict.get?_eq_some_iff.mp ?_⟩
    rw [Dict.get?_tabulate, if_pos hk]

/-- The class deltas are all zero exactly when no class's share moves. -/
theorem byClass_zero_iff (baseline proposed : PortfolioRiskReport)
    (label : Option String) :
    (∀ v ∈ (diffReports baseline proposed label).byClassVarianceDelta.values,
      v = 0)
      ↔ ∀ c, ((varianceByClass proposed).get? c).getD 0
        = ((varianceByClass baseline).get? c).getD 0 := by
  unfold diffReports
  dsimp only
  constructor
  · intro hzero c
    by_cases hbaseline : c ∈ (varianceByClass baseline).keys
    · refine sub_eq_zero.mp (hzero _ ?_)
      rw [mem_values_tabulate]
      exact ⟨c, List.mem_append_left _ hbaseline, rfl⟩
    · by_cases hproposed : c ∈ (varianceByClass proposed).keys
      · refine sub_eq_zero.mp (hzero _ ?_)
        rw [mem_values_tabulate]
        refine ⟨c, List.mem_append_right _ ?_, rfl⟩
        exact List.mem_filter.mpr ⟨hproposed, decide_eq_true hbaseline⟩
      · rw [Dict.get?_eq_none_iff.mpr hbaseline,
          Dict.get?_eq_none_iff.mpr hproposed]
  · intro hshares v hv
    rw [mem_values_tabulate] at hv
    obtain ⟨c, -, rfl⟩ := hv
    exact sub_eq_zero.mpr (hshares c)

theorem metricDelta_self (metric : String) (x : ℚ) :
    (metricDelta metric x x).delta = 0 := sub_self x

theorem dollarDelta_self {metric : String} {value : Option RiskMetric}
    {row : MetricDelta} (h : row ∈ dollarDelta metric value value) :
    row.delta = 0 := by
  cases value with
  | none => cases h
  | some m =>
      cases List.mem_singleton.mp h
      exact metricDelta_self ..

/-- Level 1 reads the slots through the volatility, the expected return and
the Fermi share; only the confidence band reads the last. -/
theorem headline_zero_iff {ctx : DecimalContext} {horizon : RiskHorizon}
    {notionalUsd : Option ℚ} {slots slots' : List AllocationSlot}
    {stressFilter stressFilter' : Option String}
    {varMetric esMetric varMetric' esMetric' : RiskMetric}
    {report report' : PortfolioRiskReport}
    (h : EngineReport ctx slots horizon notionalUsd priors stressFilter
      varMetric esMetric report)
    (h' : EngineReport ctx slots' horizon notionalUsd priors stressFilter'
      varMetric' esMetric' report')
    (hreturn : portfolioExpectedReturn (buildSleeveStates slots' priors) priors
      = portfolioExpectedReturn (buildSleeveStates slots priors) priors)
    (label : Option String) :
    (∀ row ∈ (diffReports report report' label).headline, row.delta = 0)
      ↔ (slotsCovariance priors slots').portfolioVolatility ctx
        = (slotsCovariance priors slots).portfolioVolatility ctx := by
  unfold diffReports
  dsimp only
  constructor
  · intro hzero
    have hvol := hzero _ (List.mem_cons_self ..)
    rw [h.level1, h'.level1] at hvol
    exact sub_eq_zero.mp hvol
  · intro hvol row hrow
    have hvar := h'.var
    have hes := h'.es
    rw [hvol, hreturn] at hvar hes
    cases h.var.symm.trans hvar
    cases h.es.symm.trans hes
    rw [h.level1, h'.level1, hvol, hreturn] at hrow
    simp only [List.mem_append, List.mem_cons, List.not_mem_nil,
      or_false] at hrow
    rcases hrow with (hrow | hdollar) | hdollar
    · rcases hrow with rfl | rfl | rfl <;> exact metricDelta_self ..
    · exact dollarDelta_self hdollar
    · exact dollarDelta_self hdollar

-- =============================================================== the overlay

/-- Merging each class's slots leaves the portfolio's volatility, and every
class the share of its last slot. -/
structure MergesEvenly (ctx : DecimalContext) (priors : RiskAssumptions)
    (slots : List AllocationSlot) : Prop where
  volatility : varianceRoot ctx (quadraticForm priors.pairwiseCorrelation
      (mergedExposure priors slots))
    = varianceRoot ctx (quadraticForm priors.pairwiseCorrelation
      (classExposure priors slots))
  shares : ∀ c, exposureShare priors (mergedExposure priors slots)
      (mergedExposure priors slots) c
    = exposureShare priors (classExposure priors slots)
      (lastExposure priors slots) c

/-- One slot a class is merged with nothing. -/
theorem mergesEvenly_of_nodup {slots : List AllocationSlot}
    (h : (slots.map (·.assetClass)).Nodup) (ctx : DecimalContext) :
    MergesEvenly ctx priors slots := by
  have hmerged : mergedExposure priors slots = classExposure priors slots := by
    funext c
    unfold mergedExposure slotsOf firstVolatility Warehouse.classExposure
    show _ * ((Keyed.get AllocationSlot.assetClass slots c).map _).getD 0 = _
    rw [Keyed.filter_key h]
    cases Keyed.get AllocationSlot.assetClass slots c with
    | none => simp
    | some s => simp
  constructor
  · rw [hmerged]
  · intro c
    rw [hmerged, lastExposure_of_nodup h]

/-- The deltas of a neutral overlay are all zero exactly when the merge is
even. -/
theorem ManifestOverlay.Neutral.zero_iff (h : overlay.Neutral)
    (hsum : (manifest.allocations.map (·.weight)).sum = 1)
    (hweights : Normalizable (Warehouse.overlayState manifest overlay).weights)
    {rt : RiskRuntime} {request : RiskRequest}
    {report proposed : PortfolioRiskReport}
    (hreport : evaluateReport rt manifest request priors = .ok report)
    (hproposed : evaluateReport rt (renormalised manifest hweights) request
      priors overlay.stressPack = .ok proposed) (label : Option String) :
    (diffReports report proposed label).Zero
      ↔ MergesEvenly rt.decimal priors manifest.allocations := by
  obtain ⟨_, _, hbase⟩ := engineReport_of_run hreport
  obtain ⟨_, _, hmerged⟩ := engineReport_of_run hproposed
  have hnodup :=
    (wellRebuilt_renormalised manifest overlay hweights).nodup
  have hheadline := headline_zero_iff hbase hmerged
    (h.expectedReturn hsum hweights) label
  have hbyClass := byClass_zero_iff report proposed label
  have hshare : ∀ {r : PortfolioRiskReport} {slots : List AllocationSlot},
      r.level2Contributions.byClass
        = slots.map (slotContribution priors slots) →
      ∀ c, ((varianceByClass r).get? c).getD 0
        = exposureShare priors (Warehouse.classExposure priors slots)
          (lastExposure priors slots) c := by
    intro r slots hrows c
    unfold varianceByClass
    rw [hrows, get?_pctByClass, lastShare_eq_exposureShare]
  simp only [hshare hbase.byClass, hshare hmerged.byClass,
    lastExposure_of_nodup hnodup, h.classExposure hsum hweights] at hbyClass
  simp only [portfolioVolatility_slots, Option.getD_some,
    h.classExposure hsum hweights] at hheadline
  constructor
  · rintro ⟨hzero, hzero'⟩
    exact ⟨hheadline.mp hzero, hbyClass.mp hzero'⟩
  · rintro ⟨hvolatility, hshares⟩
    exact ⟨hheadline.mpr hvolatility, hbyClass.mpr hshares⟩

/-- On a manifest whose weights sum to one a neutral overlay is evaluated, and
in exact arithmetic its deltas are all zero exactly when the slots of each
class merge evenly. -/
theorem neutralOverlay_noop_iff (rt : RiskRuntime) (request : RiskRequest)
    (manifest : AssetPortfolio) (assumptions : Option RiskAssumptions)
    {priors : RiskAssumptions}
    (hpriors : resolveAssumptions rt assumptions = .ok priors)
    (hquoted : priors.Quoted) {overlay : ManifestOverlay}
    (hoverlay : request.overlay = some overlay) (hneutral : overlay.Neutral)
    (hsum : (manifest.allocations.map (·.weight)).sum = 1) :
    ∃ result deltas, evaluateRisk rt request manifest assumptions = .ok result
      ∧ result.deltas = some deltas
      ∧ (deltas.Zero ↔ MergesEvenly rt.decimal priors manifest.allocations) := by
  have hunfiltered : StressKnown priors none := fun _ h => nomatch h
  have hweights := hneutral.normalizable hsum
  obtain ⟨report, hreport⟩ :=
    (evaluateReport_ok_iff rt manifest request hquoted none).mpr hunfiltered
  obtain ⟨proposed, hproposed⟩ := (evaluateReport_ok_iff rt
    (renormalised manifest hweights) request hquoted overlay.stressPack).mpr
      (hneutral.stressPack ▸ hunfiltered)
  obtain ⟨scenarios, hscenarios⟩ :=
    scenarioReports_ok rt manifest request request.runScenarios
  have hderived : applyOverlay rt.decimal manifest overlay
      = .ok (renormalised manifest hweights) := by
    rcases applyOverlay_cases rt.decimal manifest overlay with
      ⟨_, hrun⟩ | ⟨hnot, _⟩
    · exact hrun
    · exact absurd hweights hnot
  have hdeltas : evaluateDeltas rt report request overlay manifest priors
      = .ok (diffReports report proposed overlay.label) := by
    unfold evaluateDeltas
    rw [hderived]
    simp only [bind, Except.bind, hproposed]
    rfl
  refine ⟨⟨report, Dict.ofPairs scenarios,
      some (diffReports report proposed overlay.label)⟩, _, ?_, rfl,
    hneutral.zero_iff hsum hweights hreport hproposed overlay.label⟩
  unfold evaluateRisk
  rw [hpriors]
  simp only [bind, Except.bind, hreport, hscenarios, hoverlay, hdeltas]
  rfl

-- ========================================================= concrete manifests

/-- A runtime with an exact root and one digest for all. -/
def plainRuntime : RiskRuntime where
  decimal := squareRoots
  digest _ := "digest"
  minEigenvalue _ := 0

/-- Stocks and cash, a slot each, do not move. -/
theorem neutralOverlay_noop_iff_halves :
    ∃ result deltas, evaluateRisk plainRuntime
        { horizon := fourYears, overlay := some {} } (halves .equity .cash) none
        = .ok result
      ∧ result.deltas = some deltas ∧ deltas.Zero := by
  have hbase : resolveAssumptions plainRuntime none = .ok baseAssumptions := rfl
  have hneutral : ManifestOverlay.Neutral {} := ⟨rfl, rfl, rfl, rfl⟩
  have hsum : ((halves .equity .cash).allocations.map (·.weight)).sum = 1 := by
    norm_num [halves, halfSlot]
  obtain ⟨result, deltas, hrun, hdeltas, hzero⟩ := neutralOverlay_noop_iff
    plainRuntime { horizon := fourYears, overlay := some {} }
    (halves .equity .cash) none hbase
    (assumptionsFor_quoted (show assumptionsFor "base" = _ from rfl)).1 rfl
    hneutral hsum
  exact ⟨result, deltas, hrun, hdeltas,
    hzero.mpr (mergesEvenly_of_nodup (by decide) _)⟩

theorem illiquidHalf_weight : IsFraction (1 / 2) := by norm_num [IsFraction]

/-- Half in stocks of the last tier. -/
def illiquidHalf : AllocationSlot where
  assetClass := .equity
  weight := 1 / 2
  liquidityTier := 3
  weightFraction := illiquidHalf_weight

theorem tieredStocks_budget :
    WeightsSumToOne [halfSlot .equity, illiquidHalf] := by
  norm_num [WeightsSumToOne, halfSlot, illiquidHalf]

/-- And half in liquid stocks. -/
def tieredStocks : AssetPortfolio where
  portfolioId := some "tiered"
  allocations := [halfSlot .equity, illiquidHalf]
  nonempty := List.cons_ne_nil _ _
  budget := tieredStocks_budget

/-- The volatility falls, and the share of stocks rises from the last slot's
to all. -/
theorem neutral_overlay_of_tiered_stocks :
    (tieredStocks.allocations.map (·.weight)).sum = 1
    ∧ ∃ result deltas, evaluateRisk plainRuntime
        { horizon := fourYears, overlay := some {} } tieredStocks none
        = .ok result
      ∧ result.deltas = some deltas
      ∧ (deltas.headline.map (·.delta)).head? = some (-7 / 250)
      ∧ deltas.byClassVarianceDelta.values = [20 / 47]
      ∧ ¬deltas.Zero := by
  refine ⟨by norm_num [tieredStocks, halfSlot, illiquidHalf], ?_⟩
  have hmoves : ((evaluateRisk plainRuntime
      { horizon := fourYears, overlay := some {} } tieredStocks
        none).toOption.bind (·.deltas)).map (fun deltas =>
          ((deltas.headline.map (·.delta)).head?,
            deltas.byClassVarianceDelta.values))
      = some (some (-7 / 250), [20 / 47]) := by decide +kernel
  cases hrun : evaluateRisk plainRuntime
      { horizon := fourYears, overlay := some {} } tieredStocks none with
  | error e =>
      rw [hrun] at hmoves
      cases hmoves
  | ok result =>
      rw [hrun] at hmoves
      cases hdeltas : result.deltas with
      | none =>
          simp [Except.toOption, hdeltas] at hmoves
      | some deltas =>
          simp only [Except.toOption, Option.bind_some, hdeltas,
            Option.map_some, Option.some.injEq, Prod.mk.injEq] at hmoves
          refine ⟨result, deltas, rfl, hdeltas, hmoves.1, hmoves.2, ?_⟩
          intro hzero
          have hshare := hzero.byClass (20 / 47) (by rw [hmoves.2]; simp)
          norm_num at hshare

end Warehouse
