/-
What a run of the risk engine reports.

One inversion of the engine's run (`engineReport_of_run`), over the slots: the
results about its tables and tails read the report through it.

The report is a record of many parts, and unfolding the engine shows them
all at once; `EngineReport` names those the results are about. On the
catalog's base priors every tail is in its table, so there the engine
reports on every portfolio.
-/
import Warehouse.Proofs.RiskReplay
import Warehouse.Proofs.RiskService

namespace Warehouse

open Lib

-- ================================================================ inversion

/-- What the engine puts in a report, from the slots. -/
structure EngineReport (ctx : DecimalContext) (slots : List AllocationSlot)
    (horizon : RiskHorizon) (notionalUsd : Option ℚ) (priors : RiskAssumptions)
    (stressFilter : Option String) (varMetric esMetric : RiskMetric)
    (report : PortfolioRiskReport) : Prop where
  var : parametricVar ctx ((slotsCovariance priors slots).portfolioVolatility ctx)
    (portfolioExpectedReturn (buildSleeveStates slots priors) priors)
    horizon.years priors.varAlpha priors "model_prior" = .ok varMetric
  es : parametricEs ctx ((slotsCovariance priors slots).portfolioVolatility ctx)
    (portfolioExpectedReturn (buildSleeveStates slots priors) priors)
    horizon.years priors.esAlpha priors "model_prior" = .ok esMetric
  stress : evaluateStress slots notionalUsd "model_prior" priors stressFilter
    = .ok report.level4Stress
  byClass : report.level2Contributions.byClass
    = slots.map (slotContribution priors slots)
  byDuration : report.level2Contributions.byDuration
    = evaluateDurationRisk slots horizon
      (slots.map (slotContribution priors slots))
  level1 : report.level1Portfolio = level1Portfolio ctx horizon notionalUsd
    priors "model_prior"
    ((slotsCovariance priors slots).portfolioVolatility ctx)
    (portfolioExpectedReturn (buildSleeveStates slots priors) priors)
    (measurementSummary (slots.map
      (slotContribution priors slots))).fermiRiskShare varMetric esMetric

variable {ctx : DecimalContext} {digest : FingerprintPayload → String}
  {portfolio : AssetPortfolio} {horizon : RiskHorizon}
  {notionalUsd : Option ℚ} {assumptions : Option RiskAssumptions}
  {stressFilter : Option String} {report : PortfolioRiskReport}

/-- A report that exists is the engine's, part by part. -/
theorem engineReport_of_run (h : evaluatePortfolioRisk ctx digest portfolio horizon
      notionalUsd assumptions stressFilter = .ok report) :
    ∃ varMetric esMetric, EngineReport ctx portfolio.allocations horizon notionalUsd
      (assumptions.getD baseAssumptions) stressFilter varMetric esMetric
      report := by
  have hrows := evaluateClassContributions_slots
    (assumptions.getD baseAssumptions) portfolio.allocations
  unfold slotsCovariance at hrows
  unfold evaluatePortfolioRisk at h
  dsimp only at h
  rw [hrows] at h
  obtain ⟨varMetric, hvar, h⟩ := bind_ok_iff.mp h
  obtain ⟨esMetric, hes, h⟩ := bind_ok_iff.mp h
  obtain ⟨stress, hstress, h⟩ := bind_ok_iff.mp h
  cases h
  exact ⟨varMetric, esMetric, hvar, hes, hstress, rfl, rfl, rfl⟩

/-- On the base priors the engine reports on every portfolio. -/
theorem engine_reports (ctx : DecimalContext)
    (digest : FingerprintPayload → String) (portfolio : AssetPortfolio)
    (horizon : RiskHorizon) :
    ∃ report, evaluatePortfolioRisk ctx digest portfolio horizon none
      = .ok report := by
  have hbase : assumptionsFor "base" = .ok baseAssumptions := rfl
  exact (evaluateReport_ok_iff ⟨ctx, digest, fun _ => 0⟩ portfolio
    { horizon := horizon } (assumptionsFor_quoted hbase).1
    none).mpr fun _ h => nomatch h

-- ==================================================================== tails

/-- A tail at a multiplier that is in its table. -/
theorem parametricTail_value {multipliers : Dict String ℚ}
    {approximation markSource : String} {annualVol annualReturn alpha k : ℚ}
    {priors : RiskAssumptions} {metric : RiskMetric}
    (hk : multipliers.get? (alphaKey alpha) = some k)
    (h : parametricTail ctx multipliers approximation annualVol annualReturn
      horizon.years alpha priors markSource = .ok metric) :
    metric.value = k * (annualVol * ctx.sqrt horizon.years)
      - annualReturn * horizon.years := by
  unfold parametricTail at h
  rw [hk] at h
  cases h
  rfl

end Warehouse
