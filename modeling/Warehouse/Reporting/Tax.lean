/-
Reporting-owned tax scenarios (`reporting/tax/compute.py`,
`reporting/tax/scenarios.py`).

The unrealized gain of every position is taxed at the rate of its holding
period, once without the net investment income tax and once as the overlays
say; of the overlays only `applyNiit` is read. A household without positions
is refused, and any other scenario is persisted as it is reported.
-/
import Warehouse.Config
import Warehouse.Data.Views
import Warehouse.Infra.Session

namespace Warehouse

open Lib

namespace ReportingTax

/-- Federal rate from holding period — STCG below 365 days, else LTCG. -/
def holdingPeriodRate (acquisitionDate asOf : Date) (settings : Settings) :
    ℚ :=
  let days := asOf - acquisitionDate
  if days ≥ 365 then settings.fedLtcgRate else settings.fedStcgRate

/-- Tax liability from realizing `gain` at `rate`, with an optional NIIT
overlay. -/
def taxOnRealizedGain (gain rate : ℚ) (applyNiit : Bool)
    (settings : Settings) : ℚ :=
  let tax := gain * rate
  if applyNiit ∧ gain > 0 then tax + gain * settings.niitRate else tax

/-- The tax on one position's unrealized gain; a position without a mark owes
nothing. -/
def positionGainTax (asOf : Date) (applyNiit : Bool) (settings : Settings)
    (pos : LotPositionView) : ℚ :=
  match pos.unrealizedGain with
  | none => 0
  | some gain =>
      let rate := holdingPeriodRate pos.acquisitionDate asOf settings
      taxOnRealizedGain gain rate applyNiit settings

end ReportingTax

open ReportingTax

/-- Baseline, scenario, and delta tax for hypothetical realization. -/
def computeReportingTaxScenario (positions : List LotPositionView)
    (overlays : TaxScenarioOverlays) (asOf : Date) (settings : Settings) :
    ℚ × ℚ × ℚ :=
  let baseline := (positions.map (positionGainTax asOf false settings)).sum
  let scenario :=
    (positions.map (positionGainTax asOf overlays.applyNiit settings)).sum
  (baseline, scenario, scenario - baseline)

/-- What a pack reports of one scenario. -/
structure ReportingTaxResult where
  overlays : TaxScenarioOverlays
  baselineTax : ℚ
  scenarioTax : ℚ
  taxDelta : ℚ
  deriving DecidableEq

/-- Compute and persist a reporting-owned tax scenario run. -/
def runReportingTaxScenario (env : Env) (order : ReportOrder)
    (settings : Settings) (householdId scenarioName : String)
    (overlays : TaxScenarioOverlays) (asOf : Date) :
    Session ReportingTaxResult := do
  let store ← get
  let positions := listLotPositions order.lots store (some householdId)
  if positions.isEmpty then
    throw (.valueError ("No positions for household " ++ householdId))
  let (baseline, scenario, delta) :=
    computeReportingTaxScenario positions overlays asOf settings
  let runId ← Session.freshId env "rpt_tax"
  let created ← Session.clock env
  modify fun store => { store with
    taxScenarioRuns := store.taxScenarioRuns ++
      [{ runId := runId
         householdId := householdId
         scenarioName := scenarioName
         overlays := overlays
         baselineTax := baseline
         scenarioTax := scenario
         taxDelta := delta
         createdAt := created }] }
  return {
    overlays := overlays
    baselineTax := baseline
    scenarioTax := scenario
    taxDelta := delta }

end Warehouse
