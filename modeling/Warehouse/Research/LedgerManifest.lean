/-
Household risk manifests from the ledger (`research/risk/adapters/ledger.py`,
`list_alternative_holdings` of `data/alternatives/service.py`), and what is
evaluated on them: the risk headline of a report
(`reporting/report_writer/collect.py`) and the risk dashboard
(`dashboard/risk_data.py`).

The ledger is the one the session sees: the dashboard's seeding of a demo
database comes before.
-/
import Warehouse.Data.Alternatives
import Warehouse.Data.Views
import Warehouse.Reporting.Bundle
import Warehouse.Research.Service

namespace Warehouse

open Lib

/-- The orders the engine returns rows of the ledger's tables in. -/
structure LedgerOrder where
  lots : List Lot → List Lot
  holdings : List AlternativeHoldingRow → List AlternativeHoldingRow
  lotsPerm : ∀ rows, (lots rows).Perm rows
  holdingsPerm : ∀ rows, (holdings rows).Perm rows

/-- Insertion order. -/
def LedgerOrder.insertion : LedgerOrder where
  lots rows := rows
  holdings rows := rows
  lotsPerm _ := List.Perm.refl _
  holdingsPerm _ := List.Perm.refl _

/-- `_holding_to_view`, the fields the manifest reads. -/
def holdingToView (row : AlternativeHoldingRow) : AlternativeHoldingView where
  holdingId := row.holdingId
  householdId := row.householdId
  name := row.name
  currentNav := row.currentNav

/-- `list_alternative_holdings`: by name, equal names in scan order. -/
def listAlternativeHoldings
    (scan : List AlternativeHoldingRow → List AlternativeHoldingRow)
    (ledger : AlternativesLedger) (householdId : String) :
    List AlternativeHoldingView :=
  ((scan (ledger.holdings.filter (·.householdId = householdId))).mergeSort
    fun row row' => decide (row.name ≤ row'.name)).map holdingToView

-- ================================================================ manifests

/-- Ledger-sourced manifest + household NAV for risk evaluation. -/
structure HouseholdRiskManifest where
  portfolio : AssetPortfolio
  notionalUsd : Option ℚ

/-- What a household is worth: its marked lots and its holdings. -/
def householdNotional (positions : List LotPositionView)
    (altHoldings : List AlternativeHoldingView) : ℚ :=
  let lotNav := (positions.filterMap (·.marketValue)).sum
  let altNav := (altHoldings.map (·.currentNav)).sum
  lotNav + altNav

/-- Project an existing session's ledger lots + alts to a risk manifest. -/
def manifestFromSession (order : LedgerOrder) (ledger : AlternativesLedger)
    (householdId : String) : Except Exc HouseholdRiskManifest := do
  let positions :=
    listLotPositions order.lots ledger.store (some householdId)
  let alts := listAlternativeHoldings order.holdings ledger householdId
  let portfolio ← buildPortfolioFromHoldings householdId positions alts
  let notional := householdNotional positions alts
  return {
    portfolio := { portfolio with source := "ledger" }
    notionalUsd := if notional > 0 then some notional else none }

-- ================================================================= readers

/-- What `_collect_risk_headline` tries. -/
def householdRiskResult (rt : RiskRuntime) (order : LedgerOrder)
    (horizon : RiskHorizon) (ledger : AlternativesLedger)
    (householdId : String) : Except Exc RiskResult := do
  let manifest ← manifestFromSession order ledger householdId
  let request : RiskRequest :=
    { horizon := horizon
      notionalUsd := manifest.notionalUsd
      runScenarios := .none }
  evaluateRisk rt request manifest.portfolio

/-- Planes whose risk headline is read off the ledger: its alternatives are
beside the store the report is built from. -/
def Planes.onLedger {A : Type} (planes : Planes A RiskResult)
    (rt : RiskRuntime) (order : LedgerOrder) (horizon : RiskHorizon)
    (ledger : AlternativesLedger) : Planes A RiskResult :=
  { planes with
    evaluateHouseholdRisk := fun store householdId =>
      householdRiskResult rt order horizon { ledger with store := store }
        householdId }

/-- What the risk panel shows. -/
structure RiskDashboardData where
  householdId : String
  horizonYears : ℚ
  notionalUsd : Option ℚ
  report : Option PortfolioRiskReport
  source : String
  deltas : Option RiskDeltas := none
  error : Option String := none

/-- `_DEMO_OVERLAY`. -/
def demoOverlay : ManifestOverlay where
  weightTilts :=
    Dict.ofPairs [(.equity, -10 / 100), (.fixedIncome, 10 / 100)]
  label := some "reduce equity 10% → fixed income"

/-- What `load_risk_dashboard` tries. -/
def riskDashboard (rt : RiskRuntime) (order : LedgerOrder)
    (riskDashboardDemoOverlay : Bool) (horizon : RiskHorizon)
    (ledger : AlternativesLedger) (householdId : String) :
    Except Exc RiskDashboardData := do
  let manifest ← manifestFromSession order ledger householdId
  let overlay := if riskDashboardDemoOverlay then some demoOverlay else none
  let request : RiskRequest :=
    { horizon := horizon
      notionalUsd := manifest.notionalUsd
      runScenarios := .none
      overlay := overlay }
  let result ← evaluateRisk rt request manifest.portfolio
  return {
    householdId := householdId
    horizonYears := horizon.years
    notionalUsd := manifest.notionalUsd
    report := some result.report
    source := manifest.portfolio.source
    deltas := result.deltas }

/-- A failure is shown, not raised. -/
def loadRiskDashboard (rt : RiskRuntime) (order : LedgerOrder)
    (riskDashboardDemoOverlay : Bool) (horizon : RiskHorizon)
    (ledger : AlternativesLedger) (householdId : String) :
    RiskDashboardData :=
  match riskDashboard rt order riskDashboardDemoOverlay horizon ledger
      householdId with
  | .ok data => data
  | .error err =>
      { householdId := householdId
        horizonYears := horizon.years
        notionalUsd := none
        report := none
        source := "ledger"
        error := some err.str }

end Warehouse
