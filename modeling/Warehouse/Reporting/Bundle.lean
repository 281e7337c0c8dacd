/-
Report bundles (`reporting/report_writer/models.py`, `collect.py`).

A bundle carries two reports of other planes, the analyst's attribution
and the risk headline. The collector reads of them only their limitation
notes, so their types are parameters `A` and `R`, and the planes that
make them are `Planes`. What a plane is shown of the store is
`Store.planes`: none of them reads the logs of what was done.

# Order of reading

The preconditions are read first and may refuse; the tax scenarios are
computed and persisted next; the rest is listed after that, from the store
they left. Limitations are texts made of what was found or missing, in the
source's order.

# Comparison

A prior bundle is compared figure by figure, by label; a figure that one of
the two lacks has no difference. Months are counted between the two dates,
and a prior bundle of the month before is adjacent.
-/
import Warehouse.Decision.Approval
import Warehouse.Decision.Monitor
import Warehouse.Execution.Oms
import Warehouse.Execution.Reconciliation
import Warehouse.Reporting.Performance
import Warehouse.Reporting.Tax

namespace Warehouse

open Lib

-- ================================================================== models

/-- Who a pack is rendered for. -/
inductive ReportAudience where
  | internal
  | external
  deriving DecidableEq, Repr

/-- Reporting window — directory key and optional bounds. -/
structure ReportPeriod where
  label : String
  startDate : Option Date := none
  endDate : Option Date := none
  deriving DecidableEq

/-- The period a month-end close reports. -/
def ReportPeriod.monthEnd (asOf : Date) : ReportPeriod where
  label := "month-end-" ++ isoformat asOf
  endDate := some asOf

/-- One figure placed against its prior-period value. -/
structure ComparisonDelta where
  label : String
  current : Option ℚ
  prior : Option ℚ
  absDelta : Option ℚ
  pctDelta : Option ℚ
  deriving DecidableEq

/-- What the pack says against the prior one. -/
structure ReportComparison where
  priorSnapshotId : String
  priorAsOfDate : Date
  isAdjacent : Bool
  performance : List ComparisonDelta
  drift : List ComparisonDelta
  deriving DecidableEq

/-- Compiled facts from plane outputs. -/
structure ReportBundle (A R : Type) where
  snapshotId : String
  householdId : String
  period : ReportPeriod
  asOfDate : Date
  generatedAt : DateTime
  performance : Option HouseholdPerformanceReport
  ipsDrift : Option IpsDriftReport
  taxScenarios : List ReportingTaxResult
  stagedOrders : List StagedOrderRow
  pendingApprovalCount : Nat
  openBreaks : List ReconciliationBreakRow
  limitations : List String
  dataSources : List String
  attribution : Option A
  riskHeadline : Option R
  comparison : Option ReportComparison

/-- The planes behind a bundle, and what its rendering and its JSON are. -/
structure Planes (A R : Type) where
  loadIps : Store → String → Except Exc (Option InvestmentPolicyStatement)
  evaluateAttribution : List LotPositionView → String → Date → Except Exc A
  attributionLimitations : A → List String
  evaluateHouseholdRisk : Store → String → Except Exc R
  riskLimitationNotes : R → List String
  renderMarkdown : ReportBundle A R → ReportAudience → String
  dumpJson : ReportBundle A R → String

/-- What the planes read: every table but the tax runs and the audit
log. -/
def Store.planes (store : Store) : Store :=
  { store with
    taxScenarioRuns := []
    auditLog := []
    events := []
    draws := 0
    ticks := 0 }

variable {A R : Type}

-- ============================================================= preconditions

/-- What is asked for before anything is written: positions, an IPS, a
performance report. -/
def reportPreconditions (order : ReportOrder) (planes : Planes A R)
    (settings : Settings) (store : Store) (householdId : String)
    (asOf : Date) :
    Except Exc (List LotPositionView × HouseholdPerformanceReport
      × IpsDriftReport) := do
  let positions := listLotPositions order.lots store (some householdId)
  if positions.isEmpty then
    throw (.reportWriterError ("No positions for household " ++ householdId))
  match ← planes.loadIps store.planes householdId with
  | none => throw (.reportWriterError
      ("No IPS found for household " ++ householdId))
  | some ips =>
    let performance ← buildHouseholdPerformanceReport order.lots settings store
      householdId asOf
    return (positions, performance,
      buildIpsDriftReportFromViews householdId positions ips)

/-- The two scenarios every pack runs, with their overlays. -/
def defaultTaxScenarios : List (String × TaxScenarioOverlays) :=
  [("baseline", { applyNiit := false }), ("niit_overlay", { applyNiit := true })]

/-- One result a default scenario, in order. -/
def collectTaxScenarios (env : Env) (order : ReportOrder)
    (settings : Settings) (householdId : String) (asOf : Date) :
    Session (List ReportingTaxResult) :=
  defaultTaxScenarios.mapM fun (scenarioName, overlays) =>
    runReportingTaxScenario env order settings householdId scenarioName
      overlays asOf

/-- How many of the household's newest five hundred requests are still pending. -/
def pendingApprovalCount (order : ReportOrder) (store : Store)
    (householdId : String) : Nat :=
  let requests := listApprovalRequests order store (some householdId) 500
  (requests.filter (·.status = .pending)).length

/-- The attribution of the positions worth something, if there are any; the
engine's own error is re-raised as the writer's. -/
def collectAttribution (planes : Planes A R)
    (positions : List LotPositionView) (householdId : String) (asOf : Date) :
    Except Exc (Option A) :=
  let attributable := positions.filter fun pos =>
    match pos.marketValue with
    | none => false
    | some marketValue => marketValue > 0
  if attributable.isEmpty then .ok none
  else
    match planes.evaluateAttribution attributable householdId asOf with
    | .ok report => .ok (some report)
    | .error (.attributionError msg) => .error (.reportWriterError
        ("Attribution failed for household " ++ householdId ++ " as_of="
          ++ isoformat asOf ++ ": " ++ msg))
    | .error err => .error err

/-- The household's risk headline; a type or value error is re-raised as the
writer's, with the household named. -/
def collectRiskHeadline (planes : Planes A R) (store : Store)
    (householdId : String) : Except Exc R :=
  match planes.evaluateHouseholdRisk store.planes householdId with
  | .ok result => .ok result
  | .error (.typeError msg) => .error (.reportWriterError
      ("Risk headline failed for household " ++ householdId ++ ": " ++ msg))
  | .error err =>
      if err.isValueError then .error (.reportWriterError
        ("Risk headline failed for household " ++ householdId ++ ": "
          ++ err.str))
      else .error err

-- =============================================================== limitations

/-- What a reader is told the pack does not cover. -/
def buildLimitations (snapshotId : String) (asOfDate : Date)
    (taxScenarios : List ReportingTaxResult)
    (openBreaks : List ReconciliationBreakRow) (pendingApprovalCount : Nat)
    (attributionLimitations riskLimitations : List String)
    (attributionSkipped priorMissing : Bool)
    (nonAdjacentPriorLabel : Option String) : List String :=
  ["Data vintage = " ++ isoformat asOfDate ++ "; snapshot = " ++ snapshotId
    ++ "."]
  ++ (if taxScenarios ≠ [] ∧ ∀ ts ∈ taxScenarios, ts.taxDelta = 0 then
      ["Tax scenario deltas are zero-stubbed — not for client filing."]
    else [])
  ++ (if openBreaks ≠ [] then
      ["Open reconciliation breaks — exhibits may not match "
          ++ "custodian statements.",
       "Reconciliation breaks listed are firm-wide, not household-scoped."]
    else [])
  ++ (if pendingApprovalCount > 0 then
      ["Pending approvals — figures subject to change before delivery."]
    else [])
  ++ (if attributionSkipped then
      ["Attribution not computed — no attributable positions."]
    else [])
  ++ (if priorMissing then
      ["No prior report for this household — comparison columns show "
        ++ "n/a (first report)."]
    else
      match nonAdjacentPriorLabel with
      | none => []
      | some label =>
          ["Prior comparison period (" ++ label ++ ") is not "
            ++ "the immediately preceding month — Δ is not period-over-period."])
  ++ attributionLimitations ++ riskLimitations

-- ================================================================ comparison

/-- Calendar months between two dates, whatever the days. -/
def monthsBetween (earlier later : Date) : Int :=
  (yearOf later - yearOf earlier) * 12 + (monthOf later - monthOf earlier)

/-- One figure against the prior one: a delta exists where both do. -/
def comparisonDelta (label : String) (current prior : Option ℚ) :
    ComparisonDelta :=
  match current, prior with
  | some cur, some pri =>
      { label := label
        current := current
        prior := prior
        absDelta := some (cur - pri)
        pctDelta := if pri ≠ 0 then some ((cur - pri) / |pri|) else none }
  | _, _ =>
      { label := label
        current := current
        prior := prior
        absDelta := none
        pctDelta := none }

/-- The compared figures of a performance report. -/
def performanceFields :
    List (String × (HouseholdPerformanceReport → Option ℚ)) :=
  [("total_market_value", fun report => some report.totalMarketValue),
   ("unrealized_gain", fun report => some report.unrealizedGain),
   ("realized_gain_ytd", fun report => some report.realizedGainYtd),
   ("after_tax_return_ytd", (·.afterTaxReturnYtd))]

/-- One delta a performance figure, under the figure's name. -/
def performanceDeltas (performance prior : Option HouseholdPerformanceReport) :
    List ComparisonDelta :=
  performanceFields.map fun (name, field) =>
    comparisonDelta name (performance.bind field) (prior.bind field)

/-- One delta a sleeve of the drift report, matched by class. -/
def driftDeltas (ipsDrift prior : Option IpsDriftReport) :
    List ComparisonDelta :=
  let priorWeights : Dict String ℚ :=
    match prior with
    | none => Dict.empty
    | some report => Dict.empty.setAll
        (report.rows.map fun row => (row.assetClass, row.currentWeight))
  match ipsDrift with
  | none => []
  | some report => report.rows.map fun row =>
      comparisonDelta row.assetClass (some row.currentWeight)
        (priorWeights.get? row.assetClass)

/-- The comparison with the prior pack, adjacent when it is one calendar month
older. -/
def buildComparison (prior : ReportBundle A R) (asOf : Date)
    (performance : Option HouseholdPerformanceReport)
    (ipsDrift : Option IpsDriftReport) : ReportComparison where
  priorSnapshotId := prior.snapshotId
  priorAsOfDate := prior.asOfDate
  isAdjacent := monthsBetween prior.asOfDate asOf = 1
  performance := performanceDeltas performance prior.performance
  drift := driftDeltas ipsDrift prior.ipsDrift

end Warehouse
