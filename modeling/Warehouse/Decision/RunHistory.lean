/-
Runs kept for the desk, and the views that list them: optimization runs
(`decision/optimizer/runner.py`), solver comparisons
(`decision/optimizer/compare.py`, its row of `infra/db/models.py`) and tax
scenarios (`decision/tax/scenarios.py`).

A comparison persists a heuristic run and a MIP run without an approval
gate, and its view counts their trades again each time it is listed. How
long a solver took is the call's to say. JSON columns hold the value they
spell.

# What a listing shows

An answer is made of the values that were computed. A listing is made of
rows: of the ones the session still holds, as they were written; of the
others what their columns keep (`infra/db/models.py`), with figures rounded
to the column's places and times without their zone. Each view is listed
either way (`HistorySession.listed`), and each trade of a run by itself.
-/
import Warehouse.Decision.IpsStore
import Warehouse.Decision.Mip
import Warehouse.Decision.OptimizerRunner
import Warehouse.Research.Backtest

namespace Warehouse

open Lib

/-- One persisted comparison of the two solvers. -/
structure SolverComparisonRow where
  comparisonId : String
  householdId : String
  heuristicRunId : String
  mipRunId : String
  heuristicTaxDelta : ℚ
  mipTaxDelta : ℚ
  heuristicRuntimeMs : Int
  mipRuntimeMs : Int
  createdAt : DateTime
  deriving DecidableEq

/-- The tables of the desk. -/
structure DeskStore extends BacktestStore where
  ipsPolicies : IpsTable := .empty
  solverComparisons : List SolverComparisonRow := []

/-- The order of the rows where the desk's queries have none. -/
structure DeskOrder extends BacktestOrder where
  trades : List OptimizationTradeRow → List OptimizationTradeRow
  optimizations : List OptimizationRunRow → List OptimizationRunRow
  comparisons : List SolverComparisonRow → List SolverComparisonRow
  taxRuns : List TaxScenarioRunRow → List TaxScenarioRunRow
  tradesPerm : ∀ rows, (trades rows).Perm rows
  optimizationsPerm : ∀ rows, (optimizations rows).Perm rows
  comparisonsPerm : ∀ rows, (comparisons rows).Perm rows
  taxRunsPerm : ∀ rows, (taxRuns rows).Perm rows
  ips : IpsRowOrder

/-- The planes' tables, replaced. -/
def DeskStore.withPlanes (store : DeskStore) (planes : Store) : DeskStore :=
  { store with toStore := planes }

/-- A session also holds trades, each by its run. -/
structure DeskSession extends HistorySession where
  holdsTrade : String → TradeProposal → Bool

-- =========================================================== optimizations

/-- `OptimizationRunView`: a run with its trades, amounts as text. -/
structure OptimizationRunView where
  runId : String
  householdId : String
  configVersion : String
  estimatedTaxDelta : String
  bindingConstraints : List String
  inputSnapshotId : String
  createdAt : DateTime
  trades : List TradeProposal
  deriving DecidableEq

/-- The view of a run with its trades. -/
def OptimizationRunRow.view (env : Env) (run : OptimizationRunRow)
    (trades : List TradeProposal) : OptimizationRunView where
  runId := run.runId
  householdId := run.householdId
  configVersion := run.configVersion
  estimatedTaxDelta := env.str run.estimatedTaxDelta
  bindingConstraints := run.bindingConstraints
  inputSnapshotId := run.inputSnapshotId
  createdAt := run.createdAt
  trades := trades

/-- The trade a row is listed as. -/
def OptimizationTradeRow.proposal (row : OptimizationTradeRow) :
    TradeProposal where
  lotId := row.lotId
  securityId := row.securityId
  accountId := row.accountId
  side := row.side
  quantity := row.quantity
  rationale := row.rationale

/-- A trade as its column keeps it. -/
def TradeProposal.kept (columns : HistoryColumns) (trade : TradeProposal) :
    TradeProposal :=
  { trade with quantity := columns.amount trade.quantity }

/-- A trade of a run, as the session reads it. -/
def TradeProposal.read (columns : HistoryColumns) (session : DeskSession)
    (runId : String) (trade : TradeProposal) : TradeProposal :=
  if session.holdsTrade runId trade then trade else trade.kept columns

/-- A run as a later listing shows it: the amount at its column's scale where
the session reads it back. -/
def OptimizationRunRow.listed (env : Env) (columns : HistoryColumns)
    (session : DeskSession) (run : OptimizationRunRow)
    (trades : List TradeProposal) : Listed OptimizationRunView :=
  let view := run.view env (trades.map (·.read columns session run.runId))
  session.toHistorySession.listed run.runId view
    { view with estimatedTaxDelta := columns.amountText run.estimatedTaxDelta }

/-- `load_ips`, or no optimization. -/
def requireIps (order : DeskOrder) (store : DeskStore)
    (householdId : String) : Except Exc InvestmentPolicyStatement := do
  match ← loadIps order.ips store.ipsPolicies householdId with
  | none => throw (.valueError ("No IPS for household " ++ householdId))
  | some ips => return ips.statement

/-- Runs the heuristic on the household's lots and stores the run, under a fresh
snapshot id where none is given. -/
def runAndPersistOptimizer (env : Env) (order : DeskOrder)
    (settings : Settings) (clockToday : Date) (store : DeskStore)
    (householdId : String) (inputSnapshotId : Option String) :
    Except Exc (OptimizationRunView × DeskStore) := do
  let ips ← requireIps order store householdId
  let planes := store.toStore
  let positions := listLotPositions order.lots planes (some householdId)
  let (snapshot, planes) :=
    if truthy inputSnapshotId then (inputSnapshotId.getD "", planes)
    else (env.freshId "snap" planes, planes.drawn)
  let result ← runTaxAwareOptimizer householdId positions ips settings none
    clockToday
  let (run, planes) := persistOptimization env planes result snapshot
  return (run.view env result.trades, store.withPlanes planes)

/-- Newest first, each with the trades that are found for it. -/
def listOptimizationRuns (env : Env) (columns : HistoryColumns)
    (session : DeskSession) (order : DeskOrder) (store : DeskStore)
    (householdId : String) (limit : Nat := 5) :
    List (Listed OptimizationRunView) :=
  let rows := store.optimizationRuns.filter (·.householdId = householdId)
  let runs := ((order.optimizations rows).insertionSort fun a b =>
    b.createdAt ≤ a.createdAt).take limit
  runs.map fun run =>
    let trades := (order.trades store.optimizationTrades).filter
      (·.runId = run.runId)
    run.listed env columns session (trades.map (·.proposal))

-- ============================================================= comparisons

/-- A comparison as the desk answers with it. -/
structure SolverComparisonView where
  comparisonId : String
  householdId : String
  heuristicRunId : String
  mipRunId : String
  heuristicTaxDelta : ℚ
  mipTaxDelta : ℚ
  heuristicRuntimeMs : Int
  mipRuntimeMs : Int
  heuristicTradeCount : Nat
  mipTradeCount : Nat
  createdAt : DateTime
  deriving DecidableEq

/-- The view of a comparison, its trades counted. -/
def SolverComparisonRow.view (row : SolverComparisonRow)
    (heuristicTradeCount mipTradeCount : Nat) : SolverComparisonView where
  comparisonId := row.comparisonId
  householdId := row.householdId
  heuristicRunId := row.heuristicRunId
  mipRunId := row.mipRunId
  heuristicTaxDelta := row.heuristicTaxDelta
  mipTaxDelta := row.mipTaxDelta
  heuristicRuntimeMs := row.heuristicRuntimeMs
  mipRuntimeMs := row.mipRuntimeMs
  heuristicTradeCount := heuristicTradeCount
  mipTradeCount := mipTradeCount
  createdAt := row.createdAt

/-- A comparison as its columns keep it. -/
def SolverComparisonView.kept (columns : HistoryColumns)
    (view : SolverComparisonView) : SolverComparisonView :=
  { view with
    heuristicTaxDelta := columns.amount view.heuristicTaxDelta
    mipTaxDelta := columns.amount view.mipTaxDelta }

/-- A comparison as a later listing shows it. -/
def SolverComparisonView.listed (columns : HistoryColumns)
    (session : DeskSession) (view : SolverComparisonView) :
    Listed SolverComparisonView :=
  session.toHistorySession.listed view.comparisonId view (view.kept columns)

/-- Run the heuristic, then the MIP, and persist what they say of each
other. -/
def runSolverComparison (env : Env) (order : DeskOrder) (settings : Settings)
    (clockToday : Date) (heuristicMs mipMs : Int) (store : DeskStore)
    (householdId : String) : Except Exc (SolverComparisonView × DeskStore) := do
  let ips ← requireIps order store householdId
  let planes := store.toStore
  let positions := listLotPositions order.lots planes (some householdId)
  let snapshot := env.freshId "snap" planes
  let planes := planes.drawn
  let heuristicResult ← runTaxAwareOptimizer householdId positions ips settings
    none clockToday
  let (heuristicRun, planes) := persistOptimization env planes heuristicResult
    snapshot "system:compare" "heuristic" (some heuristicMs) false
  let mipResult ← runMipOptimizer householdId positions ips settings none
    clockToday
  let (mipRun, planes) := persistOptimization env planes mipResult snapshot
    "system:compare" "mip" (some mipMs) false
  let row : SolverComparisonRow :=
    { comparisonId := env.freshId "cmp" planes
      householdId := householdId
      heuristicRunId := heuristicRun.runId
      mipRunId := mipRun.runId
      heuristicTaxDelta := heuristicResult.estimatedTaxDelta
      mipTaxDelta := mipResult.estimatedTaxDelta
      heuristicRuntimeMs := heuristicMs
      mipRuntimeMs := mipMs
      createdAt := env.clock planes }
  return (row.view heuristicResult.trades.length mipResult.trades.length,
    { store.withPlanes planes.drawn.ticked with
      solverComparisons := store.solverComparisons ++ [row] })

/-- Newest first, their trades counted again. -/
def listSolverComparisons (columns : HistoryColumns) (session : DeskSession)
    (order : DeskOrder) (store : DeskStore) (householdId : String)
    (limit : Nat := 5) : List (Listed SolverComparisonView) :=
  let rows := store.solverComparisons.filter (·.householdId = householdId)
  let newest := ((order.comparisons rows).insertionSort fun a b =>
    b.createdAt ≤ a.createdAt).take limit
  newest.map fun row =>
    let hTrades := (order.trades store.optimizationTrades).filter
      (·.runId = row.heuristicRunId)
    let mTrades := (order.trades store.optimizationTrades).filter
      (·.runId = row.mipRunId)
    (row.view hTrades.length mTrades.length).listed columns session

-- ============================================================ tax scenarios

/-- A tax scenario, persisted; its row carries the fields of the view. -/
def runTaxScenario (env : Env) (order : DeskOrder) (store : DeskStore)
    (householdId scenarioName : String)
    (overlays : Option TaxScenarioOverlays) :
    Except Exc (TaxScenarioRunRow × DeskStore) := do
  let policy := overlays.getD {}
  let planes := store.toStore
  let positions := listLotPositions order.lots planes (some householdId)
  if positions.isEmpty then
    throw (.valueError ("No positions for household " ++ householdId))
  else
    let result := evaluateTaxScenario (some policy)
    let row : TaxScenarioRunRow :=
      { runId := env.freshId "tax" planes
        householdId := householdId
        scenarioName := scenarioName
        overlays := policy
        baselineTax := result.baselineTax
        scenarioTax := result.scenarioTax
        taxDelta := result.taxDelta
        createdAt := env.clock planes }
    return (row, store.withPlanes { planes.drawn.ticked with
      taxScenarioRuns := planes.taxScenarioRuns ++ [row] })

/-- A tax scenario as its columns keep it. -/
def TaxScenarioRunRow.kept (columns : HistoryColumns)
    (row : TaxScenarioRunRow) : TaxScenarioRunRow :=
  { row with
    baselineTax := columns.money row.baselineTax
    scenarioTax := columns.money row.scenarioTax
    taxDelta := columns.money row.taxDelta }

/-- A tax scenario as a later listing shows it. -/
def TaxScenarioRunRow.listed (columns : HistoryColumns)
    (session : DeskSession) (row : TaxScenarioRunRow) :
    Listed TaxScenarioRunRow :=
  session.toHistorySession.listed row.runId row (row.kept columns)

/-- Newest first. -/
def listTaxScenarios (columns : HistoryColumns) (session : DeskSession)
    (order : DeskOrder) (store : DeskStore) (householdId : String)
    (limit : Nat := 5) : List (Listed TaxScenarioRunRow) :=
  let rows := store.taxScenarioRuns.filter (·.householdId = householdId)
  let newest := ((order.taxRuns rows).insertionSort fun a b =>
    b.createdAt ≤ a.createdAt).take limit
  newest.map (·.listed columns session)

end Warehouse
