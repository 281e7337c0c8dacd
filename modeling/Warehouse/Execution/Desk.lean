/-
The desk: every call that persists a run or moves one towards execution,
in any order, and what each call answered. Between them the ledger is
imported again, to whatever it then holds.

A call that raises is rolled back. The tables the views list are only
appended to.
-/
import Warehouse.Decision.RunHistory
import Warehouse.Execution.Run

namespace Warehouse

open Lib

/-- The tables positions are read from. -/
structure LedgerTables where
  entities : List EntityRow := []
  securities : List SecurityRow := []
  lots : List Lot := []
  marketPrices : List MarketPriceRow := []

/-- The ledger's tables replaced, the rest kept. -/
def Store.withLedger (store : Store) (ledger : LedgerTables) : Store :=
  { store with
    entities := ledger.entities
    securities := ledger.securities
    lots := ledger.lots
    marketPrices := ledger.marketPrices }

/-- What a desk is asked to do. -/
inductive DeskOp where
  | ledger (tables : LedgerTables)
  | call (op : Op)
  | saveIps (ips : SpelledStatement)
  | optimize (order : DeskOrder) (settings : Settings) (clockToday : Date)
      (householdId : String) (inputSnapshotId : Option String)
  | compare (order : DeskOrder) (settings : Settings) (clockToday : Date)
      (heuristicMs mipMs : Int) (householdId : String)
  | taxScenario (order : DeskOrder) (householdId scenarioName : String)
      (overlays : Option TaxScenarioOverlays)
  | backtest (rt : HashRuntime) (order : BacktestOrder)
      (householdId : String) (startDate endDate : Date)
      (inputSnapshotId : Option String) (settings : AppSettings)

/-- What a call answers. -/
inductive DeskReply where
  | done
  | optimization (view : OptimizationRunView)
  | comparison (view : SolverComparisonView)
  | taxScenario (view : TaxScenarioRunRow)
  | backtest (view : BacktestRunRow)
  | refused (err : Exc)

/-- The answer of a call, and the store it commits. -/
def DeskOp.exec (env : Env) (store : DeskStore) :
    DeskOp → Except Exc (DeskReply × DeskStore)
  | ledger tables => .ok (.done,
      store.withPlanes (store.toStore.withLedger tables))
  | call (.persist result inputSnapshotId actorId solverType runtimeMs
      queueApproval) =>
      let (run, planes) := persistOptimization env store.toStore result
        inputSnapshotId actorId solverType runtimeMs queueApproval
      .ok (.optimization (run.view env result.trades),
        store.withPlanes planes)
  | call op => (op.call env store.toStore).map fun planes =>
      (.done, store.withPlanes planes)
  | saveIps ips => .ok (.done,
      { store with ipsPolicies := Warehouse.saveIps store.ipsPolicies ips })
  | optimize order settings clockToday householdId inputSnapshotId =>
      (runAndPersistOptimizer env order settings clockToday store householdId
        inputSnapshotId).map fun (view, store) => (.optimization view, store)
  | compare order settings clockToday heuristicMs mipMs householdId =>
      (runSolverComparison env order settings clockToday heuristicMs mipMs
        store householdId).map fun (view, store) => (.comparison view, store)
  | taxScenario order householdId scenarioName overlays =>
      (runTaxScenario env order store householdId scenarioName overlays).map
        fun (view, store) => (.taxScenario view, store)
  | backtest rt order householdId startDate endDate inputSnapshotId
      settings =>
      (runBacktest env rt order store.toBacktestStore householdId startDate
        endDate inputSnapshotId settings).map fun (view, runs) =>
          (.backtest view, { store with toBacktestStore := runs })

/-- The desk, with the answers so far. -/
structure Desk where
  store : DeskStore := {}
  replies : List DeskReply := []

/-- One op: the store moves and the reply is kept, or the error is kept and the
store stays. -/
def Desk.step (env : Env) (desk : Desk) (op : DeskOp) : Desk :=
  match op.exec env desk.store with
  | .ok (reply, store) =>
      { store := store, replies := desk.replies ++ [reply] }
  | .error err => { desk with replies := desk.replies ++ [.refused err] }

/-- A new desk after a sequence of calls. -/
def deskAfter (env : Env) (ops : List DeskOp) : Desk :=
  Runs.run (Desk.step env) {} ops

end Warehouse
