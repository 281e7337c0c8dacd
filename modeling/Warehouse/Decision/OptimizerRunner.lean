/-
Persist optimization runs and trades (`decision/optimizer/runner.py`).

One call writes the run, its trades, an audit row and, unless told
otherwise, an approval request, in this order. Whatever an optimizer came
back with is persisted: nothing is checked here, and the approval is where a
run is held back. The snapshot a run was computed from is recorded by its
id.
-/
import Warehouse.Decision.Approval
import Warehouse.Decision.OptimizerModels

namespace Warehouse

/-- The row a proposed trade is persisted as. -/
def tradeRow (runId : String) (trade : TradeProposal) :
    OptimizationTradeRow :=
  { runId := runId
    lotId := trade.lotId
    securityId := trade.securityId
    accountId := trade.accountId
    side := trade.side
    quantity := trade.quantity
    rationale := trade.rationale }

/-- Write the run and its trades, and open the approval gate unless told
otherwise. -/
def persistOptimization (env : Env) (store : Store)
    (result : OptimizationResult) (inputSnapshotId : String)
    (actorId : String := "system:optimizer")
    (solverType : String := "heuristic") (runtimeMs : Option Int := none)
    (queueApproval : Bool := true) : OptimizationRunRow × Store :=
  let runId := env.freshId "opt" store
  let row : OptimizationRunRow :=
    { runId := runId
      householdId := result.householdId
      configVersion := result.configVersion
      estimatedTaxDelta := result.estimatedTaxDelta
      bindingConstraints := result.bindingConstraints
      inputSnapshotId := inputSnapshotId
      solverType := solverType
      runtimeMs := runtimeMs
      createdAt := env.clock store }
  let store := store.drawn.ticked
  let store := { store with
    optimizationRuns := store.optimizationRuns ++ [row]
    optimizationTrades := store.optimizationTrades
      ++ result.trades.map (tradeRow runId) }
  let store := writeAudit env store actorId "optimization_complete"
    "optimization_run" runId (some result.householdId)
    [("trades", toString result.trades.length),
     ("tax_delta", env.str result.estimatedTaxDelta)]
  let store :=
    if queueApproval then
      (createApprovalRequest env store runId result.householdId).2
    else store
  (row, store)

end Warehouse
