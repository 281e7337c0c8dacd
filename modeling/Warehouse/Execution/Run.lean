/-
The operations that move an optimization run towards execution, and runs
of them.

An operation is a call with its arguments; the arguments are anything.
A call that raises is rolled back, so it leaves the store as it was.
-/
import Warehouse.Decision.OptimizerRunner
import Warehouse.Execution.Oms
import Warehouse.Lib.Runs

namespace Warehouse

open Lib

/-- The calls the order service and its gates answer. -/
inductive Op where
  | persist (result : OptimizationResult) (inputSnapshotId actorId : String)
      (solverType : String) (runtimeMs : Option Int) (queueApproval : Bool)
  | createApproval (optimizationRunId householdId : String)
  | createReportApproval (reportSnapshotId householdId : String)
  | decide (requestId : String) (status : ApprovalStatus)
      (reviewerId : String)
  | stage (order : RowOrder) (approvalRequestId actorId : String)
  | updateOrder (orderId : String) (status : OrderStatus) (actorId : String)

/-- The store a call commits, or the exception it raises. -/
def Op.call (env : Env) (store : Store) : Op → Except Exc Store
  | persist result inputSnapshotId actorId solverType runtimeMs
      queueApproval =>
      .ok (persistOptimization env store result inputSnapshotId actorId
        solverType runtimeMs queueApproval).2
  | createApproval optimizationRunId householdId =>
      .ok (createApprovalRequest env store optimizationRunId householdId).2
  | createReportApproval reportSnapshotId householdId =>
      .ok (createReportApprovalRequest env store reportSnapshotId
        householdId).2
  | decide requestId status reviewerId =>
      (updateApprovalStatus env store requestId status reviewerId).map
        Prod.snd
  | stage order approvalRequestId actorId =>
      (stageOrdersFromApproval env order store approvalRequestId actorId).map
        Prod.snd
  | updateOrder orderId status actorId =>
      let (result, store') :=
        updateOrderStatus env store orderId status actorId
      result.map fun _ => store'

/-- A failing call changes nothing. -/
def exec (env : Env) (store : Store) (op : Op) : Store :=
  match op.call env store with
  | .ok store' => store'
  | .error _ => store

/-- The store after a sequence of calls on a new database. -/
def storeAfter (env : Env) (ops : List Op) : Store :=
  Runs.run (exec env) Store.empty ops

end Warehouse
