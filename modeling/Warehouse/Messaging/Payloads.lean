/-
Request bodies of the state-changing ops (`messaging/payloads.py`).

These are the requests by which a proposal travels towards execution. A body
carries what its validator checked: an approval has exactly one subject, by
a field. Any body may arrive under any op, as `Payload` allows; it is the
handler that refuses a wrong one.
-/
import Warehouse.Decision.OptimizerModels
import Warehouse.Infra.Db

namespace Warehouse

/-- What `optimizer.persist` is asked with. -/
structure OptimizerPersistPayload where
  result : OptimizationResult
  inputSnapshotId : String := "snapshot_local"

/-- Open an approval gate — exactly one subject (optimization XOR
report). -/
structure ApprovalCreatePayload where
  householdId : String
  optimizationRunId : Option String := none
  reportSnapshotId : Option String := none
  oneSubject : optimizationRunId.isSome ≠ reportSnapshotId.isSome

/-- The model validator: the one way to such a payload. -/
def ApprovalCreatePayload.validated (householdId : String)
    (optimizationRunId reportSnapshotId : Option String) :
    Except Exc ApprovalCreatePayload :=
  if h : optimizationRunId.isSome = reportSnapshotId.isSome then
    .error (.valueError ("approval.create requires exactly one of "
      ++ "optimization_run_id or report_snapshot_id"))
  else
    .ok { householdId := householdId
          optimizationRunId := optimizationRunId
          reportSnapshotId := reportSnapshotId
          oneSubject := h }

/-- What `approval.decide` is asked with. -/
structure ApprovalDecidePayload where
  requestId : String
  status : ApprovalStatus
  reviewerId : String

/-- What `orders.stage` is asked with. -/
structure OrdersStagePayload where
  approvalRequestId : String

/-- A request body: any of them may travel under any op. -/
inductive Payload where
  | optimizerPersist (p : OptimizerPersistPayload)
  | approvalCreate (p : ApprovalCreatePayload)
  | approvalDecide (p : ApprovalDecidePayload)
  | ordersStage (p : OrdersStagePayload)

/-- `type(payload).__name__`. -/
def Payload.typeName : Payload → String
  | optimizerPersist _ => "OptimizerPersistPayload"
  | approvalCreate _ => "ApprovalCreatePayload"
  | approvalDecide _ => "ApprovalDecidePayload"
  | ordersStage _ => "OrdersStagePayload"

end Warehouse
