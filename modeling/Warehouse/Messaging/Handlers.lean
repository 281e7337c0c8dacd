/-
The state-changing ops of the composition root and their dispatch
(`messaging/handlers.py`, `messaging/core.py`).

`CommandOp` is the part of the registry a staged order goes through; the
ops that only read, and the ingest and report commands, are left out. A
context carries a session. The notes dispatch adds to an exception are
left out: a caught exception's type and message are those of the handler.
-/
import Warehouse.Execution.Run
import Warehouse.Messaging.Payloads

namespace Warehouse

open Lib

/-- The commands that write to the database. -/
inductive CommandOp where
  | optimizerPersist
  | approvalCreate
  | approvalDecide
  | ordersStage
  deriving DecidableEq, Repr

/-- The op as messages spell it. -/
def CommandOp.value : CommandOp → String
  | optimizerPersist => "optimizer.persist"
  | approvalCreate => "approval.create"
  | approvalDecide => "approval.decide"
  | ordersStage => "orders.stage"

/-- The envelope. -/
structure Message where
  op : CommandOp
  payload : Payload
  correlationId : String
  householdId : Option String := none

/-- The session and the actor a handler acts for. -/
structure DispatchContext where
  session : Store
  actorId : String := "system:messaging"

/-- The result bodies. -/
inductive Reply where
  | optimizationRun (view : OptimizationRunRow)
  | approvalRequest (view : ApprovalRequestRow)
  | stagedOrders (orders : List StagedOrderRow)

-- ================================================================ handlers

/-- Persisting is just persisting: the approval is a separate op. -/
def optimizerPersist (env : Env) (ctx : DispatchContext)
    (p : OptimizerPersistPayload) : OptimizationRunRow × Store :=
  persistOptimization env ctx.session p.result p.inputSnapshotId ctx.actorId
    "heuristic" none false

/-- A request about a report where the payload names one, else about an
optimizer run. -/
def approvalCreate (env : Env) (ctx : DispatchContext)
    (p : ApprovalCreatePayload) : ApprovalRequestRow × Store :=
  match hreport : p.reportSnapshotId, hrun : p.optimizationRunId with
  | some reportSnapshotId, _ =>
      createReportApprovalRequest env ctx.session reportSnapshotId
        p.householdId
  | none, some optimizationRunId =>
      createApprovalRequest env ctx.session optimizationRunId p.householdId
  | none, none => absurd (by rw [hreport, hrun]) p.oneSubject

/-- Decides a pending request. -/
def approvalDecide (env : Env) (ctx : DispatchContext)
    (p : ApprovalDecidePayload) : Except Exc (ApprovalRequestRow × Store) :=
  updateApprovalStatus env ctx.session p.requestId p.status p.reviewerId

/-- Stages an approved run's trades as orders. -/
def ordersStage (env : Env) (order : RowOrder) (ctx : DispatchContext)
    (p : OrdersStagePayload) : Except Exc (List StagedOrderRow × Store) :=
  stageOrdersFromApproval env order ctx.session p.approvalRequestId ctx.actorId

-- ================================================================ dispatch

/-- The payload type an op is registered with. -/
def CommandOp.payloadType : CommandOp → String
  | optimizerPersist => "OptimizerPersistPayload"
  | approvalCreate => "ApprovalCreatePayload"
  | approvalDecide => "ApprovalDecidePayload"
  | ordersStage => "OrdersStagePayload"

/-- Route a message to its handler; the exception is the error
protocol. -/
def dispatchMessage (env : Env) (order : RowOrder) (ctx : DispatchContext)
    (msg : Message) : Except Exc (Reply × Store) :=
  match msg.op, msg.payload with
  | .optimizerPersist, .optimizerPersist p =>
      let (view, store) := optimizerPersist env ctx p
      .ok (.optimizationRun view, store)
  | .approvalCreate, .approvalCreate p =>
      let (view, store) := approvalCreate env ctx p
      .ok (.approvalRequest view, store)
  | .approvalDecide, .approvalDecide p =>
      (approvalDecide env ctx p).map fun (view, store) =>
        (.approvalRequest view, store)
  | .ordersStage, .ordersStage p =>
      (ordersStage env order ctx p).map fun (orders, store) =>
        (.stagedOrders orders, store)
  | op, payload =>
      .error (.typeError (op.value ++ ": payload is " ++ payload.typeName
        ++ ", expected " ++ op.payloadType))

/-- A message, who sends it and the order the engine returns rows in. -/
structure Delivery where
  message : Message
  actorId : String := "system:messaging"
  order : RowOrder := .insertion

/-- One message, one transaction: a raising dispatch is rolled back. -/
def deliver (env : Env) (store : Store) (d : Delivery) : Store :=
  match dispatchMessage env d.order
      { session := store, actorId := d.actorId } d.message with
  | .ok (_, store') => store'
  | .error _ => store

/-- The store after a sequence of messages on a new database. -/
def storeAfterMessages (env : Env) (deliveries : List Delivery) : Store :=
  Runs.run (deliver env) Store.empty deliveries

end Warehouse
