/-
OMS — stage orders from approved optimizations, route execution state
(`execution/oms/service.py`).

A view carries its row's fields, the quantity as its text; the services
return the row.

Staging looks at the approval, then at the orders it already has, and stages
one order a trade otherwise; an answer for a staged approval is the
household's listing. Orders move along the edges of `allowedTransitions`,
and a repeated cancellation reads.
-/
import Warehouse.Decision.Approval
import Warehouse.Messaging.Core

namespace Warehouse

/-- `_ALLOWED_TRANSITIONS`. -/
def allowedTransitions : OrderStatus → List OrderStatus
  | .staged => [.submitted, .cancelled]
  | .submitted => [.filled, .cancelled]
  | .filled => []
  | .cancelled => [.cancelled]

/-- The message `OrderTransitionError` builds. -/
def orderTransitionError (orderId : String) (fromStatus toStatus : OrderStatus)
    (operation : Option String := none) : Exc :=
  match operation with
  | some operation =>
      .orderTransition ("Cannot " ++ operation ++ " order " ++ orderId
        ++ " in status '" ++ fromStatus.value ++ "'")
  | none =>
      .orderTransition ("Illegal order status transition for " ++ orderId
        ++ ": " ++ fromStatus.value ++ " → " ++ toStatus.value)

/-- Raise when `toStatus` is not an allowed edge. -/
def validateOrderTransition (orderId : String)
    (fromStatus toStatus : OrderStatus) : Except Exc Unit :=
  if toStatus ∉ allowedTransitions fromStatus then
    .error (orderTransitionError orderId fromStatus toStatus)
  else .ok ()

/-- Newest first; `householdId` filters only when it is neither `None` nor
empty. The engine breaks ties of `createdAt` as it likes. -/
def listStagedOrders (order : RowOrder) (store : Store)
    (householdId : Option String := none)
    (status : Option OrderStatus := none) (limit : Nat := 50) :
    List StagedOrderRow :=
  let rows := store.stagedOrders.filter fun row =>
    (!truthy householdId || householdId = some row.householdId)
      && (status.isNone || status = some row.status)
  ((order.orders rows).insertionSort fun a b =>
    b.createdAt ≤ a.createdAt).take limit

/-- The loop body: one order per trade. -/
def stageTrade (env : Env) (approval : ApprovalRequestRow) (runId : String)
    (now : DateTime) (st : List StagedOrderRow × Store)
    (trade : OptimizationTradeRow) : List StagedOrderRow × Store :=
  let row : StagedOrderRow :=
    { orderId := env.freshId "ord" st.2
      approvalRequestId := approval.requestId
      optimizationRunId := runId
      householdId := approval.householdId
      lotId := trade.lotId
      securityId := trade.securityId
      accountId := trade.accountId
      side := trade.side
      quantity := trade.quantity
      status := .staged
      createdAt := now
      updatedAt := now }
  let store := st.2.drawn
  (st.1 ++ [row],
    { store with stagedOrders := store.stagedOrders ++ [row] })

/-- The orders an approval already has, in the order the engine returns
them. -/
def existingOrders (order : RowOrder) (store : Store)
    (approvalRequestId : String) : List StagedOrderRow :=
  order.orders (store.stagedOrders.filter
    (·.approvalRequestId = approvalRequestId))

/-- `stage_orders_from_approval`: an unapproved request is refused, a staged one
answers with the household's orders. -/
def stageOrdersFromApproval (env : Env) (order : RowOrder) (store : Store)
    (approvalRequestId : String) (actorId : String := "system:oms") :
    Except Exc (List StagedOrderRow × Store) :=
  match store.approval? approvalRequestId with
  | none =>
      .error (.valueError ("Approval request not found: "
        ++ approvalRequestId))
  | some approval =>
      -- human approval gate
      if approval.status ≠ .approved then
        .error (.valueError ("Cannot stage orders for " ++ approvalRequestId
          ++ ": approval status is '" ++ approval.status.value
          ++ "', expected '" ++ ApprovalStatus.approved.value ++ "'"))
      else
        match approval.optimizationRunId with
        | none =>
            .error (.valueError ("Cannot stage orders for "
              ++ approvalRequestId ++ ": approval subject is '"
              ++ approval.subjectType.value ++ "', not an optimization run"))
        | some runId =>
            let existing := (existingOrders order store
              approvalRequestId).head?.map (·.orderId)
            if truthy existing then
              .ok (listStagedOrders order store (some approval.householdId),
                store)
            else
              let trades := order.trades
                (store.optimizationTrades.filter (·.runId = runId))
              let now := env.clock store
              let (views, store) := trades.foldl
                (stageTrade env approval runId now) ([], store.ticked)
              .ok (views, writeAudit env store actorId "orders_staged"
                "approval_request" approvalRequestId
                (some approval.householdId)
                [("orders", toString views.length)])

/-- Replace the order row under an order id. -/
def Store.setOrder (store : Store) (row : StagedOrderRow) : Store :=
  { store with
    stagedOrders := store.stagedOrders.map fun other =>
      if other.orderId = row.orderId then row else other }

/-- `session.get(StagedOrderRow, order_id)`. -/
def Store.order? (store : Store) (orderId : String) :
    Option StagedOrderRow :=
  store.stagedOrders.find? (·.orderId = orderId)

/-- The `order.filled` event of an order. -/
def orderFilled (row : StagedOrderRow) : Event where
  op := "order.filled"
  payload := .orderFilled row.householdId row.orderId
  correlationId := row.approvalRequestId
  householdId := some row.householdId

/-- The result beside the session as it stands when the call returns or
raises: nothing here undoes a write. -/
def updateOrderStatus (env : Env) (store : Store) (orderId : String)
    (status : OrderStatus) (actorId : String := "system:oms") :
    Except Exc StagedOrderRow × Store :=
  match store.order? orderId with
  | none => (.error (.valueError ("Order not found: " ++ orderId)), store)
  | some row =>
      let fromStatus := row.status
      if fromStatus = status then
        -- a repeated cancel is an idempotent read
        if fromStatus = .cancelled then (.ok row, store)
        else (.error (orderTransitionError orderId fromStatus status), store)
      else
        match validateOrderTransition orderId fromStatus status with
        | .error e => (.error e, store)
        | .ok () =>
            let row := { row with
              status := status
              updatedAt := env.clock store }
            let store := writeAudit env (store.ticked.setOrder row) actorId
              ("order_" ++ status.value) "staged_order" orderId
              (some row.householdId)
              [("approval_request_id", row.approvalRequestId)]
            let store :=
              if status = .filled then emitEvent env store (orderFilled row)
              else store
            (.ok row, store)

end Warehouse
