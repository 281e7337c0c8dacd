/-
Advisor approval workflow (`decision/approval/service.py`).

A view carries its row's fields, so the services return the row.

A request is opened on an optimization run or on a report snapshot and
decided once: a second decision raises. Opening and deciding write an audit
row each. Listings are sorted by creation, newest first, and the engine
decides between equals.
-/
import Warehouse.Infra.Audit

namespace Warehouse

/-- `session.get(ApprovalRequestRow, request_id)`. -/
def Store.approval? (store : Store) (requestId : String) :
    Option ApprovalRequestRow :=
  store.approvalRequests.find? (·.requestId = requestId)

/-- Stores a pending request under a fresh id. -/
def createApproval (env : Env) (store : Store) (householdId : String)
    (subjectType : ApprovalSubject) (subjectId : String)
    (optimizationRunId : Option String) : ApprovalRequestRow × Store :=
  let requestId := env.freshId "appr" store
  let row : ApprovalRequestRow :=
    { requestId := requestId
      subjectType := subjectType
      subjectId := some subjectId
      optimizationRunId := optimizationRunId
      householdId := householdId
      status := .pending
      createdAt := env.clock store }
  let store := store.drawn.ticked
  let store := { store with
    approvalRequests := store.approvalRequests ++ [row] }
  (row, writeAudit env store "system:approval" "approval_requested"
    "approval_request" requestId (some householdId)
    [("subject_type", subjectType.value), ("subject_id", subjectId)])

/-- Open an approval gate on an optimization run. -/
def createApprovalRequest (env : Env) (store : Store)
    (optimizationRunId householdId : String) : ApprovalRequestRow × Store :=
  createApproval env store householdId .optimization optimizationRunId
    (some optimizationRunId)

/-- Open an advisor sign-off gate on a report snapshot. -/
def createReportApprovalRequest (env : Env) (store : Store)
    (reportSnapshotId householdId : String) : ApprovalRequestRow × Store :=
  createApproval env store householdId .report reportSnapshotId none

/-- Status of the most recent request on a report snapshot, or `None`. -/
def reportApprovalStatus (order : ReportOrder) (store : Store)
    (reportSnapshotId : String) : Option ApprovalStatus :=
  let rows := store.approvalRequests.filter fun row =>
    row.subjectType = .report ∧ row.subjectId = some reportSnapshotId
  ((order.approvals rows).insertionSort fun a b =>
    b.createdAt ≤ a.createdAt).head?.map (·.status)

/-- Newest first. -/
def listApprovalRequests (order : ReportOrder) (store : Store)
    (householdId : Option String := none) (limit : Nat := 20) :
    List ApprovalRequestRow :=
  let rows := store.approvalRequests.filter fun row =>
    !truthy householdId || householdId = some row.householdId
  ((order.approvals rows).insertionSort fun a b =>
    b.createdAt ≤ a.createdAt).take limit

/-- Replace the approval row under a request id. -/
def Store.setApproval (store : Store) (row : ApprovalRequestRow) : Store :=
  { store with
    approvalRequests := store.approvalRequests.map fun other =>
      if other.requestId = row.requestId then row else other }

/-- `update_approval_status`: only a pending request is decided. -/
def updateApprovalStatus (env : Env) (store : Store) (requestId : String)
    (status : ApprovalStatus) (reviewerId : String) :
    Except Exc (ApprovalRequestRow × Store) :=
  match store.approval? requestId with
  | none =>
      .error (.valueError ("Approval request not found: " ++ requestId))
  | some row =>
      if row.status ≠ .pending then
        .error (.valueError ("Approval request " ++ requestId
          ++ " is already " ++ row.status.value))
      else
        let row := { row with
          status := status
          reviewerId := some reviewerId
          reviewedAt := some (env.clock store) }
        .ok (row, writeAudit env (store.ticked.setApproval row) reviewerId
          ("approval_" ++ status.value) "approval_request" requestId
          (some row.householdId)
          [("subject_type", row.subjectType.value),
           ("subject_id", row.subjectId.getD "")])

end Warehouse
