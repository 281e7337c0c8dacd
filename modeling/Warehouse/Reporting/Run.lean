/-
The operations that build, approve and deliver reports, and runs of them.

A command with a session runs in its scope; `report pdf` has none. No
code resolves a reconciliation break: `resolveBreak` is the operator's
update of its row.
-/
import Warehouse.Lib.Runs
import Warehouse.Workflows.MonthEnd

namespace Warehouse

open Lib

/-- What the report service is asked to do. -/
inductive ReportOp where
  | build (today : Date) (householdId : String) (periodLabel : Option String)
      (asOfDate : Option Date) (actorId : String)
  | monthEnd (today : Date) (asOfDate : Option Date)
      (periodLabel : Option String) (householdIds : Option (List String))
      (actorId : String)
  | createApproval (reportSnapshotId householdId : String)
  | decide (requestId : String) (status : ApprovalStatus) (reviewerId : String)
  | reconcile (ingestRunId actorId : String) (householdId : Option String)
  | resolveBreak (breakId : String) (resolvedAt : DateTime)
  | approve (householdId snapshotId reviewerId : String)
  | pdf (target : PdfTarget)

/-- The break's row marked resolved. -/
def resolveBreak (breakId : String) (resolvedAt : DateTime) :
    Session PUnit :=
  modify fun store => { store with
    reconciliationBreaks := store.reconciliationBreaks.map fun row =>
      if row.breakId = breakId then
        { row with resolved := true, resolvedAt := some resolvedAt }
      else row }

variable {A R : Type}

/-- The site after an operation, whether or not it raised. -/
def execReport (cfg : ReportSetting A R) (site : Site A R) :
    ReportOp → Site A R
  | .build today householdId periodLabel asOfDate actorId =>
      (siteScope (buildAndWriteHouseholdReports cfg today householdId
        periodLabel asOfDate actorId) site).2
  | .monthEnd today asOfDate periodLabel householdIds actorId =>
      (siteScope (runMonthEndReportingBatch cfg today asOfDate periodLabel
        householdIds actorId) site).2
  | .createApproval reportSnapshotId householdId =>
      (siteScope (onStore (Work.call fun store =>
        (.ok (), (createReportApprovalRequest cfg.env store reportSnapshotId
          householdId).2))) site).2
  | .decide requestId status reviewerId =>
      (siteScope (onStore (Work.attempt fun store =>
        updateApprovalStatus cfg.env store requestId status reviewerId))
        site).2
  | .reconcile ingestRunId actorId householdId =>
      (siteScope (onStore (Work.attempt fun store =>
        reconcileIngest cfg.env store ingestRunId actorId householdId))
        site).2
  | .resolveBreak breakId resolvedAt =>
      (siteScope (onStore (resolveBreak breakId resolvedAt)) site).2
  | .approve householdId snapshotId reviewerId =>
      (siteScope (approveAndRenderReport cfg householdId snapshotId reviewerId)
        site).2
  | .pdf target => ((reportPdf cfg target).exec site).2

/-- The site after a sequence of operations. -/
def siteAfter (cfg : ReportSetting A R) (site : Site A R)
    (ops : List ReportOp) : Site A R :=
  Runs.run (execReport cfg) site ops

end Warehouse
