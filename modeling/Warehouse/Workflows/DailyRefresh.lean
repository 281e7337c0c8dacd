/-
Daily refresh — custodian → reconcile → lots → corp actions → exceptions
(`workflows/daily_refresh.py`).

A nested dispatch in this workflow is the handler's call: the ops are
registered, the payloads are of their types, and the notes dispatch adds
to an exception are not in its text.
-/
import Warehouse.Data.Ingest
import Warehouse.Execution.Reconciliation
import Warehouse.Messaging.Core

namespace Warehouse

open Lib

/-- One step as the refresh answers with it. -/
structure RefreshStepView where
  stepName : String
  status : RefreshStatus
  startedAt : DateTime
  finishedAt : Option DateTime
  detail : Option String
  errorMessage : Option String
  deriving DecidableEq

/-- What a refresh answers with. -/
structure DailyRefreshResult where
  runId : String
  householdId : String
  status : RefreshStatus
  startedAt : DateTime
  finishedAt : Option DateTime
  ingestRunId : Option String
  steps : List RefreshStepView
  deriving DecidableEq

/-- A step's row, running. -/
def startStep (env : Env) (host : Host) (refreshRunId stepName : String) :
    Session DailyRefreshStepRow := do
  let started ← Session.clock env
  let step : DailyRefreshStepRow :=
    { refreshRunId := refreshRunId
      stepName := stepName
      status := .running
      startedAt := started }
  modify fun store => { store with
    dailyRefreshSteps := store.dailyRefreshSteps ++ [step] }
  Session.flush host
  return step

/-- The step's row as it ends; a run has one step of each name. -/
def finishStep (env : Env) (step : DailyRefreshStepRow) (detail : String) :
    Session RefreshStepView := do
  let finished ← Session.clock env
  let done := { step with
    status := RefreshStatus.success
    finishedAt := some finished
    detail := some detail
    errorMessage := none }
  modify fun store => { store with
    dailyRefreshSteps := store.dailyRefreshSteps.map fun row =>
      if row.refreshRunId = step.refreshRunId ∧ row.stepName = step.stepName
      then done else row }
  return {
    stepName := done.stepName
    status := done.status
    startedAt := done.startedAt
    finishedAt := done.finishedAt
    detail := done.detail
    errorMessage := done.errorMessage }

/-- `emit_event(ctx, Message(...))` with the run's correlation id. -/
def emit (env : Env) (runId householdId op : String)
    (payload : EventPayload) : Session PUnit :=
  modify fun store => emitEvent env store
    { op := op
      payload := payload
      correlationId := runId
      householdId := some householdId }

/-- The custodian file to read: a copy under the research sandbox, or the
file itself. -/
def refreshPath (host : Host) (custodianFile : Path)
    (useResearchSandbox : Bool) : Session Path :=
  if useResearchSandbox then
    liftExcept (host.copyToResearchSandbox custodianFile)
  else return custodianFile

/-- The first step: the custodian's file, ingested. -/
def refreshIngest (env : Env) (host : Host) (ingestPath : Path)
    (householdId custodianId actorId runId : String) :
    Session (String × RefreshStepView) := do
  let step ← startStep env host runId "custodian_ingest"
  let ingest ← runCustodianIngest env host ingestPath custodianId actorId
    (some householdId)
  emit env runId householdId "ingest.completed"
    (.ingestCompleted householdId ingest.runId ingest.rowsProcessed)
  let view ← finishStep env step
    (toString ingest.rowsProcessed ++ " rows from " ++ ingest.fileName)
  return (ingest.runId, view)

/-- The second step: the ledger against what was ingested. -/
def refreshReconcile (env : Env) (host : Host) (householdId actorId runId
    ingestRunId : String) :
    Session (List ReconciliationBreakRow × RefreshStepView) := do
  let step ← startStep env host runId "reconcile"
  let breaks ← Work.attempt fun store =>
    reconcileIngest env store ingestRunId actorId (some householdId)
  breaks.forM fun brk => emit env runId householdId "break.opened"
    (.breakOpened householdId brk.breakId)
  let view ← finishStep env step (toString breaks.length ++ " break(s)")
  return (breaks, view)

/-- A step that does nothing but be recorded. -/
def refreshNoop (env : Env) (host : Host) (runId stepName detail : String) :
    Session RefreshStepView := do
  let step ← startStep env host runId stepName
  finishStep env step detail

/-- Attributes of the refresh's row. -/
def updateRefreshRun (runId : String) (status : RefreshStatus)
    (finished : DateTime) : Session PUnit :=
  modify fun store => { store with
    dailyRefreshRuns := store.dailyRefreshRuns.map fun row =>
      if row.runId = runId then
        { row with status := status, finishedAt := some finished }
      else row }

/-- The work the refresh guards: its five steps. -/
def refreshSteps (env : Env) (host : Host) (ingestPath : Path)
    (householdId custodianId actorId runId : String)
    (started : DateTime) : Session DailyRefreshResult := do
  let (ingestRunId, ingested) ← refreshIngest env host ingestPath householdId
    custodianId actorId runId
  let (breaks, reconciled) ← refreshReconcile env host householdId actorId
    runId ingestRunId
  let lots ← refreshNoop env host runId "update_lots"
    "Lot ledger unchanged (positions-first v0)"
  let actions ← refreshNoop env host runId "corporate_actions"
    "No corporate actions applied"
  let queue ← refreshNoop env host runId "exception_queue"
    (toString breaks.length ++ " open break(s) in queue")
  let status :=
    if breaks.length = 0 then RefreshStatus.success
    else RefreshStatus.completedWithBreaks
  let finished ← Session.clock env
  updateRefreshRun runId status finished
  Session.writeAudit env actorId "daily_refresh_complete" "daily_refresh_run"
    runId (some householdId)
    [("ingest_run_id", ingestRunId), ("breaks", toString breaks.length)]
  return {
    runId := runId
    householdId := householdId
    status := status
    startedAt := started
    finishedAt := some finished
    ingestRunId := some ingestRunId
    steps := [ingested, reconciled, lots, actions, queue] }

/-- The handler: mark the refresh, audit the failure, re-raise. -/
def refreshFailed (env : Env) (householdId actorId runId : String)
    {α : Type} (err : Exc) : Session α := do
  let finished ← Session.clock env
  updateRefreshRun runId .error finished
  Session.writeAudit env actorId "daily_refresh_failed" "daily_refresh_run"
    runId (some householdId) [("error", err.str)]
  throw err

/-- `run_daily_refresh`: the steps in order; a failure marks the run and is
raised again. -/
def runDailyRefresh (env : Env) (host : Host) (custodianFile : Path)
    (householdId : String) (custodianId : String := "custodian_schwab")
    (actorId : String := "system:daily_refresh")
    (useResearchSandbox : Bool := true) : Session DailyRefreshResult := do
  let runId ← Session.freshId env "refresh"
  let started ← Session.clock env
  modify fun store => { store with
    dailyRefreshRuns := store.dailyRefreshRuns ++
      [{ runId := runId
         householdId := householdId
         status := .running
         startedAt := started }] }
  Session.flush host
  let ingestPath ← refreshPath host custodianFile useResearchSandbox
  tryCatch
    (refreshSteps env host ingestPath householdId custodianId actorId runId
      started)
    (refreshFailed env householdId actorId runId)

end Warehouse
