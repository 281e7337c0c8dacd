/-
Custodian ingest (`data/ingest/registry.py`, `data/ingest/runner.py`).

What a file parses to is the host's: the runner does the same with
whatever records or exception the custodian's parser comes back with.

A run's row is written before the file is touched; the same row becomes a
success or a failure. Tickers are looked up in the security master, and the
first unknown one ends the run.
-/
import Warehouse.Infra.Session

namespace Warehouse

open Lib

/-- A `pathlib.Path`: its text and its last component. -/
structure Path where
  text : String
  name : String
  deriving DecidableEq

/-- One parsed line of a custodian's file. -/
structure CustodianPositionRecord where
  accountId : String
  ticker : String
  quantity : ℚ
  asOfDate : Date
  deriving DecidableEq

/-- What a custodian's parser is. -/
abbrev ParserFn := Path → Except Exc (List CustodianPositionRecord)

/-- The file system and the engine: what the parsers and the sandbox copy
come back with, and whether a flush goes through. -/
structure Host where
  parseCustodianCsv : ParserFn
  parseFidelityCsv : ParserFn
  copyToResearchSandbox : Path → Except Exc Path
  flush : Store → Option Exc

/-- The two registered custodians. -/
def parserRegistry (host : Host) : List (String × ParserFn) :=
  [("custodian_schwab", host.parseCustodianCsv),
   ("custodian_fidelity", host.parseFidelityCsv)]

/-- `get_parser`: an unknown custodian names the known ones. -/
def getParser (host : Host) (custodianId : String) : Except Exc ParserFn :=
  match (parserRegistry host).lookup custodianId with
  | none =>
      let known := ", ".intercalate
        (((parserRegistry host).map Prod.fst).insertionSort (· ≤ ·))
      .error (.valueError ("Unknown custodian " ++ reprText custodianId
        ++ " — known: " ++ known))
  | some parser => .ok parser

/-- `session.flush()`. -/
def Session.flush (host : Host) : Session Unit :=
  Work.call fun store =>
    match host.flush store with
    | none => (.ok (), store)
    | some err => (.error err, store)

/-- The security a ticker stands for; an unknown one is refused. -/
def tickerToSecurityId (ticker : String) : Session String := do
  let store ← get
  match store.securities.find? (·.ticker = some ticker) with
  | none => throw (.valueError ("Unknown ticker " ++ reprText ticker
      ++ " — add to security master first"))
  | some row => return row.securityId

/-- One custodian record, resolved and added. -/
def addPosition (runId : String) (record : CustodianPositionRecord) :
    Session PUnit := do
  let securityId ← tickerToSecurityId record.ticker
  modify fun store => { store with
    custodianPositions := store.custodianPositions ++
      [{ ingestRunId := runId
         accountId := record.accountId
         securityId := securityId
         quantity := record.quantity
         asOfDate := record.asOfDate }] }

/-- Attributes of the run's row. -/
def updateIngestRun (runId : String)
    (f : IngestRunRow → IngestRunRow) : Session PUnit :=
  modify fun store => { store with
    ingestRuns := store.ingestRuns.map fun row =>
      if row.runId = runId then f row else row }

/-- What an ingest answers with. -/
structure IngestRunSummary where
  runId : String
  custodianId : String
  fileName : String
  status : IngestStatus
  startedAt : DateTime
  finishedAt : Option DateTime
  rowsProcessed : Nat
  errorMessage : Option String := none
  deriving DecidableEq

/-- The work the runner guards: parse, resolve, add, audit. -/
def ingestRecords (env : Env) (host : Host) (path : Path)
    (custodianId actorId : String) (householdId : Option String)
    (runId : String) : Session (Nat × DateTime) := do
  let parser ← liftExcept (getParser host custodianId)
  let records ← liftExcept (parser path)
  records.forM (addPosition runId)
  let finished ← Session.clock env
  updateIngestRun runId fun run => { run with
    status := .success
    rowsProcessed := records.length
    finishedAt := some finished }
  Session.writeAudit env actorId "ingest_complete" "ingest_run" runId
    householdId
    [("file", path.name), ("rows", toString records.length)]
  return (records.length, finished)

/-- The handler: mark the run, audit the failure, re-raise. -/
def ingestFailed (env : Env) (path : Path) (actorId : String)
    (householdId : Option String) (runId : String) {α : Type} (err : Exc) :
    Session α := do
  let finished ← Session.clock env
  updateIngestRun runId fun run => { run with
    status := .error
    errorMessage := some err.str
    finishedAt := some finished }
  Session.writeAudit env actorId "ingest_failed" "ingest_run" runId
    householdId [("file", path.name), ("error", err.str)]
  throw err

/-- `run_custodian_ingest`: the run row, one position row a line, one audit row;
a failure is written down before it is raised again. -/
def runCustodianIngest (env : Env) (host : Host) (path : Path)
    (custodianId : String := "custodian_schwab")
    (actorId : String := "system:ingest")
    (householdId : Option String := none) : Session IngestRunSummary := do
  let runId ← Session.freshId env "ingest"
  let started ← Session.clock env
  modify fun store => { store with
    ingestRuns := store.ingestRuns ++
      [{ runId := runId
         custodianId := custodianId
         fileName := path.name
         status := .running
         startedAt := started
         rowsProcessed := 0 }] }
  Session.flush host
  let (rows, finished) ←
    tryCatch (ingestRecords env host path custodianId actorId householdId runId)
      (ingestFailed env path actorId householdId runId)
  return {
    runId := runId
    custodianId := custodianId
    fileName := path.name
    status := .success
    startedAt := started
    finishedAt := some finished
    rowsProcessed := rows }

end Warehouse
