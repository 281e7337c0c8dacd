/-
The whole op catalog and its dispatch (`messaging/handlers.py`,
`messaging/core.py`, `messaging/models.py`, `messaging/payloads.py`).

A handler is work on the site: nothing in its type keeps it from writing.
A context says whether it carries a session; the session is the site's
database. The notes dispatch adds to an exception are left out.

`Messaging/Handlers.lean` has the four ops a staged order goes through,
under a session. The catalog runs the same handlers.

# What a handler computes with

Payloads carry positions, policies and manifests, so an evaluation needs no
store. What lies outside both (the settings and planes of reporting, the
file system, the exports, the risk runtime, the root of a float and today's
date) is a field of `Outside`. A handler that needs the session asks for it
and raises on a context without one.

# Dispatch

A message is routed by its op. Its body's type is compared with the
registered one; its kind is compared with nothing.
-/
import Warehouse.Data.Fiij
import Warehouse.Data.Ingest
import Warehouse.Decision.Beliefs
import Warehouse.Messaging.Advice
import Warehouse.Messaging.Handlers
import Warehouse.Reporting.Writer
import Warehouse.Research.Stats

namespace Warehouse

-- ================================================================== payloads

/-- What `ledger.positions` is asked with. -/
structure LedgerPositionsPayload where
  householdId : String

/-- What `trade.validate` is asked with: one lot and the policy. -/
structure TradeValidatePayload where
  lot : LotPositionView
  ips : InvestmentPolicyStatement

/-- What `ingest.run` is asked with: whose file, and where it is. -/
structure IngestRunPayload where
  householdId : String
  custodianId : String
  path : String

/-- What `ledger.reconcile` is asked with. -/
structure ReconcilePayload where
  householdId : String
  ingestRunId : String

/-- What `beliefs.update` is asked with: a book and the views on it. -/
structure BeliefsUpdatePayload where
  book : PmAdvisePayload
  views : List (View IpsSleeve) := []

/-- What `fiij.ingest` is asked with; without a path the settings' own export is
read. -/
structure FiijIngestPayload where
  asOfDate : Date
  exportPath : Option String := none

/-- What `stats.daily` is asked with: a book and its price history. -/
structure StatsDailyPayload where
  book : PmAdvisePayload
  priceHistory : List PriceObservation := []
  asOfDate : Date

/-- What `report.build` is asked with. -/
structure ReportBuildPayload where
  householdId : String
  periodLabel : Option String := none
  asOfDate : Option Date := none

namespace Catalog

open Lib

/-- The classes of request bodies. -/
inductive PayloadType where
  | ledgerPositions
  | riskEvaluate
  | policyCheck
  | optimize
  | tradeValidate
  | taxScenario
  | attributionEvaluate
  | pmAdvise
  | beliefsUpdate
  | fiijIngest
  | statsDaily
  | ingestRun
  | reconcile
  | optimizerPersist
  | approvalCreate
  | approvalDecide
  | ordersStage
  | reportBuild
  deriving DecidableEq, Repr

/-- The payload class's own name, as the discovery catalogue lists it. -/
def PayloadType.name : PayloadType → String
  | ledgerPositions => "LedgerPositionsPayload"
  | riskEvaluate => "RiskEvaluatePayload"
  | policyCheck => "PolicyCheckPayload"
  | optimize => "OptimizePayload"
  | tradeValidate => "TradeValidatePayload"
  | taxScenario => "TaxScenarioPayload"
  | attributionEvaluate => "AttributionEvaluatePayload"
  | pmAdvise => "PmAdvisePayload"
  | beliefsUpdate => "BeliefsUpdatePayload"
  | fiijIngest => "FiijIngestPayload"
  | statsDaily => "StatsDailyPayload"
  | ingestRun => "IngestRunPayload"
  | reconcile => "ReconcilePayload"
  | optimizerPersist => "OptimizerPersistPayload"
  | approvalCreate => "ApprovalCreatePayload"
  | approvalDecide => "ApprovalDecidePayload"
  | ordersStage => "OrdersStagePayload"
  | reportBuild => "ReportBuildPayload"

/-- The bodies of a class. -/
abbrev PayloadType.Body : PayloadType → Type
  | ledgerPositions => LedgerPositionsPayload
  | riskEvaluate => RiskEvaluatePayload
  | policyCheck => PolicyCheckPayload
  | optimize => OptimizePayload
  | tradeValidate => TradeValidatePayload
  | taxScenario => TaxScenarioPayload
  | attributionEvaluate => AttributionEvaluatePayload
  | pmAdvise => PmAdvisePayload
  | beliefsUpdate => BeliefsUpdatePayload
  | fiijIngest => FiijIngestPayload
  | statsDaily => StatsDailyPayload
  | ingestRun => IngestRunPayload
  | reconcile => ReconcilePayload
  | optimizerPersist => OptimizerPersistPayload
  | approvalCreate => ApprovalCreatePayload
  | approvalDecide => ApprovalDecidePayload
  | ordersStage => OrdersStagePayload
  | reportBuild => ReportBuildPayload

/-- Any `BaseModel`: a request body of the catalog, or another model. -/
inductive Payload where
  | body (type : PayloadType) (value : type.Body)
  | other (typeName : String)

/-- `type(payload).__name__`. -/
def Payload.typeName : Payload → String
  | body type _ => type.name
  | other typeName => typeName

/-- `isinstance(payload, payload_type)`, with the body. -/
def Payload.as? (expected : PayloadType) : Payload → Option expected.Body
  | body type value =>
      if h : type = expected then some (h ▸ value) else none
  | other _ => none

-- ================================================================== envelope

/-- The request taxonomy. -/
inductive Kind where
  | query
  | evaluate
  | command
  | event
  deriving DecidableEq, Repr

/-- Wire envelope. -/
structure Message where
  op : String
  kind : Kind
  payload : Payload
  correlationId : String
  householdId : Option String := none

/-- Unit of work for a dispatch. -/
structure DispatchContext where
  hasSession : Bool := false
  actorId : String := "system:messaging"
  correlationId : String := ""

/-- The result bodies. -/
inductive Reply where
  | positionSet (positions : List LotPositionView)
  | riskResult (result : RiskResult)
  | ipsDriftReport (report : IpsDriftReport)
  | optimizationResult (result : OptimizationResult)
  | tradeValidation (allowed : Bool) (binding : List String)
  | taxScenarioResult (result : TaxScenarioResult)
  | attributionReport (report : AttributionReport)
  | adviceBundle (bundle : AdviceBundle)
  | beliefUpdate (update : BeliefUpdate)
  | fiijSnapshot (snapshot : FiijFinanceViewSnapshot)
  | dailyStatsReport (report : DailyStatsReport)
  | ingestRunSummary (summary : IngestRunSummary)
  | reconcileResult (breaks : List ReconciliationBreakRow)
  | optimizationRun (view : OptimizationRunRow)
  | approvalRequest (view : ApprovalRequestRow)
  | stagedOrders (orders : List StagedOrderRow)
  | writtenReport (report : WrittenHouseholdReport)

variable {A R : Type}

/-- What the composition root runs on: the report setting (with the
database's outside and the application settings), the file system and the
parsers, the FIIJ exports, the risk runtime, `math.sqrt` and the date. -/
structure Outside (A R : Type) where
  report : ReportSetting A R
  host : Host
  fiij : FiijHost
  risk : RiskRuntime
  sqrt : ℚ → ℚ
  today : Date

/-- Return the session, or raise on a pure leg. -/
def DispatchContext.requireSession (ctx : DispatchContext) :
    SiteWork A R PUnit :=
  if ctx.hasSession then pure ⟨⟩
  else throw (.valueError ("DispatchContext has no session: a stored-state "
    ++ "handler was reached on a session-less (pure) leg (actor="
    ++ ctx.actorId ++ ", correlation_id=" ++ reprText ctx.correlationId
    ++ ")."))

/-- A service called with the session. -/
def inSession {α : Type} (ctx : DispatchContext) (body : Session α) :
    SiteWork A R α := do
  ctx.requireSession
  onStore body

variable (out : Outside A R)

-- ===================================================================== query

/-- `ledger.positions`: the household's lots, in a session. -/
def ledgerPositions (ctx : DispatchContext) (p : LedgerPositionsPayload) :
    SiteWork A R Reply := do
  ctx.requireSession
  let site ← get
  return .positionSet (listLotPositions out.report.order.lots site.store
    (some p.householdId))

-- ================================================================== evaluate

/-- `risk.evaluate`: no session is asked for. -/
def riskEvaluate (_ : DispatchContext) (p : RiskEvaluatePayload) :
    SiteWork A R Reply := do
  return .riskResult (← liftExcept (Warehouse.riskEvaluate out.risk p))

/-- `policy.check`: the drift report, which cannot fail. -/
def policyCheck (_ : DispatchContext) (p : PolicyCheckPayload) :
    SiteWork A R Reply :=
  return .ipsDriftReport (Warehouse.policyCheck p)

/-- `optimizer.propose`: a proposal, persisted by nobody. -/
def optimizerPropose (_ : DispatchContext) (p : OptimizePayload) :
    SiteWork A R Reply := do
  return .optimizationResult (← liftExcept
    (Warehouse.optimizerPropose out.report.settings out.today p))

/-- `trade.validate`: may this lot be sold, and what binds if not. -/
def tradeValidate (_ : DispatchContext) (p : TradeValidatePayload) :
    SiteWork A R Reply :=
  let (allowed, binding) := evaluateLotSellAllowed p.lot p.ips
  return .tradeValidation allowed binding

/-- `tax.scenario`: the scenario's figures, persisted by nobody. -/
def taxScenario (_ : DispatchContext) (p : TaxScenarioPayload) :
    SiteWork A R Reply :=
  return .taxScenarioResult (Warehouse.taxScenario p)

/-- `attribution.evaluate`: the report of one pair of books. -/
def attributionEvaluate (_ : DispatchContext)
    (p : AttributionEvaluatePayload) : SiteWork A R Reply := do
  return .attributionReport (← liftExcept (Warehouse.attributionEvaluate
    out.risk.decimal out.report.settings out.today p))

/-- `beliefs.update`: the posterior and the proposal it leads to. -/
def beliefsUpdate (ctx : DispatchContext) (p : BeliefsUpdatePayload) :
    SiteWork A R Reply := do
  return .beliefUpdate (← liftExcept (updateBeliefs out.report.settings
    out.today p.book p.views ctx.correlationId none))

/-- `fiij.ingest`: the snapshot read from the export. -/
def fiijIngest (_ : DispatchContext) (p : FiijIngestPayload) :
    SiteWork A R Reply := do
  return .fiijSnapshot (← liftExcept (loadFiijSnapshot out.fiij
    out.report.settings p.asOfDate p.exportPath))

/-- `stats.daily`: the statistics of one day. -/
def statsDaily (_ : DispatchContext) (p : StatsDailyPayload) :
    SiteWork A R Reply := do
  return .dailyStatsReport (← liftExcept (Warehouse.statsDaily out.sqrt
    out.report.settings p.book p.asOfDate p.priceHistory))

/-- The composite over the legs, each a nested dispatch of its op. -/
def pmAdvise (ctx : DispatchContext) (p : PmAdvisePayload) :
    SiteWork A R Reply := do
  return .adviceBundle (← liftExcept (Warehouse.pmAdvise out.risk
    out.report.settings ctx.correlationId out.today p))

-- =================================================================== command

/-- The root of a POSIX path: two slashes, and no more, are kept. -/
def pathRoot (text : String) : String :=
  if text.startsWith "///" then "/"
  else if text.startsWith "//" then "//"
  else if text.startsWith "/" then "/"
  else ""

/-- `Path(text)`. -/
def pathOf (text : String) : Path :=
  let parts := (text.splitOn "/").filter fun part => part ≠ "" ∧ part ≠ "."
  let shown := pathRoot text ++ "/".intercalate parts
  { text := if shown = "" then "." else shown
    name := parts.getLast?.getD "" }

/-- `ingest.run`, in the caller's session. -/
def ingestRun (ctx : DispatchContext) (p : IngestRunPayload) :
    SiteWork A R Reply := do
  return .ingestRunSummary (← inSession ctx (runCustodianIngest
    out.report.env out.host (pathOf p.path) p.custodianId ctx.actorId
    (some p.householdId)))

/-- `ledger.reconcile`, in the caller's session. -/
def ledgerReconcile (ctx : DispatchContext) (p : ReconcilePayload) :
    SiteWork A R Reply := do
  return .reconcileResult (← inSession ctx (Work.attempt fun store =>
    reconcileIngest out.report.env store p.ingestRunId ctx.actorId
      (some p.householdId)))

/-- The handler's context in `Messaging/Handlers.lean`. -/
def DispatchContext.on (ctx : DispatchContext) (store : Store) :
    Warehouse.DispatchContext where
  session := store
  actorId := ctx.actorId

/-- `optimizer.persist`: one run row, in the caller's session. -/
def optimizerPersist (ctx : DispatchContext) (p : OptimizerPersistPayload) :
    SiteWork A R Reply := do
  return .optimizationRun (← inSession ctx (Work.attempt fun store =>
    .ok (Warehouse.optimizerPersist out.report.env (ctx.on store) p)))

/-- `approval.create`: one pending request, in the caller's session. -/
def approvalCreate (ctx : DispatchContext) (p : ApprovalCreatePayload) :
    SiteWork A R Reply := do
  return .approvalRequest (← inSession ctx (Work.attempt fun store =>
    .ok (Warehouse.approvalCreate out.report.env (ctx.on store) p)))

/-- `approval.decide`: the gate of the pending request. -/
def approvalDecide (ctx : DispatchContext) (p : ApprovalDecidePayload) :
    SiteWork A R Reply := do
  return .approvalRequest (← inSession ctx (Work.attempt fun store =>
    Warehouse.approvalDecide out.report.env (ctx.on store) p))

/-- `orders.stage`: the orders of an approved request. -/
def ordersStage (ctx : DispatchContext) (p : OrdersStagePayload) :
    SiteWork A R Reply := do
  return .stagedOrders (← inSession ctx (Work.attempt fun store =>
    Warehouse.ordersStage out.report.env out.report.order.toRowOrder
      (ctx.on store) p))

/-- `report.build`: the household's pack, built and written. -/
def reportBuild (ctx : DispatchContext) (p : ReportBuildPayload) :
    SiteWork A R Reply := do
  ctx.requireSession
  return .writtenReport (← buildAndWriteHouseholdReports out.report out.today
    p.householdId p.periodLabel p.asOfDate ctx.actorId)

-- ================================================================== registry

/-- An entry of the registry. -/
structure Registration (A R : Type) where
  op : String
  payloadType : PayloadType
  handler : DispatchContext → payloadType.Body → SiteWork A R Reply
  kind : Kind

/-- Register the single handler for an op; re-registration raises. -/
def register (registry : List (Registration A R)) (entry : Registration A R) :
    Except Exc (List (Registration A R)) :=
  if entry.op ∈ registry.map (·.op) then
    .error (.valueError ("op already registered: " ++ entry.op))
  else .ok (registry ++ [entry])

/-- The registrations of the composition root, in its order. -/
def registrations : List (Registration A R) :=
  [{ op := "ledger.positions", payloadType := .ledgerPositions
     handler := ledgerPositions out, kind := .query },
   { op := "risk.evaluate", payloadType := .riskEvaluate
     handler := riskEvaluate out, kind := .evaluate },
   { op := "policy.check", payloadType := .policyCheck
     handler := policyCheck, kind := .evaluate },
   { op := "optimizer.propose", payloadType := .optimize
     handler := optimizerPropose out, kind := .evaluate },
   { op := "trade.validate", payloadType := .tradeValidate
     handler := tradeValidate, kind := .evaluate },
   { op := "tax.scenario", payloadType := .taxScenario
     handler := taxScenario, kind := .evaluate },
   { op := "attribution.evaluate", payloadType := .attributionEvaluate
     handler := attributionEvaluate out, kind := .evaluate },
   { op := "pm.advise", payloadType := .pmAdvise
     handler := pmAdvise out, kind := .evaluate },
   { op := "beliefs.update", payloadType := .beliefsUpdate
     handler := beliefsUpdate out, kind := .evaluate },
   { op := "ingest.fiij", payloadType := .fiijIngest
     handler := fiijIngest out, kind := .evaluate },
   { op := "stats.daily", payloadType := .statsDaily
     handler := statsDaily out, kind := .evaluate },
   { op := "ingest.run", payloadType := .ingestRun
     handler := ingestRun out, kind := .command },
   { op := "ledger.reconcile", payloadType := .reconcile
     handler := ledgerReconcile out, kind := .command },
   { op := "optimizer.persist", payloadType := .optimizerPersist
     handler := optimizerPersist out, kind := .command },
   { op := "approval.create", payloadType := .approvalCreate
     handler := approvalCreate out, kind := .command },
   { op := "approval.decide", payloadType := .approvalDecide
     handler := approvalDecide out, kind := .command },
   { op := "orders.stage", payloadType := .ordersStage
     handler := ordersStage out, kind := .command },
   { op := "report.build", payloadType := .reportBuild
     handler := reportBuild out, kind := .command }]

/-- `REGISTRY`, by op. -/
def registered (op : String) : Option (Registration A R) :=
  (registrations out).find? (·.op = op)

/-- Route a message to its handler, or raise. The registered kind is looked
up and not read, and neither is the message's. -/
def dispatchMessage (ctx : DispatchContext) (msg : Message) :
    SiteWork A R Reply :=
  match registered out msg.op with
  | none => throw (.keyError ("unknown op: " ++ msg.op))
  | some entry =>
      match msg.payload.as? entry.payloadType with
      | none => throw (.typeError (msg.op ++ ": payload is "
          ++ msg.payload.typeName ++ ", expected " ++ entry.payloadType.name))
      | some body =>
          entry.handler { ctx with correlationId := msg.correlationId } body

end Catalog

end Warehouse
