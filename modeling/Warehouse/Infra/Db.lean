/-
The tables the modelled services read and write (`infra/db/models.py`):
one row structure per table, and the `Store` that holds them.

Columns that only ever hold an enumeration's `.value` hold the
enumeration. Autoincrement ids nothing reads are left out.

# The session's outside

`Env` is what a call draws from outside the store: `uuid4` hex digits,
clock readings, the text of a `Decimal` (whose exponent is not part of
its value), and the event subscribers. Draws and readings are sequences,
consumed through the store's two counters, so that a call is a function
of the store alone. Fresh ids never collide: the draws are injective.

# Queries without an order

Where the source asks for rows without `ORDER BY`, or sorts by a column in
which rows may agree, the engine decides. Its choice is a parameter
(`RowOrder`, `ReportOrder`): any permutation of the rows that match. A
result that holds under every such order holds of the database.
-/
import Warehouse.Data.Ledger
import Warehouse.Decision.TaxScenarios
import Mathlib.Data.List.Sort

namespace Warehouse

-- ============================================================ enumerations

/-- `models.entities.EntityType`. -/
inductive EntityType where
  | person
  | household
  | trust
  | llc
  | account
  | custodian
  | beneficiary
  deriving DecidableEq, Repr

/-- `models.entities.RelationshipType`. -/
inductive RelationshipType where
  | owns
  | holds
  | custodiedAt
  | beneficiaryOf
  | aggregates
  deriving DecidableEq, Repr

/-- Typed reconciliation break taxonomy. -/
inductive ReconBreakType where
  | staleAsOf
  | mixedAsOf
  | quantityMismatch
  | ledgerOnly
  | symbologyMismatch
  deriving DecidableEq, Repr

/-- The break type as the column stores it. -/
def ReconBreakType.value : ReconBreakType → String
  | staleAsOf => "stale_as_of"
  | mixedAsOf => "mixed_as_of"
  | quantityMismatch => "quantity_mismatch"
  | ledgerOnly => "ledger_only"
  | symbologyMismatch => "symbology_mismatch"

/-- `ApprovalStatus`: a request is decided once, either way. -/
inductive ApprovalStatus where
  | pending
  | approved
  | rejected
  deriving DecidableEq, Repr

/-- The status as the column stores it. -/
def ApprovalStatus.value : ApprovalStatus → String
  | pending => "pending"
  | approved => "approved"
  | rejected => "rejected"

/-- What an approval request signs off on. -/
inductive ApprovalSubject where
  | optimization
  | report
  deriving DecidableEq, Repr

/-- The subject as the column stores it. -/
def ApprovalSubject.value : ApprovalSubject → String
  | optimization => "optimization"
  | report => "report"

/-- `OrderStatus`: staged, submitted, then one of two ends. -/
inductive OrderStatus where
  | staged
  | submitted
  | filled
  | cancelled
  deriving DecidableEq, Repr

/-- The status as the column stores it. -/
def OrderStatus.value : OrderStatus → String
  | staged => "staged"
  | submitted => "submitted"
  | filled => "filled"
  | cancelled => "cancelled"

/-- How an ingest run stands. -/
inductive IngestStatus where
  | running
  | success
  | error
  deriving DecidableEq, Repr

/-- How a refresh stands: one that finds breaks still completes. -/
inductive RefreshStatus where
  | running
  | success
  | completedWithBreaks
  | error
  deriving DecidableEq, Repr

-- ==================================================================== rows

/-- One node of the entity graph. -/
structure EntityRow where
  entityId : String
  entityType : EntityType := .account
  name : String
  householdId : Option String
  deriving DecidableEq

/-- A directed edge of the entity graph. -/
structure EntityRelationshipRow where
  sourceId : String
  targetId : String
  relationshipType : RelationshipType
  deriving DecidableEq

/-- A security and what it is identified by. -/
structure SecurityRow where
  securityId : String
  cusip : Option String := none
  isin : Option String := none
  ticker : Option String := none
  name : String := ""
  assetClass : SecurityAssetClass := .equity
  liquidityTier : Nat := 1
  washSaleSubstituteGroup : Option String := none
  deriving DecidableEq

/-- A mark: the price of one security on one day. -/
structure MarketPriceRow where
  securityId : String
  asOfDate : Date
  price : ℚ
  deriving DecidableEq

/-- A gain realized on one day. -/
structure RealizedGainEventRow where
  eventId : String
  householdId : String
  eventDate : Date
  amount : ℚ
  deriving DecidableEq

/-- One ingested custodian file. -/
structure IngestRunRow where
  runId : String
  custodianId : String
  fileName : String := ""
  status : IngestStatus := .success
  startedAt : DateTime := 0
  finishedAt : Option DateTime := none
  rowsProcessed : Nat := 0
  errorMessage : Option String := none
  deriving DecidableEq

/-- One position as the custodian's file states it. -/
structure CustodianPositionRow where
  ingestRunId : String
  accountId : String
  securityId : String
  quantity : ℚ
  asOfDate : Date
  deriving DecidableEq

/-- One run of the daily refresh. -/
structure DailyRefreshRunRow where
  runId : String
  householdId : String
  status : RefreshStatus
  startedAt : DateTime
  finishedAt : Option DateTime := none
  deriving DecidableEq

/-- One step of such a run. -/
structure DailyRefreshStepRow where
  refreshRunId : String
  stepName : String
  status : RefreshStatus
  startedAt : DateTime
  finishedAt : Option DateTime := none
  detail : Option String := none
  errorMessage : Option String := none
  deriving DecidableEq

/-- One difference between the ledger and the custodian. -/
structure ReconciliationBreakRow where
  breakId : String
  ingestRunId : String
  accountId : String
  securityId : Option String
  breakType : ReconBreakType
  description : String
  openedAt : DateTime
  resolvedAt : Option DateTime := none
  resolved : Bool := false
  deriving DecidableEq

/-- `details` is the dict the column's JSON text spells. -/
structure AuditLogRow where
  entryId : String
  actorId : String
  action : String
  resourceType : String
  resourceId : String
  householdId : Option String
  occurredAt : DateTime
  details : List (String × String)
  deriving DecidableEq

/-- One persisted tax scenario. -/
structure TaxScenarioRunRow where
  runId : String
  householdId : String
  scenarioName : String
  overlays : TaxScenarioOverlays
  baselineTax : ℚ
  scenarioTax : ℚ
  taxDelta : ℚ
  createdAt : DateTime
  deriving DecidableEq

/-- One persisted optimizer run; its trades are in the next table. -/
structure OptimizationRunRow where
  runId : String
  householdId : String
  configVersion : String
  estimatedTaxDelta : ℚ
  bindingConstraints : List String
  inputSnapshotId : String
  status : String := "complete"
  solverType : String := "heuristic"
  runtimeMs : Option Int := none
  createdAt : DateTime
  deriving DecidableEq

/-- One trade an optimizer run proposes. -/
structure OptimizationTradeRow where
  runId : String
  lotId : Option String
  securityId : String
  accountId : String
  side : String
  quantity : ℚ
  rationale : String
  deriving DecidableEq

/-- One request for a human decision. -/
structure ApprovalRequestRow where
  requestId : String
  subjectType : ApprovalSubject
  subjectId : Option String
  optimizationRunId : Option String
  householdId : String
  status : ApprovalStatus
  reviewerId : Option String := none
  reviewedAt : Option DateTime := none
  createdAt : DateTime
  deriving DecidableEq

/-- One order, staged from a trade of an approved run. -/
structure StagedOrderRow where
  orderId : String
  approvalRequestId : String
  optimizationRunId : String
  householdId : String
  lotId : Option String
  securityId : String
  accountId : String
  side : String
  quantity : ℚ
  status : OrderStatus
  createdAt : DateTime
  updatedAt : DateTime
  deriving DecidableEq

-- ================================================================== events

/-- The EVENT payloads (`messaging/models.py`). -/
inductive EventPayload where
  | ingestCompleted (householdId runId : String) (rows : Int)
  | breakOpened (householdId breakId : String)
  | orderFilled (householdId orderId : String)
  deriving DecidableEq

/-- An emitted EVENT message. -/
structure Event where
  op : String
  payload : EventPayload
  correlationId : String
  householdId : Option String
  deriving DecidableEq

-- =============================================================== the store

/-- The tables, the events emitted so far, and how many ids and clock
readings have been drawn. -/
structure Store where
  entities : List EntityRow := []
  entityRelationships : List EntityRelationshipRow := []
  securities : List SecurityRow := []
  lots : List Lot := []
  marketPrices : List MarketPriceRow := []
  realizedGainEvents : List RealizedGainEventRow := []
  ingestRuns : List IngestRunRow := []
  custodianPositions : List CustodianPositionRow := []
  dailyRefreshRuns : List DailyRefreshRunRow := []
  dailyRefreshSteps : List DailyRefreshStepRow := []
  reconciliationBreaks : List ReconciliationBreakRow := []
  optimizationRuns : List OptimizationRunRow := []
  optimizationTrades : List OptimizationTradeRow := []
  approvalRequests : List ApprovalRequestRow := []
  stagedOrders : List StagedOrderRow := []
  taxScenarioRuns : List TaxScenarioRunRow := []
  auditLog : List AuditLogRow := []
  events : List Event := []
  draws : Nat := 0
  ticks : Nat := 0

/-- The store of a new database. -/
def Store.empty : Store := {}

/-- An event subscriber. Whatever it does to the rest of the store, it
writes no order and no approval, adds no order row to the audit log and
emits no `order.filled` of its own. -/
structure Subscriber where
  react : Store → Event → Store
  orders : ∀ s e, (react s e).stagedOrders = s.stagedOrders
  approvals : ∀ s e, (react s e).approvalRequests = s.approvalRequests
  runs : ∀ s e, (react s e).optimizationRuns = s.optimizationRuns
  trades : ∀ s e, (react s e).optimizationTrades = s.optimizationTrades
  audit : ∀ s e, ∃ rows, (react s e).auditLog = s.auditLog ++ rows
    ∧ ∀ row ∈ rows, row.resourceType ≠ "staged_order"
  emitted : ∀ s e, ∃ events, (react s e).events = s.events ++ events
    ∧ ∀ event ∈ events, event.op ≠ "order.filled"
  draws : ∀ s e, s.draws ≤ (react s e).draws

/-- What a call draws from outside the store. -/
structure Env where
  hex : Nat → String
  now : Nat → DateTime
  str : ℚ → String
  subscribers : String → List Subscriber
  hexInjective : Function.Injective hex

/-- A concrete outside: ids counted in unary, a clock that ticks once a
reading, six-place decimals, no subscribers. -/
def Env.counting : Env where
  hex n := String.ofList (List.replicate n '1')
  now n := n
  str := formatFixed 6
  subscribers _ := []
  hexInjective m n h := by
    have hlist := congrArg (fun s : String => s.toList.length) h
    simpa using hlist

/-- `f"{label}_{uuid4().hex[:12]}"`. -/
def Env.freshId (env : Env) (label : String) (store : Store) : String :=
  label ++ "_" ++ env.hex store.draws

/-- `datetime.now(UTC)`. -/
def Env.clock (env : Env) (store : Store) : DateTime := env.now store.ticks

/-- One id drawn. -/
def Store.drawn (store : Store) : Store := { store with draws := store.draws + 1 }

/-- One clock reading taken. -/
def Store.ticked (store : Store) : Store := { store with ticks := store.ticks + 1 }

-- ======================================================== unordered queries

/-- A `SELECT` without `ORDER BY` may return its rows in any order: one
rearrangement for each table such a query scans. -/
structure RowOrder where
  trades : List OptimizationTradeRow → List OptimizationTradeRow
  orders : List StagedOrderRow → List StagedOrderRow
  tradesPerm : ∀ rows, (trades rows).Perm rows
  ordersPerm : ∀ rows, (orders rows).Perm rows

/-- The same for the tables the report queries scan. -/
structure ReportOrder extends RowOrder where
  lots : List Lot → List Lot
  approvals : List ApprovalRequestRow → List ApprovalRequestRow
  breaks : List ReconciliationBreakRow → List ReconciliationBreakRow
  lotsPerm : ∀ rows, (lots rows).Perm rows
  approvalsPerm : ∀ rows, (approvals rows).Perm rows
  breaksPerm : ∀ rows, (breaks rows).Perm rows

/-- Insertion order. -/
def RowOrder.insertion : RowOrder where
  trades rows := rows
  orders rows := rows
  tradesPerm _ := List.Perm.refl _
  ordersPerm _ := List.Perm.refl _

/-- Every read in insertion order. -/
def ReportOrder.insertion : ReportOrder where
  toRowOrder := RowOrder.insertion
  lots rows := rows
  approvals rows := rows
  breaks rows := rows
  lotsPerm _ := List.Perm.refl _
  approvalsPerm _ := List.Perm.refl _
  breaksPerm _ := List.Perm.refl _

end Warehouse
