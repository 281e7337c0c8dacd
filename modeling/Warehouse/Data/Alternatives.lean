/-
The alternatives sub-ledger: manual marks, capital calls, distributions
(`data/alternatives/service.py`).

An event's view has the fields of its row, so a call returns the row.

# The columns

A session keeps the amounts of the rows it has written as they were
computed. Once it commits, a row is loaded anew when it is next looked at,
and its amounts are what `Numeric(18, 2)` hands back (`money` below).
Between any two calls there may be such a commit or none, so a run is a
list of calls and reloads.
-/
import Warehouse.Infra.Audit
import Warehouse.Lib.Keyed

namespace Warehouse

open Lib

/-- A holding beside the lots; its capital and its value are in
`Numeric(18, 2)` columns. -/
structure AlternativeHoldingRow where
  holdingId : String
  householdId : String
  entityId : String
  name : String
  assetType : String
  committedCapital : ℚ
  calledCapital : ℚ
  currentNav : ℚ
  lastMarkDate : Date
  deriving DecidableEq

/-- An event of a holding, with its amount as it was recorded. -/
structure AlternativeEventRow where
  eventId : String
  holdingId : String
  eventType : String
  amount : ℚ
  eventDate : Date
  notes : String
  deriving DecidableEq

/-- The two tables beside the store; `holdingId` is the holdings' primary
key. -/
structure AlternativesLedger where
  holdings : List AlternativeHoldingRow
  events : List AlternativeEventRow
  store : Store
  keys : (holdings.map (·.holdingId)).Nodup

/-- `session.get(AlternativeHoldingRow, holding_id)`. -/
def AlternativesLedger.holding (ledger : AlternativesLedger)
    (holdingId : String) : Option AlternativeHoldingRow :=
  Keyed.get (·.holdingId) ledger.holdings holdingId

/-- The holding's columns after an event. -/
def AlternativeHoldingRow.afterEvent (row : AlternativeHoldingRow)
    (event : AlternativeEventRow) : AlternativeHoldingRow :=
  if event.eventType = "mark" then
    { row with
      currentNav := event.amount
      lastMarkDate := event.eventDate }
  else if event.eventType = "capital_call" then
    { row with calledCapital := row.calledCapital + event.amount }
  else if event.eventType = "distribution" then
    { row with currentNav := max (row.currentNav - event.amount) 0 }
  else row

/-- The arguments of `record_alternative_event`. -/
structure AlternativeEventCall where
  holdingId : String
  eventType : String
  amount : ℚ
  eventDate : Date
  notes : String := ""
  actorId : String := "advisor:demo"
  deriving DecidableEq

/-- The event row a call adds. -/
def AlternativeEventCall.row (call : AlternativeEventCall) (eventId : String) :
    AlternativeEventRow :=
  { eventId := eventId
    holdingId := call.holdingId
    eventType := call.eventType
    amount := call.amount
    eventDate := call.eventDate
    notes := call.notes }

/-- `record_alternative_event`: the event's view, and the ledger with the
event recorded and applied. -/
def recordAlternativeEvent (env : Env) (ledger : AlternativesLedger)
    (call : AlternativeEventCall) :
    Except Exc (AlternativeEventRow × AlternativesLedger) :=
  match ledger.holding call.holdingId with
  | none => .error (.valueError
      ("Alternative holding not found: " ++ call.holdingId))
  | some holding =>
      let event := call.row (env.freshId "alt_evt" ledger.store)
      .ok (event,
        { holdings := Keyed.put (·.holdingId) ledger.holdings
            (holding.afterEvent event)
          events := ledger.events ++ [event]
          store := writeAudit env ledger.store.drawn call.actorId
            ("alt_" ++ call.eventType) "alternative_holding" call.holdingId
            (some holding.householdId)
            [("amount", env.str call.amount), ("event_id", event.eventId)]
          keys := Keyed.nodup_put ledger.keys _ })

/-- The ledger after a call: one that raises leaves it as it was. -/
def execAlternativeEvent (env : Env) (ledger : AlternativesLedger)
    (call : AlternativeEventCall) : AlternativesLedger :=
  match recordAlternativeEvent env ledger call with
  | .ok (_, ledger') => ledger'
  | .error _ => ledger

-- ================================================================ the columns

section Columns

variable (money : ℚ → ℚ)

/-- A holding's row, loaded anew. -/
def AlternativeHoldingRow.read (row : AlternativeHoldingRow) :
    AlternativeHoldingRow :=
  { row with
    committedCapital := money row.committedCapital
    calledCapital := money row.calledCapital
    currentNav := money row.currentNav }

/-- An event's row, loaded anew. -/
def AlternativeEventRow.read (row : AlternativeEventRow) :
    AlternativeEventRow :=
  { row with amount := money row.amount }

theorem AlternativeHoldingRow.keys_read (rows : List AlternativeHoldingRow) :
    (rows.map (·.read money)).map (·.holdingId) = rows.map (·.holdingId) := by
  rw [List.map_map]
  rfl

/-- `session.commit()`: every row is loaded anew. -/
def AlternativesLedger.reload (ledger : AlternativesLedger) :
    AlternativesLedger :=
  { ledger with
    holdings := ledger.holdings.map (·.read money)
    events := ledger.events.map (·.read money)
    keys := by
      rw [AlternativeHoldingRow.keys_read]
      exact ledger.keys }

/-- What happens to the sub-ledger: a call, or a commit between calls. -/
inductive AlternativesOp where
  | record (call : AlternativeEventCall)
  | reload

/-- The ledger after an operation. -/
def execAlternatives (env : Env) (ledger : AlternativesLedger) :
    AlternativesOp → AlternativesLedger
  | .record call => execAlternativeEvent env ledger call
  | .reload => ledger.reload money

theorem execAlternatives_record (env : Env) (ledger : AlternativesLedger)
    (call : AlternativeEventCall) :
    execAlternatives money env ledger (.record call)
      = execAlternativeEvent env ledger call := rfl

theorem execAlternatives_reload (env : Env) (ledger : AlternativesLedger) :
    execAlternatives money env ledger .reload = ledger.reload money := rfl

end Columns

end Warehouse
