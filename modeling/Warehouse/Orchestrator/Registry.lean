/-
The register of requests in flight (`orchestrator/registry.py`, and its
records of `models.py`).

The register is a deque of bounded length: a full one drops its oldest
record, and the structure carries the bound. Every update of a record goes
to the latest record of the correlation id it names.
-/
import Warehouse.Lib.Dict
import Warehouse.Lib.Latest
import Warehouse.Python

namespace Warehouse

open Lib

/-- Caller intent — routing is deterministic from this alone. -/
inductive OrchestratorIntent where
  | rebalanceAdvisory
  deriving DecidableEq, Repr

/-- External request entering the single gate. -/
structure OrchestratorRequest where
  intent : OrchestratorIntent
  householdId : String
  correlationId : Option String := none
  actorId : String := "system:orchestrator"
  cohortId : Option String := none
  asOfDate : Option Date := none
  deriving DecidableEq

/-- How far a call has come. -/
inductive InFlightStage where
  | routing
  | dispatching
  | completed
  | failed
  deriving DecidableEq, Repr

/-- The stages no request leaves. -/
def InFlightStage.Terminal (stage : InFlightStage) : Prop :=
  stage = .completed ∨ stage = .failed

instance (stage : InFlightStage) : Decidable stage.Terminal :=
  inferInstanceAs (Decidable (_ ∨ _))

/-- Observable gate register entry. -/
structure InFlightRecord where
  correlationId : String
  intent : OrchestratorIntent
  householdId : String
  assignedActor : Option String := none
  stage : InFlightStage
  startedAt : DateTime
  finishedAt : Option DateTime := none
  elapsedMs : Option Int := none
  deriving DecidableEq

/-- `model_copy` with the updates that are given; nothing is validated. -/
def InFlightRecord.updated (current : InFlightRecord)
    (stage : Option InFlightStage) (assignedActor : Option String)
    (finishedAt : Option DateTime) (elapsedMs : Option Int) :
    InFlightRecord :=
  { current with
    stage := stage.getD current.stage
    assignedActor := assignedActor <|> current.assignedActor
    finishedAt := finishedAt <|> current.finishedAt
    elapsedMs := elapsedMs <|> current.elapsedMs }

/-- `_MAX`. -/
def maxInFlight : Nat := 100

/-- The bounded register of calls in flight, with the start times of those that
still run. -/
structure FlightRegister where
  records : List InFlightRecord
  bounded : records.length ≤ maxInFlight
  startedAt : Dict String DateTime

namespace FlightRegister

/-- Reset register. -/
def clear : FlightRegister := ⟨[], Nat.zero_le _, Dict.empty⟩

/-- Registers a call, and forgets the oldest record when the register is full. -/
def start (reg : FlightRegister) (now : DateTime)
    (request : OrchestratorRequest) (correlationId : String) :
    FlightRegister where
  records := pushBounded maxInFlight reg.records
    { correlationId := correlationId, intent := request.intent,
      householdId := request.householdId, stage := .routing,
      startedAt := now }
  bounded := length_pushBounded_le
  startedAt := reg.startedAt.set correlationId now

theorem bounded_patch (reg : FlightRegister) (correlationId : String)
    (f : InFlightRecord → InFlightRecord) :
    (Lib.patchLatest (·.correlationId = correlationId) f
      reg.records).length ≤ maxInFlight := by
  rw [length_patchLatest]
  exact reg.bounded

/-- `_patch_latest`. -/
def patchLatest (reg : FlightRegister) (correlationId : String)
    (stage : Option InFlightStage) (assignedActor : Option String)
    (finishedAt : Option DateTime) (elapsedMs : Option Int) :
    FlightRegister where
  records := Lib.patchLatest (·.correlationId = correlationId)
    (·.updated stage assignedActor finishedAt elapsedMs) reg.records
  bounded := bounded_patch reg correlationId _
  startedAt := reg.startedAt

theorem bounded_setLast (reg : FlightRegister) (record : InFlightRecord) :
    (reg.records.set (reg.records.length - 1) record).length
      ≤ maxInFlight := by
  rw [List.length_set]
  exact reg.bounded

/-- Moves a call on: the newest record where the id is its own, else the newest
one of that id. -/
def advance (reg : FlightRegister) (correlationId : String)
    (stage : InFlightStage) (assignedActor : Option String) :
    FlightRegister :=
  match reg.records.getLast? with
  | none => reg.patchLatest correlationId (some stage) assignedActor none none
  | some latest =>
      if latest.correlationId ≠ correlationId then
        reg.patchLatest correlationId (some stage) assignedActor none none
      else
        { records := reg.records.set (reg.records.length - 1)
            { latest with
              stage := stage
              assignedActor :=
                if truthy assignedActor then assignedActor
                else latest.assignedActor }
          bounded := bounded_setLast reg _
          startedAt := reg.startedAt }

/-- `int((now - started).total_seconds() * 1000)` of two instants in
microseconds. -/
def elapsedSince (now started : DateTime) : Int := (now - started).tdiv 1000

/-- What `complete` and `fail` share: a last stage and the elapsed time. -/
def finish (reg : FlightRegister) (now : DateTime) (correlationId : String)
    (stage : InFlightStage) : FlightRegister :=
  let started := (reg.startedAt.get? correlationId).getD now
  { records := reg.records, bounded := reg.bounded,
    startedAt := reg.startedAt.erase correlationId : FlightRegister }.patchLatest
      correlationId (some stage) none (some now)
      (some (elapsedSince now started))

/-- The call ends well. -/
def complete (reg : FlightRegister) (now : DateTime)
    (correlationId : String) : FlightRegister :=
  reg.finish now correlationId .completed

/-- The call ends badly. -/
def fail (reg : FlightRegister) (now : DateTime) (correlationId : String) :
    FlightRegister :=
  reg.finish now correlationId .failed

end FlightRegister

end Warehouse
