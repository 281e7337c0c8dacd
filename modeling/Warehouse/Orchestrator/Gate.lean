/-
The Office Manager gate (`receive_request` of `orchestrator/gate.py`, and
its response of `models.py`).

A call runs on its own thread and shares only the register with the
others. Between two of its updates of the register it does what no other
call sees, so a tick of a call is one update, with what the call makes of
the time since the last one. An interleaving is a list of ticks.
-/
import Warehouse.Decision.Pm
import Warehouse.Lib.Runs
import Warehouse.Orchestrator.Registry

namespace Warehouse

open Lib

/-- Caller-facing failure — no internal actor or stack detail. -/
structure OrchestratorError where
  correlationId : String
  message : String
  deriving DecidableEq

/-- How a call was answered. -/
inductive ResponseStatus where
  | completed
  | failed
  deriving DecidableEq, Repr

/-- Unified gate response — one voice to callers. -/
structure OrchestratorResponse where
  correlationId : String
  intent : OrchestratorIntent
  householdId : String
  status : ResponseStatus
  assignedActor : Option String := none
  result : Option AdviceBundle := none
  error : Option OrchestratorError := none
  elapsedMs : Int

/-- `_ASSIGNED_ACTOR`. -/
def assignedActor : OrchestratorIntent → Option String
  | .rebalanceAdvisory => some "portfolio_manager"

/-- The one text a failing call is answered with. -/
def gateFailureMessage : String := "The request could not be completed."

/-- A call of the gate: its request, the id `uuid4().hex[:12]` it would
draw, and what `_send_to_portfolio_manager` comes to. -/
structure Call where
  request : OrchestratorRequest
  hex : String
  sent : Except Exc AdviceBundle

/-- `request.correlation_id or f"orch_…"`. -/
def Call.correlationId (call : Call) : String :=
  if truthy call.request.correlationId then
    call.request.correlationId.getD ""
  else "orch_" ++ call.hex

/-- `_failed_response`. -/
def Call.failedResponse (call : Call) (elapsedMs : Int) (message : String)
    (assignedActor : Option String) : OrchestratorResponse where
  correlationId := call.correlationId
  intent := call.request.intent
  householdId := call.request.householdId
  status := .failed
  assignedActor := assignedActor
  error := some ⟨call.correlationId, message⟩
  elapsedMs := elapsedMs

/-- Where a call is: before its first update of the register, between two,
and after its last. -/
inductive GatePhase where
  | called
  | routing (started : Int)
  | dispatching (started : Int) (actor : String)
  | returned (response : OrchestratorResponse)

/-- One update of the register, at these readings of the clock and of the
monotonic clock (both in microseconds). -/
def Call.tick (call : Call) (now : DateTime) (monotonic : Int)
    (phase : GatePhase) (reg : FlightRegister) : GatePhase × FlightRegister :=
  match phase with
  | .called =>
      (.routing monotonic, reg.start now call.request call.correlationId)
  | .routing started =>
      match assignedActor call.request.intent with
      | none =>
          (.returned (call.failedResponse ((monotonic - started).tdiv 1000)
            "Unsupported request intent." none),
            reg.fail now call.correlationId)
      | some actor =>
          (.dispatching started actor,
            reg.advance call.correlationId .dispatching (some actor))
  | .dispatching started actor =>
      let elapsedMs := (monotonic - started).tdiv 1000
      match call.sent with
      | .ok bundle =>
          (.returned
            { correlationId := call.correlationId
              intent := call.request.intent
              householdId := call.request.householdId
              status := .completed
              assignedActor := some actor
              result := some bundle
              elapsedMs := elapsedMs },
            reg.complete now call.correlationId)
      | .error _ =>
          (.returned (call.failedResponse elapsedMs gateFailureMessage
            (some actor)),
            reg.fail now call.correlationId)
  | .returned response => (.returned response, reg)

/-- Where each call is, and the register they share. -/
structure Gate (n : Nat) where
  phases : Fin n → GatePhase
  register : FlightRegister

/-- A tick of one call. -/
structure Tick (n : Nat) where
  caller : Fin n
  now : DateTime
  monotonic : Int

namespace Gate

variable {n : Nat}

/-- No call has touched the register yet. -/
def entered (reg : FlightRegister) : Gate n := ⟨fun _ => .called, reg⟩

/-- One caller moves, the others keep their phases. -/
def step (calls : Fin n → Call) (gate : Gate n) (tick : Tick n) : Gate n :=
  let next := (calls tick.caller).tick tick.now tick.monotonic
    (gate.phases tick.caller) gate.register
  ⟨Function.update gate.phases tick.caller next.1, next.2⟩

/-- The gate after an interleaving of the calls. -/
def after (calls : Fin n → Call) (reg : FlightRegister)
    (ticks : List (Tick n)) : Gate n :=
  Runs.run (step calls) (entered reg) ticks

end Gate

end Warehouse
