/-
When the register of requests in flight drains.

As long as no request starts under the correlation id of one in flight,
every call in flight has the latest record of its id, so each update lands
on the record of the call that makes it (`Tracked`). The first request
that starts under the id of one in flight buries that one's record: no
later update reaches it, and it stays in the stage it was in (`Stuck`).
Both survive every tick, so after an interleaving the gate is in the one
state or in the other, and the register drains exactly when no start
overlapped.

# Calls and ticks

A call updates the register once a tick: it starts, is routed and
dispatched, and ends in a terminal stage, whatever its handler does
(`GatePhase`). An interleaving is any list of callers, so nothing is assumed
about who moves when, how often, or how many calls there are. The register
is bounded: pushing a record may drop the oldest, which is why `Tracked`
speaks of the records still there.

# Draining

A drained register has every call's record in a terminal stage and no start
time left. The condition looks at starts only: a second call under an id in
flight is enough to lose it, and nothing else is.
-/
import Warehouse.Orchestrator.Gate
import Mathlib.Data.Fintype.Card

namespace Warehouse

open Lib

variable {n : Nat} {calls : Fin n → Call} {gate : Gate n} {tick : Tick n}

-- ======================================================= what records say

/-- What a record says of its request, the clock apart. -/
structure FlightOutcome where
  correlationId : String
  intent : OrchestratorIntent
  householdId : String
  assignedActor : Option String
  stage : InFlightStage
  deriving DecidableEq

/-- What a record says of its call, clock values aside. -/
def InFlightRecord.outcome (record : InFlightRecord) : FlightOutcome where
  correlationId := record.correlationId
  intent := record.intent
  householdId := record.householdId
  assignedActor := record.assignedActor
  stage := record.stage

/-- What a call's record is expected to say. -/
def Call.outcome (call : Call) (assignedActor : Option String)
    (stage : InFlightStage) : FlightOutcome where
  correlationId := call.correlationId
  intent := call.request.intent
  householdId := call.request.householdId
  assignedActor := assignedActor
  stage := stage

/-- The stage a response answers to. -/
def ResponseStatus.stage : ResponseStatus → InFlightStage
  | .completed => .completed
  | .failed => .failed

/-- Answered calls end in a terminal stage. -/
theorem ResponseStatus.terminal_stage (status : ResponseStatus) :
    status.stage.Terminal := by
  cases status
  · exact .inl rfl
  · exact .inr rfl

/-- What a call's own record should say once the call is there. -/
def Call.outcomeAt (call : Call) : GatePhase → FlightOutcome
  | .called | .routing _ => call.outcome none .routing
  | .dispatching _ actor => call.outcome (some actor) .dispatching
  | .returned response =>
      call.outcome response.assignedActor response.status.stage

/-- The outcome goes by the call's own id. -/
theorem Call.correlationId_outcomeAt (call : Call) (phase : GatePhase) :
    (call.outcomeAt phase).correlationId = call.correlationId := by
  cases phase <;> rfl

/-- Between its first update of the register and its last. -/
def GatePhase.InFlight : GatePhase → Prop
  | .routing _ | .dispatching _ _ => True
  | .called | .returned _ => False

/-- The call has answered. -/
def GatePhase.Returned : GatePhase → Prop
  | .returned _ => True
  | _ => False

instance (phase : GatePhase) : Decidable phase.Returned :=
  match phase with
  | .returned _ => isTrue trivial
  | .called | .routing _ | .dispatching _ _ => isFalse id

theorem GatePhase.InFlight.not_called {phase : GatePhase}
    (h : phase.InFlight) : phase ≠ .called := by
  rintro rfl
  exact h

theorem GatePhase.Returned.not_called {phase : GatePhase}
    (h : phase.Returned) : phase ≠ .called := by
  rintro rfl
  exact h

/-- The record of a call in flight is in a stage of a call in flight. -/
theorem Call.not_terminal_outcomeAt (call : Call) {phase : GatePhase}
    (h : phase.InFlight) : ¬(call.outcomeAt phase).stage.Terminal := by
  cases phase with
  | routing started => exact of_decide_eq_true rfl
  | dispatching started actor => exact of_decide_eq_true rfl
  | called => exact h.elim
  | returned response => exact h.elim

/-- A call that has answered is expected in a terminal stage. -/
theorem Call.terminal_outcomeAt (call : Call) {phase : GatePhase}
    (h : phase.Returned) : (call.outcomeAt phase).stage.Terminal := by
  cases phase with
  | returned response => exact response.status.terminal_stage
  | called => exact h.elim
  | routing started => exact h.elim
  | dispatching started actor => exact h.elim

-- ================================================================ one tick

/-- No intent is assigned to an empty actor. -/
theorem assignedActor_ne_empty {intent : OrchestratorIntent} {actor : String}
    (h : assignedActor intent = some actor) : actor ≠ "" := by
  cases intent
  cases h
  exact of_decide_eq_true rfl

/-- Advancing to an actor patches the latest record, the last one as any
other. -/
theorem FlightRegister.records_advance (reg : FlightRegister)
    (correlationId : String) (stage : InFlightStage) {actor : String}
    (h : actor ≠ "") :
    (reg.advance correlationId stage (some actor)).records
      = Lib.patchLatest (·.correlationId = correlationId)
          (·.updated (some stage) (some actor) none none) reg.records := by
  unfold advance
  cases hlast : reg.records.getLast? with
  | none => rfl
  | some latest =>
      dsimp only
      by_cases hid : latest.correlationId = correlationId
      · obtain ⟨before, hrecords⟩ := List.getLast?_eq_some_iff.mp hlast
        have htruthy : truthy (some actor) = true := decide_eq_true h
        rw [if_neg (not_not.mpr hid)]
        dsimp only
        let p := fun x : InFlightRecord => x.correlationId = correlationId
        have hp : p latest := hid
        rw [if_pos htruthy, hrecords,
          patchLatest_append hp (List.forall_mem_nil _),
          List.length_append, List.length_singleton, Nat.add_sub_cancel,
          List.set_append_right _ _ (Nat.le_refl _), Nat.sub_self]
        rfl
      · rw [if_pos hid]
        rfl

/-- Finishing patches the newest record of the id, and nothing else. -/
theorem FlightRegister.records_finish (reg : FlightRegister) (now : DateTime)
    (correlationId : String) (stage : InFlightStage) :
    ∃ elapsedMs, (reg.finish now correlationId stage).records
      = Lib.patchLatest (·.correlationId = correlationId)
          (·.updated (some stage) none (some now) (some elapsedMs))
          reg.records := ⟨_, rfl⟩

/-- The record a call starts with. -/
def Call.opened (call : Call) (now : DateTime) : InFlightRecord where
  correlationId := call.correlationId
  intent := call.request.intent
  householdId := call.request.householdId
  stage := .routing
  startedAt := now

/-- What a tick can do: open a record, patch the latest one of the call's
correlation id as the call's own, or nothing. -/
theorem Call.tick_cases (call : Call) (now : DateTime) (monotonic : Int)
    (phase : GatePhase) (reg : FlightRegister) :
    (phase = .called
      ∧ (call.tick now monotonic phase reg).1 = .routing monotonic
      ∧ (call.tick now monotonic phase reg).2.records
        = pushBounded maxInFlight reg.records (call.opened now))
    ∨ (phase.InFlight ∧ (call.tick now monotonic phase reg).1 ≠ .called
      ∧ ∃ f : InFlightRecord → InFlightRecord,
        (∀ r, (f r).correlationId = r.correlationId)
        ∧ (∀ r, r.outcome = call.outcomeAt phase → (f r).outcome
          = call.outcomeAt (call.tick now monotonic phase reg).1)
        ∧ (call.tick now monotonic phase reg).2.records
          = patchLatest (·.correlationId = call.correlationId) f reg.records)
    ∨ (phase.Returned ∧ call.tick now monotonic phase reg = (phase, reg)) := by
  -- the fields a patch leaves as they are
  have hout : ∀ {r : InFlightRecord} {actor actor' : Option String}
      {stage stage' : InFlightStage} (finishedAt : Option DateTime)
      (elapsedMs : Option Int), r.outcome = call.outcome actor stage →
      (r.updated (some stage') actor' finishedAt elapsedMs).outcome
        = call.outcome (actor' <|> actor) stage' := by
    rintro r actor actor' stage stage' finishedAt elapsedMs h
    obtain ⟨hid, hintent, hhousehold, hactor, -⟩ :=
      FlightOutcome.mk.inj h
    simp only [InFlightRecord.outcome, Call.outcome, InFlightRecord.updated,
      hid, hintent, hhousehold, hactor, Option.getD_some]
  cases phase with
  | called => exact .inl ⟨rfl, rfl, rfl⟩
  | routing started =>
      refine .inr (.inl ⟨trivial, ?_⟩)
      unfold Call.tick
      dsimp only
      cases hactor : assignedActor call.request.intent with
      | none =>
          obtain ⟨elapsedMs, hrecords⟩ :=
            reg.records_finish now call.correlationId .failed
          exact ⟨nofun, (·.updated _ _ _ _), fun _ => rfl,
            fun r hr => hout _ _ hr, hrecords⟩
      | some actor =>
          exact ⟨nofun, (·.updated _ _ _ _), fun _ => rfl,
            fun r hr => hout _ _ hr,
            reg.records_advance _ _ (assignedActor_ne_empty hactor)⟩
  | dispatching started actor =>
      refine .inr (.inl ⟨trivial, ?_⟩)
      unfold Call.tick
      dsimp only
      cases call.sent with
      | ok bundle =>
          obtain ⟨elapsedMs, hrecords⟩ :=
            reg.records_finish now call.correlationId .completed
          exact ⟨nofun, (·.updated _ _ _ _), fun _ => rfl,
            fun r hr => hout _ _ hr, hrecords⟩
      | error err =>
          obtain ⟨elapsedMs, hrecords⟩ :=
            reg.records_finish now call.correlationId .failed
          exact ⟨nofun, (·.updated _ _ _ _), fun _ => rfl,
            fun r hr => hout _ _ hr, hrecords⟩
  | returned response => exact .inr (.inr ⟨trivial, rfl⟩)

-- ===================================================== the two invariants

/-- `order` lists the calls that have started, as they did. -/
structure Gate.Started (gate : Gate n) (order : List (Fin n)) : Prop where
  nodup : order.Nodup
  mem_iff : ∀ i, i ∈ order ↔ gate.phases i ≠ .called

/-- A call that has not started leaves room for its record. -/
theorem Gate.Started.length_lt {order : List (Fin n)}
    (h : gate.Started order) {i : Fin n} (hi : gate.phases i = .called) :
    order.length < n := by
  have hout : i ∉ order := fun hm => (h.mem_iff i).mp hm hi
  have hcons : (i :: order).Nodup := List.nodup_cons.mpr ⟨hout, h.nodup⟩
  have hcard := hcons.length_le_card
  rw [Fintype.card_fin, List.length_cons] at hcard
  omega

/-- The calls after one of them opens its record, -/
theorem Gate.Started.open {order : List (Fin n)} (h : gate.Started order)
    {i : Fin n} (hi : gate.phases i = .called) {gate' : Gate n}
    {phase : GatePhase} (hphase : phase ≠ .called)
    (hphases : gate'.phases = Function.update gate.phases i phase) :
    gate'.Started (order ++ [i]) where
  nodup := by
    rw [List.nodup_append_comm, List.singleton_append, List.nodup_cons]
    exact ⟨fun hm => (h.mem_iff i).mp hm hi, h.nodup⟩
  mem_iff j := by
    rw [List.mem_append, List.mem_singleton, hphases]
    by_cases hj : j = i
    · subst hj
      rw [Function.update_self]
      exact ⟨fun _ => hphase, fun _ => .inr rfl⟩
    · rw [Function.update_of_ne hj, ← h.mem_iff j]
      exact ⟨fun hm => hm.resolve_right hj, .inl⟩

/-- and after one of them moves on. -/
theorem Gate.Started.move {order : List (Fin n)} (h : gate.Started order)
    {i : Fin n} (hi : gate.phases i ≠ .called) {gate' : Gate n}
    {phase : GatePhase} (hphase : phase ≠ .called)
    (hphases : gate'.phases = Function.update gate.phases i phase) :
    gate'.Started order where
  nodup := h.nodup
  mem_iff j := by
    rw [hphases, h.mem_iff j]
    by_cases hj : j = i
    · subst hj
      rw [Function.update_self]
      exact ⟨fun _ => hphase, fun _ => hi⟩
    · rw [Function.update_of_ne hj]

/-- Every call that has started has a record of its own, which says where
the call is, and the calls in flight have the latest of their ids. -/
structure Gate.Tracked (calls : Fin n → Call) (gate : Gate n)
    (order : List (Fin n)) (old : List InFlightRecord)
    (entry : Fin n → InFlightRecord) : Prop where
  started : gate.Started order
  records_eq : gate.register.records = old ++ order.map entry
  old_terminal : ∀ r ∈ old, r.stage.Terminal
  outcome_eq : ∀ i ∈ order,
    (entry i).outcome = (calls i).outcomeAt (gate.phases i)
  latest : ∀ i ∈ order, (gate.phases i).InFlight →
    LatestUnder (fun j => (calls j).correlationId) order i

/-- A record of a call in flight is buried under a later one of its id. -/
def Gate.Stuck (gate : Gate n) : Prop :=
  ∃ order old part, gate.Started order
    ∧ gate.register.records = old ++ part
    ∧ part.length = order.length
    ∧ Buried InFlightRecord.correlationId (fun r => ¬r.stage.Terminal) part

/-- The call has yet to start, and one in flight has its correlation
id. -/
def Gate.Overlaps (calls : Fin n → Call) (gate : Gate n) (i : Fin n) :
    Prop :=
  gate.phases i = .called ∧ ∃ j, (gate.phases j).InFlight
    ∧ (calls j).correlationId = (calls i).correlationId

-- ============================================================= step lemmas

section Step

variable {order : List (Fin n)} {old : List InFlightRecord}
  {entry : Fin n → InFlightRecord}

/-- A tracked record goes by its call's id. -/
theorem Gate.Tracked.correlationId_eq
    (h : gate.Tracked calls order old entry) {i : Fin n} (hi : i ∈ order) :
    (entry i).correlationId = (calls i).correlationId := by
  have hout := congrArg FlightOutcome.correlationId (h.outcome_eq i hi)
  rw [Call.correlationId_outcomeAt] at hout
  exact hout

/-- A start that overlaps no call in flight. -/
theorem Gate.Tracked.open (h : gate.Tracked calls order old entry)
    (hn : n ≤ maxInFlight) {i : Fin n} (hi : gate.phases i = .called)
    (hclear : ¬gate.Overlaps calls i) (now : DateTime) (monotonic : Int)
    {gate' : Gate n}
    (hphases : gate'.phases
      = Function.update gate.phases i (.routing monotonic))
    (hrecords : gate'.register.records = pushBounded maxInFlight
      gate.register.records ((calls i).opened now)) :
    ∃ kept, gate'.Tracked calls (order ++ [i]) kept
      (Function.update entry i ((calls i).opened now)) := by
  have hout : i ∉ order := fun hm => (h.started.mem_iff i).mp hm hi
  have hother : ∀ j ∈ order, j ≠ i := by
    rintro j hj rfl
    exact hout hj
  have hroom : (order.map entry).length < maxInFlight := by
    have := h.started.length_lt hi
    rw [List.length_map]
    omega
  obtain ⟨kept, hkept, hpush⟩ := pushBounded_append old hroom
  have hrouting : GatePhase.routing monotonic ≠ .called := nofun
  refine ⟨kept, h.started.open hi hrouting hphases, ?_,
    fun r hr => h.old_terminal r (hkept hr), ?_, ?_⟩
  · rw [hrecords, h.records_eq, hpush, List.map_append, List.map_singleton,
      Function.update_self]
    congr 2
    apply List.map_congr_left
    intro j hj
    rw [Function.update_of_ne (hother j hj)]
  · intro j hj
    rw [hphases]
    rcases List.mem_append.mp hj with hj | hj
    · rw [Function.update_of_ne (hother j hj),
        Function.update_of_ne (hother j hj)]
      exact h.outcome_eq j hj
    · cases List.mem_singleton.mp hj
      rw [Function.update_self, Function.update_self]
      rfl
  · intro j hj hflight
    rw [hphases] at hflight
    rcases List.mem_append.mp hj with hj | hj
    · rw [Function.update_of_ne (hother j hj)] at hflight
      apply (h.latest j hj hflight).append_singleton
      exact fun heq => hclear ⟨hi, j, hflight, heq.symm⟩
    · cases List.mem_singleton.mp hj
      exact LatestUnder.last hout

/-- A start that overlaps one buries that one's record. -/
theorem Gate.Tracked.bury (h : gate.Tracked calls order old entry)
    (hn : n ≤ maxInFlight) {i : Fin n} (hoverlaps : gate.Overlaps calls i)
    (now : DateTime) {phase : GatePhase} (hphase : phase ≠ .called)
    {gate' : Gate n}
    (hphases : gate'.phases = Function.update gate.phases i phase)
    (hrecords : gate'.register.records = pushBounded maxInFlight
      gate.register.records ((calls i).opened now)) :
    gate'.Stuck := by
  obtain ⟨hi, j, hflight, hid⟩ := hoverlaps
  have hj : j ∈ order := (h.started.mem_iff j).mpr hflight.not_called
  have hroom : (order.map entry).length < maxInFlight := by
    have := h.started.length_lt hi
    rw [List.length_map]
    omega
  obtain ⟨kept, -, hpush⟩ := pushBounded_append old hroom
  refine ⟨order ++ [i], kept, _, h.started.open hi hphase hphases,
    by rw [hrecords, h.records_eq, hpush], by simp, ?_⟩
  apply Buried.of_append_singleton (List.mem_map_of_mem hj)
  · exact (h.correlationId_eq hj).trans hid
  · have hstage := congrArg FlightOutcome.stage (h.outcome_eq j hj)
    show ¬(entry j).outcome.stage.Terminal
    rw [hstage]
    exact (calls j).not_terminal_outcomeAt hflight

/-- An update of a call in flight lands on its own record. -/
theorem Gate.Tracked.move (h : gate.Tracked calls order old entry)
    {i : Fin n} (hflight : (gate.phases i).InFlight) {phase : GatePhase}
    (hphase : phase ≠ .called) {f : InFlightRecord → InFlightRecord}
    (hf : ∀ r, r.outcome = (calls i).outcomeAt (gate.phases i) →
      (f r).outcome = (calls i).outcomeAt phase)
    {gate' : Gate n}
    (hphases : gate'.phases = Function.update gate.phases i phase)
    (hrecords : gate'.register.records
      = patchLatest (·.correlationId = (calls i).correlationId) f
          gate.register.records) :
    gate'.Tracked calls order old
      (Function.update entry i (f (entry i))) := by
  have hi : i ∈ order := (h.started.mem_iff i).mpr hflight.not_called
  refine ⟨h.started.move hflight.not_called hphase hphases, ?_,
    h.old_terminal, ?_, ?_⟩
  · have hown : ∃ r ∈ order.map entry,
        r.correlationId = (calls i).correlationId :=
      ⟨entry i, List.mem_map_of_mem hi, h.correlationId_eq hi⟩
    have hlands := patchLatest_map h.started.nodup hi
      (fun j hj => h.correlationId_eq hj) (h.latest i hi hflight) f
    rw [hrecords, h.records_eq, patchLatest_append_right hown, hlands]
  · intro j hj
    rw [hphases]
    by_cases hji : j = i
    · subst hji
      rw [Function.update_self, Function.update_self]
      exact hf _ (h.outcome_eq j hj)
    · rw [Function.update_of_ne hji, Function.update_of_ne hji]
      exact h.outcome_eq j hj
  · intro j hj hj'
    apply h.latest j hj
    rw [hphases] at hj'
    by_cases hji : j = i
    · exact hji ▸ hflight
    · rw [Function.update_of_ne hji] at hj'
      exact hj'

/-- A tick that moves nothing leaves the gate. -/
theorem Gate.step_of_same (gate : Gate n) {i : Fin n} {now : DateTime}
    {monotonic : Int}
    (hsame : (calls i).tick now monotonic (gate.phases i) gate.register
      = (gate.phases i, gate.register)) :
    gate.step calls ⟨i, now, monotonic⟩ = gate := by
  show Gate.mk _ _ = gate
  dsimp only
  rw [hsame, Function.update_eq_self]

/-- A buried record stays buried. -/
theorem Gate.Stuck.step (h : gate.Stuck) (hn : n ≤ maxInFlight)
    (tick : Tick n) : (gate.step calls tick).Stuck := by
  obtain ⟨order, old, part, hstarted, hrecords, hlength, hburied⟩ := h
  obtain ⟨i, now, monotonic⟩ := tick
  rcases (calls i).tick_cases now monotonic (gate.phases i) gate.register
    with ⟨hi, hnext, hpush⟩ | ⟨hflight, hnext, f, hkey, -, hpatch⟩
      | ⟨-, hsame⟩
  · have hroom : part.length < maxInFlight := by
      have := hstarted.length_lt hi
      omega
    obtain ⟨kept, -, hpushed⟩ := pushBounded_append old hroom
    have hphase : ((calls i).tick now monotonic (gate.phases i)
        gate.register).1 ≠ .called := hnext ▸ nofun
    refine ⟨order ++ [i], kept, part ++ [(calls i).opened now],
      hstarted.open hi hphase rfl, ?_, by simp [hlength], hburied.append _⟩
    exact hpush.trans (hrecords ▸ hpushed)
  · have hmoved : (gate.step calls ⟨i, now, monotonic⟩).Started order :=
      hstarted.move hflight.not_called hnext rfl
    by_cases hin : ∃ r ∈ part, r.correlationId = (calls i).correlationId
    · refine ⟨order, old, _, hmoved,
        hpatch.trans (hrecords ▸ patchLatest_append_right hin), ?_,
        hburied.patchLatest _ hkey⟩
      rw [length_patchLatest, hlength]
    · have hout : ∀ r ∈ part, ¬r.correlationId = (calls i).correlationId :=
        fun r hr hid => hin ⟨r, hr, hid⟩
      exact ⟨order, _, part, hmoved,
        hpatch.trans (hrecords ▸ patchLatest_append_left hout), hlength,
        hburied⟩
  · rw [gate.step_of_same hsame]
    exact ⟨order, old, part, hstarted, hrecords, hlength, hburied⟩

/-- A tick that overlaps no call in flight keeps the calls tracked. -/
theorem Gate.Tracked.step (h : gate.Tracked calls order old entry)
    (hn : n ≤ maxInFlight) (tick : Tick n)
    (hclear : ¬gate.Overlaps calls tick.caller) :
    ∃ order' old' entry',
      (gate.step calls tick).Tracked calls order' old' entry' := by
  obtain ⟨i, now, monotonic⟩ := tick
  rcases (calls i).tick_cases now monotonic (gate.phases i) gate.register
    with ⟨hi, hnext, hpush⟩ | ⟨hflight, hnext, f, -, hf, hpatch⟩
      | ⟨-, hsame⟩
  · have hphases : (gate.step calls ⟨i, now, monotonic⟩).phases
        = Function.update gate.phases i (.routing monotonic) :=
      congrArg (Function.update gate.phases i) hnext
    obtain ⟨kept, hopened⟩ := h.open hn hi hclear now monotonic hphases hpush
    exact ⟨_, kept, _, hopened⟩
  · exact ⟨order, old, _, h.move hflight hnext hf rfl hpatch⟩
  · rw [gate.step_of_same hsame]
    exact ⟨order, old, entry, h⟩

/-- The first overlap buries a record. -/
theorem Gate.Tracked.stuck_step (h : gate.Tracked calls order old entry)
    (hn : n ≤ maxInFlight) (tick : Tick n)
    (hoverlaps : gate.Overlaps calls tick.caller) :
    (gate.step calls tick).Stuck := by
  obtain ⟨i, now, monotonic⟩ := tick
  have hi : gate.phases i = .called := hoverlaps.1
  rcases (calls i).tick_cases now monotonic (gate.phases i) gate.register
    with ⟨-, hnext, hpush⟩ | ⟨hflight, -⟩ | ⟨hreturned, -⟩
  · have hphase : ((calls i).tick now monotonic (gate.phases i)
        gate.register).1 ≠ .called := hnext ▸ nofun
    exact h.bury hn hoverlaps now hphase rfl hpush
  · exact absurd hi hflight.not_called
  · exact absurd hi hreturned.not_called

end Step

-- ===================================================================== runs

/-- Every request has returned. -/
def Gate.AllReturned (gate : Gate n) : Prop :=
  ∀ i, (gate.phases i).Returned

instance (gate : Gate n) : Decidable gate.AllReturned :=
  inferInstanceAs (Decidable (∀ i, (gate.phases i).Returned))

/-- No record is in a stage of a call in flight. -/
def FlightRegister.Idle (reg : FlightRegister) : Prop :=
  ∀ r ∈ reg.records, r.stage.Terminal

/-- No record is in flight any more, and the newest are one for each call,
with the call's own outcome. -/
def Gate.Drained (calls : Fin n → Call) (gate : Gate n) : Prop :=
  gate.register.Idle
    ∧ List.Perm
      ((gate.register.records.drop
        (gate.register.records.length - n)).map InFlightRecord.outcome)
      ((List.finRange n).map fun i => (calls i).outcomeAt (gate.phases i))

/-- No request starts under the correlation id of one in flight. -/
def NoOverlap (calls : Fin n → Call) (reg : FlightRegister)
    (ticks : List (Tick n)) : Prop :=
  ∀ before tick later, ticks = before ++ tick :: later →
    ¬(Gate.after calls reg before).Overlaps calls tick.caller

/-- A run overlaps no ids exactly when its prefix does not and its last tick
does not. -/
theorem noOverlap_append_singleton {reg : FlightRegister}
    {ticks : List (Tick n)} :
    NoOverlap calls reg (ticks ++ [tick]) ↔ NoOverlap calls reg ticks
      ∧ ¬(Gate.after calls reg ticks).Overlaps calls tick.caller := by
  constructor
  · intro h
    refine ⟨fun before first later heq => ?_, h ticks tick [] rfl⟩
    apply h before first (later ++ [tick])
    rw [heq, List.append_assoc, List.cons_append]
  · rintro ⟨hticks, hlast⟩ before first later heq
    rcases List.eq_nil_or_concat later with rfl | ⟨rest, last, rfl⟩
    · obtain ⟨rfl, hfirst⟩ := List.append_inj' heq rfl
      cases hfirst
      exact hlast
    · rw [List.concat_eq_append, ← List.cons_append,
        ← List.append_assoc] at heq
      exact hticks before first rest (List.append_inj' heq rfl).1

/-- Before any tick. -/
theorem Gate.tracked_entered {reg : FlightRegister} (hidle : reg.Idle) :
    (Gate.entered reg : Gate n).Tracked calls [] reg.records
      (fun i => (calls i).opened 0) where
  started := ⟨List.nodup_nil, fun _ =>
    ⟨fun hm => absurd hm List.not_mem_nil, fun h => absurd rfl h⟩⟩
  records_eq := (List.append_nil _).symm
  old_terminal := hidle
  outcome_eq _ hi := absurd hi List.not_mem_nil
  latest _ hi := absurd hi List.not_mem_nil

/-- After an interleaving, the calls are tracked if no start overlapped,
and a record is stuck if one did. -/
theorem Gate.after_tracked_or_stuck (calls : Fin n → Call)
    (hn : n ≤ maxInFlight) {reg : FlightRegister} (hidle : reg.Idle)
    (ticks : List (Tick n)) :
    (NoOverlap calls reg ticks ∧ ∃ order old entry,
      (Gate.after calls reg ticks).Tracked calls order old entry)
    ∨ (¬NoOverlap calls reg ticks
      ∧ (Gate.after calls reg ticks).Stuck) := by
  induction ticks using List.reverseRecOn with
  | nil =>
      refine .inl ⟨fun before tick later heq => ?_, [], _, _,
        Gate.tracked_entered hidle⟩
      simp at heq
  | append_singleton ticks tick ih =>
      have hafter : Gate.after calls reg (ticks ++ [tick])
          = (Gate.after calls reg ticks).step calls tick :=
        Runs.run_append _ ticks [tick]
      rw [noOverlap_append_singleton, hafter]
      rcases ih with ⟨hticks, order, old, entry, h⟩ | ⟨hticks, h⟩
      · by_cases hlast : (Gate.after calls reg ticks).Overlaps calls
          tick.caller
        · exact .inr ⟨fun hno => hno.2 hlast, h.stuck_step hn tick hlast⟩
        · exact .inl ⟨⟨hticks, hlast⟩, h.step hn tick hlast⟩
      · exact .inr ⟨fun hno => hticks hno.1, h.step hn tick⟩

/-- Once every call has returned, the records of tracked calls are one for
each call. -/
theorem Gate.Tracked.drained {order : List (Fin n)}
    {old : List InFlightRecord} {entry : Fin n → InFlightRecord}
    (h : gate.Tracked calls order old entry) (hreturned : gate.AllReturned) :
    gate.Drained calls := by
  have hall : ∀ i, i ∈ order := fun i =>
    (h.started.mem_iff i).mpr (hreturned i).not_called
  have hperm : order.Perm (List.finRange n) := by
    rw [List.perm_ext_iff_of_nodup h.started.nodup (List.nodup_finRange n)]
    exact fun i => ⟨fun _ => List.mem_finRange i, fun _ => hall i⟩
  constructor
  · intro r hr
    rw [h.records_eq, List.mem_append] at hr
    rcases hr with hr | hr
    · exact h.old_terminal r hr
    · obtain ⟨i, hi, rfl⟩ := List.mem_map.mp hr
      show (entry i).outcome.stage.Terminal
      rw [h.outcome_eq i hi]
      exact (calls i).terminal_outcomeAt (hreturned i)
  · have hlength : (order.map entry).length = n := by
      rw [List.length_map, hperm.length_eq, List.length_finRange]
    have hnewest : gate.register.records.drop
        (gate.register.records.length - n) = order.map entry := by
      rw [h.records_eq, List.length_append, hlength, Nat.add_sub_cancel,
        List.drop_left]
    have hmap : (order.map entry).map InFlightRecord.outcome
        = order.map fun i => (calls i).outcomeAt (gate.phases i) := by
      rw [List.map_map]
      exact List.map_congr_left fun i hi => h.outcome_eq i hi
    rw [hnewest, hmap]
    exact hperm.map _

/-- The register drains exactly when no request starts under the
correlation id of one in flight. -/
theorem register_drains_iff (n : Nat) (hn : n ≤ maxInFlight)
    (calls : Fin n → Call) (reg : FlightRegister) (hidle : reg.Idle)
    (ticks : List (Tick n))
    (hreturned : (Gate.after calls reg ticks).AllReturned) :
    (Gate.after calls reg ticks).Drained calls
      ↔ NoOverlap calls reg ticks := by
  rcases Gate.after_tracked_or_stuck calls hn hidle ticks with
    ⟨hno, order, old, entry, h⟩ | ⟨hoverlap, h⟩
  · exact ⟨fun _ => hno, fun _ => h.drained hreturned⟩
  · obtain ⟨order, old, part, -, hrecords, -, hburied⟩ := h
    obtain ⟨r, hr, hflight⟩ := hburied.exists_mem
    have hmem : r ∈ (Gate.after calls reg ticks).register.records := by
      rw [hrecords]
      exact List.mem_append_right old hr
    exact ⟨fun hdrained => absurd (hdrained.1 r hmem) hflight,
      fun hno => absurd hno hoverlap⟩

-- ============================================================== two calls

/-- A request for a household under a correlation id, whose dispatch
fails. -/
def Call.failing (householdId correlationId : String) : Call where
  request := { intent := .rebalanceAdvisory, householdId := householdId,
               correlationId := some correlationId }
  hex := "0123456789ab"
  sent := .error (.runtimeError "internal pm leg failed")

/-- The second starts while the first is in flight; the first returns, then
the second. -/
def twoOverlapping : List (Tick 2) :=
  [⟨0, 1000, 1⟩, ⟨1, 2000, 2⟩, ⟨0, 3000, 3⟩, ⟨0, 4000, 4⟩, ⟨1, 5000, 5⟩,
    ⟨1, 6000, 6⟩]

/-- Two failing calls under different ids. -/
def distinctCalls : Fin 2 → Call := fun i =>
  if i = 0 then .failing "hh_demo_001" "gate-1"
  else .failing "hh_demo_001" "gate-2"

/-- The same call twice under one id. -/
def sharedIdCalls : Fin 2 → Call := fun _ => .failing "hh_demo_001" "gate-1"

theorem FlightRegister.idle_clear : FlightRegister.clear.Idle :=
  List.forall_mem_nil _

theorem distinctCalls_returned :
    (Gate.after distinctCalls .clear twoOverlapping).AllReturned := by
  decide

theorem sharedIdCalls_returned :
    (Gate.after sharedIdCalls .clear twoOverlapping).AllReturned := by
  decide

/-- Calls with correlation ids of their own do not overlap, however their
ticks interleave. -/
theorem noOverlap_of_distinct {n : Nat} {calls : Fin n → Call}
    (h : Function.Injective fun i => (calls i).correlationId)
    (reg : FlightRegister) (ticks : List (Tick n)) :
    NoOverlap calls reg ticks := by
  rintro before tick later - ⟨hcalled, j, hflight, hid⟩
  have hsame : j = tick.caller := h hid
  rw [hsame] at hflight
  exact hflight.not_called hcalled

/-- Under ids of their own, both calls are drained. -/
theorem distinctCalls_drained :
    (Gate.after distinctCalls .clear twoOverlapping).Drained distinctCalls :=
  (register_drains_iff 2 (by decide) distinctCalls .clear
    FlightRegister.idle_clear twoOverlapping distinctCalls_returned).mpr
      (noOverlap_of_distinct (by decide) .clear twoOverlapping)

example :
    (Gate.after distinctCalls .clear twoOverlapping).register.records.map
        InFlightRecord.stage = [.failed, .failed] := by
  decide

/-- Under one id, the record of the first stays in routing. -/
theorem sharedId_left_routing :
    (Gate.after sharedIdCalls .clear twoOverlapping).AllReturned
      ∧ ¬(Gate.after sharedIdCalls .clear twoOverlapping).Drained
        sharedIdCalls := by
  refine ⟨sharedIdCalls_returned, fun hdrained => ?_⟩
  have hstages : (Gate.after sharedIdCalls .clear
      twoOverlapping).register.records.map InFlightRecord.stage
        = [.routing, .failed] := by decide
  have hmem : InFlightStage.routing ∈ (Gate.after sharedIdCalls .clear
      twoOverlapping).register.records.map InFlightRecord.stage := by
    rw [hstages]
    exact List.mem_cons_self
  obtain ⟨r, hr, hstage⟩ := List.mem_map.mp hmem
  have hterminal := hdrained.1 r hr
  rw [hstage] at hterminal
  exact absurd hterminal (of_decide_eq_true rfl)

end Warehouse
