/-
Household scoping of approvals and staged orders.

Messages refine operations (`deliver_eq`), so a store that messages
reach carries the book's invariant, and an order has the household and
the run of its approval. What is left is which household an approval
has: the tables record it message by message (`gates_deliver`), and over
a run of messages the gates on runs are, in order, what the
`approval.create` payloads name. Nothing compares the two households of
a gate, so scoping holds exactly as far as the senders keep it.

# The failure

A gate names a household of its own, and it may be another than the run's;
then the orders staged through the gate carry the gate's household
(`foreignGate`). Under senders that name the run's household in every gate,
the store stays scoped whatever else they send, and whatever fails in
between.
-/
import Warehouse.Messaging.Handlers
import Warehouse.Proofs.Oms.Gate

namespace Warehouse

open Lib

variable {env : Env}

-- ================================================================ messages

/-- The operation a message performs, when its payload is of its op's
type. -/
def Delivery.op? (d : Delivery) : Option Op :=
  match d.message.op, d.message.payload with
  | .optimizerPersist, .optimizerPersist p =>
      some (.persist p.result p.inputSnapshotId d.actorId "heuristic" none
        false)
  | .approvalCreate, .approvalCreate p =>
      match p.reportSnapshotId, p.optimizationRunId with
      | some snapshotId, _ =>
          some (.createReportApproval snapshotId p.householdId)
      | none, some runId => some (.createApproval runId p.householdId)
      | none, none => none
  | .approvalDecide, .approvalDecide p =>
      some (.decide p.requestId p.status p.reviewerId)
  | .ordersStage, .ordersStage p =>
      some (.stage d.order p.approvalRequestId d.actorId)
  | _, _ => none

/-- The reply a view is wrapped in does not change what a call commits. -/
private theorem committed_map {α : Type} (store : Store) (reply : α → Reply)
    (result : Except Exc (α × Store)) :
    (match result.map fun (view, store') => (reply view, store') with
      | .ok (_, store') => store'
      | .error _ => store)
      = match result.map Prod.snd with
        | .ok store' => store'
        | .error _ => store := by
  cases result with
  | error e => rfl
  | ok pair => rfl

/-- A message is its operation; one of the wrong type is nothing. -/
theorem deliver_eq (store : Store) (d : Delivery) :
    deliver env store d
      = match d.op? with
        | some op => exec env store op
        | none => store := by
  obtain ⟨⟨op, payload, correlationId, householdId⟩, actorId, order⟩ := d
  cases op with
  | optimizerPersist =>
      cases payload with
      | optimizerPersist p => rfl
      | approvalCreate p => rfl
      | approvalDecide p => rfl
      | ordersStage p => rfl
  | approvalCreate =>
      cases payload with
      | optimizerPersist p => rfl
      | approvalCreate p =>
          obtain ⟨household, run, snapshot, hone⟩ := p
          cases snapshot with
          | some snapshotId => rfl
          | none =>
              cases run with
              | some runId => rfl
              | none => exact absurd rfl hone
      | approvalDecide p => rfl
      | ordersStage p => rfl
  | approvalDecide =>
      cases payload with
      | optimizerPersist p => rfl
      | approvalCreate p => rfl
      | approvalDecide p => exact committed_map store .approvalRequest _
      | ordersStage p => rfl
  | ordersStage =>
      cases payload with
      | optimizerPersist p => rfl
      | approvalCreate p => rfl
      | approvalDecide p => rfl
      | ordersStage p => exact committed_map store .stagedOrders _

/-- A delivered message keeps the book's invariant. -/
theorem bookInv_deliver (store : Store) (d : Delivery)
    (inv : BookInv env store.book) :
    BookInv env (deliver env store d).book := by
  rw [deliver_eq]
  cases d.op? with
  | none => exact inv
  | some op => exact bookInv_exec store op inv

/-- Every store messages reach carries the book's invariant. -/
theorem bookInv_storeAfterMessages (env : Env) (deliveries : List Delivery) :
    BookInv env (storeAfterMessages env deliveries).book :=
  Runs.run_invariant bookInv_deliver deliveries Store.empty bookInv_empty

-- ======================================================= what is recorded

/-- The gates on runs: the run and the household of each. -/
def Store.gates (store : Store) : List (String × String) :=
  store.approvalRequests.filterMap fun row =>
    row.optimizationRunId.map fun runId => (runId, row.householdId)

/-- The households of the runs. -/
def Store.runHouseholds (store : Store) : List String :=
  store.optimizationRuns.map (·.householdId)

/-- The run and the household an `approval.create` message names. -/
def Delivery.gate? (d : Delivery) : Option (String × String) :=
  match d.message.op, d.message.payload with
  | .approvalCreate, .approvalCreate p =>
      p.optimizationRunId.map fun runId => (runId, p.householdId)
  | _, _ => none

/-- The household of the result an `optimizer.persist` message carries. -/
def Delivery.persists? (d : Delivery) : Option String :=
  match d.message.op, d.message.payload with
  | .optimizerPersist, .optimizerPersist p => some p.result.householdId
  | _, _ => none

/-- A decision changes neither the run nor the household of a gate. -/
theorem gates_decide {store store' : Store} (inv : BookInv env store.book)
    {requestId reviewerId : String} {status : ApprovalStatus}
    {view : ApprovalRequestRow}
    (h : updateApprovalStatus env store requestId status reviewerId
      = .ok (view, store')) :
    store'.gates = store.gates
      ∧ store'.optimizationRuns = store.optimizationRuns := by
  obtain ⟨row, hmem, -, -, rfl, rfl⟩ := decide_cases h
  exact ⟨Keyed.filterMap_put inv.requestsDistinct hmem rfl rfl, rfl⟩

/-- Staging touches neither approvals nor runs. -/
theorem gates_stage {store store' : Store} (inv : BookInv env store.book)
    {order : RowOrder} {requestId actorId : String}
    {views : List StagedOrderRow}
    (h : stageOrdersFromApproval env order store requestId actorId
      = .ok (views, store')) :
    store'.gates = store.gates
      ∧ store'.optimizationRuns = store.optimizationRuns := by
  obtain ⟨approval, -, -, -, hcase⟩ := stage_cases inv h
  rcases hcase with ⟨-, rfl, -⟩ | ⟨-, runId, -, -, rfl⟩
  · exact ⟨rfl, rfl⟩
  · exact ⟨rfl, rfl⟩

/-- Neither do they when the call fails. -/
theorem gates_exec_kept {store : Store} (inv : BookInv env store.book)
    {op : Op} (hop : (∃ requestId status reviewerId,
        op = .decide requestId status reviewerId)
      ∨ ∃ order requestId actorId, op = .stage order requestId actorId) :
    (exec env store op).gates = store.gates
      ∧ (exec env store op).runHouseholds = store.runHouseholds := by
  have hruns : ∀ store' : Store,
      store'.optimizationRuns = store.optimizationRuns →
      store'.runHouseholds = store.runHouseholds := by
    intro store' heq
    unfold Store.runHouseholds
    rw [heq]
  unfold exec
  cases hcall : op.call env store with
  | error e => exact ⟨rfl, rfl⟩
  | ok store' =>
      rcases hop with ⟨requestId, status, reviewerId, rfl⟩
        | ⟨order, requestId, actorId, rfl⟩
      · obtain ⟨view, hok⟩ := ok_of_map_snd hcall
        obtain ⟨hgates, heq⟩ := gates_decide inv hok
        exact ⟨hgates, hruns store' heq⟩
      · obtain ⟨views, hok⟩ := ok_of_map_snd hcall
        obtain ⟨hgates, heq⟩ := gates_stage inv hok
        exact ⟨hgates, hruns store' heq⟩

/-- What a message adds: the gate it opens, the run it persists. -/
theorem deliver_records (store : Store) (d : Delivery)
    (inv : BookInv env store.book) :
    (deliver env store d).gates = store.gates ++ d.gate?.toList
      ∧ (deliver env store d).runHouseholds
        = store.runHouseholds ++ d.persists?.toList := by
  have hnothing : store.gates = store.gates ++ []
      ∧ store.runHouseholds = store.runHouseholds ++ [] :=
    ⟨(List.append_nil _).symm, (List.append_nil _).symm⟩
  obtain ⟨⟨op, payload, correlationId, householdId⟩, actorId, order⟩ := d
  cases op with
  | optimizerPersist =>
      cases payload with
      | optimizerPersist p =>
          refine ⟨hnothing.1, ?_⟩
          show (store.optimizationRuns ++ [_]).map _ = _
          rw [List.map_append]
          rfl
      | approvalCreate p => exact hnothing
      | approvalDecide p => exact hnothing
      | ordersStage p => exact hnothing
  | approvalCreate =>
      cases payload with
      | optimizerPersist p => exact hnothing
      | approvalCreate p =>
          obtain ⟨household, run, snapshot, hone⟩ := p
          cases run with
          | some runId =>
              cases snapshot with
              | some snapshotId => exact absurd rfl hone
              | none =>
                  refine ⟨?_, hnothing.2⟩
                  show (store.approvalRequests ++ [_]).filterMap _ = _
                  rw [List.filterMap_append]
                  rfl
          | none =>
              cases snapshot with
              | some snapshotId =>
                  refine ⟨?_, hnothing.2⟩
                  show (store.approvalRequests ++ [_]).filterMap _ = _
                  rw [List.filterMap_append]
                  rfl
              | none => exact absurd rfl hone
      | approvalDecide p => exact hnothing
      | ordersStage p => exact hnothing
  | approvalDecide =>
      cases payload with
      | optimizerPersist p => exact hnothing
      | approvalCreate p => exact hnothing
      | approvalDecide p =>
          obtain ⟨hgates, hruns⟩ := gates_exec_kept inv
            (Or.inl ⟨p.requestId, p.status, p.reviewerId, rfl⟩)
          rw [deliver_eq]
          exact ⟨hgates.trans hnothing.1, hruns.trans hnothing.2⟩
      | ordersStage p => exact hnothing
  | ordersStage =>
      cases payload with
      | optimizerPersist p => exact hnothing
      | approvalCreate p => exact hnothing
      | approvalDecide p => exact hnothing
      | ordersStage p =>
          obtain ⟨hgates, hruns⟩ := gates_exec_kept inv
            (Or.inr ⟨order, p.approvalRequestId, actorId, rfl⟩)
          rw [deliver_eq]
          exact ⟨hgates.trans hnothing.1, hruns.trans hnothing.2⟩

/-- What a run of messages adds, message by message. -/
theorem storeAfterMessages_records (deliveries : List Delivery) :
    ∀ store : Store, BookInv env store.book →
      (Runs.run (deliver env) store deliveries).gates
          = store.gates ++ deliveries.filterMap (·.gate?)
        ∧ (Runs.run (deliver env) store deliveries).runHouseholds
          = store.runHouseholds ++ deliveries.filterMap (·.persists?) := by
  induction deliveries with
  | nil =>
      intro store _
      exact ⟨(List.append_nil _).symm, (List.append_nil _).symm⟩
  | cons d rest ih =>
      intro store inv
      obtain ⟨hgates, hruns⟩ := ih (deliver env store d)
        (bookInv_deliver store d inv)
      obtain ⟨hgate, hrun⟩ := deliver_records store d inv
      rw [Runs.run_cons, hgates, hruns, hgate, hrun]
      have hcons : ∀ {β : Type} (f : Delivery → Option β),
          (d :: rest).filterMap f = (f d).toList ++ rest.filterMap f := by
        intro β f
        rw [List.filterMap_cons]
        cases f d with
        | none => rfl
        | some b => rfl
      rw [hcons, hcons]
      exact ⟨List.append_assoc .., List.append_assoc ..⟩

-- ============================================================= scoping

/-- No household's run is approved or staged under another household. -/
structure HouseholdScoped (store : Store) : Prop where
  approvals : ∀ approval ∈ store.approvalRequests,
    ∀ run ∈ store.optimizationRuns,
      approval.optimizationRunId = some run.runId →
      approval.householdId = run.householdId
  orders : ∀ order ∈ store.stagedOrders, ∀ run ∈ store.optimizationRuns,
    order.optimizationRunId = run.runId → order.householdId = run.householdId

/-- An order has the household and the run of its approval. -/
theorem order_of_approval {store : Store} (inv : BookInv env store.book)
    {order : StagedOrderRow} (hmem : order ∈ store.stagedOrders) :
    ∃ approval ∈ store.approvalRequests,
      approval.requestId = order.approvalRequestId
        ∧ approval.householdId = order.householdId
        ∧ approval.optimizationRunId = some order.optimizationRunId := by
  obtain ⟨approval, happ, hid, hown⟩ := approval_of_order inv hmem
  obtain ⟨-, runId, hrun, howned, -⟩ :=
    staged_in_full inv happ (List.ne_nil_of_mem hown)
  obtain ⟨hsame, hhousehold⟩ := howned order hown
  exact ⟨approval, happ, hid, hhousehold.symm, by rw [hrun, hsame]⟩

/-- Scoping is a matter of the gates alone. -/
theorem householdScoped_iff {store : Store} (inv : BookInv env store.book) :
    HouseholdScoped store
      ↔ ∀ gate ∈ store.gates, ∀ run ∈ store.optimizationRuns,
          run.runId = gate.1 → gate.2 = run.householdId := by
  refine ⟨fun hscoped gate hgate run hrun hid => ?_, fun hgates => ?_⟩
  · obtain ⟨approval, happ, hof⟩ := List.mem_filterMap.mp hgate
    obtain ⟨runId, hsubject, rfl⟩ := Option.map_eq_some_iff.mp hof
    apply hscoped.approvals approval happ run hrun
    rw [hsubject, hid]
  · have happrovals : ∀ approval ∈ store.approvalRequests,
        ∀ run ∈ store.optimizationRuns,
          approval.optimizationRunId = some run.runId →
          approval.householdId = run.householdId := by
      intro approval happ run hrun hsubject
      apply hgates (run.runId, approval.householdId) ?_ run hrun rfl
      refine List.mem_filterMap.mpr ⟨approval, happ, ?_⟩
      rw [hsubject]
      rfl
    refine ⟨happrovals, fun order ho run hrun hid => ?_⟩
    obtain ⟨approval, happ, -, hhousehold, hsubject⟩ :=
      order_of_approval inv ho
    rw [← hhousehold]
    apply happrovals approval happ run hrun
    rw [hsubject, hid]

/-- Household scoping over whole runs of messages.

After any sequence of messages: the runs have, in order, the households
of the results persisted; the gates on runs have, in order, the runs and
the households their `approval.create` payloads name; and an order has
the household and the run of its approval. So no household's run is
approved or staged under another household exactly when every
`approval.create` payload that names a run names that run's household. -/
theorem household_scoping (env : Env) (deliveries : List Delivery) :
    (storeAfterMessages env deliveries).runHouseholds
        = deliveries.filterMap (·.persists?)
    ∧ (storeAfterMessages env deliveries).gates
        = deliveries.filterMap (·.gate?)
    ∧ (∀ order ∈ (storeAfterMessages env deliveries).stagedOrders,
        ∃ approval ∈ (storeAfterMessages env deliveries).approvalRequests,
          approval.requestId = order.approvalRequestId
            ∧ approval.householdId = order.householdId
            ∧ approval.optimizationRunId = some order.optimizationRunId)
    ∧ (HouseholdScoped (storeAfterMessages env deliveries)
        ↔ ∀ gate ∈ deliveries.filterMap (·.gate?),
            ∀ run ∈ (storeAfterMessages env deliveries).optimizationRuns,
              run.runId = gate.1 → gate.2 = run.householdId) := by
  have inv := bookInv_storeAfterMessages env deliveries
  obtain ⟨hgates, hruns⟩ :=
    storeAfterMessages_records deliveries Store.empty
      (bookInv_empty)
  have hgates' : (storeAfterMessages env deliveries).gates
      = deliveries.filterMap (·.gate?) := hgates
  refine ⟨hruns, hgates', fun order ho => order_of_approval inv ho, ?_⟩
  rw [← hgates']
  exact householdScoped_iff inv

/-- A run of household A, its gate opened under household B, approved and
staged. -/
def foreignGate : List Delivery :=
  [{ message :=
      { op := .optimizerPersist
        payload := .optimizerPersist
          { result :=
              { householdId := "A", configVersion := "2026.01"
                estimatedTaxDelta := 0
                trades :=
                  [{ lotId := some "lot_1", securityId := "sec_vti",
                     accountId := "acct_a", side := "sell", quantity := 1,
                     rationale := "" }] } }
        correlationId := "c" } },
   { message :=
      { op := .approvalCreate
        payload := .approvalCreate
          { householdId := "B", optimizationRunId := some "opt_"
            oneSubject := by decide }
        correlationId := "c" } },
   { message :=
      { op := .approvalDecide
        payload := .approvalDecide
          { requestId := "appr_11", status := .approved
            reviewerId := "reviewer" }
        correlationId := "c" } },
   { message :=
      { op := .ordersStage
        payload := .ordersStage { approvalRequestId := "appr_11" }
        correlationId := "c" } }]

/-- Household A's trade, approved and staged under household B. -/
theorem foreignGate_not_scoped :
    ¬ HouseholdScoped (storeAfterMessages Env.counting foreignGate) := by
  intro hscoped
  have hruns : ∃ run, (storeAfterMessages Env.counting
      foreignGate).optimizationRuns = [run] ∧ run.runId = "opt_"
        ∧ run.householdId = "A" := ⟨_, rfl, rfl, rfl⟩
  have horders : ∃ order, (storeAfterMessages Env.counting
      foreignGate).stagedOrders = [order] ∧ order.optimizationRunId = "opt_"
        ∧ order.householdId = "B" := ⟨_, rfl, rfl, rfl⟩
  obtain ⟨run, hrun, hrunId, hrunHousehold⟩ := hruns
  obtain ⟨order, horder, horderRun, horderHousehold⟩ := horders
  have hsame := hscoped.orders order (by rw [horder]; simp) run
    (by rw [hrun]; simp) (by rw [horderRun, hrunId])
  rw [horderHousehold, hrunHousehold] at hsame
  exact absurd hsame (by decide)

end Warehouse
