/-
The human gate over whole runs, and how often a trade can be staged.

Both results read the book's invariant at the end of a run.
`human_gate` is the gate itself: no order without an approved,
reviewed optimization approval, orders one for one with the run's
trades, and a decision nobody revises.

Staging is at most once per approval, not per run: the duplicate check
asks for orders of the approval, and a run may have any number of
approvals. `staged_at_most_once_per_approval` counts what that allows.

# Runs and later runs

`human_gate` speaks of one store, and of every store after it: a decided
approval is found unchanged, under an id nothing else has. The count of
orders per run is the invariant once more: every order of a run lies in the
bucket of one of its approved approvals, and a bucket holds one order a
trade.
-/
import Warehouse.Proofs.Oms.Refinement
import Mathlib.Algebra.Order.BigOperators.Group.List

namespace Warehouse

open Lib

variable {env : Env}

/-- The trades of a run. -/
def Store.tradesOf (store : Store) (runId : String) :
    List OptimizationTradeRow :=
  store.optimizationTrades.filter (·.runId = runId)

/-- The staged orders of a run, through whatever approval. -/
def Store.ordersOfRun (store : Store) (runId : String) :
    List StagedOrderRow :=
  store.stagedOrders.filter (·.optimizationRunId = runId)

/-- The approved approvals of a run. -/
def Store.approvalsOfRun (store : Store) (runId : String) :
    List ApprovalRequestRow :=
  store.approvalRequests.filter fun row =>
    row.optimizationRunId = some runId ∧ row.status = .approved

-- ==================================================== reading the invariant

/-- An approval's orders: none, or approved and one for each trade. -/
theorem staged_in_full {store : Store} (inv : BookInv env store.book)
    {approval : ApprovalRequestRow} (hmem : approval ∈ store.approvalRequests)
    (hsome : store.ordersOf approval.requestId ≠ []) :
    approval.status = .approved
      ∧ ∃ runId, approval.optimizationRunId = some runId
        ∧ (∀ order ∈ store.ordersOf approval.requestId,
            order.optimizationRunId = runId
            ∧ order.householdId = approval.householdId)
        ∧ ((store.ordersOf approval.requestId).map (·.line)).Perm
            ((store.tradesOf runId).map (·.line)) := by
  rcases inv.staged approval hmem with h | h
  · exact absurd (ordersOf_eq_nil_iff.mp h) hsome
  · obtain ⟨happroved, runId, hrun, howned, hlines⟩ := h
    refine ⟨happroved, runId, hrun, fun order ho => ?_, ?_⟩
    · have hbook : order.asStaged ∈ store.book.ordersOf approval.requestId := by
        rw [book_ordersOf]
        exact List.mem_map.mpr ⟨order, ho, rfl⟩
      exact howned order.asStaged hbook
    · rw [book_ordersOf, List.map_map] at hlines
      exact hlines

/-- An order's approval is on the book. -/
theorem approval_of_order {store : Store} (inv : BookInv env store.book)
    {order : StagedOrderRow} (hmem : order ∈ store.stagedOrders) :
    ∃ approval ∈ store.approvalRequests,
      approval.requestId = order.approvalRequestId
        ∧ order ∈ store.ordersOf approval.requestId := by
  obtain ⟨approval, happ, hid⟩ := inv.orderApproval order.asStaged
    (List.mem_map.mpr ⟨order, hmem, rfl⟩)
  have hown : order.approvalRequestId = approval.requestId := hid.symm
  exact ⟨approval, happ, hid, List.mem_filter.mpr ⟨hmem, by simpa using hown⟩⟩

-- ========================================================== a decision stays

/-- A decided approval survives every book step as it is. -/
theorem decided_kept_step {book book' : Book} (inv : BookInv env book)
    (hstep : BookStep env book book') {approval : ApprovalRequestRow}
    (hmem : approval ∈ book.approvals) (hdecided : approval.status ≠ .pending) :
    approval ∈ book'.approvals := by
  cases hstep with
  | drew => exact hmem
  | persisted => exact hmem
  | opened => exact List.mem_append_left _ hmem
  | decided row row' draws h hrow hpending hreviewed hkept =>
      refine List.mem_map.mpr ⟨approval, hmem, ?_⟩
      rw [if_neg]
      intro heq
      -- the row being decided is pending, so it is another one
      have hsame : approval = row := by
        apply List.inj_on_of_nodup_map inv.requestsDistinct hmem hrow
        rw [heq, hkept]
      rw [hsame] at hdecided
      exact hdecided hpending
  | staged => exact hmem

/-- A decided request stays as it is, whatever follows. -/
theorem decided_kept {store : Store} (inv : BookInv env store.book)
    {approval : ApprovalRequestRow} (hmem : approval ∈ store.approvalRequests)
    (hdecided : approval.status ≠ .pending) (ops : List Op) :
    approval ∈ (Runs.run (exec env) store ops).approvalRequests := by
  suffices hkeep : ∀ (s : Store) (op : Op), BookInv env s.book →
      approval ∈ s.approvalRequests →
      approval ∈ (exec env s op).approvalRequests by
    exact Runs.run_keeps bookInv_exec hkeep ops store inv hmem
  intro s op hs hp
  have hsteps := exec_refines s op hs
  generalize (exec env s op) = s' at hsteps
  suffices general : ∀ book', BookSteps env s.book book' →
      approval ∈ book'.approvals by
    exact general s'.book hsteps
  intro book' hsteps
  induction hsteps with
  | refl => exact hp
  | tail hbefore hstep ih =>
      exact decided_kept_step (hs.steps hbefore) hstep ih hdecided

-- ============================================================ the human gate

/-- One run of one trade, and a second approval of it. -/
def twoGates : List Op :=
  [.persist
      { householdId := "h", configVersion := "2026.01", estimatedTaxDelta := 0,
        trades :=
          [{ lotId := some "lot_1", securityId := "sec_vti",
             accountId := "acct_a", side := "sell", quantity := 1,
             rationale := "" }] }
      "snapshot_local" "system:optimizer" "heuristic" none true,
   .createApproval "opt_" "h",
   .decide "appr_11" .approved "reviewer",
   .stage .insertion "appr_11" "system:oms",
   .decide "appr_1111" .approved "reviewer",
   .stage .insertion "appr_1111" "system:oms"]

/-- The human gate over whole runs.

After any sequence of calls: every order belongs to an approval that has
optimization subject, is approved and has a reviewer; an approval with
orders has exactly one for each trade of its run; one that is pending,
rejected or of report subject has none; and once an approval has left
PENDING, every later store holds it unchanged, under an id that names no
other. -/
theorem human_gate (env : Env) (ops : List Op) :
    (∀ order ∈ (storeAfter env ops).stagedOrders,
      ∃ approval ∈ (storeAfter env ops).approvalRequests,
        approval.requestId = order.approvalRequestId
        ∧ approval.subjectType = .optimization
        ∧ approval.status = .approved ∧ approval.reviewerId ≠ none)
    ∧ (∀ approval ∈ (storeAfter env ops).approvalRequests,
        (storeAfter env ops).ordersOf approval.requestId ≠ [] →
        ∃ runId, approval.optimizationRunId = some runId
          ∧ (((storeAfter env ops).ordersOf approval.requestId).map
              (·.line)).Perm
            (((storeAfter env ops).tradesOf runId).map (·.line)))
    ∧ (∀ approval ∈ (storeAfter env ops).approvalRequests,
        (approval.status = .pending ∨ approval.status = .rejected
          ∨ approval.subjectType = .report) →
        (storeAfter env ops).ordersOf approval.requestId = [])
    ∧ (∀ approval ∈ (storeAfter env ops).approvalRequests,
        approval.status ≠ .pending → ∀ later : List Op,
        approval ∈ (storeAfter env (ops ++ later)).approvalRequests
        ∧ ∀ other ∈ (storeAfter env (ops ++ later)).approvalRequests,
            other.requestId = approval.requestId →
            other.status = approval.status
              ∧ other.reviewerId = approval.reviewerId) := by
  have inv := bookInv_storeAfter env ops
  refine ⟨fun order ho => ?_, fun approval happ hsome => ?_,
    fun approval happ hclosed => ?_, fun approval happ hdecided later => ?_⟩
  · obtain ⟨approval, happ, hid, hown⟩ := approval_of_order inv ho
    obtain ⟨happroved, runId, hrun, -⟩ :=
      staged_in_full inv happ (List.ne_nil_of_mem hown)
    have hsubject := (inv.subjects approval happ).mp (by rw [hrun]; rfl)
    have hreviewed := inv.reviewed approval happ (by rw [happroved]; decide)
    exact ⟨approval, happ, hid, hsubject, happroved,
      Option.isSome_iff_ne_none.mp hreviewed⟩
  · obtain ⟨-, runId, hrun, -, hlines⟩ := staged_in_full inv happ hsome
    exact ⟨runId, hrun, hlines⟩
  · by_contra hsome
    obtain ⟨happroved, runId, hrun, -⟩ := staged_in_full inv happ hsome
    have hsubject := (inv.subjects approval happ).mp (by rw [hrun]; rfl)
    rcases hclosed with h | h | h
    · rw [happroved] at h
      cases h
    · rw [happroved] at h
      cases h
    · rw [hsubject] at h
      cases h
  · have hkept : approval ∈ (storeAfter env (ops ++ later)).approvalRequests := by
      rw [storeAfter, Runs.run_append]
      exact decided_kept inv happ hdecided later
    refine ⟨hkept, fun other hother hid => ?_⟩
    have hsame : other = approval := List.inj_on_of_nodup_map
      (bookInv_storeAfter env (ops ++ later)).requestsDistinct hother hkept hid
    rw [hsame]
    exact ⟨rfl, rfl⟩

/-- An order, with its approved and reviewed request. -/
theorem human_gate_twoGates :
    ∃ order ∈ (storeAfter Env.counting twoGates).stagedOrders,
      ∃ approval ∈ (storeAfter Env.counting twoGates).approvalRequests,
        approval.requestId = order.approvalRequestId
        ∧ approval.status = .approved ∧ approval.reviewerId ≠ none := by
  obtain ⟨hgate, -⟩ := human_gate Env.counting twoGates
  have hsome : (storeAfter Env.counting twoGates).stagedOrders ≠ [] := by
    decide
  obtain ⟨order, ho⟩ := List.exists_mem_of_ne_nil _ hsome
  obtain ⟨approval, happ, hid, -, happroved, hreviewed⟩ := hgate order ho
  exact ⟨order, ho, approval, happ, hid, happroved, hreviewed⟩

-- ===================================================== one run, many gates

/-- Rows sorted into buckets by key are at most the buckets together. -/
private theorem length_le_sum_buckets {α : Type} (key : α → String)
    (rows : List α) (keys : List String) (hkeys : ∀ row ∈ rows, key row ∈ keys) :
    rows.length
      ≤ (keys.map fun k => (rows.filter (key · = k)).length).sum := by
  induction keys generalizing rows with
  | nil =>
      cases rows with
      | nil => exact Nat.le_refl 0
      | cons row rest => cases hkeys row (List.mem_cons_self ..)
  | cons k rest ih =>
      have hrest := ih (rows.filter (key · ≠ k)) fun row hr => by
        obtain ⟨hmem, hne⟩ := List.mem_filter.mp hr
        rcases List.mem_cons.mp (hkeys row hmem) with h | h
        · simp [h] at hne
        · exact h
      have hsub : ((rest.map fun k' =>
            ((rows.filter (key · ≠ k)).filter (key · = k')).length)).sum
          ≤ (rest.map fun k' => (rows.filter (key · = k')).length).sum := by
        apply List.sum_le_sum
        intro k' _
        exact ((List.filter_sublist).filter _).length_le
      have hsplit : rows.length = (rows.filter (key · = k)).length
          + (rows.filter (key · ≠ k)).length := by
        have := List.length_eq_length_filter_add (l := rows) (key · = k)
        simpa using this
      rw [List.map_cons, List.sum_cons, hsplit]
      omega

/-- A run has at most one order a trade and approval. -/
theorem ordersOfRun_le {store : Store} (inv : BookInv env store.book)
    (runId : String) :
    (store.ordersOfRun runId).length
      ≤ (store.approvalsOfRun runId).length * (store.tradesOf runId).length := by
  -- every order of the run is in the bucket of an approved approval of it
  have hkeys : ∀ order ∈ store.ordersOfRun runId, order.approvalRequestId
      ∈ (store.approvalsOfRun runId).map (·.requestId) := by
    intro order ho
    obtain ⟨hmem, hrunId⟩ := List.mem_filter.mp ho
    obtain ⟨approval, happ, hid, hown⟩ := approval_of_order inv hmem
    obtain ⟨happroved, runId', hrun, howned, -⟩ :=
      staged_in_full inv happ (List.ne_nil_of_mem hown)
    have hsame : runId' = runId := by
      rw [← (howned order hown).1]
      simpa using hrunId
    refine List.mem_map.mpr ⟨approval, List.mem_filter.mpr ⟨happ, ?_⟩, hid⟩
    simp [hrun, hsame, happroved]
  -- and a bucket holds no more orders than the run has trades
  have hbucket : ∀ size ∈ ((store.approvalsOfRun runId).map (·.requestId)).map
      (fun requestId => ((store.ordersOfRun runId).filter
        (·.approvalRequestId = requestId)).length),
      size ≤ (store.tradesOf runId).length := by
    intro size hsize
    obtain ⟨requestId, hreq, rfl⟩ := List.mem_map.mp hsize
    obtain ⟨approval, happ, rfl⟩ := List.mem_map.mp hreq
    obtain ⟨hmem, hof⟩ := List.mem_filter.mp happ
    have hle : ((store.ordersOfRun runId).filter
        (·.approvalRequestId = approval.requestId)).length
        ≤ (store.ordersOf approval.requestId).length :=
      ((List.filter_sublist).filter _).length_le
    by_cases hnil : store.ordersOf approval.requestId = []
    · rw [hnil] at hle
      exact hle.trans (Nat.zero_le _)
    · obtain ⟨-, runId', hrun, -, hlines⟩ := staged_in_full inv hmem hnil
      have hsame : runId' = runId := by
        rw [hrun] at hof
        simpa using (of_decide_eq_true hof).1
      have hlen := hlines.length_eq
      rw [List.length_map, List.length_map, hsame] at hlen
      omega
  refine (length_le_sum_buckets _ _ _ hkeys).trans ?_
  have hsum := List.sum_le_card_nsmul _ _ hbucket
  simpa using hsum

/-- Staging is at most once per approval.

After any sequence of calls: an approval has no staged orders, or one for
each trade of its run; so a run has at most as many staged orders as it
has trades for each of its approved approvals, and no trade is staged
twice where at most one approval of the run is approved. -/
theorem staged_at_most_once_per_approval (env : Env) (ops : List Op) :
    (∀ approval ∈ (storeAfter env ops).approvalRequests,
      (storeAfter env ops).ordersOf approval.requestId = []
      ∨ ∃ runId, approval.optimizationRunId = some runId
        ∧ (((storeAfter env ops).ordersOf approval.requestId).map
            (·.line)).Perm
          (((storeAfter env ops).tradesOf runId).map (·.line)))
    ∧ ∀ runId,
        ((storeAfter env ops).ordersOfRun runId).length
          ≤ ((storeAfter env ops).approvalsOfRun runId).length
            * ((storeAfter env ops).tradesOf runId).length
        ∧ (((storeAfter env ops).approvalsOfRun runId).length ≤ 1 →
          ((storeAfter env ops).ordersOfRun runId).length
            ≤ ((storeAfter env ops).tradesOf runId).length) := by
  have inv := bookInv_storeAfter env ops
  refine ⟨fun approval happ => ?_, fun runId => ?_⟩
  · by_cases hnil : (storeAfter env ops).ordersOf approval.requestId = []
    · exact Or.inl hnil
    · obtain ⟨-, runId, hrun, -, hlines⟩ := staged_in_full inv happ hnil
      exact Or.inr ⟨runId, hrun, hlines⟩
  · have hle := ordersOfRun_le inv runId
    refine ⟨hle, fun hone => hle.trans ?_⟩
    exact (Nat.mul_le_mul_right _ hone).trans (Nat.one_mul _).le

/-- With one approval, one order a trade. -/
theorem staged_at_most_once_per_approval_oneGate :
    ((storeAfter Env.counting (twoGates.take 4)).ordersOfRun "opt_").length
      ≤ ((storeAfter Env.counting (twoGates.take 4)).tradesOf "opt_").length := by
  obtain ⟨-, hruns⟩ :=
    staged_at_most_once_per_approval Env.counting (twoGates.take 4)
  exact (hruns "opt_").2 (by decide)

/-- Staged through both gates, the one trade has two orders. -/
theorem twoGates_stage_twice :
    ((storeAfter Env.counting twoGates).tradesOf "opt_").length = 1
      ∧ ((storeAfter Env.counting twoGates).ordersOfRun "opt_").length = 2 := by
  decide

end Warehouse
