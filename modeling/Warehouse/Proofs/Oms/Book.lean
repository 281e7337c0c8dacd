/-
The staging book: what the human gate is about.

`Book` is the abstract state: runs, their trades, approvals, and orders
without what `updateOrderStatus` writes (status, timestamp), and how
many ids have been drawn. `BookStep` is everything the services may do
to it: draw ids; persist a run; open a gate; decide a pending gate;
stage an approved run once. That the services do nothing else is
`exec_refines`, next door.

# The invariant

`BookInv` is carried by every book step. Its heart is `staged`: an
approval has no orders, or it is approved and its orders are one for
each trade of its run. What keeps it is freshness (`Drawn`): a run's
trades are all written with the run, under an id not drawn before, so a
run that has orders never gains a trade.
-/
import Warehouse.Infra.Db
import Warehouse.Lib.Keyed
import Mathlib.Logic.Relation

namespace Warehouse

open Lib

-- =============================================================== fresh ids

/-- An id drawn between two points of the draw sequence. -/
def Drawn (env : Env) (label : String) (lo hi : Nat) (id : String) : Prop :=
  ∃ k, lo ≤ k ∧ k < hi ∧ id = label ++ "_" ++ env.hex k

variable {env : Env} {label : String}

theorem Drawn.mono {lo hi hi' : Nat} {id : String}
    (h : Drawn env label lo hi id) (hle : hi ≤ hi') :
    Drawn env label lo hi' id := by
  obtain ⟨k, hlo, hhi, hid⟩ := h
  exact ⟨k, hlo, by omega, hid⟩

/-- Drawn at all is drawn since the beginning. -/
theorem Drawn.from_zero {lo hi : Nat} {id : String}
    (h : Drawn env label lo hi id) : Drawn env label 0 hi id := by
  obtain ⟨k, -, hhi, hid⟩ := h
  exact ⟨k, Nat.zero_le k, hhi, hid⟩

/-- Ids drawn at different times differ. -/
theorem Drawn.ne {lo mid hi : Nat} {id id' : String}
    (h : Drawn env label lo mid id) (h' : Drawn env label mid hi id') :
    id ≠ id' := by
  obtain ⟨k, -, hk, hid⟩ := h
  obtain ⟨k', hk', -, hid'⟩ := h'
  intro heq
  rw [hid, hid'] at heq
  have := env.hexInjective ((String.append_right_inj _).mp heq)
  omega

theorem drawn_freshId (store : Store) {hi : Nat} (h : store.draws < hi) :
    Drawn env label store.draws hi (env.freshId label store) :=
  ⟨store.draws, le_refl _, h, rfl⟩

-- ================================================================ the book

/-- What a trade and the order staged for it share. -/
structure OrderLine where
  lotId : Option String
  securityId : String
  accountId : String
  side : String
  quantity : ℚ
  deriving DecidableEq

/-- What an order copies of a trade. -/
def OptimizationTradeRow.line (trade : OptimizationTradeRow) : OrderLine :=
  { lotId := trade.lotId
    securityId := trade.securityId
    accountId := trade.accountId
    side := trade.side
    quantity := trade.quantity }

/-- What an order has copied of its trade. -/
def StagedOrderRow.line (order : StagedOrderRow) : OrderLine :=
  { lotId := order.lotId
    securityId := order.securityId
    accountId := order.accountId
    side := order.side
    quantity := order.quantity }

/-- An order as staged: the columns a status change never writes. -/
def StagedOrderRow.asStaged (order : StagedOrderRow) : StagedOrderRow :=
  { order with status := .staged, updatedAt := order.createdAt }

/-- The rows of the four tables the approvals and orders live in, and how many
ids were drawn. -/
structure Book where
  runs : List OptimizationRunRow
  trades : List OptimizationTradeRow
  approvals : List ApprovalRequestRow
  orders : List StagedOrderRow
  draws : Nat

/-- The book of a store. -/
def Store.book (store : Store) : Book :=
  { runs := store.optimizationRuns
    trades := store.optimizationTrades
    approvals := store.approvalRequests
    orders := store.stagedOrders.map (·.asStaged)
    draws := store.draws }

/-- The trades of a run. -/
def Book.tradesOf (book : Book) (runId : String) :
    List OptimizationTradeRow :=
  book.trades.filter (·.runId = runId)

/-- The orders of an approval. -/
def Book.ordersOf (book : Book) (requestId : String) : List StagedOrderRow :=
  book.orders.filter (·.approvalRequestId = requestId)

/-- A gate as it is opened. -/
structure OpensGate (row : ApprovalRequestRow) : Prop where
  pending : row.status = .pending
  unreviewed : row.reviewerId = none
  subject : row.optimizationRunId.isSome ↔ row.subjectType = .optimization

/-- The orders one staging call writes for an approval of a run. -/
structure StagesRun (book : Book) (approval : ApprovalRequestRow)
    (runId : String) (orders : List StagedOrderRow) : Prop where
  approved : approval.status = .approved
  subject : approval.optimizationRunId = some runId
  first : book.ordersOf approval.requestId = []
  owned : ∀ order ∈ orders, order.approvalRequestId = approval.requestId
    ∧ order.optimizationRunId = runId
    ∧ order.householdId = approval.householdId
  lines : (orders.map (·.line)).Perm
    ((book.tradesOf runId).map (·.line))

/-- What the services may do to the book. -/
inductive BookStep (env : Env) (book : Book) : Book → Prop where
  | drew (draws : Nat) (h : book.draws ≤ draws) :
      BookStep env book { book with draws := draws }
  | persisted (run : OptimizationRunRow) (trades : List OptimizationTradeRow)
      (draws : Nat) (hrun : Drawn env "opt" book.draws draws run.runId)
      (htrades : ∀ trade ∈ trades, trade.runId = run.runId) :
      BookStep env book { book with
        runs := book.runs ++ [run]
        trades := book.trades ++ trades
        draws := draws }
  | opened (row : ApprovalRequestRow) (draws : Nat)
      (hid : Drawn env "appr" book.draws draws row.requestId)
      (hopens : OpensGate row) :
      BookStep env book { book with
        approvals := book.approvals ++ [row]
        draws := draws }
  | decided (row row' : ApprovalRequestRow) (draws : Nat)
      (h : book.draws ≤ draws) (hmem : row ∈ book.approvals)
      (hpending : row.status = .pending)
      (hreviewed : row'.reviewerId.isSome)
      (hkept : row' = { row with
        status := row'.status
        reviewerId := row'.reviewerId
        reviewedAt := row'.reviewedAt }) :
      BookStep env book { book with
        approvals := book.approvals.map fun other =>
          if other.requestId = row'.requestId then row' else other
        draws := draws }
  | staged (approval : ApprovalRequestRow) (runId : String)
      (orders : List StagedOrderRow) (draws : Nat)
      (h : book.draws ≤ draws) (hmem : approval ∈ book.approvals)
      (hstages : StagesRun book approval runId orders)
      (hids : ∀ order ∈ orders,
        Drawn env "ord" book.draws draws order.orderId)
      (hdistinct : (orders.map (·.orderId)).Nodup) :
      BookStep env book { book with
        orders := book.orders ++ orders
        draws := draws }

-- =========================================================== the invariant

/-- An approved approval of a run, with one order for each of its
trades. -/
def StagedInFull (book : Book) (approval : ApprovalRequestRow) : Prop :=
  approval.status = .approved
  ∧ ∃ runId, approval.optimizationRunId = some runId
    ∧ (∀ order ∈ book.ordersOf approval.requestId,
        order.optimizationRunId = runId
        ∧ order.householdId = approval.householdId)
    ∧ ((book.ordersOf approval.requestId).map (·.line)).Perm
        ((book.tradesOf runId).map (·.line))

/-- Every id in the book was drawn and no two rows of a table share one; a
request names a run exactly when it is about one, and a decided request has its
reviewer. -/
structure BookInv (env : Env) (book : Book) : Prop where
  runIds : ∀ run ∈ book.runs, Drawn env "opt" 0 book.draws run.runId
  runsDistinct : (book.runs.map (·.runId)).Nodup
  tradeRuns : ∀ trade ∈ book.trades,
    Drawn env "opt" 0 book.draws trade.runId
  requestIds : ∀ row ∈ book.approvals,
    Drawn env "appr" 0 book.draws row.requestId
  requestsDistinct : (book.approvals.map (·.requestId)).Nodup
  orderIds : ∀ order ∈ book.orders,
    Drawn env "ord" 0 book.draws order.orderId
  ordersDistinct : (book.orders.map (·.orderId)).Nodup
  subjects : ∀ row ∈ book.approvals,
    (row.optimizationRunId.isSome ↔ row.subjectType = .optimization)
  reviewed : ∀ row ∈ book.approvals,
    row.status ≠ .pending → row.reviewerId.isSome
  orderApproval : ∀ order ∈ book.orders,
    ∃ row ∈ book.approvals, row.requestId = order.approvalRequestId
  staged : ∀ row ∈ book.approvals,
    book.ordersOf row.requestId = [] ∨ StagedInFull book row

/-- The empty book. -/
theorem bookInv_empty : BookInv env Store.empty.book where
  runIds _ h := nomatch h
  runsDistinct := List.nodup_nil
  tradeRuns _ h := nomatch h
  requestIds _ h := nomatch h
  requestsDistinct := List.nodup_nil
  orderIds _ h := nomatch h
  ordersDistinct := List.nodup_nil
  subjects _ h := nomatch h
  reviewed _ h := nomatch h
  orderApproval _ h := nomatch h
  staged _ h := nomatch h

-- ============================================================ the step arms

variable {book : Book}

theorem BookInv.drew (inv : BookInv env book) {draws : Nat}
    (h : book.draws ≤ draws) : BookInv env { book with draws := draws } :=
  { inv with
    runIds := fun run hr => (inv.runIds run hr).mono h
    tradeRuns := fun trade ht => (inv.tradeRuns trade ht).mono h
    requestIds := fun row hr => (inv.requestIds row hr).mono h
    orderIds := fun order ho => (inv.orderIds order ho).mono h }

/-- A run that has orders gains no trade. -/
theorem tradesOf_persisted (inv : BookInv env book)
    {run : OptimizationRunRow} {trades : List OptimizationTradeRow}
    {draws : Nat} (hrun : Drawn env "opt" book.draws draws run.runId)
    (htrades : ∀ trade ∈ trades, trade.runId = run.runId) {runId : String}
    (hsome : book.tradesOf runId ≠ []) :
    (book.trades ++ trades).filter (·.runId = runId) = book.tradesOf runId := by
  rw [Keyed.filter_append_owned _ htrades, if_neg, List.append_nil]
  · rfl
  · obtain ⟨old, hold⟩ := List.exists_mem_of_ne_nil _ hsome
    obtain ⟨hmem, hid⟩ := List.mem_filter.mp hold
    have hdrawn := inv.tradeRuns old hmem
    have hold : old.runId = runId := by simpa using hid
    rw [← hold]
    exact hdrawn.ne hrun

theorem BookInv.persisted (inv : BookInv env book) {run : OptimizationRunRow}
    {trades : List OptimizationTradeRow} {draws : Nat}
    (hrun : Drawn env "opt" book.draws draws run.runId)
    (htrades : ∀ trade ∈ trades, trade.runId = run.runId) :
    BookInv env { book with
      runs := book.runs ++ [run]
      trades := book.trades ++ trades
      draws := draws } := by
  have hle : book.draws ≤ draws := by
    obtain ⟨k, hlo, hhi, -⟩ := hrun
    omega
  refine { inv.drew hle with
    runIds := fun row hr => ?_
    runsDistinct := ?_
    tradeRuns := fun trade ht => ?_
    staged := fun row hr => ?_ }
  · rcases List.mem_append.mp hr with h | h
    · exact (inv.runIds row h).mono hle
    · rw [List.mem_singleton.mp h]
      exact hrun.from_zero
  · refine Keyed.nodup_append inv.runsDistinct (List.nodup_singleton _) ?_
    intro old hold new hnew
    rw [List.mem_singleton.mp hnew]
    exact (inv.runIds old hold).ne hrun
  · rcases List.mem_append.mp ht with h | h
    · exact (inv.tradeRuns trade h).mono hle
    · rw [htrades trade h]
      exact hrun.from_zero
  · by_cases hnil : book.ordersOf row.requestId = []
    · exact Or.inl hnil
    · right
      rcases inv.staged row hr with h | h
      · exact absurd h hnil
      · obtain ⟨happroved, runId, hsubject, howned, hlines⟩ := h
        refine ⟨happroved, runId, hsubject, howned, ?_⟩
        have hsome : book.tradesOf runId ≠ [] := by
          intro htr
          rw [htr] at hlines
          exact hnil (List.map_eq_nil_iff.mp (List.perm_nil.mp hlines))
        have hsame := tradesOf_persisted inv hrun htrades hsome
        show List.Perm _ (((book.trades ++ trades).filter _).map _)
        rw [hsame]
        exact hlines

/-- A new request brings its own id, and is open. -/
theorem BookInv.opened (inv : BookInv env book) {row : ApprovalRequestRow}
    {draws : Nat} (hid : Drawn env "appr" book.draws draws row.requestId)
    (hopens : OpensGate row) :
    BookInv env { book with
      approvals := book.approvals ++ [row]
      draws := draws } := by
  have hle : book.draws ≤ draws := by
    obtain ⟨k, hlo, hhi, -⟩ := hid
    omega
  refine { inv.drew hle with
    requestIds := fun other hr => ?_
    requestsDistinct := ?_
    subjects := fun other hr => ?_
    reviewed := fun other hr hne => ?_
    orderApproval := fun order ho => ?_
    staged := fun other hr => ?_ }
  · rcases List.mem_append.mp hr with h | h
    · exact (inv.requestIds other h).mono hle
    · rw [List.mem_singleton.mp h]
      exact hid.from_zero
  · refine Keyed.nodup_append inv.requestsDistinct (List.nodup_singleton _) ?_
    intro old hold new hnew
    rw [List.mem_singleton.mp hnew]
    exact (inv.requestIds old hold).ne hid
  · rcases List.mem_append.mp hr with h | h
    · exact inv.subjects other h
    · rw [List.mem_singleton.mp h]
      exact hopens.subject
  · rcases List.mem_append.mp hr with h | h
    · exact inv.reviewed other h hne
    · rw [List.mem_singleton.mp h] at hne
      exact absurd hopens.pending hne
  · obtain ⟨other, hmem, heq⟩ := inv.orderApproval order ho
    exact ⟨other, List.mem_append_left _ hmem, heq⟩
  · rcases List.mem_append.mp hr with h | h
    · exact inv.staged other h
    · -- no order can name a gate that was not open yet
      left
      rw [List.mem_singleton.mp h, Book.ordersOf, List.filter_eq_nil_iff]
      intro order ho heq
      obtain ⟨old, hold, hreq⟩ := inv.orderApproval order ho
      apply (inv.requestIds old hold).ne hid
      rw [hreq]
      simpa using heq

/-- A decision changes one pending row, and names its reviewer. -/
theorem BookInv.decided (inv : BookInv env book)
    {row row' : ApprovalRequestRow} {draws : Nat} (hle : book.draws ≤ draws)
    (hmem : row ∈ book.approvals) (hpending : row.status = .pending)
    (hreviewed : row'.reviewerId.isSome)
    (hkept : row' = { row with
      status := row'.status
      reviewerId := row'.reviewerId
      reviewedAt := row'.reviewedAt }) :
    BookInv env { book with
      approvals := book.approvals.map fun other =>
        if other.requestId = row'.requestId then row' else other
      draws := draws } := by
  have hid : row'.requestId = row.requestId := by rw [hkept]
  have hrun : row'.optimizationRunId = row.optimizationRunId := by rw [hkept]
  have hsubject : row'.subjectType = row.subjectType := by rw [hkept]
  change BookInv env { book with
    approvals := Keyed.put (·.requestId) book.approvals row'
    draws := draws }
  refine { inv.drew hle with
    requestIds := fun other ho => ?_
    requestsDistinct := ?_
    subjects := fun other ho => ?_
    reviewed := fun other ho hne => ?_
    orderApproval := fun order ho => ?_
    staged := fun other ho => ?_ }
  · rcases Keyed.mem_put ho with rfl | h
    · rw [hid]
      exact (inv.requestIds row hmem).mono hle
    · exact (inv.requestIds other h).mono hle
  · show ((Keyed.put _ _ _).map _).Nodup
    rw [Keyed.map_key_put]
    exact inv.requestsDistinct
  · rcases Keyed.mem_put ho with rfl | h
    · rw [hrun, hsubject]
      exact inv.subjects row hmem
    · exact inv.subjects other h
  · rcases Keyed.mem_put ho with rfl | h
    · exact hreviewed
    · exact inv.reviewed other h hne
  · obtain ⟨old, hold, heq⟩ := inv.orderApproval order ho
    have hmem' : order.approvalRequestId
        ∈ (Keyed.put (·.requestId) book.approvals row').map (·.requestId) := by
      rw [Keyed.map_key_put]
      exact List.mem_map.mpr ⟨old, hold, heq⟩
    obtain ⟨new, hnew, hnewId⟩ := List.mem_map.mp hmem'
    exact ⟨new, hnew, hnewId⟩
  · rcases Keyed.mem_put ho with rfl | h
    · -- a pending gate had no orders, so the decided one has none
      left
      show book.ordersOf _ = []
      rw [hid]
      rcases inv.staged row hmem with h | h
      · exact h
      · have happroved := h.1
        rw [hpending] at happroved
        cases happroved
    · exact inv.staged other h

/-- Staging brings orders under ids of their own, one a trade of the approved
run. -/
theorem BookInv.staged_step (inv : BookInv env book)
    {approval : ApprovalRequestRow} {runId : String}
    {orders : List StagedOrderRow} {draws : Nat} (hle : book.draws ≤ draws)
    (hmem : approval ∈ book.approvals)
    (hstages : StagesRun book approval runId orders)
    (hids : ∀ order ∈ orders,
      Drawn env "ord" book.draws draws order.orderId)
    (hdistinct : (orders.map (·.orderId)).Nodup) :
    BookInv env { book with
      orders := book.orders ++ orders
      draws := draws } := by
  refine { inv.drew hle with
    orderIds := fun order ho => ?_
    ordersDistinct := ?_
    orderApproval := fun order ho => ?_
    staged := fun row hr => ?_ }
  · rcases List.mem_append.mp ho with h | h
    · exact (inv.orderIds order h).mono hle
    · exact (hids order h).from_zero
  · refine Keyed.nodup_append inv.ordersDistinct hdistinct ?_
    intro old hold new hnew
    exact (inv.orderIds old hold).ne (hids new hnew)
  · rcases List.mem_append.mp ho with h | h
    · exact inv.orderApproval order h
    · exact ⟨approval, hmem, (hstages.owned order h).1.symm⟩
  · have hbucket := Keyed.filter_append_owned book.orders
      (fun order ho => (hstages.owned order ho).1) row.requestId
    by_cases hsame : row.requestId = approval.requestId
    · -- the approval just staged: its orders are exactly the new ones
      have heq : row = approval :=
        List.inj_on_of_nodup_map inv.requestsDistinct hr hmem hsame
      subst heq
      have hfirst : book.orders.filter
          (·.approvalRequestId = row.requestId) = [] := hstages.first
      rw [if_pos rfl, hfirst, List.nil_append] at hbucket
      right
      refine ⟨hstages.approved, runId, hstages.subject, ?_, ?_⟩
      · show ∀ order ∈ (book.orders ++ orders).filter _, _
        rw [hbucket]
        exact fun order ho => (hstages.owned order ho).2
      · show (((book.orders ++ orders).filter _).map _).Perm _
        rw [hbucket]
        exact hstages.lines
    · -- any other approval keeps its orders
      rw [if_neg hsame, List.append_nil] at hbucket
      have := inv.staged row hr
      unfold StagedInFull Book.ordersOf at this ⊢
      rw [hbucket]
      exact this

/-- Every book step carries the invariant. -/
theorem BookInv.step {book' : Book} (inv : BookInv env book)
    (h : BookStep env book book') : BookInv env book' := by
  cases h with
  | drew draws h => exact inv.drew h
  | persisted run trades draws hrun htrades => exact inv.persisted hrun htrades
  | opened row draws hid hopens => exact inv.opened hid hopens
  | decided row row' draws h hmem hpending hreviewed hkept =>
      exact inv.decided h hmem hpending hreviewed hkept
  | staged approval runId orders draws h hmem hstages hids hdistinct =>
      exact inv.staged_step h hmem hstages hids hdistinct

/-- Any number of book steps. -/
abbrev BookSteps (env : Env) : Book → Book → Prop :=
  Relation.ReflTransGen (BookStep env)

/-- The invariant survives any number of steps. -/
theorem BookInv.steps {book' : Book} (inv : BookInv env book)
    (h : BookSteps env book book') : BookInv env book' := by
  induction h with
  | refl => exact inv
  | tail _ hstep ih => exact ih.step hstep

end Warehouse
