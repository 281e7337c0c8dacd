/-
The services refine the staging book.

Each service that can fail has one lemma that says everything a call does
(`decide_cases`, `stage_cases`, `updateOrder_cases`), and each has one for
the book steps it makes (`steps_persistOptimization`, ...). `exec_refines`
puts them together: every call, with any arguments, failing or not, moves
the book of its store by book steps alone; so every store a run reaches
carries the book's invariant (`bookInv_storeAfter`).

# The direction of the refinement

The abstract book has fewer fields than the store, and its steps are
nondeterministic: which ids are drawn, and in which order rows are read, is
left open. So one abstract step covers a call under every engine order.
Steps and invariant go hand in hand: a call refines where the invariant
holds, and the steps it makes carry the invariant on. The later modules use
the invariant and unfold no service.
-/
import Warehouse.Execution.Run
import Warehouse.Proofs.Oms.Book

namespace Warehouse

open Lib

variable {env : Env}

-- ================================================================ approvals

/-- Creating a request is one step of the book. -/
theorem steps_createApproval (store : Store) (householdId : String)
    (subjectType : ApprovalSubject) (subjectId : String)
    (optimizationRunId : Option String)
    (hsubject : optimizationRunId.isSome ↔ subjectType = .optimization) :
    BookSteps env store.book (createApproval env store householdId subjectType
      subjectId optimizationRunId).2.book := by
  apply Relation.ReflTransGen.single
  exact BookStep.opened (createApproval env store householdId subjectType
      subjectId optimizationRunId).1 (store.draws + 2)
    (drawn_freshId store (by omega)) ⟨rfl, rfl, hsubject⟩

/-- Persisting a run is one step, or two with the request it queues. -/
theorem steps_persistOptimization (store : Store)
    (result : OptimizationResult) (inputSnapshotId actorId : String)
    (solverType : String) (runtimeMs : Option Int) (queueApproval : Bool) :
    BookSteps env store.book (persistOptimization env store result
      inputSnapshotId actorId solverType runtimeMs queueApproval).2.book := by
  have hpersist : BookStep env store.book (persistOptimization env store
      result inputSnapshotId actorId solverType runtimeMs false).2.book := by
    refine BookStep.persisted (persistOptimization env store result
        inputSnapshotId actorId solverType runtimeMs false).1
      (result.trades.map (tradeRow (env.freshId "opt" store)))
      (store.draws + 2) (drawn_freshId store (by omega)) fun trade ht => ?_
    obtain ⟨proposal, -, rfl⟩ := List.mem_map.mp ht
    rfl
  cases queueApproval with
  | false => exact Relation.ReflTransGen.single hpersist
  | true =>
      exact Relation.ReflTransGen.head hpersist
        (steps_createApproval _ result.householdId .optimization
          (env.freshId "opt" store) _ (by simp))

/-- Approvals are a table keyed by request id. -/
theorem approval?_eq_get (store : Store) (requestId : String) :
    store.approval? requestId
      = Keyed.get (·.requestId) store.approvalRequests requestId := rfl

/-- The approval row a decision writes. -/
def decidedApproval (env : Env) (store : Store) (row : ApprovalRequestRow)
    (status : ApprovalStatus) (reviewerId : String) : ApprovalRequestRow :=
  { row with
    status := status
    reviewerId := some reviewerId
    reviewedAt := some (env.clock store) }

/-- A successful decision: the pending row found is replaced, and an audit
row says so. -/
theorem decide_cases {store store' : Store} {requestId reviewerId : String}
    {status : ApprovalStatus} {view : ApprovalRequestRow}
    (h : updateApprovalStatus env store requestId status reviewerId
      = .ok (view, store')) :
    ∃ row ∈ store.approvalRequests, row.requestId = requestId
      ∧ row.status = .pending
      ∧ view = decidedApproval env store row status reviewerId
      ∧ store' = writeAudit env (store.ticked.setApproval view) reviewerId
          ("approval_" ++ status.value) "approval_request" requestId
          (some view.householdId)
          [("subject_type", view.subjectType.value),
           ("subject_id", view.subjectId.getD "")] := by
  unfold updateApprovalStatus at h
  cases hget : store.approval? requestId with
  | none =>
      rw [hget] at h
      cases h
  | some row =>
      rw [hget] at h
      rw [approval?_eq_get] at hget
      dsimp only at h
      split at h
      · cases h
      · next hpending =>
        cases h
        exact ⟨row, Keyed.mem_of_get hget, Keyed.key_of_get hget,
          not_not.mp hpending, rfl, rfl⟩

theorem steps_updateApprovalStatus {store store' : Store}
    {requestId reviewerId : String} {status : ApprovalStatus}
    {view : ApprovalRequestRow}
    (h : updateApprovalStatus env store requestId status reviewerId
      = .ok (view, store')) :
    BookSteps env store.book store'.book := by
  obtain ⟨row, hmem, -, hpending, rfl, rfl⟩ := decide_cases h
  apply Relation.ReflTransGen.single
  exact BookStep.decided row (decidedApproval env store row status reviewerId)
    (store.draws + 1) (Nat.le_succ _) hmem hpending rfl rfl

-- ================================================================== staging

/-- The rows the staging loop writes. -/
def stagedRows (env : Env) (approval : ApprovalRequestRow) (runId : String)
    (now : DateTime) : Nat → List OptimizationTradeRow → List StagedOrderRow
  | _, [] => []
  | draws, trade :: trades =>
      { orderId := "ord_" ++ env.hex draws
        approvalRequestId := approval.requestId
        optimizationRunId := runId
        householdId := approval.householdId
        lotId := trade.lotId
        securityId := trade.securityId
        accountId := trade.accountId
        side := trade.side
        quantity := trade.quantity
        status := .staged
        createdAt := now
        updatedAt := now }
      :: stagedRows env approval runId now (draws + 1) trades

/-- The loop appends `stagedRows` to its views and to the table. -/
theorem stageTrades_eq (approval : ApprovalRequestRow) (runId : String)
    (now : DateTime) (trades : List OptimizationTradeRow) :
    ∀ (views : List StagedOrderRow) (store : Store),
      trades.foldl (stageTrade env approval runId now) (views, store)
        = (views ++ stagedRows env approval runId now store.draws trades,
            { store with
              stagedOrders := store.stagedOrders
                ++ stagedRows env approval runId now store.draws trades
              draws := store.draws + trades.length }) := by
  induction trades with
  | nil =>
      intro views store
      simp [stagedRows]
  | cons trade rest ih =>
      intro views store
      have hturn : stageTrade env approval runId now (views, store) trade
          = (views ++ stagedRows env approval runId now store.draws [trade],
              { store with
                stagedOrders := store.stagedOrders
                  ++ stagedRows env approval runId now store.draws [trade]
                draws := store.draws + 1 }) := rfl
      rw [List.foldl_cons, hturn, ih]
      simp only [stagedRows, List.append_assoc, List.singleton_append,
        List.length_cons]
      congr 2
      omega

variable {approval : ApprovalRequestRow} {runId : String} {now : DateTime}

/-- The staged orders copy their trades. -/
theorem stagedRows_line (trades : List OptimizationTradeRow) :
    ∀ draws, (stagedRows env approval runId now draws trades).map (·.line)
      = trades.map (·.line) := by
  induction trades with
  | nil => exact fun _ => rfl
  | cons trade rest ih =>
      intro draws
      rw [stagedRows, List.map_cons, List.map_cons, ih]
      rfl

theorem stagedRows_length (draws : Nat)
    (trades : List OptimizationTradeRow) :
    (stagedRows env approval runId now draws trades).length
      = trades.length := by
  rw [← List.length_map (f := StagedOrderRow.line), stagedRows_line,
    List.length_map]

/-- What every staged row owes the approval and the call. -/
theorem mem_stagedRows {order : StagedOrderRow}
    (trades : List OptimizationTradeRow) :
    ∀ draws, order ∈ stagedRows env approval runId now draws trades →
      (order.approvalRequestId = approval.requestId
        ∧ order.optimizationRunId = runId
        ∧ order.householdId = approval.householdId)
      ∧ Drawn env "ord" draws (draws + trades.length) order.orderId
      ∧ order.status = .staged ∧ order.createdAt = now
      ∧ order.updatedAt = now := by
  induction trades with
  | nil => exact fun _ h => nomatch h
  | cons trade rest ih =>
      intro draws h
      rw [stagedRows] at h
      rcases List.mem_cons.mp h with rfl | h
      · refine ⟨⟨rfl, rfl, rfl⟩, ⟨draws, le_refl _, ?_, rfl⟩, rfl, rfl, rfl⟩
        simp only [List.length_cons]
        omega
      · obtain ⟨howned, ⟨k, hlo, hhi, hid⟩, hrest⟩ := ih (draws + 1) h
        refine ⟨howned, ⟨k, by omega, ?_, hid⟩, hrest⟩
        simp only [List.length_cons]
        omega

theorem stagedRows_distinct (trades : List OptimizationTradeRow) :
    ∀ draws, ((stagedRows env approval runId now draws trades).map
      (·.orderId)).Nodup := by
  induction trades with
  | nil => exact fun _ => List.nodup_nil
  | cons trade rest ih =>
      intro draws
      rw [stagedRows, List.map_cons, List.nodup_cons]
      refine ⟨fun hmem => ?_, ih (draws + 1)⟩
      obtain ⟨order, ho, heq⟩ := List.mem_map.mp hmem
      have hfirst : Drawn env "ord" draws (draws + 1)
          ("ord_" ++ env.hex draws) := ⟨draws, le_refl _, by omega, rfl⟩
      exact hfirst.ne (mem_stagedRows rest (draws + 1) ho).2.1 heq.symm

/-- The orders of an approval. -/
def Store.ordersOf (store : Store) (requestId : String) :
    List StagedOrderRow :=
  store.stagedOrders.filter (·.approvalRequestId = requestId)

/-- The book's orders of a request are the table's, without their status. -/
theorem book_ordersOf (store : Store) (requestId : String) :
    store.book.ordersOf requestId
      = (store.ordersOf requestId).map (·.asStaged) := by
  unfold Book.ordersOf Store.ordersOf Store.book
  rw [List.filter_map]
  rfl

/-- A request has orders in the book where it has some in the table. -/
theorem ordersOf_eq_nil_iff {store : Store} {requestId : String} :
    store.book.ordersOf requestId = [] ↔ store.ordersOf requestId = [] := by
  rw [book_ordersOf, List.map_eq_nil_iff]

/-- Order ids are never empty, so the duplicate check sees an order
whenever there is one. -/
theorem truthy_existing_iff {store : Store} (inv : BookInv env store.book)
    (order : RowOrder) (requestId : String) :
    truthy ((existingOrders order store requestId).head?.map (·.orderId))
      = true ↔ store.ordersOf requestId ≠ [] := by
  have hperm := order.ordersPerm (store.ordersOf requestId)
  unfold existingOrders
  change truthy (((order.orders (store.ordersOf requestId)).head?).map _)
    = true ↔ _
  cases hrows : order.orders (store.ordersOf requestId) with
  | nil =>
      rw [hrows] at hperm
      simp [truthy, List.nil_perm.mp hperm]
  | cons first rest =>
      rw [hrows] at hperm
      have hmem : first ∈ store.ordersOf requestId :=
        hperm.mem_iff.mp (List.mem_cons_self ..)
      have hbook : first.asStaged ∈ store.book.orders :=
        List.mem_map.mpr ⟨first, (List.mem_filter.mp hmem).1, rfl⟩
      obtain ⟨k, -, -, hid⟩ := inv.orderIds _ hbook
      have hne : first.orderId ≠ "" := by
        show first.asStaged.orderId ≠ ""
        rw [hid]
        intro hempty
        have := congrArg String.length hempty
        simp [String.length_append] at this
      refine ⟨fun _ => List.ne_nil_of_mem hmem, fun _ => ?_⟩
      simp [truthy, hne]

/-- The store a first staging call commits. -/
def afterStaging (env : Env) (store : Store) (actorId : String)
    (approval : ApprovalRequestRow) (rows : List StagedOrderRow) : Store :=
  writeAudit env
    { store.ticked with
      stagedOrders := store.stagedOrders ++ rows
      draws := store.draws + rows.length }
    actorId "orders_staged" "approval_request" approval.requestId
    (some approval.householdId) [("orders", toString rows.length)]

/-- A successful staging call: a listing for an approval that has orders,
one order per trade for one that has none. -/
theorem stage_cases {store store' : Store} (inv : BookInv env store.book)
    {order : RowOrder} {requestId actorId : String}
    {views : List StagedOrderRow}
    (h : stageOrdersFromApproval env order store requestId actorId
      = .ok (views, store')) :
    ∃ approval ∈ store.approvalRequests, approval.requestId = requestId
      ∧ approval.status = .approved
      ∧ ((store.ordersOf requestId ≠ [] ∧ store' = store
            ∧ views
              = listStagedOrders order store (some approval.householdId))
        ∨ (store.ordersOf requestId = []
            ∧ ∃ runId, approval.optimizationRunId = some runId
              ∧ views = stagedRows env approval runId (env.clock store)
                  store.draws (order.trades
                    (store.optimizationTrades.filter (·.runId = runId)))
              ∧ store' = afterStaging env store actorId approval views)) := by
  unfold stageOrdersFromApproval at h
  cases hget : store.approval? requestId with
  | none =>
      rw [hget] at h
      cases h
  | some approval =>
      have hfound := (approval?_eq_get store requestId).symm.trans hget
      have hmem : approval ∈ store.approvalRequests := Keyed.mem_of_get hfound
      have hid : approval.requestId = requestId := Keyed.key_of_get hfound
      rw [hget] at h
      dsimp only at h
      split at h
      · cases h
      · next happroved =>
        refine ⟨approval, hmem, hid, not_not.mp happroved, ?_⟩
        cases hrun : approval.optimizationRunId with
        | none =>
            rw [hrun] at h
            cases h
        | some runId =>
            rw [hrun] at h
            dsimp only at h
            split at h
            · next hexisting =>
              cases h
              exact Or.inl ⟨(truthy_existing_iff inv order requestId).mp
                hexisting, rfl, rfl⟩
            · next hexisting =>
              rw [stageTrades_eq] at h
              dsimp only at h
              cases h
              right
              refine ⟨?_, runId, rfl, rfl, ?_⟩
              · by_contra hne
                exact hexisting
                  ((truthy_existing_iff inv order requestId).mpr hne)
              · rw [afterStaging, List.nil_append, stagedRows_length, ← hid]
                rfl

/-- A first staging call is one book step. -/
theorem steps_stage {store store' : Store} (inv : BookInv env store.book)
    {order : RowOrder} {requestId actorId : String}
    {views : List StagedOrderRow}
    (h : stageOrdersFromApproval env order store requestId actorId
      = .ok (views, store')) :
    BookSteps env store.book store'.book := by
  obtain ⟨approval, hmem, hid, happroved, hcase⟩ := stage_cases inv h
  rcases hcase with ⟨-, rfl, -⟩ | ⟨hnone, runId, hrun, hviews, rfl⟩
  · exact Relation.ReflTransGen.refl
  · apply Relation.ReflTransGen.single
    have hbook : (afterStaging env store actorId approval views).book
        = { store.book with
            orders := store.book.orders ++ views.map (·.asStaged)
            draws := store.draws + views.length + 1 } := by
      unfold afterStaging Store.book
      rw [← List.map_append]
      rfl
    rw [hbook]
    have hlen : views.length = (order.trades
        (store.optimizationTrades.filter (·.runId = runId))).length := by
      rw [hviews, stagedRows_length]
    refine BookStep.staged approval runId _ _ ?_ hmem ⟨happroved, hrun, ?_, ?_,
      ?_⟩ ?_ ?_
    · show store.draws ≤ store.draws + views.length + 1
      omega
    · rw [ordersOf_eq_nil_iff, hid]
      exact hnone
    · intro row hr
      obtain ⟨view, hview, rfl⟩ := List.mem_map.mp hr
      rw [hviews] at hview
      exact (mem_stagedRows _ _ hview).1
    · -- the engine's row order permutes the lines, no more
      have hlines : (views.map (·.asStaged)).map (·.line)
          = views.map (·.line) := by
        rw [List.map_map]
        rfl
      rw [hlines, hviews, stagedRows_line]
      exact (order.tradesPerm _).map _
    · intro row hr
      obtain ⟨view, hview, rfl⟩ := List.mem_map.mp hr
      rw [hviews] at hview
      have hdrawn := (mem_stagedRows _ _ hview).2.1
      rw [← hlen] at hdrawn
      exact hdrawn.mono (by omega)
    · have hids : (views.map (·.asStaged)).map (·.orderId)
          = views.map (·.orderId) := by
        rw [List.map_map]
        rfl
      rw [hids, hviews]
      exact stagedRows_distinct _ _

-- ============================================================ order status

/-- What an emitted event leaves alone: the tables the services write, and
in the two logs all but rows of the subscribers' own. -/
structure EmitFrame (store store' : Store) : Prop where
  orders : store'.stagedOrders = store.stagedOrders
  approvals : store'.approvalRequests = store.approvalRequests
  runs : store'.optimizationRuns = store.optimizationRuns
  trades : store'.optimizationTrades = store.optimizationTrades
  audit : ∃ rows, store'.auditLog = store.auditLog ++ rows
    ∧ ∀ row ∈ rows, row.resourceType ≠ "staged_order"
  emitted : ∃ events, store'.events = store.events ++ events
    ∧ ∀ event ∈ events, event.op ≠ "order.filled"
  draws : store.draws ≤ store'.draws

theorem EmitFrame.refl (store : Store) : EmitFrame store store where
  orders := rfl
  approvals := rfl
  runs := rfl
  trades := rfl
  audit := ⟨[], (List.append_nil _).symm, fun _ h => nomatch h⟩
  emitted := ⟨[], (List.append_nil _).symm, fun _ h => nomatch h⟩
  draws := le_refl _

theorem EmitFrame.trans {store store' store'' : Store}
    (h : EmitFrame store store') (h' : EmitFrame store' store'') :
    EmitFrame store store'' := by
  obtain ⟨rows, hrows, hown⟩ := h.audit
  obtain ⟨rows', hrows', hown'⟩ := h'.audit
  obtain ⟨events, hevents, hop⟩ := h.emitted
  obtain ⟨events', hevents', hop'⟩ := h'.emitted
  refine ⟨h'.orders.trans h.orders, h'.approvals.trans h.approvals,
    h'.runs.trans h.runs, h'.trades.trans h.trades,
    ⟨rows ++ rows', by rw [hrows', hrows, List.append_assoc], ?_⟩,
    ⟨events ++ events', by rw [hevents', hevents, List.append_assoc], ?_⟩,
    h.draws.trans h'.draws⟩
  · intro row hr
    rcases List.mem_append.mp hr with hr | hr
    · exact hown row hr
    · exact hown' row hr
  · intro event he
    rcases List.mem_append.mp he with he | he
    · exact hop event he
    · exact hop' event he

/-- Emitting records the event, then runs the subscribers. -/
theorem emitEvent_frame (store : Store) (event : Event) :
    EmitFrame { store with events := store.events ++ [event] }
      (emitEvent env store event) := by
  unfold emitEvent
  generalize env.subscribers event.op = subscribers
  generalize { store with events := store.events ++ [event] } = s
  induction subscribers generalizing s with
  | nil => exact EmitFrame.refl s
  | cons subscriber rest ih =>
      have hreact : EmitFrame s (subscriber.react s event) :=
        ⟨subscriber.orders s event, subscriber.approvals s event,
          subscriber.runs s event, subscriber.trades s event,
          subscriber.audit s event, subscriber.emitted s event,
          subscriber.draws s event⟩
      exact hreact.trans (ih (subscriber.react s event))

/-- The order row a status change writes. -/
def movedOrder (env : Env) (store : Store) (row : StagedOrderRow)
    (status : OrderStatus) : StagedOrderRow :=
  { row with status := status, updatedAt := env.clock store }

/-- The store with the moved row and its audit row. -/
def orderMoved (env : Env) (store : Store) (row : StagedOrderRow)
    (status : OrderStatus) (actorId : String) : Store :=
  writeAudit env (store.ticked.setOrder (movedOrder env store row status))
    actorId ("order_" ++ status.value) "staged_order" row.orderId
    (some row.householdId) [("approval_request_id", row.approvalRequestId)]

/-- The store a status change commits. -/
def afterMove (env : Env) (store : Store) (row : StagedOrderRow)
    (status : OrderStatus) (actorId : String) : Store :=
  if status = .filled then
    emitEvent env (orderMoved env store row status actorId)
      (orderFilled (movedOrder env store row status))
  else orderMoved env store row status actorId

/-- Orders are a table keyed by order id. -/
theorem order?_eq_get (store : Store) (orderId : String) :
    store.order? orderId = Keyed.get (·.orderId) store.stagedOrders orderId :=
  rfl

/-- What a status call does: raise and write nothing; read a cancelled
order again; or move an order along an allowed edge. -/
theorem updateOrder_cases (env : Env) (store : Store) (orderId : String)
    (status : OrderStatus) (actorId : String) :
    (∃ e, updateOrderStatus env store orderId status actorId
        = (.error e, store))
    ∨ (∃ row, store.order? orderId = some row
        ∧ row.status = .cancelled ∧ status = .cancelled
        ∧ updateOrderStatus env store orderId status actorId
          = (.ok row, store))
    ∨ ∃ row ∈ store.stagedOrders, store.order? orderId = some row
        ∧ row.orderId = orderId
        ∧ row.status ≠ status ∧ status ∈ allowedTransitions row.status
        ∧ updateOrderStatus env store orderId status actorId
          = (.ok (movedOrder env store row status),
              afterMove env store row status actorId) := by
  unfold updateOrderStatus
  cases hget : store.order? orderId with
  | none => exact Or.inl ⟨_, rfl⟩
  | some row =>
      have hfound := (order?_eq_get store orderId).symm.trans hget
      have hmem : row ∈ store.stagedOrders := Keyed.mem_of_get hfound
      have hid : row.orderId = orderId := Keyed.key_of_get hfound
      dsimp only
      by_cases hsame : row.status = status
      · by_cases hcancelled : row.status = .cancelled
        · rw [if_pos hsame, if_pos hcancelled]
          exact Or.inr (Or.inl ⟨row, rfl, hcancelled,
            by rw [← hsame, hcancelled], rfl⟩)
        · rw [if_pos hsame, if_neg hcancelled]
          exact Or.inl ⟨_, rfl⟩
      · rw [if_neg hsame]
        unfold validateOrderTransition
        by_cases hallowed : status ∈ allowedTransitions row.status
        · rw [if_neg (not_not.mpr hallowed)]
          subst hid
          exact Or.inr (Or.inr ⟨row, hmem, rfl, rfl, hsame, hallowed, rfl⟩)
        · rw [if_pos hallowed]
          exact Or.inl ⟨_, rfl⟩

/-- A status call, whatever its outcome, draws ids and leaves the rest of
the book. -/
theorem book_updateOrder {store : Store} (inv : BookInv env store.book)
    (orderId : String) (status : OrderStatus) (actorId : String) :
    ∃ draws, store.draws ≤ draws
      ∧ (updateOrderStatus env store orderId status actorId).2.book
        = { store.book with draws := draws } := by
  rcases updateOrder_cases env store orderId status actorId with
    ⟨e, hcall⟩ | ⟨row, -, -, -, hcall⟩ | ⟨row, hmem, -, -, -, -, hcall⟩
  · rw [hcall]
    exact ⟨store.draws, le_refl _, rfl⟩
  · rw [hcall]
    exact ⟨store.draws, le_refl _, rfl⟩
  · rw [hcall]
    have hdistinct : (store.ticked.stagedOrders.map (·.orderId)).Nodup := by
      have hbook := inv.ordersDistinct
      rw [Store.book, List.map_map] at hbook
      exact hbook
    have hmoved : (orderMoved env store row status actorId).book
        = { store.book with draws := store.draws + 1 } := by
      have horders : (store.ticked.setOrder (movedOrder env store row
            status)).stagedOrders.map (·.asStaged)
          = store.stagedOrders.map (·.asStaged) :=
        -- a status change leaves orders as they were staged
        Keyed.map_put hdistinct hmem rfl rfl
      show Book.mk _ _ _ ((store.ticked.setOrder _).stagedOrders.map _) _ = _
      rw [horders]
      rfl
    unfold afterMove
    split
    · have hframe : EmitFrame _ (emitEvent env
          (orderMoved env store row status actorId)
          (orderFilled (movedOrder env store row status))) :=
        emitEvent_frame _ _
      have hle : store.draws + 1 ≤ _ := hframe.draws
      refine ⟨_, (Nat.le_succ _).trans hle, ?_⟩
      unfold Store.book at hmoved ⊢
      rw [hframe.orders, hframe.approvals, hframe.runs, hframe.trades]
      simp only [Book.mk.injEq] at hmoved ⊢
      exact ⟨hmoved.1, hmoved.2.1, hmoved.2.2.1, hmoved.2.2.2.1, trivial⟩
    · exact ⟨_, Nat.le_succ _, hmoved⟩

-- ==================================================================== runs

/-- The view a successful call returned beside its store. -/
theorem ok_of_map_snd {α : Type} {result : Except Exc (α × Store)}
    {store : Store} (h : result.map Prod.snd = .ok store) :
    ∃ view, result = .ok (view, store) := by
  cases result with
  | error e => cases h
  | ok pair =>
      cases h
      exact ⟨pair.1, rfl⟩

/-- The store a successful status call commits. -/
theorem ok_of_updateOrder {store store' : Store} {orderId actorId : String}
    {status : OrderStatus}
    (h : (Op.updateOrder orderId status actorId).call env store
      = .ok store') :
    (updateOrderStatus env store orderId status actorId).2 = store' := by
  unfold Op.call at h
  dsimp only at h
  cases hresult : (updateOrderStatus env store orderId status actorId).1 with
  | error e =>
      rw [hresult] at h
      cases h
  | ok view =>
      rw [hresult] at h
      cases h
      rfl

/-- Every call, failing or not, moves the book by book steps. -/
theorem exec_refines (store : Store) (op : Op)
    (inv : BookInv env store.book) :
    BookSteps env store.book (exec env store op).book := by
  unfold exec
  cases hcall : op.call env store with
  | error e => exact Relation.ReflTransGen.refl
  | ok store' =>
      cases op with
      | persist result snapshot actorId solverType runtimeMs queueApproval =>
          cases hcall
          exact steps_persistOptimization store result snapshot actorId
            solverType runtimeMs queueApproval
      | createApproval runId householdId =>
          cases hcall
          exact steps_createApproval store householdId .optimization runId _
            (by simp)
      | createReportApproval snapshotId householdId =>
          cases hcall
          exact steps_createApproval store householdId .report snapshotId _
            (by simp)
      | decide requestId status reviewerId =>
          obtain ⟨view, hok⟩ := ok_of_map_snd hcall
          exact steps_updateApprovalStatus hok
      | stage order requestId actorId =>
          obtain ⟨views, hok⟩ := ok_of_map_snd hcall
          exact steps_stage inv hok
      | updateOrder orderId status actorId =>
          obtain ⟨draws, hle, hbook⟩ :=
            book_updateOrder inv orderId status actorId
          rw [ok_of_updateOrder hcall] at hbook
          rw [hbook]
          exact Relation.ReflTransGen.single (BookStep.drew draws hle)

/-- Every op keeps the book's invariant. -/
theorem bookInv_exec (store : Store) (op : Op)
    (inv : BookInv env store.book) : BookInv env (exec env store op).book :=
  inv.steps (exec_refines store op inv)

/-- Every store a run reaches carries the book's invariant. -/
theorem bookInv_storeAfter (env : Env) (ops : List Op) :
    BookInv env (storeAfter env ops).book :=
  Runs.run_invariant bookInv_exec ops Store.empty bookInv_empty

end Warehouse
