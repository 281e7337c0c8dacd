/-
The order lifecycle: rows, audit log and events in step.

A status call either leaves the store exactly as it was or moves one
order along one edge, with one audit row and, for a fill, one event
(`applyCall_cases`). The actual changes of a run are read off the tables
alone, store against next store (`changesBetween`); the step lemma says
that they are the moves, and the run lemmas that the audit log's order
rows spell them out in order, that an order's changes chain along the
allowed edges, and that its fills are its `order.filled` events.

# Raising calls

A call on an unknown order, or one that asks for a transition the table does
not have, raises; the store it leaves is the one it found, so runs may
contain as many of them as they like. A second cancellation does not raise
and does not write either. The statement therefore quantifies over arbitrary
sequences of calls, and speaks of their effects by what changed.

# Events

A fill emits one event within its call, whatever listens to it, and is
counted once among the events of its order.
-/
import Warehouse.Proofs.Oms.Refinement

namespace Warehouse

open Lib

variable {env : Env}

-- =================================================================== calls

/-- One call that asks for a status. -/
structure StatusCall where
  orderId : String
  status : OrderStatus
  actorId : String

/-- The store as a call leaves it, whether it returns or raises. -/
def applyCall (env : Env) (store : Store) (call : StatusCall) : Store :=
  (updateOrderStatus env store call.orderId call.status call.actorId).2

/-- The store after a sequence of calls. -/
def afterCalls (env : Env) (store : Store) (calls : List StatusCall) : Store :=
  Runs.run (applyCall env) store calls

/-- The status an order has, if it exists. -/
def Store.statusOf (store : Store) (orderId : String) : Option OrderStatus :=
  (store.order? orderId).map (·.status)

/-- An order whose status differs between one store and the next. -/
structure StatusChange where
  orderId : String
  fromStatus : OrderStatus
  toStatus : OrderStatus
  deriving DecidableEq

/-- The orders whose status differs between two stores. -/
def changesBetween (store store' : Store) : List StatusChange :=
  store.stagedOrders.filterMap fun row =>
    match store'.statusOf row.orderId with
    | some status =>
        if status ≠ row.status then
          some ⟨row.orderId, row.status, status⟩
        else none
    | none => none

/-- The actual changes of a run, in order. -/
def changesOver (env : Env) : Store → List StatusCall → List StatusChange
  | _, [] => []
  | store, call :: calls =>
      changesBetween store (applyCall env store call)
        ++ changesOver env (applyCall env store call) calls

/-- The statuses an order takes over a run, after its first. -/
def laterStatuses (env : Env) (store : Store) (calls : List StatusCall)
    (orderId : String) : List OrderStatus :=
  ((changesOver env store calls).filter (·.orderId = orderId)).map
    (·.toStatus)

/-- The audit log's order-status rows. -/
def Store.orderRows (store : Store) : List AuditLogRow :=
  store.auditLog.filter (·.resourceType = "staged_order")

/-- An `order.filled` event of an order. -/
def Event.fills (event : Event) (orderId : String) : Bool :=
  event.op = "order.filled"
    && match event.payload with
      | .orderFilled _ id => decide (id = orderId)
      | _ => false

/-- The `order.filled` events emitted for an order. -/
def Store.fillsOf (store : Store) (orderId : String) : List Event :=
  store.events.filter (·.fills orderId)

/-- What the audit row of a change names. -/
def StatusChange.auditKey (change : StatusChange) : String × String :=
  (change.orderId, "order_" ++ change.toStatus.value)

/-- An edge that changes the status. -/
def Edge (fromStatus toStatus : OrderStatus) : Prop :=
  fromStatus ≠ toStatus ∧ toStatus ∈ allowedTransitions fromStatus

/-- No two orders share an id. -/
def DistinctOrders (store : Store) : Prop :=
  (store.stagedOrders.map (·.orderId)).Nodup

-- ================================================================ one call

/-- A call leaves the store as it was, or moves one order. -/
theorem applyCall_cases (env : Env) (store : Store) (call : StatusCall) :
    applyCall env store call = store
    ∨ ∃ row ∈ store.stagedOrders, row.orderId = call.orderId
        ∧ Edge row.status call.status
        ∧ applyCall env store call
          = afterMove env store row call.status call.actorId := by
  unfold applyCall
  rcases updateOrder_cases env store call.orderId call.status call.actorId with
    ⟨e, h⟩ | ⟨row, -, -, -, h⟩ | ⟨row, hmem, -, hid, hne, hallowed, h⟩
  · rw [h]
    exact Or.inl rfl
  · rw [h]
    exact Or.inl rfl
  · rw [h]
    exact Or.inr ⟨row, hmem, hid, ⟨hne, hallowed⟩, rfl⟩

/-- Where ids are distinct a stored order has its own status. -/
theorem statusOf_of_mem {store : Store} (hdistinct : DistinctOrders store)
    {row : StagedOrderRow} (hmem : row ∈ store.stagedOrders) :
    store.statusOf row.orderId = some row.status := by
  unfold Store.statusOf
  rw [order?_eq_get, Keyed.get_of_mem hdistinct hmem]
  rfl

/-- The order table of a move. -/
theorem afterMove_orders (store : Store) (row : StagedOrderRow)
    (status : OrderStatus) (actorId : String) :
    (afterMove env store row status actorId).stagedOrders
      = Keyed.put (·.orderId) store.stagedOrders
          (movedOrder env store row status) := by
  unfold afterMove
  split
  · have hframe : EmitFrame _ (emitEvent env
        (orderMoved env store row status actorId)
        (orderFilled (movedOrder env store row status))) :=
      emitEvent_frame _ _
    rw [hframe.orders]
    rfl
  · rfl

/-- A move keeps the ids, in place. -/
theorem afterMove_ids (store : Store) (row : StagedOrderRow)
    (status : OrderStatus) (actorId : String) :
    (afterMove env store row status actorId).stagedOrders.map (·.orderId)
      = store.stagedOrders.map (·.orderId) := by
  rw [afterMove_orders, Keyed.map_key_put]

/-- A move changes the status of its order and of no other. -/
theorem statusOf_afterMove {store : Store} (hdistinct : DistinctOrders store)
    {row : StagedOrderRow} (hmem : row ∈ store.stagedOrders)
    (status : OrderStatus) (actorId : String) (orderId : String) :
    (afterMove env store row status actorId).statusOf orderId
      = if orderId = row.orderId then some status
        else store.statusOf orderId := by
  unfold Store.statusOf
  rw [order?_eq_get, order?_eq_get, afterMove_orders,
    Keyed.get_put hdistinct (movedOrder env store row status) hmem rfl]
  show Option.map _ (if orderId = row.orderId then _ else _) = _
  split
  · rfl
  · rfl

/-- The one change of a move. -/
theorem changesBetween_afterMove {store : Store}
    (hdistinct : DistinctOrders store) {row : StagedOrderRow}
    (hmem : row ∈ store.stagedOrders) {status : OrderStatus}
    (hne : row.status ≠ status) (actorId : String) :
    changesBetween store (afterMove env store row status actorId)
      = [⟨row.orderId, row.status, status⟩] := by
  unfold changesBetween
  simp only [statusOf_afterMove hdistinct hmem]
  refine Keyed.filterMap_eq_singleton hdistinct hmem ?_ ?_
  · simp [hne.symm]
  · intro other ho hid
    rw [if_neg hid, statusOf_of_mem hdistinct ho]
    simp

/-- A store differs from itself in nothing. -/
theorem changesBetween_self {store : Store} (hdistinct : DistinctOrders store) :
    changesBetween store store = [] := by
  unfold changesBetween
  rw [List.filterMap_eq_nil_iff]
  intro row hr
  rw [statusOf_of_mem hdistinct hr]
  simp

/-- The one audit row of a move, among whatever subscribers write. -/
theorem orderRows_afterMove (store : Store) (row : StagedOrderRow)
    (status : OrderStatus) (actorId : String) :
    ∃ entry, (afterMove env store row status actorId).orderRows
        = store.orderRows ++ [entry]
      ∧ (entry.resourceId, entry.action)
        = (row.orderId, "order_" ++ status.value) := by
  have hmoved : ∃ entry, (orderMoved env store row status actorId).auditLog
        = store.auditLog ++ [entry]
      ∧ entry.resourceType = "staged_order"
      ∧ (entry.resourceId, entry.action)
        = (row.orderId, "order_" ++ status.value) := ⟨_, rfl, rfl, rfl⟩
  obtain ⟨entry, hlog, htype, hkey⟩ := hmoved
  refine ⟨entry, ?_, hkey⟩
  have hrows : (orderMoved env store row status actorId).orderRows
      = store.orderRows ++ [entry] := by
    unfold Store.orderRows
    rw [hlog, List.filter_append]
    simp [htype]
  unfold afterMove
  split
  · have hframe : EmitFrame _ (emitEvent env
        (orderMoved env store row status actorId)
        (orderFilled (movedOrder env store row status))) :=
      emitEvent_frame _ _
    obtain ⟨rows, haudit, hown⟩ := hframe.audit
    have hnone : rows.filter (·.resourceType = "staged_order") = [] := by
      rw [List.filter_eq_nil_iff]
      intro other ho
      simpa using hown other ho
    rw [← hrows]
    unfold Store.orderRows
    rw [haudit, List.filter_append, hnone, List.append_nil]
  · exact hrows

/-- A fill emits one event, for its own order; any other move none. -/
theorem fillsOf_afterMove (store : Store) (row : StagedOrderRow)
    (status : OrderStatus) (actorId : String) (orderId : String) :
    ((afterMove env store row status actorId).fillsOf orderId).length
      = (store.fillsOf orderId).length
        + if row.orderId = orderId ∧ status = .filled then 1 else 0 := by
  unfold afterMove
  split
  · next hfilled =>
    have hframe : EmitFrame _ (emitEvent env
        (orderMoved env store row status actorId)
        (orderFilled (movedOrder env store row status))) :=
      emitEvent_frame _ _
    obtain ⟨events, hevents, hop⟩ := hframe.emitted
    have hnone : events.filter (·.fills orderId) = [] := by
      rw [List.filter_eq_nil_iff]
      intro event he
      simp [Event.fills, hop event he]
    have hlog : (orderMoved env store row status actorId).events
        = store.events := rfl
    unfold Store.fillsOf
    rw [hevents, hlog, List.filter_append, List.filter_append, hnone,
      List.append_nil, List.length_append, List.filter_singleton]
    by_cases hid : row.orderId = orderId
    · simp [Event.fills, orderFilled, movedOrder, hid, hfilled]
    · simp [Event.fills, orderFilled, movedOrder, hid]
  · next hfilled =>
    have hnot : ¬ (row.orderId = orderId ∧ status = .filled) :=
      fun h => hfilled h.2
    rw [if_neg hnot]
    rfl

/-- What one call does to the tables and the two logs: nothing at all, or
one change along one edge. -/
theorem applyCall_changes (env : Env) {store : Store} (hdistinct : DistinctOrders store)
    (call : StatusCall) :
    DistinctOrders (applyCall env store call)
    ∧ ((applyCall env store call = store
          ∧ changesBetween store (applyCall env store call) = [])
      ∨ ∃ change, changesBetween store (applyCall env store call) = [change]
          ∧ Edge change.fromStatus change.toStatus
          ∧ store.statusOf change.orderId = some change.fromStatus
          ∧ (∀ orderId, (applyCall env store call).statusOf orderId
              = if orderId = change.orderId then some change.toStatus
                else store.statusOf orderId)
          ∧ (∃ entry, (applyCall env store call).orderRows
                = store.orderRows ++ [entry]
              ∧ (entry.resourceId, entry.action) = change.auditKey)
          ∧ ∀ orderId, ((applyCall env store call).fillsOf orderId).length
              = (store.fillsOf orderId).length
                + if change.orderId = orderId ∧ change.toStatus = .filled
                  then 1 else 0) := by
  rcases applyCall_cases env store call with h | ⟨row, hmem, hid, hedge, h⟩
  · rw [h]
    exact ⟨hdistinct, Or.inl ⟨rfl, changesBetween_self hdistinct⟩⟩
  · rw [h]
    refine ⟨?_, Or.inr ⟨⟨row.orderId, row.status, call.status⟩,
      changesBetween_afterMove hdistinct hmem hedge.1 call.actorId, hedge,
      statusOf_of_mem hdistinct hmem,
      statusOf_afterMove hdistinct hmem call.status call.actorId,
      orderRows_afterMove store row call.status call.actorId,
      fillsOf_afterMove store row call.status call.actorId⟩⟩
    unfold DistinctOrders
    rw [afterMove_ids]
    exact hdistinct

-- ==================================================================== runs

/-- The order rows a run appends to the audit log are its changes. -/
theorem orderRows_afterCalls (calls : List StatusCall) :
    ∀ store : Store, DistinctOrders store →
      ∃ entries, (afterCalls env store calls).orderRows
          = store.orderRows ++ entries
        ∧ entries.map (fun entry => (entry.resourceId, entry.action))
          = (changesOver env store calls).map (·.auditKey) := by
  induction calls with
  | nil => exact fun store _ => ⟨[], (List.append_nil _).symm, rfl⟩
  | cons call rest ih =>
      intro store hdistinct
      obtain ⟨hdistinct', hcase⟩ := applyCall_changes env hdistinct call
      obtain ⟨entries, hrows, hkeys⟩ := ih _ hdistinct'
      have hrun : afterCalls env store (call :: rest)
          = afterCalls env (applyCall env store call) rest := rfl
      rcases hcase with ⟨hquiet, hnone⟩ | ⟨change, hone, -, -, -, haudit, -⟩
      · refine ⟨entries, ?_, ?_⟩
        · rw [hrun, hrows, hquiet]
        · rw [hkeys, changesOver, hnone, List.nil_append]
      · obtain ⟨entry, hentry, hkey⟩ := haudit
        refine ⟨entry :: entries, ?_, ?_⟩
        · rw [hrun, hrows, hentry, List.append_assoc]
          rfl
        · rw [changesOver, hone, List.map_cons, hkeys, hkey]
          rfl

/-- What the first call of a run adds to an order's statuses. -/
theorem laterStatuses_cons (env : Env) (store : Store) (call : StatusCall)
    (calls : List StatusCall) (orderId : String) :
    laterStatuses env store (call :: calls) orderId
      = ((changesBetween store (applyCall env store call)).filter
          (·.orderId = orderId)).map (·.toStatus)
        ++ laterStatuses env (applyCall env store call) calls orderId := by
  unfold laterStatuses
  rw [changesOver, List.filter_append, List.map_append]

/-- What a call does to one order: nothing, or a step along an edge, with an
event for a fill. -/
theorem applyCall_order (env : Env) {store : Store} {orderId : String}
    {status : OrderStatus} (hdistinct : DistinctOrders store)
    (hstatus : store.statusOf orderId = some status) (call : StatusCall) :
    (((changesBetween store (applyCall env store call)).filter
          (·.orderId = orderId)).map (·.toStatus) = []
        ∧ (applyCall env store call).statusOf orderId = some status
        ∧ ((applyCall env store call).fillsOf orderId).length
          = (store.fillsOf orderId).length)
      ∨ ∃ next, Edge status next
        ∧ ((changesBetween store (applyCall env store call)).filter
          (·.orderId = orderId)).map (·.toStatus) = [next]
        ∧ (applyCall env store call).statusOf orderId = some next
        ∧ ((applyCall env store call).fillsOf orderId).length
          = (store.fillsOf orderId).length
            + if next = .filled then 1 else 0 := by
  obtain ⟨-, hcase⟩ := applyCall_changes env hdistinct call
  rcases hcase with ⟨hquiet, hnone⟩
    | ⟨change, hone, hedge, hfrom, hafter, -, hfills⟩
  · rw [hnone, hquiet]
    exact .inl ⟨rfl, hstatus, rfl⟩
  · by_cases hid : change.orderId = orderId
    · have hhere : change.fromStatus = status := by
        rw [hid, hstatus] at hfrom
        exact (Option.some.inj hfrom).symm
      refine .inr ⟨change.toStatus, hhere ▸ hedge, ?_, ?_, ?_⟩
      · rw [hone]
        simp [hid]
      · rw [hafter, if_pos hid.symm]
      · rw [hfills]
        simp only [hid, true_and]
    · refine .inl ⟨?_, ?_, ?_⟩
      · rw [hone]
        simp [hid]
      · rw [hafter, if_neg (Ne.symm hid)]
        exact hstatus
      · rw [hfills, if_neg fun h => hid h.1, Nat.add_zero]

/-- An order's statuses over a run chain along the edges, end at its
status, and its fills among them are the events emitted for it. -/
theorem laterStatuses_spec (env : Env) (orderId : String) (calls : List StatusCall) :
    ∀ (store : Store) (status : OrderStatus), DistinctOrders store →
      store.statusOf orderId = some status →
      List.IsChain Edge (status :: laterStatuses env store calls orderId)
      ∧ (afterCalls env store calls).statusOf orderId
        = (status :: laterStatuses env store calls orderId).getLast?
      ∧ ((afterCalls env store calls).fillsOf orderId).length
        = (store.fillsOf orderId).length
          + (laterStatuses env store calls orderId).count .filled := by
  induction calls with
  | nil =>
      intro store status _ hstatus
      exact ⟨List.IsChain.singleton _, hstatus, rfl⟩
  | cons call rest ih =>
      intro store status hdistinct hstatus
      have hdistinct' := (applyCall_changes env hdistinct call).1
      have hrun : afterCalls env store (call :: rest)
          = afterCalls env (applyCall env store call) rest := rfl
      rw [hrun, laterStatuses_cons]
      rcases applyCall_order env hdistinct hstatus call with
        ⟨hnone, hstatus', hfills⟩ | ⟨next, hedge, hone, hstatus', hfills⟩
      · rw [hnone, List.nil_append, ← hfills]
        exact ih _ status hdistinct' hstatus'
      · -- the order's own change: it heads the rest of the chain
        obtain ⟨hchain, hlast, hcount⟩ := ih _ next hdistinct' hstatus'
        rw [hone, List.singleton_append]
        refine ⟨List.isChain_cons_cons.mpr ⟨hedge, hchain⟩, ?_, ?_⟩
        · rw [hlast, List.getLast?_cons_cons]
        · rw [hcount, hfills, List.count_cons]
          by_cases hfilled : next = .filled
          · simp [hfilled]
            omega
          · simp [hfilled]

/-- Every change of a run is along an edge. -/
theorem changesOver_edge (calls : List StatusCall) :
    ∀ store : Store, DistinctOrders store →
      ∀ change ∈ changesOver env store calls,
        Edge change.fromStatus change.toStatus := by
  induction calls with
  | nil => exact fun _ _ _ h => nomatch h
  | cons call rest ih =>
      intro store hdistinct change hmem
      obtain ⟨hdistinct', hcase⟩ := applyCall_changes env hdistinct call
      rcases List.mem_append.mp hmem with hfirst | hrest
      · rcases hcase with ⟨-, hnone⟩ | ⟨change', hone, hedge, -⟩
        · rw [hnone] at hfirst
          cases hfirst
        · rw [hone] at hfirst
          rw [List.mem_singleton.mp hfirst]
          exact hedge
      · exact ih _ hdistinct' change hrest

/-- Every edge leaves an open status, and only a submitted order is filled. -/
theorem Edge.from_open {fromStatus toStatus : OrderStatus}
    (h : Edge fromStatus toStatus) :
    fromStatus ≠ .filled ∧ fromStatus ≠ .cancelled
      ∧ (toStatus = .filled → fromStatus = .submitted) := by
  obtain ⟨hne, hallowed⟩ := h
  cases fromStatus with
  | staged =>
      refine ⟨by decide, by decide, fun hfilled => ?_⟩
      rw [hfilled] at hallowed
      exact absurd hallowed (by decide)
  | submitted => exact ⟨by decide, by decide, fun _ => rfl⟩
  | filled => cases hallowed
  | cancelled =>
      rw [List.mem_singleton.mp hallowed] at hne
      exact absurd rfl hne

/-- The chains of edges that start at STAGED. -/
theorem chain_from_staged {later : List OrderStatus}
    (h : List.IsChain Edge (.staged :: later)) :
    later = [] ∨ later = [.submitted] ∨ later = [.submitted, .filled]
      ∨ later = [.submitted, .cancelled] ∨ later = [.cancelled] := by
  -- FILLED and CANCELLED end a chain
  have hend : ∀ {status : OrderStatus} {rest : List OrderStatus},
      (status = .filled ∨ status = .cancelled) →
      List.IsChain Edge (status :: rest) → rest = [] := by
    intro status rest hclosed hchain
    cases rest with
    | nil => rfl
    | cons next rest =>
        have hopen := (List.isChain_cons_cons.mp hchain).1.from_open
        rcases hclosed with h | h
        · exact absurd h hopen.1
        · exact absurd h hopen.2.1
  cases later with
  | nil => exact Or.inl rfl
  | cons first rest =>
      obtain ⟨hedge, hchain⟩ := List.isChain_cons_cons.mp h
      cases first with
      | staged => exact absurd rfl hedge.1
      | filled => exact absurd (hedge.from_open.2.2 rfl) (by decide)
      | cancelled =>
          rw [hend (Or.inr rfl) hchain]
          exact Or.inr (Or.inr (Or.inr (Or.inr rfl)))
      | submitted =>
          cases rest with
          | nil => exact Or.inr (Or.inl rfl)
          | cons second rest =>
              obtain ⟨hedge', hchain'⟩ := List.isChain_cons_cons.mp hchain
              cases second with
              | staged => exact absurd hedge'.2 (by decide)
              | submitted => exact absurd rfl hedge'.1
              | filled =>
                  rw [hend (Or.inl rfl) hchain']
                  exact Or.inr (Or.inr (Or.inl rfl))
              | cancelled =>
                  rw [hend (Or.inr rfl) hchain']
                  exact Or.inr (Or.inr (Or.inr (Or.inl rfl)))

-- ============================================================ the lifecycle

/-- The order lifecycle.

From any store with distinct order ids and under any sequence of status
calls: the status history of an order that starts STAGED is a prefix of
one of the three lives, it ends at the order's status, and one
`order.filled` event has been emitted for it if that is FILLED, none
otherwise; no change leaves FILLED or CANCELLED, and FILLED is entered
from SUBMITTED only; the order rows appended to the audit log are the
actual changes, one each, in order; and a further call that raises, or
cancels a cancelled order, leaves the store as it is. -/
theorem order_lifecycle (env : Env) (start : Store)
    (hdistinct : DistinctOrders start) (calls : List StatusCall) :
    (∀ order ∈ start.stagedOrders, order.status = .staged →
      (.staged :: laterStatuses env start calls order.orderId
          <+: [.staged, .submitted, .filled]
        ∨ .staged :: laterStatuses env start calls order.orderId
          <+: [.staged, .cancelled]
        ∨ .staged :: laterStatuses env start calls order.orderId
          <+: [.staged, .submitted, .cancelled])
      ∧ (afterCalls env start calls).statusOf order.orderId
        = (.staged :: laterStatuses env start calls order.orderId).getLast?
      ∧ ((afterCalls env start calls).fillsOf order.orderId).length
        = (start.fillsOf order.orderId).length
          + if (afterCalls env start calls).statusOf order.orderId
              = some .filled then 1 else 0)
    ∧ (∀ change ∈ changesOver env start calls,
        change.fromStatus ≠ .filled ∧ change.fromStatus ≠ .cancelled
        ∧ (change.toStatus = .filled → change.fromStatus = .submitted))
    ∧ (∃ entries, (afterCalls env start calls).orderRows
          = start.orderRows ++ entries
        ∧ entries.map (fun entry => (entry.resourceId, entry.action))
          = (changesOver env start calls).map (·.auditKey))
    ∧ ∀ call : StatusCall,
        ((∃ e, (updateOrderStatus env (afterCalls env start calls)
            call.orderId call.status call.actorId).1 = .error e)
          ∨ ((afterCalls env start calls).statusOf call.orderId
              = some .cancelled ∧ call.status = .cancelled)) →
        applyCall env (afterCalls env start calls) call
          = afterCalls env start calls := by
  refine ⟨fun order ho hstaged => ?_, fun change hmem => ?_, ?_,
    fun call hcall => ?_⟩
  · have hstatus := statusOf_of_mem hdistinct ho
    rw [hstaged] at hstatus
    obtain ⟨hchain, hlast, hfills⟩ :=
      laterStatuses_spec env order.orderId calls start _ hdistinct hstatus
    rw [hlast, hfills]
    rcases chain_from_staged hchain with h | h | h | h | h
    · rw [h]
      exact ⟨Or.inl (by decide), rfl, rfl⟩
    · rw [h]
      exact ⟨Or.inl (by decide), rfl, rfl⟩
    · rw [h]
      exact ⟨Or.inl (by decide), rfl, rfl⟩
    · rw [h]
      exact ⟨Or.inr (Or.inr (by decide)), rfl, rfl⟩
    · rw [h]
      exact ⟨Or.inr (Or.inl (by decide)), rfl, rfl⟩
  · exact (changesOver_edge calls start hdistinct change hmem).from_open
  · exact orderRows_afterCalls calls start hdistinct
  · unfold applyCall
    rcases updateOrder_cases env (afterCalls env start calls) call.orderId
        call.status call.actorId with
      ⟨e, h⟩ | ⟨row, -, -, -, h⟩ | ⟨row, -, hget, -, hne, hallowed, h⟩
    · rw [h]
    · rw [h]
    · -- a move is neither rejected nor a repeat
      exfalso
      rcases hcall with ⟨e, herr⟩ | ⟨hcancelled, hto⟩
      · rw [h] at herr
        cases herr
      · unfold Store.statusOf at hcancelled
        rw [hget] at hcancelled
        apply hne
        rw [hto]
        exact Option.some.inj hcancelled

/-- One staged order. -/
def oneOrder : Store where
  stagedOrders :=
    [{ orderId := "ord_1", approvalRequestId := "appr_1",
       optimizationRunId := "opt_1", householdId := "h", lotId := none,
       securityId := "sec_vti", accountId := "acct_a", side := "sell",
       quantity := 1, status := .staged, createdAt := 0, updatedAt := 0 }]

/-- Submitted, filled, and then cancelled too late. -/
theorem order_lifecycle_fill :
    let calls : List StatusCall :=
      [⟨"ord_1", .submitted, "system:oms"⟩, ⟨"ord_1", .filled, "system:oms"⟩]
    let store := afterCalls Env.counting oneOrder calls
    (store.fillsOf "ord_1").length = 1
      ∧ applyCall Env.counting store ⟨"ord_1", .cancelled, "system:oms"⟩
        = store := by
  intro calls store
  obtain ⟨hhistory, -, -, hrejected⟩ :=
    order_lifecycle Env.counting oneOrder (List.nodup_singleton _) calls
  obtain ⟨-, -, hfills⟩ := hhistory _ (List.mem_singleton_self _) rfl
  refine ⟨?_, hrejected _ (Or.inl ⟨_, rfl⟩)⟩
  have hfilled : store.statusOf "ord_1" = some .filled := by decide
  rw [if_pos hfilled] at hfills
  exact hfills

end Warehouse
