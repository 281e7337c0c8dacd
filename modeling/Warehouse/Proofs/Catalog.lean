/-
The op catalog.

The composition root registers every op once (`registrations_register`),
and each is found under its name (`registered_of_mem`). A message is
routed to its op's handler or refused with the site as it was
(`routes_or_refused`). Under a session, the four ops of
`Messaging/Handlers.lean` are dispatched as they are there
(`dispatchMessage_staging`).
-/
import Warehouse.Lib.Keyed
import Warehouse.Messaging.Catalog

namespace Warehouse.Catalog

open Lib

variable {A R : Type} {out : Outside A R} {ctx : DispatchContext}
  {site : Site A R}

-- ================================================================== registry

/-- Registering entries of new ops appends them. -/
theorem foldlM_register (entries : List (Registration A R)) :
    ∀ registry : List (Registration A R),
      ((registry ++ entries).map (·.op)).Nodup →
      entries.foldlM register registry = .ok (registry ++ entries) := by
  induction entries with
  | nil =>
    intro registry _
    rw [List.append_nil]
    rfl
  | cons entry rest ih =>
    intro registry hnd
    have hnew : entry.op ∉ registry.map (·.op) := by
      rw [List.map_append, List.nodup_append] at hnd
      intro hmem
      exact hnd.2.2 _ hmem _ List.mem_cons_self rfl
    rw [List.foldlM_cons]
    unfold register
    rw [if_neg hnew]
    show rest.foldlM register (registry ++ [entry]) = _
    rw [ih _ (by rwa [List.append_assoc]), List.append_assoc]
    rfl

/-- No op is registered twice. -/
theorem ops_nodup (out : Outside A R) :
    ((registrations out).map (·.op)).Nodup := by
  change ["ledger.positions", "risk.evaluate", "policy.check",
    "optimizer.propose", "trade.validate", "tax.scenario",
    "attribution.evaluate", "pm.advise", "beliefs.update", "ingest.fiij",
    "stats.daily", "ingest.run", "ledger.reconcile", "optimizer.persist",
    "approval.create", "approval.decide", "orders.stage",
    "report.build"].Nodup
  decide

/-- The composition root registers without raising. -/
theorem registrations_register (out : Outside A R) :
    (registrations out).foldlM register [] = .ok (registrations out) :=
  foldlM_register (registrations out) [] (ops_nodup out)

/-- A registered entry is found under its op. -/
theorem registered_of_mem {entry : Registration A R}
    (hentry : entry ∈ registrations out) :
    registered out entry.op = some entry :=
  Keyed.get_of_mem (ops_nodup out) hentry

-- ================================================================== dispatch

/-- The handler of the message's op, and the body it is called with. -/
def Routes (out : Outside A R) (msg : Message) (entry : Registration A R)
    (body : entry.payloadType.Body) : Prop :=
  registered out msg.op = some entry
    ∧ msg.payload.as? entry.payloadType = some body

/-- A routed message goes to a registered entry. -/
theorem Routes.mem {msg : Message} {entry : Registration A R}
    {body : entry.payloadType.Body} (h : Routes out msg entry body) :
    entry ∈ registrations out :=
  List.mem_of_find?_eq_some h.1

/-- The trace is all dispatch changes of the context. -/
theorem Routes.dispatch {msg : Message} {entry : Registration A R}
    {body : entry.payloadType.Body} (h : Routes out msg entry body)
    (ctx : DispatchContext) :
    dispatchMessage out ctx msg
      = entry.handler { ctx with correlationId := msg.correlationId } body := by
  obtain ⟨hentry, hbody⟩ := h
  unfold dispatchMessage
  rw [hentry]
  dsimp only
  rw [hbody]

/-- A message is routed or refused. -/
theorem routes_or_refused (out : Outside A R) (msg : Message) :
    (∃ entry body, Routes out msg entry body)
      ∨ ∀ ctx (site : Site A R),
        ((dispatchMessage out ctx msg).exec site).2 = site := by
  cases hentry : registered out msg.op with
  | none =>
    refine .inr fun ctx site => ?_
    unfold dispatchMessage
    rw [hentry]
    rfl
  | some entry =>
    cases hbody : msg.payload.as? entry.payloadType with
    | none =>
      refine .inr fun ctx site => ?_
      unfold dispatchMessage
      rw [hentry]
      dsimp only
      rw [hbody]
      rfl
    | some body => exact .inl ⟨entry, body, hentry, hbody⟩

-- =================================================================== session

theorem exec_requireSession (hsession : ctx.hasSession = true) :
    (ctx.requireSession : SiteWork A R PUnit).exec site = (.ok ⟨⟩, site) := by
  unfold DispatchContext.requireSession
  rw [if_pos hsession]
  rfl

/-- Without a session no service is called. -/
theorem exec_requireSession_none {α : Type} (hsession : ctx.hasSession = false)
    (next : PUnit → SiteWork A R α) :
    ((ctx.requireSession >>= next).exec site).2 = site := by
  unfold DispatchContext.requireSession
  rw [hsession]
  rfl

/-- Work in the session moves the tables alone. -/
theorem exec_inSession {α : Type} (hsession : ctx.hasSession = true)
    (body : Session α) :
    (inSession ctx body : SiteWork A R α).exec site
      = ((body.exec site.store).1,
          { site with store := (body.exec site.store).2 }) := by
  unfold inSession
  rw [Work.exec_bind_ok (exec_requireSession hsession)]
  rfl

/-- Wrapping a reply changes nothing else. -/
theorem exec_reply {α : Type} (work : SiteWork A R α) (reply : α → Reply) :
    (do return reply (← work) : SiteWork A R Reply).exec site
      = ((work.exec site).1.map reply, (work.exec site).2) := by
  rw [Work.exec_bind]
  cases work.exec site with
  | mk outcome site' => cases outcome <;> rfl

/-- A service that raises before it writes: its store is the site's where
it returns. -/
theorem exec_reply_attempt {α : Type} (hsession : ctx.hasSession = true)
    (service : Store → Except Exc (α × Store)) (reply : α → Reply) :
    (do return reply (← inSession ctx (Work.attempt service))
        : SiteWork A R Reply).exec site
      = match service site.store with
        | .ok (a, store) => (.ok (reply a), { site with store := store })
        | .error e => (.error e, site) := by
  rw [exec_reply, exec_inSession hsession]
  unfold Work.attempt
  rw [Work.exec_call]
  cases service site.store with
  | error e => rfl
  | ok result => rfl

-- =================================================================== staging

/-- A body of the staging ops, in the catalog. -/
def Payload.ofStaging : Warehouse.Payload → Payload
  | .optimizerPersist p => .body .optimizerPersist p
  | .approvalCreate p => .body .approvalCreate p
  | .approvalDecide p => .body .approvalDecide p
  | .ordersStage p => .body .ordersStage p

/-- A staging reply among the catalogue's. -/
def Reply.ofStaging : Warehouse.Reply → Reply
  | .optimizationRun view => .optimizationRun view
  | .approvalRequest view => .approvalRequest view
  | .stagedOrders orders => .stagedOrders orders

/-- An envelope of the staging ops, of any kind. -/
def Message.ofStaging (kind : Kind) (msg : Warehouse.Message) : Message where
  op := msg.op.value
  kind := kind
  payload := .ofStaging msg.payload
  correlationId := msg.correlationId
  householdId := msg.householdId

/-- The catalog dispatches the staging ops as `Messaging/Handlers.lean`
does, on the session's store. -/
theorem dispatchMessage_staging (hsession : ctx.hasSession = true)
    (kind : Kind) (msg : Warehouse.Message) :
    (dispatchMessage out ctx (.ofStaging kind msg)).exec site
      = match Warehouse.dispatchMessage out.report.env
            out.report.order.toRowOrder (ctx.on site.store) msg with
        | .ok (reply, store) =>
            (.ok (.ofStaging reply), { site with store := store })
        | .error e => (.error e, site) := by
  obtain ⟨op, payload, correlationId, householdId⟩ := msg
  have htraced : ({ ctx with correlationId := correlationId }
    : DispatchContext).hasSession = true := hsession
  -- any other payload is refused in the same words
  cases op <;> cases payload <;> try rfl
  case optimizerPersist.optimizerPersist p =>
    have hroutes : Routes out (.ofStaging kind ⟨.optimizerPersist,
      .optimizerPersist p, correlationId, householdId⟩) _ p := ⟨rfl, rfl⟩
    rw [hroutes.dispatch ctx]
    exact exec_reply_attempt htraced _ _
  case approvalCreate.approvalCreate p =>
    have hroutes : Routes out (.ofStaging kind ⟨.approvalCreate,
      .approvalCreate p, correlationId, householdId⟩) _ p := ⟨rfl, rfl⟩
    rw [hroutes.dispatch ctx]
    exact exec_reply_attempt htraced _ _
  case approvalDecide.approvalDecide p =>
    have hroutes : Routes out (.ofStaging kind ⟨.approvalDecide,
      .approvalDecide p, correlationId, householdId⟩) _ p := ⟨rfl, rfl⟩
    rw [hroutes.dispatch ctx]
    refine (exec_reply_attempt htraced _ _).trans ?_
    unfold Warehouse.dispatchMessage
    dsimp only [DispatchContext.on]
    cases Warehouse.approvalDecide out.report.env
        { session := site.store, actorId := ctx.actorId } p with
    | error e => rfl
    | ok result => rfl
  case ordersStage.ordersStage p =>
    have hroutes : Routes out (.ofStaging kind ⟨.ordersStage,
      .ordersStage p, correlationId, householdId⟩) _ p := ⟨rfl, rfl⟩
    rw [hroutes.dispatch ctx]
    refine (exec_reply_attempt htraced _ _).trans ?_
    unfold Warehouse.dispatchMessage
    dsimp only [DispatchContext.on]
    cases Warehouse.ordersStage out.report.env out.report.order.toRowOrder
        { session := site.store, actorId := ctx.actorId } p with
    | error e => rfl
    | ok result => rfl

end Warehouse.Catalog
