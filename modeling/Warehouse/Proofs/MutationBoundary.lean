/-
The mutation boundary.

The handlers registered QUERY and EVALUATE leave the site as they find it
(`readOnly_of_kind`). The COMMAND handlers write, each but for the states
in which it has nothing to do (`CommandIdle`). Dispatch runs the handler
of the op whatever kind the message declares, so a message mutates by its
op and not by its kind (`dispatchMessage_respectsKind_iff`). Were every
message sent under its op's kind, the COMMANDs of a run would be all it
does to the site (`run_eq_run_commands`).

# Size

A COMMAND is shown to write by counting: `Store.size` adds up tables that no
operation deletes from, so a command that adds a row to one of them has
changed the site, whatever else it does. Reconciling, ingesting and building
a report go through many steps, each of which only grows (`Grows`,
`SiteGrows`); one strict step anywhere is then enough.

# Idle commands

Four commands have states with nothing to do: deciding what is decided or
unknown, staging what is staged or not approved, reconciling an unknown run
or a clean file, and building a report that its preconditions refuse.
-/
import Warehouse.Messaging.Catalog
import Warehouse.Proofs.Advice
import Warehouse.Proofs.Catalog
import Warehouse.Proofs.CleanFile
import Warehouse.Proofs.ExternalPdf
import Warehouse.Proofs.FailureAudit
import Warehouse.Proofs.MonthEnd

namespace Warehouse

open Lib

/-- What the database holds: the tables, without the event log and the
counters of what was drawn. -/
def Store.tables (store : Store) : Store :=
  { store with
    events := []
    draws := 0
    ticks := 0 }

/-- The size of a store is that of its tables. -/
theorem size_tables (store : Store) : store.tables.size = store.size := rfl

namespace Catalog

variable {A R : Type} {out : Outside A R} {ctx : DispatchContext}
  {site : Site A R}

-- ================================================================= read only

/-- The site is left as it was found. -/
abbrev ReadOnly {α : Type} (work : SiteWork A R α) : Prop :=
  Work.Keeps Eq work

theorem readOnly_pure {α : Type} (a : α) :
    ReadOnly (pure a : SiteWork A R α) :=
  Work.Keeps.pure (fun _ => rfl) a

/-- Work that reads, then reads, reads. -/
theorem readOnly_bind {α β : Type} {work : SiteWork A R α}
    {next : α → SiteWork A R β} (hwork : ReadOnly work)
    (hnext : ∀ a, ReadOnly (next a)) : ReadOnly (work >>= next) :=
  Work.Keeps.bind (fun _ _ _ h h' => h.trans h') hwork hnext

/-- A handler that computes its reply outside the session reads. -/
theorem readOnly_reply {α : Type} (outcome : Except Exc α) (reply : α → Reply) :
    ReadOnly (do return reply (← liftExcept outcome) : SiteWork A R Reply) :=
  readOnly_bind (Work.Keeps.lift (fun _ => rfl) outcome) fun _ =>
    readOnly_pure _

theorem readOnly_requireSession :
    ReadOnly (ctx.requireSession : SiteWork A R PUnit) := by
  unfold DispatchContext.requireSession
  split
  · exact readOnly_pure _
  · exact Work.Keeps.throw (fun _ => rfl) _

theorem readOnly_ledgerPositions (p : LedgerPositionsPayload) :
    ReadOnly (ledgerPositions out ctx p) :=
  readOnly_bind readOnly_requireSession fun _ =>
    readOnly_bind (Work.Keeps.get fun _ => rfl) fun _ => readOnly_pure _

/-- Every handler that is not a COMMAND's. -/
theorem readOnly_of_kind {entry : Registration A R}
    (hentry : entry ∈ registrations out) (hkind : entry.kind ≠ .command)
    (ctx : DispatchContext) (body : entry.payloadType.Body) :
    ReadOnly (entry.handler ctx body) := by
  unfold registrations at hentry
  simp only [List.mem_cons, List.not_mem_nil, or_false] at hentry
  rcases hentry with rfl | rfl | rfl | rfl | rfl | rfl | rfl | rfl | rfl | rfl
    | rfl | rfl | rfl | rfl | rfl | rfl | rfl | rfl
  · exact readOnly_ledgerPositions body
  · exact readOnly_reply _ Reply.riskResult
  · exact readOnly_pure _
  · exact readOnly_reply _ Reply.optimizationResult
  · exact readOnly_pure _
  · exact readOnly_pure _
  · exact readOnly_reply _ Reply.attributionReport
  · exact readOnly_reply _ Reply.adviceBundle
  · exact readOnly_reply _ Reply.beliefUpdate
  · exact readOnly_reply _ Reply.fiijSnapshot
  · exact readOnly_reply _ Reply.dailyStatsReport
  all_goals exact absurd rfl hkind

-- ================================================================== commands

/-- A command's work: nothing where it is idle, rows where it is not. -/
structure WritesUnless {α : Type} (idle : Prop) (work : SiteWork A R α)
    (site : Site A R) : Prop where
  still : idle → (work.exec site).2 = site
  writes : ¬idle → site.store.size < (work.exec site).2.store.size

/-- A service that raises before it writes. -/
theorem writesUnless_attempt {α : Type} {idle : Prop}
    (hsession : ctx.hasSession = true) (reply : α → Reply)
    {service : Store → Except Exc (α × Store)}
    (hstill : idle → ∀ a store', service site.store = .ok (a, store') →
      store' = site.store)
    (hwrites : ¬idle → ∃ a store', service site.store = .ok (a, store')
      ∧ site.store.size < store'.size) :
    WritesUnless idle (do return reply (← inSession ctx (Work.attempt service))
      : SiteWork A R Reply) site := by
  constructor
  · intro hidle
    rw [exec_reply_attempt hsession]
    cases hservice : service site.store with
    | error err => rfl
    | ok result =>
      obtain ⟨a, store'⟩ := result
      rw [hstill hidle a store' hservice]
  · intro hbusy
    obtain ⟨a, store', hservice, hsize⟩ := hwrites hbusy
    rw [exec_reply_attempt hsession, hservice]
    exact hsize

-- =============================================================== persist, ask

/-- Persisting always writes a run. -/
theorem optimizerPersist_writes (hsession : ctx.hasSession = true)
    (p : OptimizerPersistPayload) :
    WritesUnless False (optimizerPersist out ctx p) site := by
  refine writesUnless_attempt hsession _ False.elim fun _ =>
    ⟨_, (Warehouse.optimizerPersist out.report.env (ctx.on site.store) p).2,
      rfl, ?_⟩
  unfold Warehouse.optimizerPersist persistOptimization
  dsimp only
  rw [if_neg Bool.false_ne_true, size_writeAudit]
  unfold Store.size
  simp only [DispatchContext.on, Store.drawn, Store.ticked, List.length_append,
    List.length_singleton]
  omega

/-- A request is a new row. -/
theorem createApproval_size (env : Env) (store : Store) (householdId : String)
    (subjectType : ApprovalSubject) (subjectId : String)
    (optimizationRunId : Option String) :
    store.size < (createApproval env store householdId subjectType subjectId
      optimizationRunId).2.size := by
  unfold createApproval
  dsimp only
  rw [size_writeAudit]
  unfold Store.size
  simp only [Store.drawn, Store.ticked, List.length_append,
    List.length_singleton]
  omega

theorem approvalCreate_writes (hsession : ctx.hasSession = true)
    (p : ApprovalCreatePayload) :
    WritesUnless False (approvalCreate out ctx p) site := by
  refine writesUnless_attempt hsession _ False.elim fun _ =>
    ⟨_, (Warehouse.approvalCreate out.report.env (ctx.on site.store) p).2,
      rfl, ?_⟩
  unfold Warehouse.approvalCreate
  split
  · exact createApproval_size ..
  · exact createApproval_size ..
  · next hnone hnone' =>
    exact absurd (by rw [hnone, hnone']) p.oneSubject

-- ============================================================ decide, stage

/-- There is no request to decide, or it is decided already. -/
def DecideIdle (store : Store) (p : ApprovalDecidePayload) : Prop :=
  ∀ row, store.approval? p.requestId = some row → row.status ≠ .pending

/-- A decision writes unless it is refused. -/
theorem approvalDecide_writes (hsession : ctx.hasSession = true)
    (p : ApprovalDecidePayload) :
    WritesUnless (DecideIdle site.store p) (approvalDecide out ctx p) site := by
  apply writesUnless_attempt hsession
  · intro hidle a store' hservice
    unfold Warehouse.approvalDecide updateApprovalStatus at hservice
    cases hrow : site.store.approval? p.requestId with
    | none =>
      rw [DispatchContext.on, hrow] at hservice
      cases hservice
    | some row =>
      rw [DispatchContext.on, hrow] at hservice
      dsimp only at hservice
      rw [if_pos (hidle row hrow)] at hservice
      cases hservice
  · intro hbusy
    unfold DecideIdle at hbusy
    push Not at hbusy
    obtain ⟨row, hrow, hpending⟩ := hbusy
    unfold Warehouse.approvalDecide updateApprovalStatus
    rw [DispatchContext.on, hrow]
    dsimp only
    rw [if_neg (not_not.mpr hpending)]
    refine ⟨_, _, rfl, ?_⟩
    rw [size_writeAudit]
    unfold Store.size Store.setApproval
    simp only [Store.ticked, List.length_map]
    omega

/-- There is no approved optimization to stage, or its orders are there. -/
def StageIdle (order : RowOrder) (store : Store) (p : OrdersStagePayload) :
    Prop :=
  ∀ approval, store.approval? p.approvalRequestId = some approval →
    approval.status = .approved → ∀ runId,
      approval.optimizationRunId = some runId →
      truthy ((existingOrders order store p.approvalRequestId).head?.map
        (·.orderId)) = true

/-- Staged orders are not counted: the fold over the trades leaves the size
alone. -/
theorem stageTrades_size (env : Env) (approval : ApprovalRequestRow)
    (runId : String) (now : DateTime) (trades : List OptimizationTradeRow) :
    ∀ st, (trades.foldl (stageTrade env approval runId now) st).2.size
      = st.2.size := by
  induction trades with
  | nil => exact fun st => rfl
  | cons trade rest ih => exact fun st => ih _

/-- Staging writes unless it is refused or repeated. -/
theorem ordersStage_writes (hsession : ctx.hasSession = true)
    (p : OrdersStagePayload) :
    WritesUnless (StageIdle out.report.order.toRowOrder site.store p)
      (ordersStage out ctx p) site := by
  apply writesUnless_attempt hsession
  · intro hidle a store' hservice
    unfold Warehouse.ordersStage stageOrdersFromApproval at hservice
    cases hrow : site.store.approval? p.approvalRequestId with
    | none =>
      rw [DispatchContext.on, hrow] at hservice
      cases hservice
    | some approval =>
      rw [DispatchContext.on, hrow] at hservice
      dsimp only at hservice
      by_cases hstatus : approval.status = .approved
      · rw [if_neg (not_not.mpr hstatus)] at hservice
        cases hrun : approval.optimizationRunId with
        | none =>
          rw [hrun] at hservice
          cases hservice
        | some runId =>
          rw [hrun] at hservice
          dsimp only at hservice
          rw [if_pos (hidle approval hrow hstatus runId hrun)] at hservice
          cases hservice
          rfl
      · rw [if_pos hstatus] at hservice
        cases hservice
  · intro hbusy
    unfold StageIdle at hbusy
    push Not at hbusy
    obtain ⟨approval, hrow, hstatus, runId, hrun, hnew⟩ := hbusy
    unfold Warehouse.ordersStage stageOrdersFromApproval
    rw [DispatchContext.on, hrow]
    dsimp only
    rw [if_neg (not_not.mpr hstatus), hrun]
    dsimp only
    rw [if_neg hnew]
    refine ⟨_, _, rfl, ?_⟩
    rw [size_writeAudit, stageTrades_size]
    exact Nat.lt_succ_self _

-- ================================================================= reconcile

/-- There is no such run, or its file is clean. -/
def ReconcileIdle (store : Store) (p : ReconcilePayload) : Prop :=
  ∀ ingestRun, store.ingestRuns.find? (·.runId = p.ingestRunId)
      = some ingestRun →
    CleanFile store p.ingestRunId
      (accountsForCustodian store ingestRun.custodianId)

/-- Reconciling writes unless the run is unknown. -/
theorem ledgerReconcile_writes (hsession : ctx.hasSession = true)
    (p : ReconcilePayload) :
    WritesUnless (ReconcileIdle site.store p) (ledgerReconcile out ctx p)
      site := by
  apply writesUnless_attempt hsession
  · intro hidle breaks store' hservice
    cases hrun : site.store.ingestRuns.find? (·.runId = p.ingestRunId) with
    | none =>
      unfold reconcileIngest at hservice
      rw [hrun] at hservice
      cases hservice
    | some ingestRun =>
      rw [reconcileIngest_eq hrun,
        (reconciled_eq_self_iff ingestRun).mpr (hidle ingestRun hrun)]
        at hservice
      cases hservice
      rfl
  · intro hbusy
    unfold ReconcileIdle at hbusy
    push Not at hbusy
    obtain ⟨ingestRun, hrun, hopen⟩ := hbusy
    refine ⟨_, _, reconcileIngest_eq hrun, ?_⟩
    rcases reconciled_opens out.report.env site.store p.ingestRunId
      ctx.actorId (some p.householdId) ingestRun with h | h
    · exact absurd ((reconciled_eq_self_iff ingestRun).mp h) hopen
    · exact h.2

-- ==================================================================== ingest

/-- The tables are no smaller. -/
def Grows (s s' : Store) : Prop := s.size ≤ s'.size

theorem Grows.refl (s : Store) : Grows s s := Nat.le_refl _

theorem Grows.trans (s t u : Store) (h : Grows s t) (h' : Grows t u) :
    Grows s u := Nat.le_trans h h'

variable {env : Env} {host : Host}

/-- Reading the clock removes no row, as does no other primitive of a session. -/
theorem grows_clock : Work.Keeps Grows (Session.clock env) :=
  Work.Keeps.call fun s => Grows.refl s

theorem grows_flush : Work.Keeps Grows (Session.flush host) := by
  refine Work.Keeps.call fun s => ?_
  cases host.flush s with
  | none => exact Grows.refl s
  | some err => exact Grows.refl s

theorem grows_writeAudit (actorId action resourceType resourceId : String)
    (householdId : Option String) (details : List (String × String)) :
    Work.Keeps Grows (Session.writeAudit env actorId action resourceType
      resourceId householdId details) := by
  refine Work.Keeps.modify fun s => ?_
  unfold Grows
  rw [size_writeAudit]
  omega

/-- A run's row is updated where it stands. -/
theorem grows_updateIngestRun (runId : String)
    (f : IngestRunRow → IngestRunRow) :
    Work.Keeps Grows (updateIngestRun runId f) := by
  refine Work.Keeps.modify fun s => ?_
  unfold Grows Store.size
  simp only [List.length_map]
  exact Nat.le_refl _

theorem grows_addPosition (runId : String) (record : CustodianPositionRecord) :
    Work.Keeps Grows (addPosition runId record) := by
  refine Work.Keeps.bind Grows.trans ?_ fun securityId =>
    Work.Keeps.modify fun s => Grows.refl s
  refine Work.Keeps.bind Grows.trans (Work.Keeps.get Grows.refl) fun s => ?_
  cases s.securities.find? (·.ticker = some record.ticker) with
  | none => exact Work.Keeps.throw Grows.refl _
  | some row => exact Work.Keeps.pure Grows.refl _

/-- The records of a file only add rows. -/
theorem grows_ingestRecords (path : Path) (custodianId actorId : String)
    (householdId : Option String) (runId : String) :
    Work.Keeps Grows (ingestRecords env host path custodianId actorId
      householdId runId) := by
  refine Work.Keeps.bind Grows.trans (Work.Keeps.lift Grows.refl _)
    fun parser => ?_
  refine Work.Keeps.bind Grows.trans (Work.Keeps.lift Grows.refl _)
    fun records => ?_
  refine Work.Keeps.bind Grows.trans (Work.Keeps.forM Grows.refl Grows.trans
    (grows_addPosition runId) records) fun _ => ?_
  refine Work.Keeps.bind Grows.trans grows_clock fun finished => ?_
  refine Work.Keeps.bind Grows.trans (grows_updateIngestRun ..) fun _ => ?_
  exact Work.Keeps.bind Grows.trans (grows_writeAudit ..) fun _ =>
    Work.Keeps.pure Grows.refl _

/-- The failure handler only adds rows. -/
theorem grows_ingestFailed {α : Type} (path : Path) (actorId : String)
    (householdId : Option String) (runId : String) (err : Exc) :
    Work.Keeps Grows (ingestFailed env path actorId householdId runId err
      : Session α) := by
  refine Work.Keeps.bind Grows.trans grows_clock fun finished => ?_
  refine Work.Keeps.bind Grows.trans (grows_updateIngestRun ..) fun _ => ?_
  exact Work.Keeps.bind Grows.trans (grows_writeAudit ..) fun _ =>
    Work.Keeps.throw Grows.refl _

/-- An ingest adds its run's row before anything can fail. -/
theorem runCustodianIngest_size (path : Path) (custodianId actorId : String)
    (householdId : Option String) (store : Store) :
    store.size < ((runCustodianIngest env host path custodianId actorId
      householdId).exec store).2.size := by
  unfold runCustodianIngest
  rw [Work.exec_bind_ok (Session.exec_freshId ..),
    Work.exec_bind_ok (Session.exec_clock ..)]
  refine Work.holds_bind (R := Grows) (P := fun s => store.size < s.size)
    (fun _ _ h h' => Nat.lt_of_lt_of_le h h') ?_ fun _ => ?_
  · rw [Work.exec_modify]
    unfold Store.size
    simp only [Store.drawn, Store.ticked, List.length_append,
      List.length_singleton]
    omega
  · refine Work.Keeps.bind Grows.trans grows_flush fun _ => ?_
    exact Work.Keeps.bind Grows.trans (Work.Keeps.tryCatch Grows.trans
      (grows_ingestRecords ..) fun err => grows_ingestFailed ..)
      fun _ => Work.Keeps.pure Grows.refl _

/-- An ingest always writes, raising or not. -/
theorem ingestRun_writes (hsession : ctx.hasSession = true)
    (p : IngestRunPayload) :
    WritesUnless False (ingestRun out ctx p) site := by
  refine ⟨False.elim, fun _ => ?_⟩
  unfold ingestRun
  rw [exec_reply, exec_inSession hsession]
  exact runCustodianIngest_size ..

-- ==================================================================== report

/-- The tables of the site are no smaller. -/
def SiteGrows (s s' : Site A R) : Prop := Grows s.store s'.store

theorem SiteGrows.refl (s : Site A R) : SiteGrows s s := Nat.le_refl _

theorem SiteGrows.trans (s t u : Site A R) (h : SiteGrows s t)
    (h' : SiteGrows t u) : SiteGrows s u := Nat.le_trans h h'

variable {cfg : ReportSetting A R}

theorem siteGrows_writeReportBundle (bundle : ReportBundle A R)
    (outputDir : FilePath) :
    Work.Keeps SiteGrows (writeReportBundle cfg bundle outputDir) := by
  constructor
  intro s
  obtain ⟨outcome, disk, hexec, -⟩ :=
    writeReportBundle_exec cfg bundle outputDir s
  rw [hexec]
  exact Grows.refl s.store

/-- Rendering writes files only. -/
theorem siteGrows_attachExternalPdf (bundle : ReportBundle A R)
    (written : WrittenHouseholdReport) (householdId : String) (asOf : Date) :
    Work.Keeps SiteGrows (attachExternalPdf cfg bundle written householdId
      asOf) := by
  refine Work.Keeps.bind SiteGrows.trans (Work.Keeps.get SiteGrows.refl)
    fun s => ?_
  dsimp only
  split
  · exact Work.Keeps.pure SiteGrows.refl _
  · split
    · exact Work.Keeps.pure SiteGrows.refl _
    · refine Work.Keeps.bind SiteGrows.trans (Work.Keeps.tryCatch
        SiteGrows.trans ?_ fun err => ?_) fun digest =>
          Work.Keeps.bind SiteGrows.trans (Work.Keeps.get SiteGrows.refl)
            fun s' => ?_
      · refine (keeps_renderExternalPdf ..).mono fun s s' h => ?_
        unfold SiteGrows
        rw [h.store]
        exact Grows.refl s.store
      · cases err <;> exact Work.Keeps.throw SiteGrows.refl _
      · cases s'.disk.get? (written.outputDir ++ ["external.pdf"]) with
        | none => exact Work.Keeps.throw SiteGrows.refl _
        | some file =>
          dsimp only
          split
          · exact Work.Keeps.throw SiteGrows.refl _
          · exact Work.Keeps.pure SiteGrows.refl _

/-- A pack persists its two tax runs. -/
theorem taxRuns_size (cfg : ReportSetting A R) (householdId : String)
    (asOf : Date) (positions : List LotPositionView) (store : Store) :
    (taxRuns cfg householdId asOf positions store).size = store.size + 2 := by
  unfold taxRuns defaultTaxScenarios taxRun Store.size
  simp only [List.foldl_cons, List.foldl_nil, Store.drawn, Store.ticked,
    List.length_append, List.length_singleton]
  omega

/-- An id and a clock reading fill no table. -/
theorem size_drawn_ticked (store : Store) :
    store.drawn.ticked.size = store.size := rfl

/-- Its preconditions are not met. -/
def BuildIdle (out : Outside A R) (store : Store) (p : ReportBuildPayload) :
    Prop :=
  ∃ err, reportPreconditions out.report.order out.report.planes
    out.report.settings store p.householdId
    (resolveReportAsOf store out.today p.asOfDate) = .error err

/-- A collected bundle leaves its tax runs behind. -/
theorem collectReportBundle_size {householdId : String} {asOf : Date}
    {facts : List LotPositionView × HouseholdPerformanceReport × IpsDriftReport}
    (period : ReportPeriod)
    (hpre : reportPreconditions cfg.order cfg.planes cfg.settings site.store
      householdId asOf = .ok facts) :
    site.store.size < ((collectReportBundle cfg householdId period asOf).exec
      site).2.store.size := by
  obtain ⟨positions, performance, ipsDrift⟩ := facts
  obtain ⟨outcome, hexec, -⟩ := collectReportBundle_exec period hpre
  have hruns := taxRuns_size cfg householdId asOf positions site.store
  rw [hexec]
  dsimp only
  rw [size_drawn_ticked]
  omega

/-- Building a pack writes unless it is refused before the tax runs. -/
theorem reportBuild_writes (hsession : ctx.hasSession = true)
    (p : ReportBuildPayload) :
    WritesUnless (BuildIdle out site.store p) (reportBuild out ctx p) site := by
  have hbuild : ((reportBuild out ctx p).exec site).2
      = ((buildAndWriteHouseholdReports out.report out.today p.householdId
        p.periodLabel p.asOfDate ctx.actorId).exec site).2 := by
    unfold reportBuild
    rw [Work.exec_bind_ok (exec_requireSession hsession), exec_reply]
  constructor
  · rintro ⟨err, hpre⟩
    rw [hbuild]
    unfold buildAndWriteHouseholdReports
    rw [Work.exec_get_bind]
    dsimp only
    rw [Work.exec_bind_error (collectReportBundle_refused _ hpre)]
  · intro hready
    rw [hbuild]
    unfold buildAndWriteHouseholdReports
    rw [Work.exec_get_bind]
    dsimp only
    refine Work.holds_bind (R := SiteGrows)
      (P := fun s => site.store.size < s.store.size)
      (fun _ _ h h' => Nat.lt_of_lt_of_le h h') ?_ fun bundle => ?_
    · cases hpre : reportPreconditions out.report.order out.report.planes
          out.report.settings site.store p.householdId
          (resolveReportAsOf site.store out.today p.asOfDate) with
      | error err => exact absurd ⟨err, hpre⟩ hready
      | ok facts => exact collectReportBundle_size _ hpre
    · refine Work.Keeps.bind SiteGrows.trans (siteGrows_writeReportBundle ..)
        fun written => ?_
      refine Work.Keeps.bind SiteGrows.trans (siteGrows_attachExternalPdf ..)
        fun result => ?_
      refine Work.Keeps.bind SiteGrows.trans (Work.Keeps.call fun s => ?_)
        fun _ => Work.Keeps.pure SiteGrows.refl _
      exact (grows_writeAudit ..).left s.store

-- =============================================================== any command

/-- The states in which a command has nothing to do. -/
def CommandIdle (out : Outside A R) (store : Store) :
    (type : PayloadType) → type.Body → Prop
  | .reconcile, p => ReconcileIdle store p
  | .approvalDecide, p => DecideIdle store p
  | .ordersStage, p => StageIdle out.report.order.toRowOrder store p
  | .reportBuild, p => BuildIdle out store p
  | _, _ => False

/-- Every COMMAND handler, under a session. -/
theorem command_writes {entry : Registration A R}
    (hentry : entry ∈ registrations out) (hkind : entry.kind = .command)
    (hsession : ctx.hasSession = true) (body : entry.payloadType.Body) :
    WritesUnless (CommandIdle out site.store entry.payloadType body)
      (entry.handler ctx body) site := by
  unfold registrations at hentry
  simp only [List.mem_cons, List.not_mem_nil, or_false] at hentry
  rcases hentry with rfl | rfl | rfl | rfl | rfl | rfl | rfl | rfl | rfl | rfl
    | rfl | rfl | rfl | rfl | rfl | rfl | rfl | rfl
  iterate 11 cases hkind
  · exact ingestRun_writes hsession body
  · exact ledgerReconcile_writes hsession body
  · exact optimizerPersist_writes hsession body
  · exact approvalCreate_writes hsession body
  · exact approvalDecide_writes hsession body
  · exact ordersStage_writes hsession body
  · exact reportBuild_writes hsession body

/-- A command takes its session first. -/
theorem command_sessionless {entry : Registration A R}
    (hentry : entry ∈ registrations out) (hkind : entry.kind = .command)
    (hsession : ctx.hasSession = false) (body : entry.payloadType.Body) :
    ((entry.handler ctx body).exec site).2 = site := by
  have hservice : ∀ {α : Type} (service : Session α) (reply : α → Reply),
      ((do return reply (← inSession ctx service) : SiteWork A R Reply).exec
        site).2 = site := fun service reply => by
    rw [exec_reply]
    exact exec_requireSession_none hsession _
  unfold registrations at hentry
  simp only [List.mem_cons, List.not_mem_nil, or_false] at hentry
  rcases hentry with rfl | rfl | rfl | rfl | rfl | rfl | rfl | rfl | rfl | rfl
    | rfl | rfl | rfl | rfl | rfl | rfl | rfl | rfl
  iterate 11 cases hkind
  iterate 6 exact hservice _ _
  exact exec_requireSession_none hsession _

-- ================================================================== dispatch

/-- Its handler, if it has one, is not a COMMAND's, has no session or
nothing to do. -/
def Idle (out : Outside A R) (ctx : DispatchContext) (store : Store)
    (msg : Message) : Prop :=
  ∀ entry body, Routes out msg entry body → entry.kind = .command →
    ctx.hasSession = true → CommandIdle out store entry.payloadType body

/-- An idle message leaves the site as it was. -/
theorem dispatchMessage_still {msg : Message}
    (hidle : Idle out ctx site.store msg) :
    ((dispatchMessage out ctx msg).exec site).2 = site := by
  rcases routes_or_refused out msg with ⟨entry, body, hroutes⟩ | hrefused
  · rw [hroutes.dispatch]
    by_cases hkind : entry.kind = .command
    · cases hsession : ctx.hasSession with
      | true =>
        exact (command_writes hroutes.mem hkind rfl body).still
          (hidle entry body hroutes hkind hsession)
      | false =>
        exact command_sessionless hroutes.mem hkind rfl body
    · exact ((readOnly_of_kind hroutes.mem hkind _ body).left site).symm
  · exact hrefused ctx site

/-- Every other message leaves more rows than it found. -/
theorem dispatchMessage_writes {msg : Message}
    (hbusy : ¬Idle out ctx site.store msg) :
    site.store.size < ((dispatchMessage out ctx msg).exec site).2.store.size := by
  unfold Idle at hbusy
  push Not at hbusy
  obtain ⟨entry, body, hroutes, hkind, hsession, hwork⟩ := hbusy
  rw [hroutes.dispatch]
  exact (command_writes hroutes.mem hkind (by rw [hsession]) body).writes hwork

/-- The message's kind is the one its op is registered with. -/
def Declared (out : Outside A R) (msg : Message) : Prop :=
  ∀ entry, registered out msg.op = some entry → msg.kind = entry.kind

/-- A message sent as its op is registered mutates as a COMMAND only. -/
theorem dispatchMessage_declared {msg : Message}
    (hdeclared : Declared out msg) (hkind : msg.kind ≠ .command) :
    ((dispatchMessage out ctx msg).exec site).2 = site := by
  refine dispatchMessage_still fun entry _ hroutes hcommand => ?_
  exact absurd ((hdeclared entry hroutes.1).trans hcommand) hkind

/-- The site a dispatch leaves, of a message in its context. -/
def siteAfterDispatch (out : Outside A R) (site : Site A R)
    (sent : DispatchContext × Message) : Site A R :=
  ((dispatchMessage out sent.1 sent.2).exec site).2

/-- A run of messages so sent ends where its COMMANDs alone would end. -/
theorem run_eq_run_commands (sent : List (DispatchContext × Message))
    (hdeclared : ∀ m ∈ sent, Declared out m.2) :
    ∀ site : Site A R, Runs.run (siteAfterDispatch out) site sent
      = Runs.run (siteAfterDispatch out) site
        (sent.filter (·.2.kind = .command)) := by
  induction sent with
  | nil => exact fun _ => rfl
  | cons m rest ih =>
    intro site
    rw [List.forall_mem_cons] at hdeclared
    rw [Runs.run_cons, ih hdeclared.2]
    by_cases hkind : m.2.kind = .command
    · rw [List.filter_cons_of_pos (by simpa using hkind), Runs.run_cons]
    · have hstill : siteAfterDispatch out site m = site :=
        dispatchMessage_declared hdeclared.1 hkind
      rw [List.filter_cons_of_neg (by simpa using hkind), hstill]

/-- The tables and the files are those found. -/
def Unchanged (found left : Site A R) : Prop :=
  left.store.tables = found.store.tables ∧ left.disk = found.disk

/-- The mutation boundary: a message that is not a COMMAND mutates
nothing. -/
def RespectsKind (out : Outside A R) (ctx : DispatchContext) (site : Site A R)
    (msg : Message) : Prop :=
  msg.kind ≠ .command →
    Unchanged site ((dispatchMessage out ctx msg).exec site).2

/-- The boundary is kept by the op, whatever kind the message declares. -/
theorem dispatchMessage_respectsKind_iff (out : Outside A R)
    (ctx : DispatchContext) (site : Site A R) (msg : Message) :
    RespectsKind out ctx site msg
      ↔ (msg.kind ≠ .command → Idle out ctx site.store msg) := by
  constructor
  · intro hrespects hkind
    by_contra hbusy
    have hsize := congrArg Store.size (hrespects hkind).1
    have hwrites := dispatchMessage_writes hbusy
    rw [size_tables, size_tables] at hsize
    omega
  · intro hidle hkind
    rw [dispatchMessage_still (hidle hkind)]
    exact ⟨rfl, rfl⟩

/-- An outside with no FIIJ export. -/
def plainOutside : Outside Unit Unit where
  report := plainReports
  host := unknownTickerHost
  fiij :=
    { read := fun _ => .missing
      defaultExportPath := "exports"
      dateFromIsoformat := fun _ => .ok 739400
      datetimeFromIsoformat := fun _ => .ok 0
      midnight := fun _ => 0
      general := fun _ => "0"
      str := fun _ => "" }
  risk := rootsRuntime
  sqrt := id
  today := 739400

/-- `approval.create`, sent as a QUERY. -/
def askedAsQuery : Message where
  op := "approval.create"
  kind := .query
  payload := .body .approvalCreate
    { householdId := "hh_1"
      reportSnapshotId := some "rpt_1"
      oneSubject := Bool.noConfusion }
  correlationId := "trace"

/-- A command sent under the kind `QUERY` writes. -/
theorem askedAsQuery_writes :
    ¬RespectsKind plainOutside { hasSession := true }
      { store := Store.empty, disk := Dict.empty } askedAsQuery := by
  intro hrespects
  have hrows := congrArg (·.approvalRequests.length) (hrespects nofun).1
  exact absurd hrows (by decide)

end Catalog

end Warehouse
