/-
The failure audit and the session scope.

The handlers of `run_custodian_ingest` and `run_daily_refresh` mark the
run and audit the failure in the session of the failing work, and
re-raise (`ingest_failure_written`, `refresh_failure_written`). The scope
then rolls that session back, so neither row is ever committed
(`failure_audit_lost`).

# Inside and outside

Inside the session what the documentation promises holds: from any store,
with any failure, the run's status and the audit row are there when the
exception leaves the command (`ingest_failure_written`,
`refresh_failure_written`), under subscribers that take no run away. What is
committed is the store the scope started from. So the loss is not a matter
of one failing input: no failure of either command leaves a trace in the
database.
-/
import Warehouse.Proofs.Reconciliation
import Warehouse.Workflows.DailyRefresh

namespace Warehouse

open Lib

variable {env : Env} {host : Host} {store : Store}

-- ============================================================== the records

/-- An audit row the log has grown by. -/
def NewAudit (before after : Store) (entry : AuditLogRow) : Prop :=
  ∃ rows, after.auditLog = before.auditLog ++ rows ∧ entry ∈ rows

/-- The failure's audit row, and its run marked. -/
def IngestFailureRecorded (before after : Store) : Prop :=
  ∃ entry, NewAudit before after entry ∧ entry.action = "ingest_failed"
    ∧ ∃ run ∈ after.ingestRuns,
        run.runId = entry.resourceId ∧ run.status = .error

/-- The failed refresh left one new audit row, and its run is stored with the
status `error`. -/
def RefreshFailureRecorded (before after : Store) : Prop :=
  ∃ entry, NewAudit before after entry
    ∧ entry.action = "daily_refresh_failed"
    ∧ ∃ run ∈ after.dailyRefreshRuns,
        run.runId = entry.resourceId ∧ run.status = .error

/-- A row is as new to a log the log had grown from. -/
theorem NewAudit.of_prefix {found before after : Store}
    {entry : AuditLogRow} (h : found.auditLog <+: before.auditLog)
    (hnew : NewAudit before after entry) : NewAudit found after entry := by
  obtain ⟨old, hold⟩ := h
  obtain ⟨rows, hrows, hentry⟩ := hnew
  refine ⟨old ++ rows, ?_, List.mem_append_right old hentry⟩
  rw [hrows, ← hold, List.append_assoc]

/-- A log that has not grown has no new row. -/
theorem not_newAudit {before after : Store}
    (h : after.auditLog = before.auditLog) (entry : AuditLogRow) :
    ¬ NewAudit before after entry := by
  rintro ⟨rows, hrows, hentry⟩
  rw [h, List.self_eq_append_right] at hrows
  rw [hrows] at hentry
  cases hentry

-- ========================================================= inside the scope

/-- The log only grows, and no run's row goes away. -/
structure RunsStay (s s' : Store) : Prop where
  audit : s.auditLog <+: s'.auditLog
  ingests : s.ingestRuns.map (·.runId) ⊆ s'.ingestRuns.map (·.runId)
  refreshes : s.dailyRefreshRuns.map (·.runId)
    ⊆ s'.dailyRefreshRuns.map (·.runId)

theorem RunsStay.refl (s : Store) : RunsStay s s :=
  ⟨List.prefix_refl _, List.Subset.refl _, List.Subset.refl _⟩

theorem RunsStay.trans (s t u : Store) (h : RunsStay s t)
    (h' : RunsStay t u) : RunsStay s u :=
  ⟨h.audit.trans h'.audit, List.Subset.trans h.ingests h'.ingests,
    List.Subset.trans h.refreshes h'.refreshes⟩

/-- Tables the relation does not read. -/
theorem RunsStay.of_eq {s s' : Store} (haudit : s'.auditLog = s.auditLog)
    (hingests : s'.ingestRuns = s.ingestRuns)
    (hrefreshes : s'.dailyRefreshRuns = s.dailyRefreshRuns) :
    RunsStay s s' := by
  refine ⟨?_, ?_, ?_⟩
  · rewrite [haudit]
    exact List.prefix_refl _
  · rewrite [hingests]
    exact List.Subset.refl _
  · rewrite [hrefreshes]
    exact List.Subset.refl _

theorem runsStay_writeAudit (s : Store)
    (actorId action resourceType resourceId : String)
    (householdId : Option String) (details : List (String × String)) :
    RunsStay s (writeAudit env s actorId action resourceType resourceId
      householdId details) :=
  ⟨List.prefix_append _ _, List.Subset.refl _, List.Subset.refl _⟩

/-- Reading the clock keeps the runs and the log, as does every other primitive
of a session. -/
theorem keeps_clock : Work.Keeps RunsStay (Session.clock env) :=
  Work.Keeps.call fun _ => RunsStay.of_eq rfl rfl rfl

theorem keeps_freshId (label : String) :
    Work.Keeps RunsStay (Session.freshId env label) :=
  Work.Keeps.call fun _ => RunsStay.of_eq rfl rfl rfl

theorem keeps_flush : Work.Keeps RunsStay (Session.flush host) := by
  refine Work.Keeps.call fun s => ?_
  cases host.flush s <;> exact RunsStay.refl s

theorem keeps_writeAudit (actorId action resourceType resourceId : String)
    (householdId : Option String) (details : List (String × String)) :
    Work.Keeps RunsStay (Session.writeAudit env actorId action resourceType
      resourceId householdId details) :=
  Work.Keeps.modify fun s => runsStay_writeAudit s ..

/-- Updating a run's attributes leaves its row there. -/
theorem keeps_updateIngestRun (runId : String)
    {f : IngestRunRow → IngestRunRow} (hf : ∀ run, (f run).runId = run.runId) :
    Work.Keeps RunsStay (updateIngestRun runId f) := by
  refine Work.Keeps.modify fun s =>
    ⟨List.prefix_refl _, ?_, List.Subset.refl _⟩
  rw [Keyed.map_key_update s.ingestRuns f fun run _ => hf run]
  exact List.Subset.refl _

theorem keeps_addPosition (runId : String) (record : CustodianPositionRecord) :
    Work.Keeps RunsStay (addPosition runId record) := by
  refine Work.Keeps.bind RunsStay.trans ?_ fun securityId =>
    Work.Keeps.modify fun s => RunsStay.of_eq rfl rfl rfl
  refine Work.Keeps.bind RunsStay.trans (Work.Keeps.get RunsStay.refl)
    fun s => ?_
  cases s.securities.find? (·.ticker = some record.ticker) with
  | none => exact Work.Keeps.throw RunsStay.refl _
  | some row => exact Work.Keeps.pure RunsStay.refl _

/-- The records of a file add positions, never a run. -/
theorem keeps_ingestRecords (path : Path) (custodianId actorId : String)
    (householdId : Option String) (runId : String) :
    Work.Keeps RunsStay (ingestRecords env host path custodianId actorId
      householdId runId) := by
  refine Work.Keeps.bind RunsStay.trans (Work.Keeps.lift RunsStay.refl _)
    fun parser => ?_
  refine Work.Keeps.bind RunsStay.trans (Work.Keeps.lift RunsStay.refl _)
    fun records => ?_
  refine Work.Keeps.bind RunsStay.trans (Work.Keeps.forM RunsStay.refl
    RunsStay.trans (keeps_addPosition runId) records) fun _ => ?_
  refine Work.Keeps.bind RunsStay.trans keeps_clock fun finished => ?_
  refine Work.Keeps.bind RunsStay.trans
    (keeps_updateIngestRun runId fun _ => rfl) fun _ => ?_
  exact Work.Keeps.bind RunsStay.trans (keeps_writeAudit _ _ _ _ _ _) fun _ =>
    Work.Keeps.pure RunsStay.refl _

/-- The handler leaves the run marked and the failure audited. -/
theorem ingestFailed_written (path : Path) (actorId : String)
    (householdId : Option String) {runId : String} {α : Type} (err : Exc)
    {s : Store} (hrun : runId ∈ s.ingestRuns.map (·.runId)) :
    IngestFailureRecorded s ((ingestFailed env path actorId householdId runId
      err : Session α).exec s).2 := by
  obtain ⟨run, hmem, hid⟩ := List.mem_map.mp hrun
  refine ⟨_, ⟨_, rfl, List.mem_singleton_self _⟩, rfl, ?_⟩
  refine ⟨_, List.mem_map_of_mem hmem, ?_, ?_⟩
  · simp only [hid, if_true]
  · simp only [hid, if_true]

/-- The session once the run's row is added. -/
def openedIngest (env : Env) (store : Store) (path : Path)
    (custodianId : String) : Store :=
  { store.drawn.ticked with
    ingestRuns := store.ingestRuns ++
      [{ runId := env.freshId "ingest" store
         custodianId := custodianId
         fileName := path.name
         status := .running
         startedAt := env.clock store }] }

/-- An opened ingest has stored its run. -/
theorem mem_openedIngest (path : Path) (custodianId : String) :
    env.freshId "ingest" store
      ∈ (openedIngest env store path custodianId).ingestRuns.map (·.runId) := by
  unfold openedIngest
  rw [List.map_append]
  exact List.mem_append_right _ (List.mem_singleton_self _)

/-- An ingest whose run row is flushed and that raises has audited the
failure and marked the run, in its session. -/
theorem ingest_failure_written {path : Path} {custodianId actorId : String}
    {householdId : Option String} {err : Exc}
    (hflush : host.flush (openedIngest env store path custodianId) = none)
    (hraised : ((runCustodianIngest env host path custodianId actorId
      householdId).exec store).1 = .error err) :
    IngestFailureRecorded store ((runCustodianIngest env host path custodianId
      actorId householdId).exec store).2 := by
  let opened := openedIngest env store path custodianId
  let runId := env.freshId "ingest" store
  have hexec : (runCustodianIngest env host path custodianId actorId
      householdId).exec store
    = (Session.flush host >>= fun _ =>
        tryCatch (ingestRecords env host path custodianId actorId householdId
            runId) (ingestFailed env path actorId householdId runId) >>=
          fun outcome => pure
            { runId := runId
              custodianId := custodianId
              fileName := path.name
              status := .success
              startedAt := env.clock store
              finishedAt := some outcome.2
              rowsProcessed := outcome.1 } : Session _).exec opened := rfl
  have hflushed : (Session.flush host).exec opened = (.ok (), opened) := by
    unfold Session.flush
    rw [Work.exec_call, hflush]
  rw [hexec, Work.exec_bind_ok hflushed, Work.exec_bind,
    Work.exec_tryCatch] at hraised ⊢
  have hkeeps : Work.Keeps RunsStay (ingestRecords env host path custodianId
    actorId householdId runId) := keeps_ingestRecords ..
  have hstay := hkeeps.left opened
  cases hbody : (ingestRecords env host path custodianId actorId householdId
      runId).exec opened with
  | mk outcome left =>
    rw [hbody] at hraised hstay
    cases outcome with
    | ok result => cases hraised
    | error e =>
      have hrun : runId ∈ left.ingestRuns.map (·.runId) :=
        hstay.ingests (mem_openedIngest path custodianId)
      have hwritten : IngestFailureRecorded left ((ingestFailed env path
          actorId householdId runId e : Session (Nat × DateTime)).exec left).2 :=
        ingestFailed_written path actorId householdId e hrun
      obtain ⟨entry, hnew, hrest⟩ := hwritten
      exact ⟨entry, hnew.of_prefix hstay.audit, hrest⟩

-- ===================================================== inside the refresh

section Reconcile

variable {ingestRunId actorId : String} {householdId : Option String}

theorem keptByOpening_runsStay :
    KeptByOpening env ingestRunId actorId householdId (fun _ => True)
      fun st st' => RunsStay st.store st'.store where
  refl _ := RunsStay.refl _
  trans _ _ _ h h' := h.trans _ _ _ h'
  opened _ _ _ _ _ _ :=
    ⟨List.prefix_append _ _, List.Subset.refl _, List.Subset.refl _⟩

/-- The passes write to the session by opening breaks only. -/
theorem runsStay_reconcileIngest {s : Store}
    {result : List ReconciliationBreakRow × Store}
    (h : reconcileIngest env s ingestRunId actorId householdId = .ok result) :
    RunsStay s result.2 := by
  cases hfind : s.ingestRuns.find? (·.runId = ingestRunId) with
  | none =>
    unfold reconcileIngest at h
    rw [hfind] at h
    cases h
  | some ingestRun =>
    rw [reconcileIngest_eq hfind] at h
    cases h
    exact keptByOpening_runsStay.reconciled trivial (fun _ => trivial) s
      ingestRun

end Reconcile

/-- The subscribers leave the runs' rows alone. -/
def SubscribersKeepRuns (env : Env) : Prop :=
  ∀ op, ∀ subscriber ∈ env.subscribers op, ∀ s event,
    RunsStay s (subscriber.react s event)

/-- An event keeps the runs where its subscribers do. -/
theorem keeps_emit (hsubs : SubscribersKeepRuns env)
    (runId householdId op : String) (payload : EventPayload) :
    Work.Keeps RunsStay (emit env runId householdId op payload) := by
  refine Work.Keeps.modify fun s => ?_
  unfold emitEvent
  have hrecord : RunsStay s { s with events := s.events ++
    [{ op := op, payload := payload, correlationId := runId,
       householdId := some householdId }] } := RunsStay.of_eq rfl rfl rfl
  refine hrecord.trans _ _ _ ?_
  have hfold : ∀ subscribers : List Subscriber, ∀ event,
      (∀ subscriber ∈ subscribers, ∀ s, RunsStay s (subscriber.react s event)) →
      ∀ s, RunsStay s (subscribers.foldl (fun s subscriber =>
        subscriber.react s event) s) := by
    intro subscribers event
    induction subscribers with
    | nil => exact fun _ s => RunsStay.refl s
    | cons subscriber rest ih =>
      intro hkeep s
      exact (hkeep subscriber (List.mem_cons_self ..) s).trans _ _ _
        (ih (fun sub hsub => hkeep sub (List.mem_cons_of_mem _ hsub)) _)
  exact hfold _ _ (fun subscriber hsub s => hsubs op subscriber hsub s _) _

/-- The failure handler marks the run, and keeps it. -/
theorem keeps_ingestFailed (path : Path) (actorId : String)
    (householdId : Option String) (runId : String) {α : Type} (err : Exc) :
    Work.Keeps RunsStay (ingestFailed env path actorId householdId runId err
      : Session α) := by
  refine Work.Keeps.bind RunsStay.trans keeps_clock fun finished => ?_
  refine Work.Keeps.bind RunsStay.trans
    (keeps_updateIngestRun runId fun _ => rfl) fun _ => ?_
  exact Work.Keeps.bind RunsStay.trans (keeps_writeAudit _ _ _ _ _ _)
    fun _ => Work.Keeps.throw RunsStay.refl _

/-- A whole ingest, raising or not, loses no run and no audit row. -/
theorem keeps_runCustodianIngest (path : Path) (custodianId actorId : String)
    (householdId : Option String) :
    Work.Keeps RunsStay (runCustodianIngest env host path custodianId actorId
      householdId) := by
  refine Work.Keeps.bind RunsStay.trans (keeps_freshId "ingest")
    fun runId => ?_
  refine Work.Keeps.bind RunsStay.trans keeps_clock fun started => ?_
  refine Work.Keeps.bind RunsStay.trans (Work.Keeps.modify fun s =>
    ⟨List.prefix_refl _, ?_, List.Subset.refl _⟩) fun _ => ?_
  · rw [List.map_append]
    exact List.subset_append_left _ _
  refine Work.Keeps.bind RunsStay.trans keeps_flush fun _ => ?_
  refine Work.Keeps.bind RunsStay.trans (Work.Keeps.tryCatch RunsStay.trans
    (keeps_ingestRecords path custodianId actorId householdId runId)
    fun err => keeps_ingestFailed path actorId householdId runId err)
    fun _ => Work.Keeps.pure RunsStay.refl _

theorem keeps_startStep (runId stepName : String) :
    Work.Keeps RunsStay (startStep env host runId stepName) := by
  refine Work.Keeps.bind RunsStay.trans keeps_clock fun started => ?_
  refine Work.Keeps.bind RunsStay.trans
    (Work.Keeps.modify fun s => RunsStay.of_eq rfl rfl rfl) fun _ => ?_
  exact Work.Keeps.bind RunsStay.trans keeps_flush fun _ =>
    Work.Keeps.pure RunsStay.refl _

theorem keeps_finishStep (step : DailyRefreshStepRow) (detail : String) :
    Work.Keeps RunsStay (finishStep env step detail) := by
  refine Work.Keeps.bind RunsStay.trans keeps_clock fun finished => ?_
  exact Work.Keeps.bind RunsStay.trans
    (Work.Keeps.modify fun s => RunsStay.of_eq rfl rfl rfl) fun _ =>
    Work.Keeps.pure RunsStay.refl _

theorem keeps_refreshNoop (runId stepName detail : String) :
    Work.Keeps RunsStay (refreshNoop env host runId stepName detail) :=
  Work.Keeps.bind RunsStay.trans (keeps_startStep runId stepName)
    fun step => keeps_finishStep step detail

/-- Updating a run's status keeps its id. -/
theorem keeps_updateRefreshRun (runId : String) (status : RefreshStatus)
    (finished : DateTime) :
    Work.Keeps RunsStay (updateRefreshRun runId status finished) := by
  refine Work.Keeps.modify fun s =>
    ⟨List.prefix_refl _, List.Subset.refl _, ?_⟩
  rw [Keyed.map_key_update s.dailyRefreshRuns
    (fun run => { run with status := status, finishedAt := some finished })
    fun _ _ => rfl]
  exact List.Subset.refl _

theorem keeps_refreshIngest (hsubs : SubscribersKeepRuns env) (path : Path)
    (householdId custodianId actorId runId : String) :
    Work.Keeps RunsStay (refreshIngest env host path householdId custodianId
      actorId runId) := by
  refine Work.Keeps.bind RunsStay.trans (keeps_startStep runId _)
    fun step => ?_
  refine Work.Keeps.bind RunsStay.trans (keeps_runCustodianIngest ..)
    fun ingest => ?_
  refine Work.Keeps.bind RunsStay.trans (keeps_emit hsubs ..) fun _ => ?_
  exact Work.Keeps.bind RunsStay.trans (keeps_finishStep step _)
    fun view => Work.Keeps.pure RunsStay.refl _

theorem keeps_refreshReconcile (hsubs : SubscribersKeepRuns env)
    (householdId actorId runId ingestRunId : String) :
    Work.Keeps RunsStay (refreshReconcile env host householdId actorId runId
      ingestRunId) := by
  refine Work.Keeps.bind RunsStay.trans (keeps_startStep runId _)
    fun step => ?_
  refine Work.Keeps.bind RunsStay.trans (Work.Keeps.attempt RunsStay.refl
    fun s breaks s' h => runsStay_reconcileIngest h) fun breaks => ?_
  refine Work.Keeps.bind RunsStay.trans (Work.Keeps.forM RunsStay.refl
    RunsStay.trans (fun brk => keeps_emit hsubs ..) breaks) fun _ => ?_
  exact Work.Keeps.bind RunsStay.trans (keeps_finishStep step _)
    fun view => Work.Keeps.pure RunsStay.refl _

/-- The steps of a refresh lose no run. -/
theorem keeps_refreshSteps (hsubs : SubscribersKeepRuns env) (path : Path)
    (householdId custodianId actorId runId : String) (started : DateTime) :
    Work.Keeps RunsStay (refreshSteps env host path householdId custodianId
      actorId runId started) := by
  refine Work.Keeps.bind RunsStay.trans (keeps_refreshIngest hsubs ..)
    fun ingested => ?_
  refine Work.Keeps.bind RunsStay.trans (keeps_refreshReconcile hsubs ..)
    fun reconciled => ?_
  refine Work.Keeps.bind RunsStay.trans (keeps_refreshNoop ..) fun _ => ?_
  refine Work.Keeps.bind RunsStay.trans (keeps_refreshNoop ..) fun _ => ?_
  refine Work.Keeps.bind RunsStay.trans (keeps_refreshNoop ..) fun _ => ?_
  refine Work.Keeps.bind RunsStay.trans keeps_clock fun finished => ?_
  refine Work.Keeps.bind RunsStay.trans (keeps_updateRefreshRun _ _ _)
    fun _ => ?_
  exact Work.Keeps.bind RunsStay.trans (keeps_writeAudit _ _ _ _ _ _)
    fun _ => Work.Keeps.pure RunsStay.refl _

/-- The session once the refresh's row is added. -/
def openedRefresh (env : Env) (store : Store) (householdId : String) :
    Store :=
  { store.drawn.ticked with
    dailyRefreshRuns := store.dailyRefreshRuns ++
      [{ runId := env.freshId "refresh" store
         householdId := householdId
         status := .running
         startedAt := env.clock store }] }

/-- An opened refresh has stored its run. -/
theorem mem_openedRefresh (householdId : String) :
    env.freshId "refresh" store
      ∈ (openedRefresh env store householdId).dailyRefreshRuns.map
        (·.runId) := by
  unfold openedRefresh
  rw [List.map_append]
  exact List.mem_append_right _ (List.mem_singleton_self _)

/-- The failure handler writes what the documentation promises, into the session
it is given. -/
theorem refreshFailed_written (householdId actorId : String) {runId : String}
    {α : Type} (err : Exc) {s : Store}
    (hrun : runId ∈ s.dailyRefreshRuns.map (·.runId)) :
    RefreshFailureRecorded s ((refreshFailed env householdId actorId runId err
      : Session α).exec s).2 := by
  obtain ⟨run, hmem, hid⟩ := List.mem_map.mp hrun
  refine ⟨_, ⟨_, rfl, List.mem_singleton_self _⟩, rfl, ?_⟩
  refine ⟨_, List.mem_map_of_mem hmem, ?_, ?_⟩
  · simp only [hid, if_true]
  · simp only [hid, if_true]

/-- A refresh whose steps raise has audited the failure and marked the
run, in its session. -/
theorem refresh_failure_written (hsubs : SubscribersKeepRuns env)
    {custodianFile ingestPath : Path}
    {householdId custodianId actorId : String} {useResearchSandbox : Bool}
    {err : Exc}
    (hflush : host.flush (openedRefresh env store householdId) = none)
    (hpath : (refreshPath host custodianFile useResearchSandbox).exec
        (openedRefresh env store householdId)
      = (.ok ingestPath, openedRefresh env store householdId))
    (hraised : ((runDailyRefresh env host custodianFile householdId custodianId
      actorId useResearchSandbox).exec store).1 = .error err) :
    RefreshFailureRecorded store ((runDailyRefresh env host custodianFile
      householdId custodianId actorId useResearchSandbox).exec store).2 := by
  let opened := openedRefresh env store householdId
  let runId := env.freshId "refresh" store
  let started := env.clock store
  have hexec : (runDailyRefresh env host custodianFile householdId custodianId
      actorId useResearchSandbox).exec store
    = (Session.flush host >>= fun _ =>
        refreshPath host custodianFile useResearchSandbox >>= fun path =>
          tryCatch (refreshSteps env host path householdId custodianId actorId
              runId started)
            (refreshFailed env householdId actorId runId)).exec opened := rfl
  have hflushed : (Session.flush host).exec opened = (.ok (), opened) := by
    unfold Session.flush
    rw [Work.exec_call, hflush]
  rw [hexec, Work.exec_bind_ok hflushed, Work.exec_bind_ok hpath,
    Work.exec_tryCatch] at hraised ⊢
  have hkeeps : Work.Keeps RunsStay (refreshSteps env host ingestPath
    householdId custodianId actorId runId started) :=
    keeps_refreshSteps hsubs ..
  have hstay := hkeeps.left opened
  cases hbody : (refreshSteps env host ingestPath householdId custodianId
      actorId runId started).exec opened with
  | mk outcome left =>
    rw [hbody] at hraised hstay
    cases outcome with
    | ok result => cases hraised
    | error e =>
      have hrun : runId ∈ left.dailyRefreshRuns.map (·.runId) :=
        hstay.refreshes (mem_openedRefresh householdId)
      obtain ⟨entry, hnew, hrest⟩ := refreshFailed_written
        householdId actorId e hrun
      exact ⟨entry, hnew.of_prefix hstay.audit, hrest⟩

-- ============================================================== rolled back

/-- A scope that raises commits the log it found. -/
theorem sessionScope_auditLog {α : Type} {body : Session α} {err : Exc}
    (hraised : (sessionScope body store).1 = .error err) :
    (sessionScope body store).2.auditLog = store.auditLog := by
  unfold sessionScope at hraised ⊢
  rw [Work.scope_error hraised]
  rfl

/-- Whatever fails, the failure's audit row and its run's error status are
not committed. -/
theorem failure_audit_lost (env : Env) (host : Host) (store : Store) :
    (∀ path custodianId actorId householdId err,
      (sessionScope (runCustodianIngest env host path custodianId actorId
        householdId) store).1 = .error err →
      ¬ IngestFailureRecorded store (sessionScope (runCustodianIngest env host
        path custodianId actorId householdId) store).2)
    ∧ ∀ custodianFile householdId custodianId actorId useResearchSandbox err,
      (sessionScope (runDailyRefresh env host custodianFile householdId
        custodianId actorId useResearchSandbox) store).1 = .error err →
      ¬ RefreshFailureRecorded store (sessionScope (runDailyRefresh env host
        custodianFile householdId custodianId actorId useResearchSandbox)
        store).2 := by
  constructor
  · rintro path custodianId actorId householdId err hraised ⟨entry, hnew, -⟩
    exact not_newAudit (sessionScope_auditLog hraised) entry hnew
  · rintro custodianFile householdId custodianId actorId useResearchSandbox
      err hraised ⟨entry, hnew, -⟩
    exact not_newAudit (sessionScope_auditLog hraised) entry hnew

/-- A host whose files hold one position in a security the master does not
have. -/
def unknownTickerHost : Host where
  parseCustodianCsv _ := .ok
    [{ accountId := "acct_1", ticker := "ZZZZ", quantity := 1,
       asOfDate := 739400 }]
  parseFidelityCsv _ := .error (.valueError "not a Fidelity file")
  copyToResearchSandbox path := .ok path
  flush _ := none

/-- A file of the working directory. -/
def custodianCsv : Path where
  text := "custodian.csv"
  name := "custodian.csv"

/-- Both commands over a file with an unknown ticker: the rollback drops the
failure row. -/
theorem failure_audit_lost_unknownTicker :
    (¬ IngestFailureRecorded Store.empty (sessionScope (runCustodianIngest
        Env.counting unknownTickerHost custodianCsv) Store.empty).2)
      ∧ ¬ RefreshFailureRecorded Store.empty (sessionScope (runDailyRefresh
        Env.counting unknownTickerHost custodianCsv "hh_1") Store.empty).2 :=
  ⟨(failure_audit_lost _ _ _).1 _ _ _ _ (.valueError
      "Unknown ticker 'ZZZZ' — add to security master first") rfl,
    (failure_audit_lost _ _ _).2 _ _ _ _ _ (.valueError
      "Unknown ticker 'ZZZZ' — add to security master first") rfl⟩

/-- The ingest raises with its failure audited in the session; the
committed tables are those of the new database. -/
theorem unknownTicker_not_recorded :
    let ingest := runCustodianIngest Env.counting unknownTickerHost custodianCsv
    (sessionScope ingest Store.empty).1 = .error (.valueError
        "Unknown ticker 'ZZZZ' — add to security master first")
      ∧ (ingest.exec Store.empty).2.auditLog.map (·.action) = ["ingest_failed"]
      ∧ (sessionScope ingest Store.empty).2.auditLog = []
      ∧ (sessionScope ingest Store.empty).2.ingestRuns = [] := by
  intro ingest
  exact ⟨rfl, by decide, rfl, rfl⟩

end Warehouse
