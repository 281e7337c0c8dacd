/-
Isolation of the month-end batch.

A household's turn writes its two tax runs before the stages that can
still fail, and the batch goes on in the same session. So a household
that fails after its preconditions leaves its tax runs to be committed
(`turn_unfinished`), and one that fails at them leaves nothing
(`turn_refused`). What a completed household writes is decided by tables
no turn writes to, up to ids and times (`expectedTurn`).

# What is compared

Isolation has three parts (`BatchIsolated`): no turn touches the tables
another turn is decided by; nothing a failed turn wrote is among the
committed rows; and the completed turns write what they write in a batch of
the completed households alone. Turns are compared as records without ids
and clock values (`TurnRecord`), since those differ between any two batches.

# Snapshots

A snapshot's id must be fresh for the gates of its report to be unanswered
(`FreshSnapshots`); ids that are drawn are, and the batch keeps it so from
one household to the next.
-/
import Warehouse.Proofs.ExternalPdf
import Warehouse.Workflows.MonthEnd

namespace Warehouse

open Lib

variable {A R : Type} {cfg : ReportSetting A R} {site : Site A R}
  {store store' : Store} {householdId : String} {asOf : Date}

-- =============================================================== tax runs

/-- The row a tax scenario run adds. -/
def taxRow (cfg : ReportSetting A R) (householdId : String) (asOf : Date)
    (positions : List LotPositionView)
    (scenario : String × TaxScenarioOverlays) (store : Store) :
    TaxScenarioRunRow :=
  let figures :=
    computeReportingTaxScenario positions scenario.2 asOf cfg.settings
  { runId := cfg.env.freshId "rpt_tax" store
    householdId := householdId
    scenarioName := scenario.1
    overlays := scenario.2
    baselineTax := figures.1
    scenarioTax := figures.2.1
    taxDelta := figures.2.2
    createdAt := cfg.env.clock store.drawn }

/-- The store with one more tax run. -/
def taxRun (cfg : ReportSetting A R) (householdId : String) (asOf : Date)
    (positions : List LotPositionView) (store : Store)
    (scenario : String × TaxScenarioOverlays) : Store :=
  { store.drawn.ticked with
    taxScenarioRuns := store.taxScenarioRuns
      ++ [taxRow cfg householdId asOf positions scenario store] }

/-- The store with both tax runs of a household. -/
def taxRuns (cfg : ReportSetting A R) (householdId : String) (asOf : Date)
    (positions : List LotPositionView) (store : Store) : Store :=
  defaultTaxScenarios.foldl (taxRun cfg householdId asOf positions) store

theorem runReportingTaxScenario_exec (cfg : ReportSetting A R)
    (store : Store) (asOf : Date) (name : String)
    (overlays : TaxScenarioOverlays)
    (hpositions : (listLotPositions cfg.order.lots store
      (some householdId)).isEmpty = false) :
    ∃ result, (runReportingTaxScenario cfg.env cfg.order cfg.settings
        householdId name overlays asOf).exec store
      = (.ok result, taxRun cfg householdId asOf (listLotPositions
          cfg.order.lots store (some householdId)) store (name, overlays)) := by
  unfold runReportingTaxScenario
  rw [Work.exec_get_bind]
  simp only [hpositions, Bool.false_eq_true, if_false]
  exact ⟨_, rfl⟩

/-- A tax run moves no position. -/
theorem listLotPositions_taxRun (cfg : ReportSetting A R) (asOf : Date)
    (positions : List LotPositionView) (store : Store)
    (scenario : String × TaxScenarioOverlays) (lots : List Lot → List Lot)
    (owner : Option String) :
    listLotPositions lots (taxRun cfg householdId asOf positions store scenario)
      owner = listLotPositions lots store owner := by
  unfold listLotPositions
  rfl

theorem collectTaxScenarios_exec (cfg : ReportSetting A R) (store : Store)
    (asOf : Date)
    (hpositions : (listLotPositions cfg.order.lots store
      (some householdId)).isEmpty = false) :
    ∃ results, (collectTaxScenarios cfg.env cfg.order cfg.settings householdId
        asOf).exec store
      = (.ok results, taxRuns cfg householdId asOf (listLotPositions
          cfg.order.lots store (some householdId)) store) := by
  obtain ⟨first, hfirst⟩ := runReportingTaxScenario_exec cfg store asOf
    "baseline" { applyNiit := false } hpositions
  obtain ⟨second, hsecond⟩ := runReportingTaxScenario_exec cfg
    (taxRun cfg householdId asOf (listLotPositions cfg.order.lots store
      (some householdId)) store ("baseline", { applyNiit := false })) asOf
    "niit_overlay" { applyNiit := true }
    (by rw [listLotPositions_taxRun]; exact hpositions)
  rw [listLotPositions_taxRun] at hsecond
  refine ⟨[first, second], ?_⟩
  unfold collectTaxScenarios defaultTaxScenarios
  rw [List.mapM_cons, List.mapM_cons, List.mapM_nil, Work.exec_bind_ok hfirst,
    Work.exec_bind, Work.exec_bind_ok hsecond]
  rfl

-- ============================================================ preconditions

/-- The preconditions hand on the household's positions, and there are
some. -/
theorem reportPreconditions_ok {positions : List LotPositionView}
    {performance : HouseholdPerformanceReport} {ipsDrift : IpsDriftReport}
    (h : reportPreconditions cfg.order cfg.planes cfg.settings store
      householdId asOf = .ok (positions, performance, ipsDrift)) :
    positions = listLotPositions cfg.order.lots store (some householdId)
      ∧ positions.isEmpty = false := by
  unfold reportPreconditions at h
  cases hempty : (listLotPositions cfg.order.lots store
      (some householdId)).isEmpty with
  | true =>
    simp only [hempty, if_true] at h
    cases h
  | false =>
    simp only [hempty, Bool.false_eq_true, if_false] at h
    obtain ⟨found, -, h⟩ := bind_ok_iff.mp h
    cases found with
    | none => cases h
    | some ips =>
      obtain ⟨report, -, h⟩ := bind_ok_iff.mp h
      cases h
      exact ⟨rfl, hempty⟩

/-- The preconditions are read off the planes' tables. -/
theorem reportPreconditions_planes (h : store'.planes = store.planes) :
    reportPreconditions cfg.order cfg.planes cfg.settings store' householdId
        asOf
      = reportPreconditions cfg.order cfg.planes cfg.settings store householdId
        asOf := by
  have hread : ∀ s : Store, reportPreconditions cfg.order cfg.planes
      cfg.settings s householdId asOf
        = reportPreconditions cfg.order cfg.planes cfg.settings s.planes
          householdId asOf := fun _ => rfl
  rw [hread store', hread store, h]

/-- So is the risk headline. -/
theorem collectRiskHeadline_planes (h : store'.planes = store.planes) :
    collectRiskHeadline cfg.planes store' householdId
      = collectRiskHeadline cfg.planes store householdId := by
  unfold collectRiskHeadline
  rw [h]

-- ================================================================= collecting

/-- The files of one pack. -/
def reportFiles : List String := ["internal.md", "external.md", "bundle.json"]

/-- Do the stages that can still fail once the tax runs are written go
through? -/
def finishesReport (cfg : ReportSetting A R) (store : Store)
    (householdId : String) (asOf : Date) (positions : List LotPositionView) :
    Bool :=
  (collectAttribution cfg.planes positions householdId asOf).isOk
    && (collectRiskHeadline cfg.planes store householdId).isOk
    && reportFiles.all fun name => (cfg.writeFails householdId name).isNone

/-- A refused precondition stores nothing. -/
theorem collectReportBundle_refused {e : Exc} (period : ReportPeriod)
    (hpre : reportPreconditions cfg.order cfg.planes cfg.settings site.store
      householdId asOf = .error e) :
    (collectReportBundle cfg householdId period asOf).exec site
      = (.error e, site) := by
  unfold collectReportBundle
  rw [Work.exec_get_bind]
  dsimp only
  rw [hpre, Work.exec_lift_bind_error]

/-- What a bundle says, collected from a store. -/
structure Collected (cfg : ReportSetting A R) (store : Store)
    (household : String) (period : ReportPeriod) (attribution : Option A)
    (risk : R) (bundle : ReportBundle A R) : Prop where
  snapshotId : bundle.snapshotId = cfg.env.freshId "rpt" store
  householdId : bundle.householdId = household
  period : bundle.period = period
  attribution : bundle.attribution = attribution
  riskHeadline : bundle.riskHeadline = some risk
  stagedOrders : bundle.stagedOrders
    = listStagedOrders cfg.order.toRowOrder store (some household)
  openBreaks : bundle.openBreaks = listReconciliationBreaks cfg.order store
  pending : bundle.pendingApprovalCount
    = pendingApprovalCount cfg.order store household

/-- A snapshot is stamped, and its bundle made if attribution and risk
headline can be. -/
theorem assembleReportBundle_exec (cfg : ReportSetting A R)
    (householdId : String) (period : ReportPeriod) (asOf : Date)
    (positions : List LotPositionView)
    (performance : HouseholdPerformanceReport) (ipsDrift : IpsDriftReport)
    (taxScenarios : List ReportingTaxResult) (site : Site A R) :
    ∃ outcome, (assembleReportBundle cfg householdId period asOf positions
        performance ipsDrift taxScenarios).exec site
        = (outcome, { site with store := site.store.drawn.ticked })
      ∧ match collectAttribution cfg.planes positions householdId asOf,
            collectRiskHeadline cfg.planes site.store householdId with
        | .ok attribution, .ok risk => ∃ bundle, outcome = .ok bundle
            ∧ Collected cfg site.store householdId period attribution risk
              bundle
        | _, _ => ∃ e, outcome = .error e := by
  unfold assembleReportBundle
  rw [Work.exec_get_bind]
  dsimp only
  rw [exec_onStore_bind_ok (Session.exec_freshId ..),
    exec_onStore_bind_ok (Session.exec_clock ..)]
  cases collectAttribution cfg.planes positions householdId asOf with
  | error e =>
    rw [Work.exec_lift_bind_error]
    exact ⟨_, rfl, e, rfl⟩
  | ok attribution =>
    rw [Work.exec_lift_bind_ok]
    cases collectRiskHeadline cfg.planes site.store householdId with
    | error e =>
      rw [Work.exec_lift_bind_error]
      exact ⟨_, rfl, e, rfl⟩
    | ok risk =>
      rw [Work.exec_lift_bind_ok, Work.exec_pure]
      exact ⟨_, rfl, _, rfl, rfl, rfl, rfl, rfl, rfl, rfl, rfl, rfl⟩

-- ==================================================================== files

/-- The last component is the file's name. -/
theorem name_append (dir : FilePath) (name : String) :
    FilePath.name (dir ++ [name]) = name := by
  unfold FilePath.name
  rw [List.getLast?_append_cons]
  rfl

/-- A file write leaves the database alone, and raises when the file
system does. -/
theorem writeReportFile_exec (cfg : ReportSetting A R) (householdId : String)
    (dir : FilePath) (name : String) (file : File A R) (site : Site A R) :
    ∃ outcome disk, (writeReportFile cfg householdId (dir ++ [name])
        file).exec site = (outcome, { site with disk := disk })
      ∧ outcome.isOk = (cfg.writeFails householdId name).isNone := by
  unfold writeReportFile
  rw [name_append]
  cases cfg.writeFails householdId name with
  | some err => exact ⟨.error err, site.disk, rfl, rfl⟩
  | none => exact ⟨.ok _, _, rfl, rfl⟩

/-- The first file that cannot be written ends the writing. -/
theorem writeReportBundle_exec (cfg : ReportSetting A R)
    (bundle : ReportBundle A R) (dir : FilePath) (site : Site A R) :
    ∃ outcome disk, (writeReportBundle cfg bundle dir).exec site
        = (outcome, { site with disk := disk })
      ∧ outcome.isOk = reportFiles.all fun name =>
          (cfg.writeFails bundle.householdId name).isNone := by
  unfold writeReportBundle
  obtain ⟨first, disk, hfirst, hok⟩ := writeReportFile_exec cfg
    bundle.householdId dir "internal.md"
    { contents := cfg.planes.renderMarkdown bundle .internal } site
  rw [Work.exec_bind, hfirst]
  unfold reportFiles
  simp only [List.all_cons, List.all_nil, Bool.and_true]
  rw [← hok]
  cases first with
  | error e => exact ⟨_, _, rfl, rfl⟩
  | ok _ =>
    dsimp only
    obtain ⟨second, disk', hsecond, hok'⟩ := writeReportFile_exec cfg
      bundle.householdId dir "external.md"
      { contents := cfg.planes.renderMarkdown bundle .external }
      { site with disk := disk }
    rw [Work.exec_bind, hsecond, ← hok']
    cases second with
    | error e => exact ⟨_, _, rfl, rfl⟩
    | ok _ =>
      dsimp only
      obtain ⟨third, disk'', hthird, hok''⟩ := writeReportFile_exec cfg
        bundle.householdId dir "bundle.json"
        { contents := cfg.planes.dumpJson bundle, bundle := some bundle }
        { site with disk := disk' }
      rw [Work.exec_bind, hthird, ← hok'']
      cases third with
      | error e => exact ⟨_, _, rfl, rfl⟩
      | ok _ => exact ⟨_, _, rfl, rfl⟩

-- ================================================================= the turn

/-- No approval is on record for a snapshot id still to be drawn. -/
def FreshSnapshots (env : Env) (store : Store) : Prop :=
  ∀ n ≥ store.draws, ∀ row ∈ store.approvalRequests,
    row.subjectId ≠ some ("rpt_" ++ env.hex n)

/-- A turn's outcome and the rows it writes, without ids and times. -/
structure TurnRecord where
  householdId : String
  completed : Bool
  taxRuns : List TaxScenarioRunRow
  audit : List AuditLogRow
  deriving DecidableEq

/-- A tax run without its id and its clock value. -/
def TaxScenarioRunRow.erased (row : TaxScenarioRunRow) : TaxScenarioRunRow :=
  { row with runId := "", createdAt := 0 }

/-- The details that name the snapshot. -/
def generatedDetails : List String :=
  ["snapshot_id", "output_dir", "internal_markdown_path",
   "external_markdown_path", "bundle_json_path"]

/-- An audit detail, emptied where the snapshot is in it. -/
def eraseDetail (detail : String × String) : String × String :=
  if detail.1 ∈ generatedDetails then (detail.1, "") else detail

/-- An audit row without ids, clock value and generated details. -/
def AuditLogRow.erased (row : AuditLogRow) : AuditLogRow :=
  { row with
    entryId := ""
    resourceId := ""
    occurredAt := 0
    details := row.details.map eraseDetail }

/-- The record of one household's turn, ids and clock erased. -/
def turnRecord (householdId : String) (completed : Bool)
    (taxRuns : List TaxScenarioRunRow) (audit : List AuditLogRow) :
    TurnRecord where
  householdId := householdId
  completed := completed
  taxRuns := taxRuns.map TaxScenarioRunRow.erased
  audit := audit.map AuditLogRow.erased

/-- What a build found no approval for says of its PDF. -/
def pdfBlocked (cfg : ReportSetting A R) (store : Store) :
    List (String × String) :=
  [("external_pdf_blocked", "true"),
   ("reason", if externalPdfDeliveryBlocked cfg.order store then
      "open_reconciliation_breaks" else "awaiting_advisor_approval")]

/-- The audit row of a finished build. -/
def expectedAudit (cfg : ReportSetting A R) (store : Store) (asOf : Date)
    (periodLabel : Option String) (actorId householdId : String)
    (attributed : Bool) : AuditLogRow where
  entryId := ""
  actorId := actorId
  action := "report_build"
  resourceType := "household_report"
  resourceId := ""
  householdId := some householdId
  occurredAt := 0
  details :=
    [("snapshot_id", ""), ("household_id", householdId), ("output_dir", ""),
     ("internal_markdown_path", ""), ("external_markdown_path", ""),
     ("bundle_json_path", ""),
     ("period_label", (resolvePeriod asOf periodLabel).label)]
    ++ pdfBlocked cfg store
    ++ (if attributed then [("attribution_computed", "true")] else [])
    ++ [("risk_headline_computed", "true")]

/-- The two tax runs of a household with these positions, ids and clock erased. -/
def expectedTax (cfg : ReportSetting A R) (asOf : Date) (householdId : String)
    (positions : List LotPositionView) : List TaxScenarioRunRow :=
  defaultTaxScenarios.map fun scenario =>
    (taxRow cfg householdId asOf positions scenario Store.empty).erased

/-- What a turn comes to, from the tables no turn writes to. -/
def expectedTurn (cfg : ReportSetting A R) (store : Store) (asOf : Date)
    (periodLabel : Option String) (actorId householdId : String) :
    TurnRecord :=
  match reportPreconditions cfg.order cfg.planes cfg.settings store
      householdId asOf with
  | .error _ =>
      { householdId := householdId
        completed := false
        taxRuns := []
        audit := [] }
  | .ok (positions, _, _) =>
      { householdId := householdId
        completed := finishesReport cfg store householdId asOf positions
        taxRuns := expectedTax cfg asOf householdId positions
        audit :=
          if finishesReport cfg store householdId asOf positions then
            [expectedAudit cfg store asOf periodLabel actorId householdId
              (match collectAttribution cfg.planes positions householdId asOf
                with
               | .ok attribution => attribution.isSome
               | .error _ => false)]
          else [] }

/-- A turn leaves every other table alone, adds its rows to the two it
writes to, and they are the expected ones. -/
structure Leaves (found left : Store) (householdId : String)
    (completed : Bool) (expected : TurnRecord) : Prop where
  planes : left.planes = found.planes
  draws : found.draws ≤ left.draws
  rows : ∃ taxRuns audit,
    left.taxScenarioRuns = found.taxScenarioRuns ++ taxRuns
      ∧ left.auditLog = found.auditLog ++ audit
      ∧ turnRecord householdId completed taxRuns audit = expected

/-- Freshness survives whatever draws ids and leaves the planes. -/
theorem FreshSnapshots.later {env : Env} (h : FreshSnapshots env store)
    (hplanes : store'.planes = store.planes)
    (hdraws : store.draws ≤ store'.draws) : FreshSnapshots env store' := by
  have happrovals := congrArg Store.approvalRequests hplanes
  change store'.approvalRequests = store.approvalRequests at happrovals
  intro n hn row hrow
  exact h n (hdraws.trans hn) row (happrovals ▸ hrow)

/-- A snapshot just drawn has no approval. -/
theorem reportApprovalStatus_fresh {env : Env} (h : FreshSnapshots env store)
    (order : ReportOrder) (store' : Store)
    (happrovals : store'.approvalRequests = store.approvalRequests) :
    reportApprovalStatus order store' (env.freshId "rpt" store) = none := by
  have hnone : (store'.approvalRequests.filter fun row =>
      row.subjectType = .report
        ∧ row.subjectId = some (env.freshId "rpt" store)) = [] := by
    rw [List.filter_eq_nil_iff, happrovals]
    intro row hrow hmatch
    exact h store.draws le_rfl row hrow (of_decide_eq_true hmatch).2
  unfold reportApprovalStatus
  dsimp only
  rw [hnone, List.Perm.eq_nil (order.approvalsPerm [])]
  rfl

/-- Whether delivery is blocked is read off the planes' tables. -/
theorem expectedAudit_planes (cfg : ReportSetting A R)
    (h : store'.planes = store.planes) :
    expectedAudit cfg store' = expectedAudit cfg store := by
  have hread : ∀ s : Store, expectedAudit cfg s = expectedAudit cfg s.planes :=
    fun _ => rfl
  rw [hread store', hread store, h]

/-- A snapshot nobody approved gets no PDF, and one audit row that says so. -/
theorem attachExternalPdf_exec (site : Site A R)
    {bundle : ReportBundle A R}
    (happroval : reportApprovalStatus cfg.order site.store bundle.snapshotId
      = none) (written : WrittenHouseholdReport) (householdId : String)
    (asOf : Date) :
    (attachExternalPdf cfg bundle written householdId asOf).exec site
      = (.ok (written, pdfBlocked cfg site.store), site) := by
  unfold attachExternalPdf pdfBlocked
  rw [Work.exec_get_bind]
  dsimp only
  cases externalPdfDeliveryBlocked cfg.order site.store with
  | true => rfl
  | false =>
    rw [if_neg Bool.false_ne_true, if_pos (by rw [happroval]; exact nofun)]
    rfl

-- ================================================================ the build

/-- Without ids and clock a tax row depends on the positions alone. -/
theorem taxRow_erased (cfg : ReportSetting A R) (householdId : String)
    (asOf : Date) (positions : List LotPositionView)
    (scenario : String × TaxScenarioOverlays) (store : Store) :
    (taxRow cfg householdId asOf positions scenario store).erased
      = (taxRow cfg householdId asOf positions scenario Store.empty).erased :=
  rfl

/-- What a list of tax runs leaves of the store. -/
structure TaxRunsLeave (found left : Store)
    (expected : List TaxScenarioRunRow) : Prop where
  planes : left.planes = found.planes
  draws : found.draws ≤ left.draws
  auditLog : left.auditLog = found.auditLog
  rows : ∃ rows, left.taxScenarioRuns = found.taxScenarioRuns ++ rows
    ∧ rows.map TaxScenarioRunRow.erased = expected

/-- What one tax run leaves of the store: a row, and nothing else but what
it has drawn. -/
theorem taxRun_leaves (cfg : ReportSetting A R) (householdId : String)
    (asOf : Date) (positions : List LotPositionView) (store : Store)
    (scenario : String × TaxScenarioOverlays) {left : Store}
    (hleft : taxRun cfg householdId asOf positions store scenario = left) :
    left.planes = store.planes ∧ store.draws ≤ left.draws
      ∧ left.auditLog = store.auditLog
      ∧ left.taxScenarioRuns = store.taxScenarioRuns
        ++ [taxRow cfg householdId asOf positions scenario store] := by
  subst hleft
  have hdraws : store.draws
      ≤ (taxRun cfg householdId asOf positions store scenario).draws := by
    show store.draws ≤ store.draws + 1
    omega
  refine ⟨?_, hdraws, rfl, rfl⟩
  unfold taxRun Store.drawn Store.ticked Store.planes
  rfl

/-- The runs of a list of scenarios leave the expected rows behind. -/
theorem foldl_taxRun_leaves (cfg : ReportSetting A R) (householdId : String)
    (asOf : Date) (positions : List LotPositionView)
    (scenarios : List (String × TaxScenarioOverlays)) :
    ∀ store, TaxRunsLeave store
      (scenarios.foldl (taxRun cfg householdId asOf positions) store)
      (scenarios.map fun scenario => (taxRow cfg householdId asOf positions
        scenario Store.empty).erased) := by
  induction scenarios with
  | nil => exact fun store =>
      ⟨rfl, le_rfl, rfl, [], (List.append_nil _).symm, rfl⟩
  | cons scenario rest ih =>
    intro store
    rw [List.foldl_cons]
    generalize hfirst : taxRun cfg householdId asOf positions store scenario
      = first
    obtain ⟨hplanes, hdraws, haudit, hruns⟩ := taxRun_leaves cfg householdId
      asOf positions store scenario hfirst
    have hrest := ih first
    obtain ⟨rows, hrows, herased⟩ := hrest.rows
    refine ⟨hrest.planes.trans hplanes, hdraws.trans hrest.draws,
      hrest.auditLog.trans haudit, taxRow cfg householdId asOf positions
        scenario store :: rows, ?_, ?_⟩
    · rw [hrows, hruns, List.append_assoc]
      rfl
    · rw [List.map_cons, List.map_cons, herased, taxRow_erased]

/-- A household's tax runs leave the expected two. -/
theorem taxRuns_leaves (cfg : ReportSetting A R) (householdId : String)
    (asOf : Date) (positions : List LotPositionView) (store : Store) :
    TaxRunsLeave store (taxRuns cfg householdId asOf positions store)
      (expectedTax cfg asOf householdId positions) :=
  foldl_taxRun_leaves cfg householdId asOf positions defaultTaxScenarios store

/-- Stamping a snapshot writes no row. -/
theorem TaxRunsLeave.stamped {found left : Store}
    {expected : List TaxScenarioRunRow} (h : TaxRunsLeave found left expected) :
    TaxRunsLeave found left.drawn.ticked expected where
  planes := h.planes
  draws := Nat.le_succ_of_le h.draws
  auditLog := h.auditLog
  rows := h.rows

/-- Past the preconditions the tax runs are written and a snapshot is
stamped, whatever comes of the bundle. -/
theorem collectReportBundle_exec {positions : List LotPositionView}
    {performance : HouseholdPerformanceReport} {ipsDrift : IpsDriftReport}
    (period : ReportPeriod)
    (hpre : reportPreconditions cfg.order cfg.planes cfg.settings site.store
      householdId asOf = .ok (positions, performance, ipsDrift)) :
    ∃ outcome, (collectReportBundle cfg householdId period asOf).exec site
        = (outcome, { site with
            store := (taxRuns cfg householdId asOf positions
              site.store).drawn.ticked })
      ∧ match collectAttribution cfg.planes positions householdId asOf,
            collectRiskHeadline cfg.planes site.store householdId with
        | .ok attribution, .ok risk => ∃ bundle, outcome = .ok bundle
            ∧ Collected cfg (taxRuns cfg householdId asOf positions site.store)
              householdId period attribution risk bundle
        | _, _ => ∃ e, outcome = .error e := by
  obtain ⟨hpositions, hsome⟩ := reportPreconditions_ok hpre
  rw [hpositions] at hsome
  obtain ⟨results, htax⟩ := collectTaxScenarios_exec cfg site.store asOf hsome
  rw [← hpositions] at htax
  unfold collectReportBundle
  rw [Work.exec_get_bind]
  dsimp only
  rw [hpre, Work.exec_lift_bind_ok]
  dsimp only
  rw [exec_onStore_bind_ok htax]
  obtain ⟨outcome, hexec, hbundle⟩ := assembleReportBundle_exec cfg householdId
    period asOf positions performance ipsDrift results
    { site with store := taxRuns cfg householdId asOf positions site.store }
  dsimp only at hbundle
  rw [collectRiskHeadline_planes
    (taxRuns_leaves cfg householdId asOf positions site.store).planes]
    at hbundle
  exact ⟨outcome, hexec, hbundle⟩

/-- Why a PDF is blocked names no snapshot. -/
theorem pdfBlocked_erased (cfg : ReportSetting A R) (store : Store) :
    (pdfBlocked cfg store).map eraseDetail = pdfBlocked cfg store := by
  simp [pdfBlocked, eraseDetail, generatedDetails]

/-- What a build's audit details are without the snapshot. -/
theorem buildDetails_erased {bundle : ReportBundle A R} {risk : R}
    (hrisk : bundle.riskHeadline = some risk) (periodLabel : String)
    (written : WrittenHouseholdReport) (store : Store) :
    (buildDetails householdId periodLabel written bundle
        (pdfBlocked cfg store)).map eraseDetail
      = [("snapshot_id", ""), ("household_id", householdId),
          ("output_dir", ""), ("internal_markdown_path", ""),
          ("external_markdown_path", ""), ("bundle_json_path", ""),
          ("period_label", periodLabel)]
        ++ pdfBlocked cfg store
        ++ (if bundle.attribution.isSome then
            [("attribution_computed", "true")] else [])
        ++ [("risk_headline_computed", "true")] := by
  unfold buildDetails
  rw [hrisk, List.map_append, List.map_append, List.map_append,
    pdfBlocked_erased]
  cases bundle.attribution <;> simp [eraseDetail, generatedDetails]

/-- What a build does once its bundle is in. -/
def finishBuild (cfg : ReportSetting A R) (householdId : String)
    (period : ReportPeriod) (asOf : Date) (actorId : String)
    (bundle : ReportBundle A R) : SiteWork A R WrittenHouseholdReport := do
  let written ← writeReportBundle cfg bundle (householdReportsDir householdId
    ++ [period.label, bundle.snapshotId])
  let (written, pdfExtra) ←
    attachExternalPdf cfg bundle written householdId asOf
  onStore (Session.writeAudit cfg.env actorId "report_build"
    "household_report" bundle.snapshotId (some householdId)
    (buildDetails householdId period.label written bundle pdfExtra))
  return written

/-- It writes the files and the audit row, or no row. -/
theorem finishBuild_exec (site : Site A R) {bundle : ReportBundle A R}
    {risk : R} (asOf : Date) (periodLabel : Option String) (actorId : String)
    (hhousehold : bundle.householdId = householdId)
    (hrisk : bundle.riskHeadline = some risk)
    (happroval : reportApprovalStatus cfg.order site.store bundle.snapshotId
      = none) :
    ∃ outcome left, (finishBuild cfg householdId (resolvePeriod asOf periodLabel)
        asOf actorId bundle).exec site = (outcome, left)
      ∧ outcome.isOk = (reportFiles.all fun name =>
          (cfg.writeFails householdId name).isNone)
      ∧ left.store.planes = site.store.planes
      ∧ site.store.draws ≤ left.store.draws
      ∧ left.store.taxScenarioRuns = site.store.taxScenarioRuns
      ∧ ∃ audit, left.store.auditLog = site.store.auditLog ++ audit
        ∧ audit.map AuditLogRow.erased = if outcome.isOk then
            [expectedAudit cfg site.store asOf periodLabel actorId householdId
              bundle.attribution.isSome]
          else [] := by
  unfold finishBuild
  obtain ⟨files, disk, hfiles, hok⟩ := writeReportBundle_exec cfg bundle
    (householdReportsDir householdId
      ++ [(resolvePeriod asOf periodLabel).label, bundle.snapshotId]) site
  rw [hhousehold] at hok
  cases files with
  | error e =>
    rw [Work.exec_bind_error hfiles]
    exact ⟨_, _, rfl, hok, rfl, le_rfl, rfl, [], (List.append_nil _).symm, rfl⟩
  | ok written =>
    rw [Work.exec_bind_ok hfiles, Work.exec_bind_ok
      (attachExternalPdf_exec { site with disk := disk } happroval
        written householdId asOf)]
    dsimp only
    refine ⟨_, _, rfl, hok, rfl, Nat.le_succ _, rfl, _, rfl, ?_⟩
    rw [List.map_singleton, AuditLogRow.erased, buildDetails_erased hrisk]
    rfl

/-- A build that got past its preconditions only leaves its tax runs. -/
theorem TaxRunsLeave.unfinished {found left : Store}
    {positions : List LotPositionView}
    (h : TaxRunsLeave found left (expectedTax cfg asOf householdId positions)) :
    Leaves found left householdId false
      { householdId := householdId
        completed := false
        taxRuns := expectedTax cfg asOf householdId positions
        audit := [] } := by
  obtain ⟨rows, hrows, herased⟩ := h.rows
  refine ⟨h.planes, h.draws, rows, [], hrows, ?_, ?_⟩
  · rw [h.auditLog, List.append_nil]
  · rw [turnRecord, herased]
    rfl

/-- A build leaves what its turn is expected to. -/
theorem build_leaves (cfg : ReportSetting A R) (today : Date)
    (householdId : String) (periodLabel : Option String) (asOf : Date)
    (actorId : String) (hfresh : FreshSnapshots cfg.env site.store) :
    ∃ outcome left, (buildAndWriteHouseholdReports cfg today householdId
        periodLabel (some asOf) actorId).exec site = (outcome, left)
      ∧ Leaves site.store left.store householdId outcome.isOk
        (expectedTurn cfg site.store asOf periodLabel actorId householdId) := by
  unfold buildAndWriteHouseholdReports expectedTurn
  rw [Work.exec_get_bind]
  dsimp only [resolveReportAsOf]
  cases hpre : reportPreconditions cfg.order cfg.planes cfg.settings site.store
      householdId asOf with
  | error e =>
    rw [Work.exec_bind_error (collectReportBundle_refused _ hpre)]
    exact ⟨_, _, rfl, rfl, le_rfl, [], [], (List.append_nil _).symm,
      (List.append_nil _).symm, rfl⟩
  | ok found =>
    obtain ⟨positions, performance, ipsDrift⟩ := found
    have htax := taxRuns_leaves cfg householdId asOf positions site.store
    have hstamped := htax.stamped
    obtain ⟨collected, hcollect, hbundle⟩ := collectReportBundle_exec
      (resolvePeriod asOf periodLabel) hpre
    dsimp only
    unfold finishesReport
    cases hattribution : collectAttribution cfg.planes positions householdId
        asOf with
    | error e =>
      rw [hattribution] at hbundle
      obtain ⟨e, rfl⟩ := hbundle
      rw [Work.exec_bind_error hcollect]
      exact ⟨_, _, rfl, hstamped.unfinished⟩
    | ok attribution =>
      cases hrisk : collectRiskHeadline cfg.planes site.store householdId with
      | error e =>
        rw [hattribution, hrisk] at hbundle
        obtain ⟨e, rfl⟩ := hbundle
        rw [Work.exec_bind_error hcollect]
        exact ⟨_, _, rfl, hstamped.unfinished⟩
      | ok risk =>
        rw [hattribution, hrisk] at hbundle
        obtain ⟨bundle, rfl, hcollected⟩ := hbundle
        rw [Work.exec_bind_ok hcollect]
        have happroval := reportApprovalStatus_fresh
          (hfresh.later htax.planes htax.draws) cfg.order
          (taxRuns cfg householdId asOf positions site.store).drawn.ticked rfl
        rw [← hcollected.snapshotId] at happroval
        obtain ⟨outcome, left, hfinish, hok, hplanes, hdraws, htaxRuns, audit,
          haudit, hauditErased⟩ := finishBuild_exec
            { site with store := (taxRuns cfg householdId asOf
              positions site.store).drawn.ticked }
            asOf periodLabel actorId hcollected.householdId
            hcollected.riskHeadline happroval
        obtain ⟨rows, hrows, herased⟩ := hstamped.rows
        dsimp only at hauditErased
        rw [hcollected.attribution, expectedAudit_planes cfg hstamped.planes]
          at hauditErased
        refine ⟨outcome, left, hfinish, hplanes.trans hstamped.planes,
          hstamped.draws.trans hdraws, rows, audit, htaxRuns.trans hrows, ?_,
          ?_⟩
        · rw [haudit, hstamped.auditLog]
        · rw [turnRecord, herased, hauditErased, hok]
          rfl

/-- A turn never raises, and leaves what is expected. -/
theorem monthEndOutcome_leaves (cfg : ReportSetting A R) (asOf : Date)
    (periodLabel : Option String) (correlationId actorId householdId : String)
    (hfresh : FreshSnapshots cfg.env site.store) :
    ∃ result left, (monthEndOutcome cfg asOf periodLabel correlationId actorId
        householdId).exec site = (.ok result, left)
      ∧ Leaves site.store left.store householdId (result.status = .completed)
        (expectedTurn cfg site.store asOf periodLabel actorId householdId) := by
  obtain ⟨outcome, left, hbuild, hleaves⟩ := build_leaves cfg asOf householdId
    periodLabel asOf actorId hfresh
  unfold monthEndOutcome runMonthEndReporting
  rw [Work.exec_tryCatch, Work.exec_bind, Work.exec_tryCatch, hbuild]
  cases outcome with
  | ok written => exact ⟨_, left, rfl, hleaves⟩
  | error e => exact ⟨_, left, rfl, hleaves⟩

-- ================================================================ the batch

/-- One household's turn in a batch: its outcome, and the database before
and after. -/
structure Turn where
  householdId : String
  outcome : Except Exc MonthEndHouseholdOutcome
  found : Store
  left : Store

/-- The household's pack was written. -/
def Turn.completed (turn : Turn) : Bool :=
  match turn.outcome with
  | .ok result => result.status = .completed
  | .error _ => false

/-- The tax runs a turn wrote. -/
def Turn.taxRuns (turn : Turn) : List TaxScenarioRunRow :=
  turn.left.taxScenarioRuns.drop turn.found.taxScenarioRuns.length

/-- The audit rows a turn wrote. -/
def Turn.audit (turn : Turn) : List AuditLogRow :=
  turn.left.auditLog.drop turn.found.auditLog.length

/-- The turn as its record. -/
def Turn.record (turn : Turn) : TurnRecord :=
  turnRecord turn.householdId turn.completed turn.taxRuns turn.audit

/-- The turns of the households of a list, one after the other. -/
def turnsFrom (cfg : ReportSetting A R) (asOf : Date)
    (periodLabel : Option String) (correlationId actorId : String) :
    List String → Site A R → List Turn
  | [], _ => []
  | householdId :: rest, site =>
      let (outcome, left) := (monthEndOutcome cfg asOf periodLabel
        correlationId actorId householdId).exec site
      { householdId := householdId
        outcome := outcome
        found := site.store
        left := left.store }
        :: turnsFrom cfg asOf periodLabel correlationId actorId rest left

/-- The rows of a turn are in a store. -/
def Turn.Kept (turn : Turn) (store : Store) : Prop :=
  (∀ row ∈ turn.taxRuns, row ∈ store.taxScenarioRuns)
    ∧ ∀ row ∈ turn.audit, row ∈ store.auditLog

/-- What a run of turns comes to: each as expected, and nothing any of
them wrote taken back. -/
structure TurnsLeave (found left : Store) (turns : List Turn)
    (expected : List TurnRecord) : Prop where
  planes : left.planes = found.planes
  taxRuns : found.taxScenarioRuns <+: left.taxScenarioRuns
  audit : found.auditLog <+: left.auditLog
  records : turns.map Turn.record = expected
  elsewhere : ∀ turn ∈ turns, turn.left.planes = turn.found.planes
  kept : ∀ turn ∈ turns, turn.Kept left

/-- The expected turn reads the planes only. -/
theorem expectedTurn_planes (cfg : ReportSetting A R)
    (h : store'.planes = store.planes) :
    expectedTurn cfg store' = expectedTurn cfg store := by
  funext asOf periodLabel actorId householdId
  unfold expectedTurn finishesReport
  rw [reportPreconditions_planes h, collectRiskHeadline_planes h,
    expectedAudit_planes cfg h]

/-- One turn, as a run of turns. -/
theorem Leaves.turn {found left : Store} {result : MonthEndHouseholdOutcome}
    {expected : TurnRecord} (h : Leaves found left householdId
      (result.status = .completed) expected) :
    let turn : Turn :=
      { householdId := householdId
        outcome := .ok result
        found := found
        left := left }
    turn.record = expected
      ∧ found.taxScenarioRuns <+: left.taxScenarioRuns
      ∧ found.auditLog <+: left.auditLog
      ∧ turn.Kept left := by
  obtain ⟨rows, audit, hrows, haudit, hrecord⟩ := h.rows
  refine ⟨?_, ⟨rows, hrows.symm⟩, ⟨audit, haudit.symm⟩,
    fun row => List.mem_of_mem_drop, fun row => List.mem_of_mem_drop⟩
  unfold Turn.record Turn.taxRuns Turn.audit
  rw [hrows, haudit, List.drop_left, List.drop_left]
  exact hrecord

/-- What a turn wrote stays where the tables only grow. -/
theorem Turn.Kept.later {turn : Turn} (h : turn.Kept store)
    (htax : store.taxScenarioRuns <+: store'.taxScenarioRuns)
    (haudit : store.auditLog <+: store'.auditLog) : turn.Kept store' :=
  ⟨fun row hrow => htax.subset (h.1 row hrow),
   fun row hrow => haudit.subset (h.2 row hrow)⟩

/-- The households of a batch, one after the other. -/
theorem turns_leave (cfg : ReportSetting A R) (asOf : Date)
    (periodLabel : Option String) (correlationId actorId : String)
    (ids : List String) :
    ∀ site : Site A R, FreshSnapshots cfg.env site.store →
      ∃ outcomes left, (ids.mapM (monthEndOutcome cfg asOf periodLabel
          correlationId actorId)).exec site = (.ok outcomes, left)
        ∧ TurnsLeave site.store left.store
          (turnsFrom cfg asOf periodLabel correlationId actorId ids site)
          (ids.map (expectedTurn cfg site.store asOf periodLabel actorId)) := by
  induction ids with
  | nil =>
    intro site _
    rw [List.mapM_nil]
    exact ⟨[], site, rfl, rfl, List.prefix_rfl, List.prefix_rfl, rfl,
      List.forall_mem_nil _, List.forall_mem_nil _⟩
  | cons householdId rest ih =>
    intro site hfresh
    obtain ⟨result, mid, hexec, hleaves⟩ := monthEndOutcome_leaves cfg asOf
      periodLabel correlationId actorId householdId hfresh
    obtain ⟨outcomes, left, hrest, hturns⟩ := ih mid
      (hfresh.later hleaves.planes hleaves.draws)
    obtain ⟨hrecord, htax, haudit, hkept⟩ := hleaves.turn
    rw [expectedTurn_planes cfg hleaves.planes] at hturns
    refine ⟨result :: outcomes, left, ?_, hturns.planes.trans hleaves.planes,
      htax.trans hturns.taxRuns, haudit.trans hturns.audit, ?_, ?_, ?_⟩
    · rw [List.mapM_cons, Work.exec_bind_ok hexec, Work.exec_bind_ok hrest]
      rfl
    · rw [turnsFrom, hexec, List.map_cons, List.map_cons, hturns.records]
      exact congrArg (· :: _) hrecord
    · rw [turnsFrom, hexec]
      intro turn hturn
      rcases List.mem_cons.mp hturn with rfl | hturn
      · exact hleaves.planes
      · exact hturns.elsewhere turn hturn
    · rw [turnsFrom, hexec]
      intro turn hturn
      rcases List.mem_cons.mp hturn with rfl | hturn
      · exact hkept.later hturns.taxRuns hturns.audit
      · exact hturns.kept turn hturn

/-- The turns of `run_month_end_reporting_batch`. -/
def batchTurns (cfg : ReportSetting A R) (today : Date)
    (asOfDate : Option Date) (periodLabel : Option String)
    (householdIds : Option (List String)) (actorId : String)
    (site : Site A R) : List Turn :=
  turnsFrom cfg (resolveReportAsOf site.store today asOfDate) periodLabel
    (cfg.env.freshId "month_end_batch" site.store) actorId
    (householdIds.getD (listHouseholdIds site.store))
    { site with store := site.store.drawn.ticked }

/-- The database the batch commits. -/
def batchCommitted (cfg : ReportSetting A R) (today : Date)
    (asOfDate : Option Date) (periodLabel : Option String)
    (householdIds : Option (List String)) (actorId : String)
    (site : Site A R) : Store :=
  (siteScope (runMonthEndReportingBatch cfg today asOfDate periodLabel
    householdIds actorId) site).2.store

/-- A whole batch leaves one turn a household, in order. -/
theorem batch_leaves (cfg : ReportSetting A R) (today : Date)
    (asOfDate : Option Date) (periodLabel : Option String)
    (householdIds : Option (List String)) (actorId : String)
    (hfresh : FreshSnapshots cfg.env site.store) :
    TurnsLeave site.store (batchCommitted cfg today asOfDate periodLabel
        householdIds actorId site)
      (batchTurns cfg today asOfDate periodLabel householdIds actorId site)
      ((householdIds.getD (listHouseholdIds site.store)).map
        (expectedTurn cfg site.store (resolveReportAsOf site.store today
          asOfDate) periodLabel actorId)) := by
  obtain ⟨outcomes, left, hexec, hturns⟩ := turns_leave cfg
    (resolveReportAsOf site.store today asOfDate) periodLabel
    (cfg.env.freshId "month_end_batch" site.store) actorId
    (householdIds.getD (listHouseholdIds site.store))
    { site with store := site.store.drawn.ticked }
    (hfresh.later rfl (Nat.le_succ _))
  have hcommitted : batchCommitted cfg today asOfDate periodLabel householdIds
      actorId site = left.store.ticked := by
    unfold batchCommitted siteScope Work.scope runMonthEndReportingBatch
    rw [Work.exec_get_bind]
    dsimp only
    rw [exec_onStore_bind_ok (Session.exec_freshId ..),
      exec_onStore_bind_ok (Session.exec_clock ..), Work.exec_bind_ok hexec,
      exec_onStore_bind_ok (Session.exec_clock ..)]
    rfl
  rw [hcommitted]
  exact ⟨hturns.planes, hturns.taxRuns, hturns.audit, hturns.records,
    hturns.elsewhere, hturns.kept⟩

-- ================================================================ isolation

/-- The households of the turns that completed. -/
def completedIds (turns : List Turn) : List String :=
  (turns.filter (·.completed)).map (·.householdId)

/-- Isolated failures: nothing a failed household wrote is committed, and
the completed ones write what they write in a batch without it. -/
structure BatchIsolated (cfg : ReportSetting A R) (today : Date)
    (asOfDate : Option Date) (periodLabel : Option String)
    (householdIds : Option (List String)) (actorId : String)
    (site : Site A R) : Prop where
  elsewhere : ∀ turn ∈ batchTurns cfg today asOfDate periodLabel householdIds
    actorId site, turn.left.planes = turn.found.planes
  failed : ∀ turn ∈ batchTurns cfg today asOfDate periodLabel householdIds
      actorId site, turn.completed = false →
    (∀ row ∈ turn.taxRuns, row ∉ (batchCommitted cfg today asOfDate periodLabel
        householdIds actorId site).taxScenarioRuns)
      ∧ ∀ row ∈ turn.audit, row ∉ (batchCommitted cfg today asOfDate
        periodLabel householdIds actorId site).auditLog
  completed : ((batchTurns cfg today asOfDate periodLabel householdIds actorId
      site).filter (·.completed)).map Turn.record
    = (batchTurns cfg today asOfDate periodLabel (some (completedIds
        (batchTurns cfg today asOfDate periodLabel householdIds actorId site)))
        actorId site).map Turn.record

/-- A household stops at its preconditions or gets through the stages
after them. -/
def StopsOrFinishes (cfg : ReportSetting A R) (store : Store) (asOf : Date)
    (householdId : String) : Prop :=
  ∀ positions performance ipsDrift,
    reportPreconditions cfg.order cfg.planes cfg.settings store householdId
        asOf = .ok (positions, performance, ipsDrift) →
      finishesReport cfg store householdId asOf positions = true

section Expected

variable {periodLabel : Option String} {actorId : String}

/-- The expected turn is the household's own. -/
@[simp] theorem expectedTurn_householdId :
    (expectedTurn cfg store asOf periodLabel actorId householdId).householdId
      = householdId := by
  unfold expectedTurn
  split <;> rfl

/-- Stopping at the preconditions, a household writes nothing. -/
theorem turn_refused (h : StopsOrFinishes cfg store asOf householdId)
    (hfailed : (expectedTurn cfg store asOf periodLabel actorId
      householdId).completed = false) :
    (expectedTurn cfg store asOf periodLabel actorId householdId).taxRuns = []
      ∧ (expectedTurn cfg store asOf periodLabel actorId householdId).audit
        = [] := by
  unfold expectedTurn at hfailed ⊢
  split
  · exact ⟨rfl, rfl⟩
  · rename_i positions performance ipsDrift hpre
    rw [hpre] at hfailed
    exact absurd (h positions performance ipsDrift hpre)
      (Bool.eq_false_iff.mp hfailed)

/-- Failing past them, it has written its tax runs. -/
theorem turn_unfinished (periodLabel : Option String) (actorId : String)
    (h : ¬ StopsOrFinishes cfg store asOf householdId) :
    (expectedTurn cfg store asOf periodLabel actorId householdId).completed
        = false
      ∧ (expectedTurn cfg store asOf periodLabel actorId householdId).taxRuns
        ≠ [] := by
  unfold StopsOrFinishes at h
  push Not at h
  obtain ⟨positions, performance, ipsDrift, hpre, hunfinished⟩ := h
  unfold expectedTurn
  rw [hpre]
  exact ⟨Bool.eq_false_iff.mpr hunfinished, List.cons_ne_nil _ _⟩

end Expected

/-- What the completed households write does not depend on the failed
ones. -/
theorem completed_records {turns : List Turn}
    {expected : String → TurnRecord} {ids : List String}
    (hrecords : turns.map Turn.record = ids.map expected)
    (hids : ∀ householdId, (expected householdId).householdId = householdId) :
    (turns.filter (·.completed)).map Turn.record
      = (completedIds turns).map expected := by
  have hexpected : ∀ turn ∈ turns, turn.record = expected turn.householdId := by
    intro turn hturn
    obtain ⟨householdId, -, heq⟩ := List.mem_map.mp
      (hrecords ▸ List.mem_map_of_mem hturn)
    have hid : turn.householdId = householdId :=
      (congrArg TurnRecord.householdId heq).symm.trans (hids householdId)
    rw [hid, heq]
  unfold completedIds
  rw [List.map_map]
  exact List.map_congr_left fun turn hturn =>
    hexpected turn (List.mem_filter.mp hturn).1

/-- The batch isolates its failures exactly when each household stops at
its preconditions or finishes. -/
theorem month_end_isolated_iff (cfg : ReportSetting A R) (today : Date)
    (asOfDate : Option Date) (periodLabel : Option String)
    (householdIds : Option (List String)) (actorId : String)
    (site : Site A R) (hfresh : FreshSnapshots cfg.env site.store) :
    BatchIsolated cfg today asOfDate periodLabel householdIds actorId site
      ↔ ∀ householdId ∈ householdIds.getD (listHouseholdIds site.store),
        StopsOrFinishes cfg site.store
          (resolveReportAsOf site.store today asOfDate) householdId := by
  have hbatch := batch_leaves cfg today asOfDate periodLabel householdIds
    actorId hfresh
  constructor
  · intro hisolated householdId hmem
    by_contra hunfinished
    obtain ⟨hfailed, hwritten⟩ := turn_unfinished periodLabel actorId
      hunfinished
    obtain ⟨turn, hturn, hrecord⟩ := List.mem_map.mp
      (hbatch.records ▸ List.mem_map_of_mem hmem)
    rw [← hrecord] at hfailed hwritten
    obtain ⟨row, hrow⟩ := List.exists_mem_of_ne_nil turn.taxRuns
      fun hnil => hwritten (congrArg (List.map _) hnil)
    exact (hisolated.failed turn hturn hfailed).1 row hrow
      ((hbatch.kept turn hturn).1 row hrow)
  · intro hcondition
    refine ⟨hbatch.elsewhere, ?_, ?_⟩
    · intro turn hturn hfailed
      obtain ⟨householdId, hmem, hrecord⟩ := List.mem_map.mp
        (hbatch.records ▸ List.mem_map_of_mem hturn)
      have hexpected : (expectedTurn cfg site.store (resolveReportAsOf
          site.store today asOfDate) periodLabel actorId householdId).completed
            = false := (congrArg TurnRecord.completed hrecord).trans hfailed
      obtain ⟨htax, haudit⟩ := turn_refused (hcondition householdId hmem)
        hexpected
      rw [hrecord] at htax haudit
      have htaxRuns : turn.taxRuns = [] := List.map_eq_nil_iff.mp htax
      have hauditRows : turn.audit = [] := List.map_eq_nil_iff.mp haudit
      rw [htaxRuns, hauditRows]
      exact ⟨List.forall_mem_nil _, List.forall_mem_nil _⟩
    · rw [completed_records hbatch.records fun _ => expectedTurn_householdId]
      exact (batch_leaves cfg today asOfDate periodLabel (some (completedIds
        (batchTurns cfg today asOfDate periodLabel householdIds actorId site)))
        actorId hfresh).records.symm

/-- One household reported, one refused for want of positions. -/
theorem month_end_isolated_refused :
    BatchIsolated plainReports 739400 none none (some ["hh_1", "hh_2"])
      "system:month_end_reporting" unreportedSite := by
  refine (month_end_isolated_iff plainReports 739400 none none
    (some ["hh_1", "hh_2"]) "system:month_end_reporting" unreportedSite
    (fun _ _ _ hrow => nomatch hrow)).mpr ?_
  intro householdId _ positions performance ipsDrift _
  unfold finishesReport collectAttribution
  dsimp only
  split <;> rfl

/-- A disk that fills up under the household's first file. -/
def fullDisk : ReportSetting Unit Unit :=
  { plainReports with
    writeFails := fun _ _ => some (.osError "No space left on device") }

/-- The household fails and its tax runs are committed. -/
theorem full_disk_not_isolated :
    ¬ BatchIsolated fullDisk 739400 none none (some ["hh_1"])
      "system:month_end_reporting" unreportedSite := by
  intro hisolated
  have hleft : ((batchTurns fullDisk 739400 none none (some ["hh_1"])
      "system:month_end_reporting" unreportedSite).any fun turn =>
        !turn.completed && turn.taxRuns.any fun row =>
          row ∈ (batchCommitted fullDisk 739400 none none (some ["hh_1"])
            "system:month_end_reporting" unreportedSite).taxScenarioRuns)
      = true := by decide +kernel
  obtain ⟨turn, hturn, hrow⟩ := List.any_eq_true.mp hleft
  rw [Bool.and_eq_true, Bool.not_eq_true'] at hrow
  obtain ⟨hfailed, hrow⟩ := hrow
  obtain ⟨row, hrow, hcommitted⟩ := List.any_eq_true.mp hrow
  exact (hisolated.failed turn hturn hfailed).1 row hrow
    (of_decide_eq_true hcommitted)

end Warehouse
