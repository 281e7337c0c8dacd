/-
The external PDF gate over runs.

`attachExternalPdf` writes a PDF for a snapshot only past both gates
(`keeps_attachExternalPdf`), and every path but one goes through it. The
one that does not is `report pdf`: it renders whatever Markdown it is
pointed at. So a run keeps the gate when each `report pdf` in it renders
a snapshot the gates are open for (`external_pdf_gated`).

# The gates

A snapshot's gates are open when its newest request is approved and no
reconciliation break is open (`Gated`). A write records the store it was
made in, so that the gate of each write is read at the time of that write
and not at the end of the run.

# What is said of a run

Each operation but `report pdf` keeps `Delivers`: the site's writes go on,
each new one past the gates. `report pdf` writes what it was pointed at, so
its steps are asked to meet the condition (`PdfStepsGated`), step by step,
in the state they start in.
-/
import Warehouse.Reporting.Run

namespace Warehouse

open Lib

variable {A R : Type} {cfg : ReportSetting A R} {order : ReportOrder}

-- ================================================================= the gates

/-- The latest report approval of the snapshot is APPROVED, and no break
is open. -/
structure GateOpen (order : ReportOrder) (store : Store)
    (snapshotId : String) : Prop where
  approved : reportApprovalStatus order store snapshotId = some .approved
  reconciled : ∀ row ∈ store.reconciliationBreaks, row.resolved = true

/-- The gates were open when the PDF was written. -/
def PdfWrite.Gated (order : ReportOrder) (write : PdfWrite) : Prop :=
  GateOpen order write.store write.snapshotId

/-- The listing is empty when no break is open: its limit cuts off none of
none. -/
theorem listReconciliationBreaks_isEmpty (order : ReportOrder)
    (store : Store) :
    externalPdfDeliveryBlocked order store = false
      ↔ ∀ row ∈ store.reconciliationBreaks, row.resolved = true := by
  unfold externalPdfDeliveryBlocked listReconciliationBreaks
  simp only [Bool.not_true, Bool.false_or, Bool.not_eq_false',
    List.isEmpty_iff]
  have hperm := (List.perm_insertionSort
    (fun a b : ReconciliationBreakRow => b.openedAt ≤ a.openedAt)
    (order.breaks (store.reconciliationBreaks.filter fun row =>
      !row.resolved))).trans (order.breaksPerm _)
  constructor
  · intro hempty row hrow
    by_contra hopen
    have hmem : row ∈ store.reconciliationBreaks.filter fun row =>
        !row.resolved := by
      rw [List.mem_filter]
      exact ⟨hrow, by simpa using hopen⟩
    have hlisted := hperm.mem_iff.mpr hmem
    rw [List.take_eq_nil_iff] at hempty
    rcases hempty with h | h
    · cases h
    · rw [h] at hlisted
      cases hlisted
  · intro hall
    have hnone : (store.reconciliationBreaks.filter fun row =>
        !row.resolved) = [] := by
      rw [List.filter_eq_nil_iff]
      intro row hrow
      simp [hall row hrow]
    rw [hnone] at hperm ⊢
    rw [hperm.eq_nil, List.take_nil]

-- =============================================================== the writes

/-- The site's PDF writes went on, each new one past the gates. -/
def Delivers (order : ReportOrder) (site site' : Site A R) : Prop :=
  ∃ writes, site'.pdfWrites = site.pdfWrites ++ writes
    ∧ ∀ write ∈ writes, write.Gated order

/-- Work that writes no PDF delivers none. -/
theorem Delivers.of_eq {site site' : Site A R}
    (h : site'.pdfWrites = site.pdfWrites) : Delivers order site site' :=
  ⟨[], by rw [h, List.append_nil], fun _ hwrite => nomatch hwrite⟩

theorem Delivers.refl (site : Site A R) : Delivers order site site :=
  Delivers.of_eq rfl

theorem Delivers.trans (s t u : Site A R) (h : Delivers order s t)
    (h' : Delivers order t u) : Delivers order s u := by
  obtain ⟨writes, hwrites, hgated⟩ := h
  obtain ⟨writes', hwrites', hgated'⟩ := h'
  refine ⟨writes ++ writes', ?_, ?_⟩
  · rw [hwrites', hwrites, List.append_assoc]
  · intro write hwrite
    rcases List.mem_append.mp hwrite with hwrite | hwrite
    · exact hgated write hwrite
    · exact hgated' write hwrite

/-- Rendering a snapshot leaves the database alone, and each of its writes
is of that snapshot before that database. -/
structure Renders (snapshotId : String) (site site' : Site A R) : Prop where
  store : site'.store = site.store
  writes : ∃ writes, site'.pdfWrites = site.pdfWrites ++ writes
    ∧ ∀ write ∈ writes, write = { snapshotId := snapshotId, store := site.store }

theorem Renders.refl (snapshotId : String) (site : Site A R) :
    Renders snapshotId site site :=
  ⟨rfl, [], (List.append_nil _).symm, fun _ hwrite => nomatch hwrite⟩

theorem Renders.trans (snapshotId : String) (s t u : Site A R)
    (h : Renders snapshotId s t) (h' : Renders snapshotId t u) :
    Renders snapshotId s u := by
  obtain ⟨hstore, writes, hwrites, hof⟩ := h
  obtain ⟨hstore', writes', hwrites', hof'⟩ := h'
  refine ⟨hstore'.trans hstore, writes ++ writes', ?_, ?_⟩
  · rw [hwrites', hwrites, List.append_assoc]
  · intro write hwrite
    rcases List.mem_append.mp hwrite with hwrite | hwrite
    · exact hof write hwrite
    · rw [hof' write hwrite, hstore]

/-- Past the gates, rendering delivers. -/
theorem Renders.delivers {snapshotId : String} {site site' : Site A R}
    (h : Renders snapshotId site site')
    (hopen : GateOpen order site.store snapshotId) :
    Delivers order site site' := by
  obtain ⟨-, writes, hwrites, hof⟩ := h
  refine ⟨writes, hwrites, fun write hwrite => ?_⟩
  rw [hof write hwrite]
  exact hopen

-- ================================================================ rendering

/-- A converter's output is of the snapshot rendered. -/
theorem keeps_leaveOutput (outputPath : FilePath) (snapshotId : String)
    (output : Option String) :
    Work.Keeps (Renders snapshotId)
      (leaveOutput outputPath snapshotId output : SiteWork A R PUnit) := by
  cases output with
  | none => exact Work.Keeps.pure (Renders.refl snapshotId) _
  | some bytes =>
    refine Work.Keeps.bind (Renders.trans snapshotId)
      (Work.Keeps.modify fun s => ⟨rfl, [], (List.append_nil _).symm,
        fun _ hwrite => nomatch hwrite⟩) fun _ => ?_
    exact Work.Keeps.modify fun s => ⟨rfl, _, rfl, fun write hwrite =>
      List.mem_singleton.mp hwrite⟩

theorem keeps_tryEngine (tools : PdfTools A R) (mdPath outputPath : FilePath)
    (metadata : List (String × String)) (snapshotId : String)
    (engine : Option String) :
    Work.Keeps (Renders snapshotId) (tryEngine tools mdPath outputPath metadata
      snapshotId engine) := by
  have hrefl := Renders.refl (A := A) (R := R) snapshotId
  have htrans := Renders.trans (A := A) (R := R) snapshotId
  refine Work.Keeps.bind htrans (Work.Keeps.get hrefl) fun site => ?_
  refine Work.Keeps.bind htrans (keeps_leaveOutput ..) fun _ => ?_
  exact Work.Keeps.bind htrans (Work.Keeps.get hrefl) fun site' =>
    Work.Keeps.pure hrefl _

theorem keeps_tryEngines (tools : PdfTools A R) (mdPath outputPath : FilePath)
    (metadata : List (String × String)) (snapshotId : String)
    (engines : List (Option String)) : ∀ errors,
    Work.Keeps (Renders snapshotId) (tryEngines tools mdPath outputPath
      metadata snapshotId engines errors) := by
  induction engines with
  | nil => exact fun errors => Work.Keeps.throw (Renders.refl snapshotId) _
  | cons engine rest ih =>
    intro errors
    refine Work.Keeps.bind (Renders.trans snapshotId) (keeps_tryEngine ..)
      fun outcome => ?_
    cases outcome with
    | ok digest => exact Work.Keeps.pure (Renders.refl snapshotId) _
    | error msg => exact ih _

/-- A rendering writes the snapshot's PDF or none. -/
theorem keeps_renderExternalPdf (tools : PdfTools A R)
    (mdPath outputPath : FilePath) (snapshotId : String) :
    Work.Keeps (Renders snapshotId) (renderExternalPdf tools mdPath outputPath
      snapshotId) := by
  have hrefl := Renders.refl (A := A) (R := R) snapshotId
  refine Work.Keeps.bind (Renders.trans snapshotId) (Work.Keeps.get hrefl)
    fun site => ?_
  cases site.disk.get? mdPath with
  | none => exact Work.Keeps.throw hrefl _
  | some md =>
    dsimp only
    split
    · exact Work.Keeps.throw hrefl _
    · split
      · exact Work.Keeps.throw hrefl _
      · split
        · exact Work.Keeps.throw hrefl _
        · exact keeps_tryEngines ..

/-- Past the gates or not at all. -/
theorem keeps_attachExternalPdf (bundle : ReportBundle A R)
    (written : WrittenHouseholdReport) (householdId : String) (asOf : Date) :
    Work.Keeps (Delivers cfg.order) (attachExternalPdf cfg bundle written
      householdId asOf) := by
  constructor
  intro site
  unfold attachExternalPdf
  rw [Work.exec_bind_ok (Work.exec_get site)]
  dsimp only
  by_cases hblocked : externalPdfDeliveryBlocked cfg.order site.store = true
  · rw [if_pos hblocked]
    exact Delivers.refl site
  · rw [if_neg hblocked]
    by_cases happroved : reportApprovalStatus cfg.order site.store
        bundle.snapshotId ≠ some .approved
    · rw [if_pos happroved]
      exact Delivers.refl site
    · rw [if_neg happroved]
      have hopen : GateOpen cfg.order site.store bundle.snapshotId :=
        ⟨not_not.mp happroved, (listReconciliationBreaks_isEmpty cfg.order
          site.store).mp (Bool.eq_false_iff.mpr hblocked)⟩
      refine Renders.delivers ?_ hopen
      have hrefl := Renders.refl (A := A) (R := R) bundle.snapshotId
      have htrans := Renders.trans (A := A) (R := R) bundle.snapshotId
      refine (Work.Keeps.bind htrans (Work.Keeps.tryCatch htrans
        (keeps_renderExternalPdf ..) fun err => ?_) fun digest =>
          Work.Keeps.bind htrans (Work.Keeps.get hrefl) fun site' => ?_).left
        site
      · cases err <;> exact Work.Keeps.throw hrefl _
      · cases site'.disk.get? (written.outputDir ++ ["external.pdf"]) with
        | none => exact Work.Keeps.throw hrefl _
        | some file =>
          dsimp only
          split
          · exact Work.Keeps.throw hrefl _
          · exact Work.Keeps.pure hrefl _

-- ============================================================== every path

/-- Work on the tables delivers no PDF. -/
theorem keeps_onStore {α : Type} (body : Session α) :
    Work.Keeps (Delivers order) (onStore body : SiteWork A R α) :=
  Work.Keeps.call fun _ => Delivers.of_eq rfl

/-- Writing a report file delivers none. -/
theorem keeps_writeReportFile (householdId : String) (path : FilePath)
    (file : File A R) :
    Work.Keeps (Delivers order) (writeReportFile cfg householdId path file) := by
  unfold writeReportFile
  cases cfg.writeFails householdId (FilePath.name path) with
  | some err => exact Work.Keeps.throw Delivers.refl _
  | none => exact Work.Keeps.modify fun _ => Delivers.of_eq rfl

theorem keeps_writeReportBundle (bundle : ReportBundle A R)
    (outputDir : FilePath) :
    Work.Keeps (Delivers order) (writeReportBundle cfg bundle outputDir) := by
  refine Work.Keeps.bind Delivers.trans (keeps_writeReportFile ..) fun _ => ?_
  refine Work.Keeps.bind Delivers.trans (keeps_writeReportFile ..) fun _ => ?_
  exact Work.Keeps.bind Delivers.trans (keeps_writeReportFile ..) fun _ =>
    Work.Keeps.pure Delivers.refl _

theorem keeps_assembleReportBundle (householdId : String)
    (period : ReportPeriod) (asOf : Date) (positions : List LotPositionView)
    (performance : HouseholdPerformanceReport) (ipsDrift : IpsDriftReport)
    (taxScenarios : List ReportingTaxResult) :
    Work.Keeps (Delivers order) (assembleReportBundle cfg householdId period
      asOf positions performance ipsDrift taxScenarios) := by
  refine Work.Keeps.bind Delivers.trans (Work.Keeps.get Delivers.refl)
    fun _ => ?_
  refine Work.Keeps.bind Delivers.trans (keeps_onStore _) fun _ => ?_
  refine Work.Keeps.bind Delivers.trans (keeps_onStore _) fun _ => ?_
  refine Work.Keeps.bind Delivers.trans (Work.Keeps.lift Delivers.refl _)
    fun _ => ?_
  exact Work.Keeps.bind Delivers.trans (Work.Keeps.lift Delivers.refl _)
    fun _ => Work.Keeps.pure Delivers.refl _

theorem keeps_collectReportBundle (householdId : String)
    (period : ReportPeriod) (asOf : Date) :
    Work.Keeps (Delivers order) (collectReportBundle cfg householdId period
      asOf) := by
  refine Work.Keeps.bind Delivers.trans (Work.Keeps.get Delivers.refl)
    fun _ => ?_
  refine Work.Keeps.bind Delivers.trans (Work.Keeps.lift Delivers.refl _)
    fun _ => ?_
  exact Work.Keeps.bind Delivers.trans (keeps_onStore _) fun _ =>
    keeps_assembleReportBundle ..

/-- A build delivers a PDF only behind the gate. -/
theorem keeps_build (today : Date) (householdId : String)
    (periodLabel : Option String) (asOfDate : Option Date)
    (actorId : String) :
    Work.Keeps (Delivers cfg.order) (buildAndWriteHouseholdReports cfg today
      householdId periodLabel asOfDate actorId) := by
  refine Work.Keeps.bind Delivers.trans (Work.Keeps.get Delivers.refl)
    fun _ => ?_
  refine Work.Keeps.bind Delivers.trans (keeps_collectReportBundle ..)
    fun _ => ?_
  refine Work.Keeps.bind Delivers.trans (keeps_writeReportBundle ..)
    fun _ => ?_
  refine Work.Keeps.bind Delivers.trans (keeps_attachExternalPdf ..)
    fun _ => ?_
  exact Work.Keeps.bind Delivers.trans (keeps_onStore _) fun _ =>
    Work.Keeps.pure Delivers.refl _

theorem keeps_loadSnapshotArtifacts (householdId snapshotId : String) :
    Work.Keeps (Delivers order) (loadSnapshotArtifacts cfg householdId
      snapshotId) := by
  refine Work.Keeps.bind Delivers.trans (Work.Keeps.get Delivers.refl)
    fun site => ?_
  dsimp only
  split
  · exact Work.Keeps.throw Delivers.refl _
  · split
    · exact Work.Keeps.throw Delivers.refl _
    · exact Work.Keeps.pure Delivers.refl _

theorem keeps_approveAndRenderReport
    (householdId snapshotId reviewerId : String) :
    Work.Keeps (Delivers cfg.order) (approveAndRenderReport cfg householdId
      snapshotId reviewerId) := by
  refine Work.Keeps.bind Delivers.trans (keeps_loadSnapshotArtifacts ..)
    fun _ => ?_
  refine Work.Keeps.bind Delivers.trans (keeps_onStore _) fun _ => ?_
  refine Work.Keeps.bind Delivers.trans (keeps_onStore _) fun _ => ?_
  refine Work.Keeps.bind Delivers.trans (keeps_attachExternalPdf ..)
    fun _ => ?_
  exact Work.Keeps.bind Delivers.trans (keeps_onStore _) fun _ =>
    Work.Keeps.pure Delivers.refl _

theorem keeps_monthEndOutcome (asOf : Date) (periodLabel : Option String)
    (correlationId actorId householdId : String) :
    Work.Keeps (Delivers cfg.order) (monthEndOutcome cfg asOf periodLabel
      correlationId actorId householdId) := by
  refine Work.Keeps.tryCatch Delivers.trans (Work.Keeps.bind Delivers.trans
    (Work.Keeps.tryCatch Delivers.trans (keeps_build ..) fun err =>
      Work.Keeps.throw Delivers.refl _) fun _ =>
        Work.Keeps.pure Delivers.refl _) fun err => ?_
  exact Work.Keeps.pure Delivers.refl _

theorem keeps_runMonthEndReportingBatch (today : Date)
    (asOfDate : Option Date) (periodLabel : Option String)
    (householdIds : Option (List String)) (actorId : String) :
    Work.Keeps (Delivers cfg.order) (runMonthEndReportingBatch cfg today
      asOfDate periodLabel householdIds actorId) := by
  refine Work.Keeps.bind Delivers.trans (Work.Keeps.get Delivers.refl)
    fun _ => ?_
  refine Work.Keeps.bind Delivers.trans (keeps_onStore _) fun _ => ?_
  refine Work.Keeps.bind Delivers.trans (keeps_onStore _) fun _ => ?_
  refine Work.Keeps.bind Delivers.trans (Work.Keeps.mapM Delivers.refl
    Delivers.trans _ fun householdId _ => keeps_monthEndOutcome ..)
    fun _ => ?_
  exact Work.Keeps.bind Delivers.trans (keeps_onStore _) fun _ =>
    Work.Keeps.pure Delivers.refl _

/-- A scope commits or rolls back the database; the files stay. -/
theorem delivers_siteScope {α : Type} {body : SiteWork A R α}
    (h : Work.Keeps (Delivers order) body) (site : Site A R) :
    Delivers order site (siteScope body site).2 := by
  have hleft := h.left site
  unfold siteScope Work.scope
  cases hexec : body.exec site with
  | mk outcome left =>
    rw [hexec] at hleft
    cases outcome with
    | ok a => exact hleft
    | error e => exact hleft

-- ==================================================================== runs

/-- `report pdf` is pointed at a snapshot the gates are open for, if at
any. -/
def PdfStepGated (cfg : ReportSetting A R) (site : Site A R) : ReportOp → Prop
  | .pdf target => ∀ mdFile snapshotId,
      resolvePdfTarget site.disk target = .ok (mdFile, snapshotId) →
        GateOpen cfg.order site.store snapshotId
  | _ => True

/-- One operation keeps the gate. -/
theorem execReport_delivers {site : Site A R} {op : ReportOp}
    (hgated : PdfStepGated cfg site op) :
    Delivers cfg.order site (execReport cfg site op) := by
  cases op with
  | build => exact delivers_siteScope (keeps_build ..) site
  | monthEnd =>
    exact delivers_siteScope (keeps_runMonthEndReportingBatch ..) site
  | createApproval => exact delivers_siteScope (keeps_onStore _) site
  | decide => exact delivers_siteScope (keeps_onStore _) site
  | reconcile => exact delivers_siteScope (keeps_onStore _) site
  | resolveBreak => exact delivers_siteScope (keeps_onStore _) site
  | approve =>
    exact delivers_siteScope (keeps_approveAndRenderReport ..) site
  | pdf target =>
    show Delivers cfg.order site ((reportPdf cfg target).exec site).2
    unfold reportPdf
    rw [Work.exec_bind_ok (Work.exec_get site)]
    cases htarget : resolvePdfTarget site.disk target with
    | error err => exact Delivers.refl site
    | ok resolved =>
      obtain ⟨mdFile, snapshotId⟩ := resolved
      exact ((keeps_renderExternalPdf cfg.tools mdFile _ snapshotId).left
        site).delivers (hgated mdFile snapshotId htarget)

/-- Each `report pdf` of the run meets the condition where it runs. -/
def PdfStepsGated (cfg : ReportSetting A R) : Site A R → List ReportOp → Prop
  | _, [] => True
  | site, op :: rest => PdfStepGated cfg site op
      ∧ PdfStepsGated cfg (execReport cfg site op) rest

/-- In a run whose `report pdf` steps all meet the condition, every
external PDF written was written past both gates. -/
theorem external_pdf_gated (cfg : ReportSetting A R) (ops : List ReportOp) :
    ∀ site : Site A R, (∀ write ∈ site.pdfWrites, write.Gated cfg.order) →
      PdfStepsGated cfg site ops →
      ∀ write ∈ (siteAfter cfg site ops).pdfWrites, write.Gated cfg.order := by
  induction ops with
  | nil => exact fun site hbefore _ => hbefore
  | cons op rest ih =>
    rintro site hbefore ⟨hstep, hrest⟩
    obtain ⟨writes, hwrites, hgated⟩ := execReport_delivers hstep
    refine ih (execReport cfg site op) ?_ hrest
    intro write hwrite
    rw [hwrites, List.mem_append] at hwrite
    rcases hwrite with hwrite | hwrite
    · exact hbefore write hwrite
    · exact hgated write hwrite

-- ============================================================ concrete sites

/-- An IPS without targets, reports without limitations, and a Pandoc that
renders at its first engine. -/
def plainReports : ReportSetting Unit Unit where
  env := Env.counting
  order := ReportOrder.insertion
  planes :=
    { loadIps := fun _ householdId => .ok (some
        { ipsId := "ips_1"
          householdId := householdId
          version := 1
          effectiveDate := "2026-01-01"
          allocationTargets := []
          concentrationFraction := isFraction_quarter
          liquidityFraction := isFraction_none
          turnoverFraction := isFraction_none })
      evaluateAttribution := fun _ _ _ => .ok ()
      attributionLimitations := fun _ => []
      evaluateHouseholdRisk := fun _ _ => .ok ()
      riskLimitationNotes := fun _ => []
      renderMarkdown := fun bundle _ => "# Report " ++ bundle.snapshotId
      dumpJson := fun bundle => bundle.snapshotId }
  settings := {}
  tools :=
    { pandocInstalled := true
      runPandoc := fun _ _ _ _ => { output := some "%PDF-1.7" }
      sha256 := id }
  writeFails _ _ := none

/-- One household with one marked lot, and no report yet. -/
def unreportedSite : Site Unit Unit where
  store :=
    { entities := [
        { entityId := "acct_1", name := "Taxable", householdId := some "hh_1" }]
      securities := [{ securityId := "sec_vti", ticker := some "VTI" }]
      lots := [
        { lotId := "lot_1", accountId := "acct_1", securityId := "sec_vti",
          quantity := 10, costBasisPerShare := 80, acquisitionDate := 739000 }]
      marketPrices := [
        { securityId := "sec_vti", asOfDate := 739400, price := 100 }] }
  disk := Dict.empty

/-- `report write` and `report approve`. -/
def approvedRun : List ReportOp :=
  [.build 739400 "hh_1" none none "cli:report_write",
   .approve "hh_1" "rpt_11" "advisor:demo"]

/-- A report approved, rendered by its approval and once more by
`report pdf`: both PDFs past the gates. -/
theorem external_pdf_gated_approved :
    (siteAfter plainReports unreportedSite (approvedRun
        ++ [.pdf (.household "hh_1" none)])).pdfWrites.length = 2
      ∧ ∀ write ∈ (siteAfter plainReports unreportedSite (approvedRun
          ++ [.pdf (.household "hh_1" none)])).pdfWrites,
        write.Gated plainReports.order := by
  refine ⟨by decide +kernel, external_pdf_gated plainReports _ unreportedSite
    (fun _ hwrite => nomatch hwrite) ⟨trivial, trivial, ?_, trivial⟩⟩
  intro mdFile snapshotId htarget
  have hresolved : (resolvePdfTarget (siteAfter plainReports unreportedSite
      approvedRun).disk (.household "hh_1" none)).map Prod.snd
        = .ok "rpt_11" := by decide +kernel
  have hsnapshot : snapshotId = "rpt_11" := by
    have hsnd := congrArg (Except.map Prod.snd) htarget
    exact Except.ok.inj (hsnd.symm.trans hresolved)
  rw [hsnapshot]
  constructor
  · decide +kernel
  · decide +kernel

/-- `report write`, then `report pdf` on the latest snapshot: the PDF is
written with no approval on record. -/
theorem report_pdf_ungated :
    ¬ ∀ write ∈ (siteAfter plainReports unreportedSite
        [.build 739400 "hh_1" none none "cli:report_write",
         .pdf (.household "hh_1" none)]).pdfWrites,
      write.Gated plainReports.order := by
  intro hgated
  have hwritten : (siteAfter plainReports unreportedSite
      [.build 739400 "hh_1" none none "cli:report_write",
       .pdf (.household "hh_1" none)]).pdfWrites.map
    (fun write => reportApprovalStatus plainReports.order write.store
      write.snapshotId) = [none] := by decide +kernel
  obtain ⟨write, hwrite, hnone⟩ := List.mem_map.mp
    (hwritten ▸ List.mem_singleton_self none)
  have happroved := (hgated write hwrite).approved
  rw [hnone] at happroved
  cases happroved

end Warehouse
