/-
Write report bundles to disk and audit the build
(`reporting/report_writer/collect.py`, `writer.py`), and the `report`
commands (`cli.py`).

A build collects its bundle before it writes a file, writes two Markdown
packs and the bundle's JSON, and attaches a PDF where the gates let it; the
audit row is written last. Files are not the database's: what a raising
build has written to disk stays there, whatever becomes of its rows.
-/
import Warehouse.Reporting.Pdf

namespace Warehouse

open Lib

variable {A R : Type}

/-- What a report is made with: the outside of the database, the engine's
orders, the other planes, the settings, the PDF tools, and what the file
system answers when a household's report file is written. -/
structure ReportSetting (A R : Type) where
  env : Env
  order : ReportOrder
  planes : Planes A R
  settings : Settings
  tools : PdfTools A R
  writeFails : String → String → Option Exc

/-- `runs/reports/{household_id}`. -/
def householdReportsDir (householdId : String) : FilePath := [householdId]

/-- The files named `name` below `dir`. -/
def glob (disk : Disk A R) (dir : FilePath) (name : String) :
    List (FilePath × File A R) :=
  disk.entries.filter fun (path, _) =>
    dir.isPrefixOf path ∧ path.name = name ∧ dir ≠ path

/-- Frozen write result — paths to rendered report artifacts. -/
structure WrittenHouseholdReport where
  snapshotId : String
  householdId : String
  periodLabel : String
  asOfDate : Date
  generatedAt : DateTime
  outputDir : FilePath
  internalMarkdownPath : FilePath
  externalMarkdownPath : FilePath
  bundleJsonPath : FilePath
  externalPdfPath : Option FilePath := none
  externalPdfSha256 : Option String := none
  deriving DecidableEq

-- ================================================================== collect

/-- One candidate of `find_prior_bundle`'s loop. -/
def laterPrior (asOf : Date) (best : Option (ReportBundle A R))
    (entry : FilePath × File A R) : Option (ReportBundle A R) :=
  match entry.2.bundle with
  | none => best
  | some prior =>
      if prior.asOfDate ≥ asOf then best
      else
        match best with
        | none => some prior
        | some top =>
            if top.asOfDate < prior.asOfDate ∨ top.asOfDate = prior.asOfDate
              ∧ top.generatedAt < prior.generatedAt then some prior
            else best

/-- Most recent prior bundle for a household — walk-forward safe. -/
def findPriorBundle (disk : Disk A R) (householdId : String) (asOf : Date) :
    Option (ReportBundle A R) :=
  (glob disk (householdReportsDir householdId) "bundle.json").foldl
    (laterPrior asOf) none

/-- The planes a pack draws on. -/
def dataSources : List String :=
  ["reporting.performance:build_household_performance_report",
   "decision.ips:build_ips_drift_report",
   "reporting.tax:run_reporting_tax_scenario",
   "execution.oms:list_staged_orders",
   "execution.recon:list_reconciliation_breaks",
   "decision.approval:list_approval_requests",
   "decision.analyst:evaluate_attribution",
   "research.risk:evaluate_risk"]

/-- What `collect_report_bundle` does once the tax scenarios are in. -/
def assembleReportBundle (cfg : ReportSetting A R) (householdId : String)
    (period : ReportPeriod) (asOf : Date) (positions : List LotPositionView)
    (performance : HouseholdPerformanceReport) (ipsDrift : IpsDriftReport)
    (taxScenarios : List ReportingTaxResult) :
    SiteWork A R (ReportBundle A R) := do
  let site ← get
  let stagedOrders :=
    listStagedOrders cfg.order.toRowOrder site.store (some householdId)
  let openBreaks := listReconciliationBreaks cfg.order site.store true
  let pendingCount := pendingApprovalCount cfg.order site.store householdId
  let snapshotId ← onStore (Session.freshId cfg.env "rpt")
  let generatedAt ← onStore (Session.clock cfg.env)
  let attribution ← liftExcept
    (collectAttribution cfg.planes positions householdId asOf)
  let riskHeadline ← liftExcept
    (collectRiskHeadline cfg.planes site.store householdId)
  let prior := findPriorBundle site.disk householdId asOf
  let comparison := prior.map fun prior =>
    buildComparison prior asOf (some performance) (some ipsDrift)
  let nonAdjacentLabel := comparison.bind fun comparison =>
    if comparison.isAdjacent then none
    else some (isoformat comparison.priorAsOfDate)
  return {
    snapshotId := snapshotId
    householdId := householdId
    period := period
    asOfDate := asOf
    generatedAt := generatedAt
    performance := some performance
    ipsDrift := some ipsDrift
    taxScenarios := taxScenarios
    stagedOrders := stagedOrders
    pendingApprovalCount := pendingCount
    openBreaks := openBreaks
    limitations := buildLimitations snapshotId asOf taxScenarios openBreaks
      pendingCount
      ((attribution.map cfg.planes.attributionLimitations).getD [])
      (cfg.planes.riskLimitationNotes riskHeadline)
      attribution.isNone prior.isNone nonAdjacentLabel
    dataSources := dataSources
    attribution := attribution
    riskHeadline := some riskHeadline
    comparison := comparison }

/-- Assemble a frozen terrain map from registered plane outputs. -/
def collectReportBundle (cfg : ReportSetting A R) (householdId : String)
    (period : ReportPeriod) (asOf : Date) :
    SiteWork A R (ReportBundle A R) := do
  let store := (← get).store
  let (positions, performance, ipsDrift) ← liftExcept (reportPreconditions
    cfg.order cfg.planes cfg.settings store householdId asOf)
  let taxScenarios ← onStore
    (collectTaxScenarios cfg.env cfg.order cfg.settings householdId asOf)
  assembleReportBundle cfg householdId period asOf positions performance
    ipsDrift taxScenarios

-- ==================================================================== write

/-- Default as-of: latest market marks, else today. -/
def resolveReportAsOf (store : Store) (today : Date) (asOfDate : Option Date) :
    Date :=
  match asOfDate with
  | some asOf => asOf
  | none => ((store.marketPrices.map (·.asOfDate)).max?).getD today

/-- The period asked for, else the month end. -/
def resolvePeriod (asOf : Date) (periodLabel : Option String) :
    ReportPeriod :=
  match periodLabel with
  | some label => { label := label, endDate := some asOf }
  | none => .monthEnd asOf

/-- A report file written, or the file system's exception. -/
def writeReportFile (cfg : ReportSetting A R) (householdId : String)
    (path : FilePath) (file : File A R) : SiteWork A R PUnit := do
  match cfg.writeFails householdId path.name with
  | some err => throw err
  | none => writeFile path file

/-- Render and persist internal/external Markdown plus bundle JSON. -/
def writeReportBundle (cfg : ReportSetting A R) (bundle : ReportBundle A R)
    (outputDir : FilePath) : SiteWork A R WrittenHouseholdReport := do
  writeReportFile cfg bundle.householdId (outputDir ++ ["internal.md"])
    { contents := cfg.planes.renderMarkdown bundle .internal }
  writeReportFile cfg bundle.householdId (outputDir ++ ["external.md"])
    { contents := cfg.planes.renderMarkdown bundle .external }
  writeReportFile cfg bundle.householdId (outputDir ++ ["bundle.json"])
    { contents := cfg.planes.dumpJson bundle, bundle := some bundle }
  return {
    snapshotId := bundle.snapshotId
    householdId := bundle.householdId
    periodLabel := bundle.period.label
    asOfDate := bundle.asOfDate
    generatedAt := bundle.generatedAt
    outputDir := outputDir
    internalMarkdownPath := outputDir ++ ["internal.md"]
    externalMarkdownPath := outputDir ++ ["external.md"]
    bundleJsonPath := outputDir ++ ["bundle.json"] }

/-- A `ReportWriterError` under another text, any other exception as it
is. -/
def rethrowReportWriterError {α : Type} (text : String → String) (err : Exc) :
    SiteWork A R α :=
  match err with
  | .reportWriterError msg => throw (.reportWriterError (text msg))
  | err => throw err

/-- Render external PDF when recon allows and an advisor has approved. -/
def attachExternalPdf (cfg : ReportSetting A R) (bundle : ReportBundle A R)
    (written : WrittenHouseholdReport) (householdId : String) (asOf : Date) :
    SiteWork A R (WrittenHouseholdReport × List (String × String)) := do
  let store := (← get).store
  if externalPdfDeliveryBlocked cfg.order store then
    return (written, [("external_pdf_blocked", "true"),
      ("reason", "open_reconciliation_breaks")])
  else if reportApprovalStatus cfg.order store bundle.snapshotId
      ≠ some .approved then
    return (written, [("external_pdf_blocked", "true"),
      ("reason", "awaiting_advisor_approval")])
  else
    let pdfPath := written.outputDir ++ ["external.pdf"]
    let digest ← tryCatch
      (renderExternalPdf cfg.tools written.externalMarkdownPath pdfPath
        bundle.snapshotId)
      (rethrowReportWriterError fun msg =>
        "External PDF render failed for household_id=" ++ householdId
          ++ " snapshot_id=" ++ bundle.snapshotId ++ " as_of="
          ++ isoformat asOf ++ ": " ++ msg)
    match (← get).disk.get? pdfPath with
    | none => throw (.fileNotFoundError pdfPath.text)
    | some file =>
      let onDisk := cfg.tools.sha256 file.contents
      if onDisk ≠ digest then
        throw (.reportWriterError ("PDF hash mismatch for household_id="
          ++ householdId ++ " snapshot_id=" ++ bundle.snapshotId
          ++ ": render=" ++ digest ++ ", disk=" ++ onDisk))
      else
        return ({ written with
            externalPdfPath := some pdfPath
            externalPdfSha256 := some digest },
          [("external_pdf_path", pdfPath.text),
           ("external_pdf_sha256", digest)])

/-- The audit details of a build. -/
def buildDetails (householdId : String) (periodLabel : String)
    (written : WrittenHouseholdReport) (bundle : ReportBundle A R)
    (pdfExtra : List (String × String)) : List (String × String) :=
  [("snapshot_id", bundle.snapshotId), ("household_id", householdId),
   ("output_dir", written.outputDir.text),
   ("internal_markdown_path", written.internalMarkdownPath.text),
   ("external_markdown_path", written.externalMarkdownPath.text),
   ("bundle_json_path", written.bundleJsonPath.text),
   ("period_label", periodLabel)] ++ pdfExtra
  ++ (if bundle.attribution.isSome then [("attribution_computed", "true")]
    else [])
  ++ (if bundle.riskHeadline.isSome then [("risk_headline_computed", "true")]
    else [])

/-- Collect bundle, render Markdown artifacts, PDF, and write audit row. -/
def buildAndWriteHouseholdReports (cfg : ReportSetting A R) (today : Date)
    (householdId : String) (periodLabel : Option String := none)
    (asOfDate : Option Date := none)
    (actorId : String := "system:report_writer") :
    SiteWork A R WrittenHouseholdReport := do
  let asOf := resolveReportAsOf (← get).store today asOfDate
  let period := resolvePeriod asOf periodLabel
  let bundle ← collectReportBundle cfg householdId period asOf
  let outputDir := householdReportsDir householdId
    ++ [period.label, bundle.snapshotId]
  let written ← writeReportBundle cfg bundle outputDir
  let (written, pdfExtra) ←
    attachExternalPdf cfg bundle written householdId asOf
  onStore (Session.writeAudit cfg.env actorId "report_build"
    "household_report" bundle.snapshotId (some householdId)
    (buildDetails householdId period.label written bundle pdfExtra))
  return written

-- ================================================================== approve

/-- Locate a written report by snapshot and load its frozen bundle. -/
def loadSnapshotArtifacts (cfg : ReportSetting A R) (householdId
    snapshotId : String) :
    SiteWork A R (WrittenHouseholdReport × ReportBundle A R) := do
  let site ← get
  let hhDir := householdReportsDir householdId
  let hits := (glob site.disk hhDir "bundle.json").filter fun (path, _) =>
    FilePath.name path.parent = snapshotId
  match hits with
  | [] => throw (.reportWriterError ("No report artifacts for household_id="
      ++ householdId ++ " snapshot_id=" ++ snapshotId ++ " under "
      ++ hhDir.text))
  | (bundlePath, file) :: _ =>
    match file.bundle with
    | none => throw (.validationError "ReportBundle" bundlePath.text)
    | some bundle =>
      let snapshotDir := bundlePath.parent
      let pdfPath := snapshotDir ++ ["external.pdf"]
      let pdf := site.disk.get? pdfPath
      return ({
          snapshotId := bundle.snapshotId
          householdId := bundle.householdId
          periodLabel := bundle.period.label
          asOfDate := bundle.asOfDate
          generatedAt := bundle.generatedAt
          outputDir := snapshotDir
          internalMarkdownPath := snapshotDir ++ ["internal.md"]
          externalMarkdownPath := snapshotDir ++ ["external.md"]
          bundleJsonPath := bundlePath
          externalPdfPath := pdf.map fun _ => pdfPath
          externalPdfSha256 := pdf.map fun file =>
            cfg.tools.sha256 file.contents }, bundle)

/-- Record advisor sign-off on a report snapshot, then render its PDF. -/
def approveAndRenderReport (cfg : ReportSetting A R) (householdId snapshotId
    reviewerId : String) : SiteWork A R WrittenHouseholdReport := do
  let (written, bundle) ← loadSnapshotArtifacts cfg householdId snapshotId
  let request ← onStore (Work.call fun store =>
    let (request, store) :=
      createReportApprovalRequest cfg.env store snapshotId householdId
    (.ok request, store))
  let _ ← onStore (Work.attempt fun store =>
    updateApprovalStatus cfg.env store request.requestId .approved reviewerId)
  let (written, pdfExtra) ←
    attachExternalPdf cfg bundle written householdId bundle.asOfDate
  onStore (Session.writeAudit cfg.env reviewerId "report_approved"
    "household_report" snapshotId (some householdId)
    ([("snapshot_id", snapshotId), ("household_id", householdId),
      ("approval_request_id", request.requestId),
      ("reviewer_id", reviewerId)] ++ pdfExtra))
  return written

-- =============================================================== report pdf

/-- One candidate of `find_latest_written_report`'s loop. -/
def laterWritten
    (best : Option (FilePath × ReportBundle A R))
    (entry : FilePath × File A R) : Option (FilePath × ReportBundle A R) :=
  match entry.2.bundle with
  | none => best
  | some bundle =>
      match best with
      | none => some (entry.1, bundle)
      | some (_, top) =>
          if top.generatedAt < bundle.generatedAt then some (entry.1, bundle)
          else best

/-- The most recently generated report for a household, if any. -/
def findLatestWrittenReport (disk : Disk A R) (householdId : String) :
    Option (FilePath × ReportBundle A R) :=
  (glob disk (householdReportsDir householdId) "bundle.json").foldl
    laterWritten none

/-- What `report pdf` is told to render: a path, or a household's latest
or named snapshot. -/
inductive PdfTarget where
  | path (mdPath : FilePath)
  | household (householdId : String) (snapshot : Option String)
  deriving DecidableEq

/-- The Markdown file and the snapshot id `report pdf` renders, or its
complaint. -/
def resolvePdfTarget (disk : Disk A R) :
    PdfTarget → Except Exc (FilePath × String)
  | .path mdPath => .ok (mdPath, FilePath.name mdPath.parent)
  | .household householdId snapshot =>
      match findLatestWrittenReport disk householdId with
      | none => .error (.runtimeError
          ("No report artifacts for household " ++ householdId))
      | some (bundlePath, bundle) =>
          match snapshot with
          | none => .ok (FilePath.parent bundlePath ++ ["external.md"],
              bundle.snapshotId)
          | some snapshot =>
              if bundle.snapshotId = snapshot then
                .ok (FilePath.parent bundlePath ++ ["external.md"], snapshot)
              else
                let candidate := householdReportsDir householdId
                  ++ [bundle.period.label, snapshot, "external.md"]
                if (disk.get? candidate).isSome then .ok (candidate, snapshot)
                else
                  let globbed := (glob disk (householdReportsDir householdId)
                    "external.md").filter fun (path, _) =>
                      FilePath.name path.parent = snapshot
                  match globbed with
                  | [] => .error (.runtimeError ("No external.md for snapshot "
                      ++ snapshot ++ " under " ++ householdId))
                  | (path, _) :: _ => .ok (path, snapshot)

/-- `warehouse report pdf`: render external Markdown to PDF. -/
def reportPdf (cfg : ReportSetting A R) (target : PdfTarget) :
    SiteWork A R String := do
  let (mdFile, snapshotId) ←
    liftExcept (resolvePdfTarget (← get).disk target)
  renderExternalPdf cfg.tools mdFile
    (FilePath.parent mdFile ++ ["external.pdf"]) snapshotId

end Warehouse
