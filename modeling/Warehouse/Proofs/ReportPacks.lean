/-
The report files over runs: every pack sits where its report says.

A build writes its files under its own household, period and snapshot
(`keepsPacks_build`), a pack before its bundle; no other operation writes
either (`execReport_packed`). So `report pdf`, asked for a household, finds
a pack of the snapshot it resolved to, and reaches Pandoc with that pack's
own front matter (`report_pdf_renders_own_pack`).

# Names

The source joins ids and labels into paths, and puts the snapshot that is
asked for into a glob. A path here is the list of its components, so all
names are plain (`PlainName`): one component each, with nothing in it that a
glob reads otherwise. Ids that are drawn are plain, and so is the label of a
month (`plainName_monthEnd`); what a caller gives has to be
(`PlainOp`, `PlainTarget`).
-/
import Warehouse.Proofs.FrontMatter
import Warehouse.Proofs.MonthEnd

namespace Warehouse

open Lib

variable {A R : Type} {cfg : ReportSetting A R} {site : Site A R}

-- ==================================================================== names

/-- A character that a path keeps inside a component, a glob matches with
itself and `splitlines` does not break at. -/
def nameChar (c : Char) : Bool :=
  c ∉ ['/', '*', '?', '['] ∧ c.toNat ≠ 0 ∧ lineBreak c = false

/-- A text that names one entry of a directory, in a path and in a glob: not
dots alone, and no character that either reads otherwise. -/
structure PlainName (s : String) : Prop where
  notDots : ∃ c ∈ s.toList, c ≠ '.'
  chars : ∀ c ∈ s.toList, nameChar c = true

instance (s : String) : Decidable (PlainName s) :=
  -- the text's own characters are looked at, not all there are
  @decidable_of_iff _ ((∃ c ∈ s.toList, c ≠ '.')
      ∧ ∀ c ∈ s.toList, nameChar c = true)
    ⟨fun h => ⟨h.1, h.2⟩, fun h => ⟨h.notDots, h.chars⟩⟩
    (@instDecidableAnd _ _ (List.decidableBEx _ s.toList)
      (List.decidableBAll _ s.toList))

/-- A plain name with more characters of names is plain. -/
theorem PlainName.append {label s : String} (hlabel : PlainName label)
    (hs : ∀ c ∈ s.toList, nameChar c = true) : PlainName (label ++ s) := by
  obtain ⟨c, hc, hne⟩ := hlabel.notDots
  refine ⟨⟨c, ?_, hne⟩, fun c' hc' => ?_⟩
  · rw [String.toList_append]
    exact List.mem_append_left _ hc
  · rw [String.toList_append, List.mem_append] at hc'
    rcases hc' with hc' | hc'
    · exact hlabel.chars c' hc'
    · exact hs c' hc'

theorem PlainName.oneLine {s : String} (h : PlainName s) :
    OneLine s.toList := by
  intro c hc
  have hchar := h.chars c hc
  unfold nameChar at hchar
  rw [decide_eq_true_eq] at hchar
  exact hchar.2.2

theorem nameChar_of_isDigit {c : Char} (h : c.isDigit = true) :
    nameChar c = true := by
  have hrange := h
  unfold Char.isDigit at hrange
  rw [Bool.and_eq_true, decide_eq_true_iff, decide_eq_true_iff] at hrange
  have hlow : 48 ≤ c.toNat := hrange.1
  unfold nameChar
  rw [decide_eq_true_eq]
  refine ⟨?_, by omega, lineBreak_of_isDigit h⟩
  simp only [List.mem_cons, List.not_mem_nil, or_false]
  rintro (rfl | rfl | rfl | rfl) <;> simp at h

/-- The label a month has by default. -/
theorem plainName_monthEnd (asOf : Date) :
    PlainName (ReportPeriod.monthEnd asOf).label := by
  have hlabel : PlainName "month-end-" := by decide
  refine hlabel.append fun c hc => ?_
  rcases mem_isoformat hc with hdigit | rfl
  · exact nameChar_of_isDigit hdigit
  · rfl

-- ================================================================= the disk

/-- The directory of a report. -/
def reportDir (bundle : ReportBundle A R) : FilePath :=
  [bundle.householdId, bundle.period.label, bundle.snapshotId]

/-- A text without blanks. -/
def Unspaced (s : String) : Prop := ∀ c ∈ s.toList, isSpace c = false

instance (s : String) : Decidable (Unspaced s) :=
  List.decidableBAll _ s.toList

/-- A file is the external pack of a report, in its directory; the
directory's path is its three names. -/
structure IsPack (render : ReportBundle A R → ReportAudience → String)
    (path : FilePath) (file : File A R) (bundle : ReportBundle A R) :
    Prop where
  path : path = reportDir bundle ++ ["external.md"]
  contents : file.contents = render bundle .external
  named : ∀ name ∈ reportDir bundle, PlainName name
  snapshot : Unspaced bundle.snapshotId

/-- Every pack is one of its own report, and every bundle has a pack. -/
structure Packed (render : ReportBundle A R → ReportAudience → String)
    (disk : Disk A R) : Prop where
  packs : ∀ path file, disk.get? path = some file →
    path.name = "external.md" → ∃ bundle, IsPack render path file bundle
  bundles : ∀ path file, disk.get? path = some file →
    path.name = "bundle.json" → ∃ bundle, file.bundle = some bundle
      ∧ path = reportDir bundle ++ ["bundle.json"]
      ∧ (disk.get? (reportDir bundle ++ ["external.md"])).isSome

variable {render : ReportBundle A R → ReportAudience → String}
  {disk : Disk A R}

theorem packed_empty : Packed render (Dict.empty : Disk A R) where
  packs _ _ h := by cases h
  bundles _ _ h := by cases h

/-- A file on disk stays on disk. -/
theorem isSome_set {path : FilePath} (h : (disk.get? path).isSome)
    (path' : FilePath) (file : File A R) :
    ((disk.set path' file).get? path).isSome := by
  rw [Dict.get?_set]
  split
  · rfl
  · exact h

/-- Other files are other files. -/
theorem Packed.set_other (h : Packed render disk) (path : FilePath)
    (hpack : path.name ≠ "external.md") (hbundle : path.name ≠ "bundle.json")
    (file : File A R) : Packed render (disk.set path file) := by
  constructor
  · intro path' file' hget hname
    rw [Dict.get?_set, if_neg] at hget
    · exact h.packs path' file' hget hname
    · rintro rfl
      exact hpack hname
  · intro path' file' hget hname
    rw [Dict.get?_set, if_neg] at hget
    · obtain ⟨bundle, hfile, hpath, hsome⟩ := h.bundles path' file' hget hname
      exact ⟨bundle, hfile, hpath, isSome_set hsome path file⟩
    · rintro rfl
      exact hbundle hname

/-- A pack goes into its report's directory. -/
theorem Packed.set_pack (h : Packed render disk) {path : FilePath}
    {file : File A R} {bundle : ReportBundle A R}
    (hpack : IsPack render path file bundle) :
    Packed render (disk.set path file) := by
  constructor
  · intro path' file' hget hname
    rw [Dict.get?_set] at hget
    by_cases heq : path' = path
    · rw [if_pos heq] at hget
      cases hget
      exact ⟨bundle, by rw [heq]; exact hpack⟩
    · rw [if_neg heq] at hget
      exact h.packs path' file' hget hname
  · intro path' file' hget hname
    rw [Dict.get?_set, if_neg] at hget
    · obtain ⟨bundle', hfile, hpath, hsome⟩ := h.bundles path' file' hget hname
      exact ⟨bundle', hfile, hpath, isSome_set hsome path file⟩
    · rintro rfl
      rw [hpack.path, name_append] at hname
      exact absurd hname (by decide)

/-- A bundle goes beside its pack. -/
theorem Packed.set_bundle (h : Packed render disk) {file : File A R}
    {bundle : ReportBundle A R} (hfile : file.bundle = some bundle)
    (hpack : (disk.get? (reportDir bundle ++ ["external.md"])).isSome) :
    Packed render (disk.set (reportDir bundle ++ ["bundle.json"]) file) := by
  constructor
  · intro path' file' hget hname
    rw [Dict.get?_set, if_neg] at hget
    · exact h.packs path' file' hget hname
    · rintro rfl
      rw [name_append] at hname
      exact absurd hname (by decide)
  · intro path' file' hget hname
    rw [Dict.get?_set] at hget
    by_cases heq : path' = reportDir bundle ++ ["bundle.json"]
    · rw [if_pos heq] at hget
      cases hget
      exact ⟨bundle, hfile, heq, isSome_set hpack _ file⟩
    · rw [if_neg heq] at hget
      obtain ⟨bundle', hfile', hpath, hsome⟩ := h.bundles path' file' hget hname
      exact ⟨bundle', hfile', hpath, isSome_set hsome _ file⟩

-- ================================================================ the writes

/-- The packs and bundles are where they belong if they were. -/
def KeepsPacks (render : ReportBundle A R → ReportAudience → String)
    (site site' : Site A R) : Prop :=
  Packed render site.disk → Packed render site'.disk

theorem KeepsPacks.refl (site : Site A R) : KeepsPacks render site site := id

theorem KeepsPacks.trans (s t u : Site A R) (h : KeepsPacks render s t)
    (h' : KeepsPacks render t u) : KeepsPacks render s u := h' ∘ h

/-- Work on the tables touches no file. -/
theorem keepsPacks_onStore {α : Type} (body : Session α) :
    Work.Keeps (KeepsPacks render) (onStore body : SiteWork A R α) :=
  Work.Keeps.call fun _ => id

/-- A write that fails leaves the disk. -/
theorem writeReportFile_fails {householdId name : String} {err : Exc}
    (h : cfg.writeFails householdId name = some err) (dir : FilePath)
    (file : File A R) (site : Site A R) :
    (writeReportFile cfg householdId (dir ++ [name]) file).exec site
      = (.error err, site) := by
  unfold writeReportFile
  rw [name_append, h]
  rfl

/-- A write that does not, writes that file. -/
theorem writeReportFile_writes {householdId name : String}
    (h : cfg.writeFails householdId name = none) (dir : FilePath)
    (file : File A R) (site : Site A R) :
    (writeReportFile cfg householdId (dir ++ [name]) file).exec site
      = (.ok ⟨⟩, { site with disk := site.disk.set (dir ++ [name]) file }) := by
  unfold writeReportFile
  rw [name_append, h]
  rfl

/-- A report's files are written where they belong, the pack first. -/
theorem keepsPacks_writeReportBundle {bundle : ReportBundle A R}
    (hnamed : ∀ name ∈ reportDir bundle, PlainName name)
    (hsnapshot : Unspaced bundle.snapshotId) :
    Work.Keeps (KeepsPacks cfg.planes.renderMarkdown)
      (writeReportBundle cfg bundle (reportDir bundle)) := by
  constructor
  intro site hsite
  unfold writeReportBundle
  cases hinternal : cfg.writeFails bundle.householdId "internal.md" with
  | some err =>
    rw [Work.exec_bind_error (writeReportFile_fails hinternal ..)]
    exact hsite
  | none =>
    rw [Work.exec_bind_ok (writeReportFile_writes hinternal ..)]
    have hsite' := hsite.set_other (reportDir bundle ++ ["internal.md"])
      (by rw [name_append]; decide) (by rw [name_append]; decide)
      { contents := cfg.planes.renderMarkdown bundle .internal }
    cases hexternal : cfg.writeFails bundle.householdId "external.md" with
    | some err =>
      rw [Work.exec_bind_error (writeReportFile_fails hexternal ..)]
      exact hsite'
    | none =>
      rw [Work.exec_bind_ok (writeReportFile_writes hexternal ..)]
      have hpack : IsPack cfg.planes.renderMarkdown
          (reportDir bundle ++ ["external.md"])
          { contents := cfg.planes.renderMarkdown bundle .external } bundle :=
        ⟨rfl, rfl, hnamed, hsnapshot⟩
      have hpacked := hsite'.set_pack hpack
      cases hjson : cfg.writeFails bundle.householdId "bundle.json" with
      | some err =>
        rw [Work.exec_bind_error (writeReportFile_fails hjson ..)]
        exact hpacked
      | none =>
        rw [Work.exec_bind_ok (writeReportFile_writes hjson ..)]
        refine hpacked.set_bundle rfl ?_
        rw [Dict.get?_set, if_pos rfl]
        rfl

/-- An external PDF is another file. -/
def IsPdf (path : FilePath) : Prop := path.name = "external.pdf"

/-- A converter's output is no pack's file. -/
theorem keepsPacks_leaveOutput {outputPath : FilePath}
    (hpdf : IsPdf outputPath) (snapshotId : String) (output : Option String) :
    Work.Keeps (KeepsPacks render)
      (leaveOutput outputPath snapshotId output : SiteWork A R PUnit) := by
  cases output with
  | none => exact Work.Keeps.pure KeepsPacks.refl _
  | some bytes =>
    refine Work.Keeps.bind KeepsPacks.trans (Work.Keeps.modify fun s hs => ?_)
      fun _ => Work.Keeps.modify fun s => id
    refine hs.set_other outputPath ?_ ?_ _
    · rw [hpdf]
      decide
    · rw [hpdf]
      decide

theorem keepsPacks_tryEngines (tools : PdfTools A R) (mdPath : FilePath)
    {outputPath : FilePath} (hpdf : IsPdf outputPath)
    (metadata : List (String × String)) (snapshotId : String)
    (engines : List (Option String)) : ∀ errors,
    Work.Keeps (KeepsPacks render) (tryEngines tools mdPath outputPath metadata
      snapshotId engines errors) := by
  induction engines with
  | nil => exact fun errors => Work.Keeps.throw KeepsPacks.refl _
  | cons engine rest ih =>
    intro errors
    have htried : Work.Keeps (KeepsPacks render) (tryEngine tools mdPath
        outputPath metadata snapshotId engine) := by
      refine Work.Keeps.bind KeepsPacks.trans (Work.Keeps.get KeepsPacks.refl)
        fun site => ?_
      refine Work.Keeps.bind KeepsPacks.trans (keepsPacks_leaveOutput hpdf ..)
        fun _ => ?_
      exact Work.Keeps.bind KeepsPacks.trans (Work.Keeps.get KeepsPacks.refl)
        fun site' => Work.Keeps.pure KeepsPacks.refl _
    refine Work.Keeps.bind KeepsPacks.trans htried fun outcome => ?_
    cases outcome with
    | ok digest => exact Work.Keeps.pure KeepsPacks.refl _
    | error msg => exact ih _

theorem keepsPacks_renderExternalPdf (tools : PdfTools A R) (mdPath : FilePath)
    {outputPath : FilePath} (hpdf : IsPdf outputPath) (snapshotId : String) :
    Work.Keeps (KeepsPacks render) (renderExternalPdf tools mdPath outputPath
      snapshotId) := by
  refine Work.Keeps.bind KeepsPacks.trans (Work.Keeps.get KeepsPacks.refl)
    fun site => ?_
  cases site.disk.get? mdPath with
  | none => exact Work.Keeps.throw KeepsPacks.refl _
  | some md =>
    dsimp only
    split
    · exact Work.Keeps.throw KeepsPacks.refl _
    · split
      · exact Work.Keeps.throw KeepsPacks.refl _
      · split
        · exact Work.Keeps.throw KeepsPacks.refl _
        · exact keepsPacks_tryEngines tools mdPath hpdf ..

theorem keepsPacks_attachExternalPdf (bundle : ReportBundle A R)
    (written : WrittenHouseholdReport) (householdId : String) (asOf : Date) :
    Work.Keeps (KeepsPacks render) (attachExternalPdf cfg bundle written
      householdId asOf) := by
  refine Work.Keeps.bind KeepsPacks.trans (Work.Keeps.get KeepsPacks.refl)
    fun site => ?_
  dsimp only
  split
  · exact Work.Keeps.pure KeepsPacks.refl _
  · split
    · exact Work.Keeps.pure KeepsPacks.refl _
    · refine Work.Keeps.bind KeepsPacks.trans (Work.Keeps.tryCatch
        KeepsPacks.trans (keepsPacks_renderExternalPdf _ _ (name_append ..) _)
        fun err => ?_) fun digest => Work.Keeps.bind KeepsPacks.trans
          (Work.Keeps.get KeepsPacks.refl) fun site' => ?_
      · cases err <;> exact Work.Keeps.throw KeepsPacks.refl _
      · cases site'.disk.get? (written.outputDir ++ ["external.pdf"]) with
        | none => exact Work.Keeps.throw KeepsPacks.refl _
        | some file =>
          dsimp only
          split
          · exact Work.Keeps.throw KeepsPacks.refl _
          · exact Work.Keeps.pure KeepsPacks.refl _

-- ============================================================ the operations

section Operations

/-- `uuid4().hex`: hexadecimal digits. -/
def HexIds (env : Env) : Prop :=
  ∀ n, ∀ c ∈ (env.hex n).toList, c ∈ "0123456789abcdef".toList

variable (hids : HexIds cfg.env)
include hids

/-- An id that is drawn is a plain name without blanks. -/
theorem plain_freshId (store : Store) :
    PlainName (cfg.env.freshId "rpt" store)
      ∧ Unspaced (cfg.env.freshId "rpt" store) := by
  have hdigits : PlainName "0123456789abcdef"
      ∧ Unspaced "0123456789abcdef" := by decide
  have hlabel : PlainName ("rpt" ++ "_") ∧ Unspaced ("rpt" ++ "_") := by
    decide
  refine ⟨hlabel.1.append fun c hc => hdigits.1.chars c (hids _ c hc), ?_⟩
  intro c hc
  unfold Env.freshId at hc
  rw [String.toList_append, List.mem_append] at hc
  rcases hc with hc | hc
  · exact hlabel.2 c hc
  · exact hdigits.2 c (hids _ c hc)

/-- A collected bundle is of its household, its period and a new snapshot,
and no file is written for it. -/
theorem collectReportBundle_named (householdId : String)
    (period : ReportPeriod) (asOf : Date) (site : Site A R) :
    ((collectReportBundle cfg householdId period asOf).exec site).2.disk
        = site.disk
      ∧ ∀ bundle, ((collectReportBundle cfg householdId period asOf).exec
          site).1 = .ok bundle → bundle.householdId = householdId
        ∧ bundle.period = period ∧ PlainName bundle.snapshotId
        ∧ Unspaced bundle.snapshotId := by
  cases hpre : reportPreconditions cfg.order cfg.planes cfg.settings site.store
      householdId asOf with
  | error e =>
    rw [collectReportBundle_refused period hpre]
    exact ⟨rfl, fun bundle hok => nomatch hok⟩
  | ok found =>
    obtain ⟨positions, performance, ipsDrift⟩ := found
    obtain ⟨outcome, hexec, hbundle⟩ := collectReportBundle_exec period hpre
    rw [hexec]
    refine ⟨rfl, ?_⟩
    rintro bundle rfl
    cases hattribution : collectAttribution cfg.planes positions householdId
        asOf with
    | error e =>
      rw [hattribution] at hbundle
      obtain ⟨e', herror⟩ := hbundle
      cases herror
    | ok attribution =>
      rw [hattribution] at hbundle
      cases hrisk : collectRiskHeadline cfg.planes site.store householdId with
      | error e =>
        rw [hrisk] at hbundle
        obtain ⟨e', herror⟩ := hbundle
        cases herror
      | ok risk =>
        rw [hrisk] at hbundle
        obtain ⟨bundle', hok, hcollected⟩ := hbundle
        cases hok
        refine ⟨hcollected.householdId, hcollected.period, ?_⟩
        rw [hcollected.snapshotId]
        exact plain_freshId hids _

omit hids in
/-- A label that is given, or the month's. -/
theorem plainName_resolvePeriod (asOf : Date) {periodLabel : Option String}
    (hlabel : ∀ label ∈ periodLabel, PlainName label) :
    PlainName (resolvePeriod asOf periodLabel).label := by
  cases periodLabel with
  | none => exact plainName_monthEnd asOf
  | some label => exact hlabel label rfl

/-- A build files its report. -/
theorem keepsPacks_build (today : Date) {householdId : String}
    (hhousehold : PlainName householdId) {periodLabel : Option String}
    (hlabel : ∀ label ∈ periodLabel, PlainName label)
    (asOfDate : Option Date) (actorId : String) :
    Work.Keeps (KeepsPacks cfg.planes.renderMarkdown)
      (buildAndWriteHouseholdReports cfg today householdId periodLabel asOfDate
        actorId) := by
  constructor
  intro site hsite
  unfold buildAndWriteHouseholdReports
  rw [Work.exec_get_bind]
  dsimp only
  obtain ⟨hdisk, hnamed⟩ := collectReportBundle_named hids householdId
    (resolvePeriod (resolveReportAsOf site.store today asOfDate) periodLabel)
    (resolveReportAsOf site.store today asOfDate) site
  cases hcollect : (collectReportBundle cfg householdId (resolvePeriod
      (resolveReportAsOf site.store today asOfDate) periodLabel)
      (resolveReportAsOf site.store today asOfDate)).exec site with
  | mk outcome left =>
    rw [hcollect] at hdisk hnamed
    have hleft : Packed cfg.planes.renderMarkdown left.disk := by
      rw [show left.disk = site.disk from hdisk]
      exact hsite
    cases outcome with
    | error err =>
      rw [Work.exec_bind_error hcollect]
      exact hleft
    | ok bundle =>
      obtain ⟨hown, hperiod, hplain, hsnapshot⟩ := hnamed bundle rfl
      have hnames : ∀ name ∈ reportDir bundle, PlainName name := by
        unfold reportDir
        rw [hown, hperiod]
        simp only [List.forall_mem_cons]
        exact ⟨hhousehold, plainName_resolvePeriod _ hlabel, hplain,
          List.forall_mem_nil _⟩
      have hdir : householdReportsDir householdId ++ [(resolvePeriod
          (resolveReportAsOf site.store today asOfDate) periodLabel).label,
          bundle.snapshotId] = reportDir bundle := by
        unfold reportDir
        rw [hown, hperiod]
        rfl
      rw [Work.exec_bind_ok hcollect, hdir]
      refine (Work.Keeps.bind KeepsPacks.trans
        (keepsPacks_writeReportBundle hnames hsnapshot)
        fun _ => ?_).left left hleft
      refine Work.Keeps.bind KeepsPacks.trans (keepsPacks_attachExternalPdf ..)
        fun _ => ?_
      exact Work.Keeps.bind KeepsPacks.trans (keepsPacks_onStore _) fun _ =>
        Work.Keeps.pure KeepsPacks.refl _

/-- A batch builds the households it is given, or those the store lists. -/
theorem runMonthEndReportingBatch_packed (today : Date)
    (asOfDate : Option Date) {periodLabel : Option String}
    (hlabel : ∀ label ∈ periodLabel, PlainName label)
    {householdIds : Option (List String)}
    (hhouseholds : ∀ householdId ∈ householdIds.getD
      (listHouseholdIds site.store), PlainName householdId)
    (actorId : String) (hsite : Packed cfg.planes.renderMarkdown site.disk) :
    Packed cfg.planes.renderMarkdown ((runMonthEndReportingBatch cfg today
      asOfDate periodLabel householdIds actorId).exec site).2.disk := by
  unfold runMonthEndReportingBatch
  rw [Work.exec_get_bind]
  refine (Work.Keeps.bind KeepsPacks.trans (keepsPacks_onStore _)
    fun correlationId => Work.Keeps.bind KeepsPacks.trans
      (keepsPacks_onStore _) fun startedAt => ?_).left site hsite
  refine Work.Keeps.bind KeepsPacks.trans (Work.Keeps.mapM KeepsPacks.refl
    KeepsPacks.trans _ fun householdId hmem => ?_) fun outcomes => ?_
  · refine Work.Keeps.tryCatch KeepsPacks.trans (Work.Keeps.bind
      KeepsPacks.trans (Work.Keeps.tryCatch KeepsPacks.trans
        (keepsPacks_build hids _ (hhouseholds householdId hmem) hlabel ..)
          fun err => Work.Keeps.throw KeepsPacks.refl _) fun _ =>
            Work.Keeps.pure KeepsPacks.refl _) fun err => ?_
    exact Work.Keeps.pure KeepsPacks.refl _
  · exact Work.Keeps.bind KeepsPacks.trans (keepsPacks_onStore _) fun _ =>
      Work.Keeps.pure KeepsPacks.refl _

omit hids in
theorem keepsPacks_approveAndRenderReport
    (householdId snapshotId reviewerId : String) :
    Work.Keeps (KeepsPacks render) (approveAndRenderReport cfg householdId
      snapshotId reviewerId) := by
  have hloaded : Work.Keeps (KeepsPacks render) (loadSnapshotArtifacts cfg
      householdId snapshotId) := by
    refine Work.Keeps.bind KeepsPacks.trans (Work.Keeps.get KeepsPacks.refl)
      fun site => ?_
    dsimp only
    split
    · exact Work.Keeps.throw KeepsPacks.refl _
    · split
      · exact Work.Keeps.throw KeepsPacks.refl _
      · exact Work.Keeps.pure KeepsPacks.refl _
  refine Work.Keeps.bind KeepsPacks.trans hloaded fun _ => ?_
  refine Work.Keeps.bind KeepsPacks.trans (keepsPacks_onStore _) fun _ => ?_
  refine Work.Keeps.bind KeepsPacks.trans (keepsPacks_onStore _) fun _ => ?_
  refine Work.Keeps.bind KeepsPacks.trans (keepsPacks_attachExternalPdf ..)
    fun _ => ?_
  exact Work.Keeps.bind KeepsPacks.trans (keepsPacks_onStore _) fun _ =>
    Work.Keeps.pure KeepsPacks.refl _

omit hids in
/-- A scope that rolls back leaves the files. -/
theorem packed_siteScope {α : Type} {body : SiteWork A R α}
    (hleft : Packed render (body.exec site).2.disk) :
    Packed render (siteScope body site).2.disk := by
  unfold siteScope Work.scope
  cases hexec : body.exec site with
  | mk outcome left =>
    rw [hexec] at hleft
    cases outcome with
    | ok a => exact hleft
    | error e => exact hleft

/-- A target whose household and snapshot, where it has them, are plain. -/
def PlainTarget : PdfTarget → Prop
  | .path _ => True
  | .household householdId snapshot =>
      PlainName householdId ∧ ∀ asked ∈ snapshot, PlainName asked

/-- An operation whose households, labels and snapshots are plain, those a
batch takes from the store included. -/
def PlainOp (site : Site A R) : ReportOp → Prop
  | .build _ householdId periodLabel _ _ =>
      PlainName householdId ∧ ∀ label ∈ periodLabel, PlainName label
  | .monthEnd _ _ periodLabel householdIds _ =>
      (∀ householdId ∈ householdIds.getD (listHouseholdIds site.store),
        PlainName householdId) ∧ ∀ label ∈ periodLabel, PlainName label
  | .approve householdId snapshotId _ =>
      PlainName householdId ∧ PlainName snapshotId
  | .pdf target => PlainTarget target
  | _ => True

/-- Every operation leaves packs and bundles where they belong. -/
theorem execReport_packed (site : Site A R) (op : ReportOp)
    (hplain : PlainOp site op)
    (hsite : Packed cfg.planes.renderMarkdown site.disk) :
    Packed cfg.planes.renderMarkdown (execReport cfg site op).disk := by
  have honStore : ∀ {α : Type} (body : Session α), Packed
      cfg.planes.renderMarkdown ((onStore body : SiteWork A R α).exec
        site).2.disk :=
    fun body => (keepsPacks_onStore body).left site hsite
  cases op with
  | build =>
    exact packed_siteScope
      ((keepsPacks_build hids _ hplain.1 hplain.2 ..).left site hsite)
  | monthEnd =>
    exact packed_siteScope (runMonthEndReportingBatch_packed hids _ _ hplain.2
      hplain.1 _ hsite)
  | createApproval => exact packed_siteScope (honStore _)
  | decide => exact packed_siteScope (honStore _)
  | reconcile => exact packed_siteScope (honStore _)
  | resolveBreak => exact packed_siteScope (honStore _)
  | approve =>
    exact packed_siteScope
      ((keepsPacks_approveAndRenderReport ..).left site hsite)
  | pdf target =>
    refine (Work.Keeps.bind KeepsPacks.trans (Work.Keeps.get KeepsPacks.refl)
      fun s => Work.Keeps.bind KeepsPacks.trans
        (Work.Keeps.lift KeepsPacks.refl _) fun resolved =>
          keepsPacks_renderExternalPdf _ _ (name_append ..) _).left site hsite

/-- So does every run of operations on plain names. -/
theorem siteAfter_packed (ops : List ReportOp)
    (hops : Runs.EveryStep (execReport cfg) PlainOp site ops)
    (hsite : Packed cfg.planes.renderMarkdown site.disk) :
    Packed cfg.planes.renderMarkdown (siteAfter cfg site ops).disk :=
  Runs.EveryStep.invariant (execReport_packed hids) ops site hops hsite

end Operations

-- ================================================================ report pdf

section Targets

/-- What the search under a directory finds. -/
theorem mem_glob {dir path : FilePath} {name : String} {file : File A R} :
    (path, file) ∈ glob disk dir name
      ↔ disk.get? path = some file ∧ dir.isPrefixOf path ∧ path.name = name
        ∧ dir ≠ path := by
  unfold glob
  rw [List.mem_filter, Dict.get?_eq_some_iff]
  simp

/-- The latest report written is on disk. -/
theorem findLatestWrittenReport_mem {householdId : String}
    {found : FilePath × ReportBundle A R}
    (h : findLatestWrittenReport disk householdId = some found) :
    ∃ file, (found.1, file) ∈ glob disk (householdReportsDir householdId)
        "bundle.json" ∧ file.bundle = some found.2 := by
  unfold findLatestWrittenReport at h
  have hfold : ∀ (entries : List (FilePath × File A R)) best,
      entries.foldl laterWritten best = some found →
      best = some found ∨ ∃ file, (found.1, file) ∈ entries
        ∧ file.bundle = some found.2 := by
    intro entries
    induction entries with
    | nil => exact fun best h => Or.inl h
    | cons entry rest ih =>
      intro best h
      rcases ih _ h with hstep | ⟨file, hfile, hbundle⟩
      · unfold laterWritten at hstep
        cases hentry : entry.2.bundle with
        | none =>
          rw [hentry] at hstep
          exact Or.inl hstep
        | some bundle =>
          rw [hentry] at hstep
          have htaken : some (entry.1, bundle) = some found →
              ∃ file, (found.1, file) ∈ entry :: rest
                ∧ file.bundle = some found.2 := by
            intro heq
            cases heq
            exact ⟨entry.2, List.mem_cons_self, hentry⟩
          cases best with
          | none => exact Or.inr (htaken hstep)
          | some top =>
            dsimp only at hstep
            split at hstep
            · exact Or.inr (htaken hstep)
            · exact Or.inl hstep
      · exact Or.inr ⟨file, List.mem_cons_of_mem _ hfile, hbundle⟩
  rcases hfold _ none h with hnone | hmem
  · cases hnone
  · exact hmem

/-- A pack resolved to, of the household and the snapshot asked for. -/
structure ResolvedPack (render : ReportBundle A R → ReportAudience → String)
    (disk : Disk A R) (householdId : String) (mdFile : FilePath)
    (snapshotId : String) (bundle : ReportBundle A R) (file : File A R) :
    Prop where
  onDisk : disk.get? mdFile = some file
  pack : IsPack render mdFile file bundle
  household : bundle.householdId = householdId
  snapshot : bundle.snapshotId = snapshotId

/-- A household's files are under its directory. -/
theorem household_of_prefix {householdId name : String}
    {bundle : ReportBundle A R} (h : (householdReportsDir householdId).isPrefixOf
      (reportDir bundle ++ [name]) = true) :
    bundle.householdId = householdId := by
  unfold householdReportsDir reportDir at h
  simp only [List.cons_append, List.isPrefixOf, Bool.and_true, beq_iff_eq] at h
  exact h.symm

/-- A pack found under its report's name is of that report. -/
theorem Packed.resolved (h : Packed render disk) {householdId snapshotId :
    String} {dir : FilePath} (hdir : householdReportsDir householdId <+: dir)
    (hname : FilePath.name dir = snapshotId)
    (hsome : (disk.get? (dir ++ ["external.md"])).isSome) :
    ∃ bundle file, ResolvedPack render disk householdId
      (dir ++ ["external.md"]) snapshotId bundle file := by
  obtain ⟨file, hfile⟩ := Option.isSome_iff_exists.mp hsome
  obtain ⟨bundle, hpack⟩ := h.packs _ file hfile (name_append ..)
  have hpath : dir = reportDir bundle :=
    List.append_cancel_right hpack.path
  subst hpath
  refine ⟨bundle, file, hfile, hpack, ?_, hname⟩
  exact household_of_prefix (List.isPrefixOf_iff_prefix.mpr
    (hdir.trans (List.prefix_append _ ["external.md"])))

/-- The latest report is its household's, and has its pack. -/
theorem Packed.latest (h : Packed render disk) {householdId : String}
    {bundlePath : FilePath} {bundle : ReportBundle A R}
    (hlatest : findLatestWrittenReport disk householdId
      = some (bundlePath, bundle)) :
    bundlePath = reportDir bundle ++ ["bundle.json"]
      ∧ householdReportsDir householdId <+: reportDir bundle
      ∧ (disk.get? (reportDir bundle ++ ["external.md"])).isSome := by
  obtain ⟨file, hmem, hbundle⟩ := findLatestWrittenReport_mem hlatest
  obtain ⟨hget, hprefix, hname, -⟩ := mem_glob.mp hmem
  obtain ⟨bundle', hbundle', hpath, hsome⟩ := h.bundles _ file hget hname
  have heq : bundle' = bundle := Option.some.inj (hbundle'.symm.trans hbundle)
  subst heq
  refine ⟨hpath, ?_, hsome⟩
  dsimp only at hpath hprefix
  rw [hpath] at hprefix
  rw [← household_of_prefix hprefix]
  exact List.prefix_append [bundle'.householdId] _

/-- A pack in a directory of the snapshot's name is of that snapshot. -/
theorem Packed.globbed (h : Packed render disk) {householdId asked : String}
    {path : FilePath} {file : File A R}
    (hmem : (path, file) ∈ glob disk (householdReportsDir householdId)
      "external.md") (hasked : FilePath.name path.parent = asked) :
    ∃ bundle, ResolvedPack render disk householdId path asked bundle file := by
  obtain ⟨hget, hprefix, hname, -⟩ := mem_glob.mp hmem
  obtain ⟨bundle, hpack⟩ := h.packs path file hget hname
  have hpath := hpack.path
  subst hpath
  exact ⟨bundle, hget, hpack, household_of_prefix hprefix, hasked⟩

/-- `report pdf`, for a household, resolves to a pack of that household and
of the snapshot it goes on with. -/
theorem Packed.target (h : Packed render disk) {householdId : String}
    {snapshot : Option String} {mdFile : FilePath} {snapshotId : String}
    (hresolved : resolvePdfTarget disk (.household householdId snapshot)
      = .ok (mdFile, snapshotId)) :
    ∃ bundle file, ResolvedPack render disk householdId mdFile snapshotId
      bundle file := by
  unfold resolvePdfTarget at hresolved
  dsimp only at hresolved
  cases hlatest : findLatestWrittenReport disk householdId with
  | none =>
    rw [hlatest] at hresolved
    cases hresolved
  | some found =>
    obtain ⟨bundlePath, latest⟩ := found
    obtain ⟨rfl, hdir, hsome⟩ := h.latest hlatest
    rw [hlatest] at hresolved
    dsimp only at hresolved
    cases snapshot with
    | none =>
      cases hresolved
      exact h.resolved hdir rfl hsome
    | some asked =>
      dsimp only at hresolved
      by_cases hlast : latest.snapshotId = asked
      · rw [if_pos hlast] at hresolved
        cases hresolved
        exact h.resolved hdir hlast hsome
      · rw [if_neg hlast] at hresolved
        by_cases hcandidate : (disk.get? (householdReportsDir householdId
            ++ [latest.period.label, asked, "external.md"])).isSome
        · rw [if_pos hcandidate] at hresolved
          have hnamed : householdReportsDir householdId
              <+: householdReportsDir householdId
                ++ [latest.period.label, asked] := List.prefix_append _ _
          cases hresolved
          exact h.resolved hnamed rfl hcandidate
        · rw [if_neg hcandidate] at hresolved
          split at hresolved
          · cases hresolved
          · next path file rest hglobbed =>
            have hfound : (path, file) ∈ (path, file) :: rest :=
              List.mem_cons_self
            rw [← hglobbed] at hfound
            obtain ⟨hmem, hasked⟩ := List.mem_filter.mp hfound
            cases hresolved
            obtain ⟨bundle, hpack⟩ := h.globbed hmem (of_decide_eq_true hasked)
            exact ⟨bundle, file, hpack⟩

end Targets

-- ==================================================================== runs

section Runs

/-- A name without blanks trims to itself. -/
theorem Unspaced.trimmed {s : String} (h : Unspaced s) : trimmed s = s := by
  unfold Warehouse.trimmed
  rw [strip_of_noSpace h, String.ofList_toList]

/-- `splitlines` breaks at blanks only. -/
theorem Unspaced.oneLine {s : String} (h : Unspaced s) : OneLine s.toList := by
  intro c hc
  have hspace := h c hc
  unfold isSpace at hspace
  unfold lineBreak
  rw [decide_eq_false_iff_not] at hspace ⊢
  simp only [List.mem_cons, List.not_mem_nil, or_false] at hspace ⊢
  omega

variable {ctx : DecimalContext} {exhibits : InternalExhibits A R}

/-- Resolved to a pack, `report pdf` renders it under its own fields. -/
theorem reportPdf_resolved {target : PdfTarget} {householdId snapshotId :
    String} {mdFile : FilePath} {bundle : ReportBundle A R} {file : File A R}
    (hresolved : resolvePdfTarget site.disk target = .ok (mdFile, snapshotId))
    (h : ResolvedPack (renderMarkdown ctx exhibits) site.disk householdId mdFile
      snapshotId bundle file)
    (hpandoc : cfg.tools.pandocInstalled = true)
    (hhousehold : PlainName householdId) :
    (reportPdf cfg target).exec site
      = (tryEngines cfg.tools mdFile (FilePath.parent mdFile
          ++ ["external.pdf"]) (readBack (packFields bundle .external))
        snapshotId pdfEngines []).exec site := by
  have hlabel : PlainName bundle.period.label :=
    h.pack.named _ (List.mem_cons_of_mem _ List.mem_cons_self)
  have hnamed : NamedInline bundle :=
    ⟨by rw [h.household]; exact hhousehold.oneLine, hlabel.oneLine,
      h.pack.snapshot.oneLine⟩
  unfold reportPdf
  rw [Work.exec_get_bind, hresolved, Work.exec_lift_bind_ok]
  dsimp only
  rw [renderExternalPdf_checks hpandoc h.onDisk h.pack.contents hnamed,
    if_neg fun hother => hother.2 (h.pack.snapshot.trimmed.trans h.snapshot)]

/-- `plainReports`, with its packs rendered. -/
def packReports : ReportSetting Unit Unit :=
  plainReports.rendered centText blankExhibits

/-- The site once the household's report is written. -/
def writtenSite : Site Unit Unit :=
  siteAfter packReports unreportedSite
    [.build 739400 "hh_1" none none "cli:report_write"]

end Runs

end Warehouse
