/-
The report files and the external PDF (`reporting/report_writer/pdf.py`).

Pandoc is an external program: what a run of it says and leaves at its
output path is a parameter, and may depend on anything on disk.
-/
import Warehouse.Reporting.Bundle

namespace Warehouse

open Lib

-- ==================================================================== files

/-- A path by its components, from the reports directory down. -/
abbrev FilePath := List String

/-- The path as one string. -/
def FilePath.text (path : FilePath) : String := "/".intercalate path

/-- `path.parent`. -/
def FilePath.parent (path : FilePath) : FilePath := path.dropLast

/-- `path.name`. -/
def FilePath.name (path : FilePath) : String := path.getLast?.getD ""

/-- A file: its contents, and the bundle they validate as, if any. -/
structure File (A R : Type) where
  contents : String
  bundle : Option (ReportBundle A R) := none

/-- The report directory, file by file. -/
abbrev Disk (A R : Type) := Dict FilePath (File A R)

/-- An `external.pdf` written: for which snapshot, and the database its
writer saw at that moment. -/
structure PdfWrite where
  snapshotId : String
  store : Store

/-- The database and the report files, with the PDFs written so far. -/
structure Site (A R : Type) where
  store : Store
  disk : Disk A R
  pdfWrites : List PdfWrite := []

/-- Work on the database and the files. -/
abbrev SiteWork (A R α : Type) := Work (Site A R) Exc α

variable {A R : Type}

/-- A session's code, where there are files too. -/
def onStore {α : Type} (body : Session α) : SiteWork A R α :=
  Work.call fun site =>
    let (outcome, store) := body.exec site.store
    (outcome, { site with store := store })

theorem exec_onStore_bind_ok {α β : Type} {body : Session α}
    {site : Site A R} {a : α} {store : Store}
    (h : body.exec site.store = (.ok a, store)) (next : α → SiteWork A R β) :
    (onStore body >>= next).exec site
      = (next a).exec { site with store := store } := by
  refine Work.exec_bind_ok ?_ next
  unfold onStore
  rw [Work.exec_call, h]

/-- What a rollback leaves: the files are not the database's. -/
def Site.rolledBack (found left : Site A R) : Site A R :=
  { left with store := found.store.rolledBack left.store }

/-- `with session_scope() as session:` around code that writes files. -/
def siteScope {α : Type} (body : SiteWork A R α) (site : Site A R) :
    Except Exc α × Site A R :=
  Work.scope Site.rolledBack body site

/-- Writes a file, over the old one if there is one. -/
def writeFile (path : FilePath) (file : File A R) : SiteWork A R PUnit :=
  modify fun site => { site with disk := site.disk.set path file }

-- =================================================================== pandoc

/-- How one run of Pandoc ends: an error, and the bytes it left at its
output path. -/
structure PandocRun where
  error : Option String := none
  output : Option String := none

/-- The tools the PDF is made with. -/
structure PdfTools (A R : Type) where
  pandocInstalled : Bool
  runPandoc : Disk A R → FilePath → List (String × String) → Option String →
    PandocRun
  sha256 : String → String

/-- Any open break blocks the external pack. -/
def externalPdfDeliveryBlocked (order : ReportOrder) (store : Store) : Bool :=
  !(listReconciliationBreaks order store true).isEmpty

/-- What precedes the first `\n---`. -/
def beforeClosing : List Char → Option (List Char)
  | [] => none
  | c :: rest =>
      if ['\n', '-', '-', '-'].isPrefixOf (c :: rest) then some []
      else (beforeClosing rest).map (c :: ·)

/-- The regex after `---`: a run of blanks up to a newline, the longest
that leaves a closing line. -/
def frontMatterBlock : List Char → Option (List Char)
  | [] => none
  | c :: rest =>
      if isSpace c then
        match frontMatterBlock rest with
        | some block => some block
        | none => if c = '\n' then beforeClosing rest else none
      else none

/-- `block.splitlines()`. -/
def splitLines (s : List Char) : List (List Char) :=
  s.splitOnP fun c => (10 ≤ c.toNat ∧ c.toNat ≤ 13)
    ∨ (28 ≤ c.toNat ∧ c.toNat ≤ 30) ∨ c.toNat ∈ [0x85, 0x2028, 0x2029]

/-- The `key: value` pairs between the first two rules; a text without the
opening rule has none. -/
def parseFrontMatter (mdText : String) : List (String × String) :=
  if ['-', '-', '-'].isPrefixOf mdText.toList then
    match frontMatterBlock (mdText.toList.drop 3) with
    | none => []
    | some block =>
        let pairs := (splitLines block).filterMap fun line =>
          if ':' ∈ line then
            let key := line.takeWhile (· ≠ ':')
            let value := (line.dropWhile (· ≠ ':')).drop 1
            some (String.ofList (strip key), String.ofList (strip value))
          else none
        (Dict.ofPairs pairs).entries
  else []

/-- The engines tried, in order; `none` is the converter's own. -/
def pdfEngines : List (Option String) :=
  [none, some "wkhtmltopdf", some "weasyprint", some "xelatex",
   some "pdflatex"]

/-- The bytes a run of Pandoc leaves, written. -/
def leaveOutput (outputPath : FilePath) (snapshotId : String) :
    Option String → SiteWork A R PUnit
  | none => pure ()
  | some bytes => do
      writeFile outputPath { contents := bytes }
      modify fun site => { site with
        pdfWrites := site.pdfWrites ++
          [{ snapshotId := snapshotId, store := site.store }] }

/-- A digest of the rendered file, or why it will not do. -/
def checkOutput (tools : PdfTools A R) (disk : Disk A R)
    (outputPath : FilePath) (error : Option String) : Except String String :=
  match error, disk.get? outputPath with
  | some msg, _ => .error msg
  | none, none => .error "Pandoc produced no output file"
  | none, some file =>
      if file.contents.isEmpty then
        .error "Pandoc produced a zero-byte PDF"
      else if !file.contents.startsWith "%PDF" then
        .error "Pandoc output is not a valid PDF (missing %PDF)"
      else .ok (tools.sha256 file.contents)

/-- One engine: its digest, or why it failed. -/
def tryEngine (tools : PdfTools A R) (mdPath outputPath : FilePath)
    (metadata : List (String × String)) (snapshotId : String)
    (engine : Option String) : SiteWork A R (Except String String) := do
  let run := tools.runPandoc (← get).disk mdPath metadata engine
  leaveOutput outputPath snapshotId run.output
  return checkOutput tools (← get).disk outputPath run.error

/-- The engines in turn, until one renders. -/
def tryEngines (tools : PdfTools A R) (mdPath outputPath : FilePath)
    (metadata : List (String × String)) (snapshotId : String) :
    List (Option String) → List String → SiteWork A R String
  | [], errors => throw (.reportWriterError ("External PDF render failed: "
      ++ (if errors.isEmpty then "no PDF engine available"
        else "; ".intercalate errors)))
  | engine :: rest, errors => do
      match ← tryEngine tools mdPath outputPath metadata snapshotId engine with
      | .ok digest => return digest
      | .error msg =>
          tryEngines tools mdPath outputPath metadata snapshotId rest
            (errors ++ [msg])

/-- Render external Markdown to PDF via Pandoc. -/
def renderExternalPdf (tools : PdfTools A R) (mdPath outputPath : FilePath)
    (snapshotId : String) : SiteWork A R String := do
  match (← get).disk.get? mdPath with
  | none => throw (.reportWriterError ("External Markdown missing: "
      ++ mdPath.text ++ " (snapshot_id=" ++ snapshotId ++ ")"))
  | some md =>
    if (strip md.contents.toList).isEmpty then
      throw (.reportWriterError ("External Markdown is empty: "
        ++ mdPath.text ++ " (snapshot_id=" ++ snapshotId ++ ")"))
    else if !tools.pandocInstalled then
      throw (.reportWriterError ("Pandoc is not installed — external PDF "
        ++ "render unavailable. Install: brew install pandoc (macOS) or apt "
        ++ "install pandoc (Linux). A PDF engine (e.g. wkhtmltopdf, basictex) "
        ++ "may also be required."))
    else
      let metadata := parseFrontMatter md.contents
      let declared := metadata.lookup "snapshot_id"
      if truthy declared ∧ declared ≠ some snapshotId then
        throw (.reportWriterError ("Markdown snapshot_id "
          ++ reprText (declared.getD "") ++ " does not match expected "
          ++ reprText snapshotId))
      else
        tryEngines tools mdPath outputPath metadata snapshotId pdfEngines []

end Warehouse
