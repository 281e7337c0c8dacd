/-
FIIJ finance-view ingest (`data/ingest/fiij.py`).

What the export's files hold, the readers of ISO dates and the texts
Python gives a number under `:g` and a value under `str` are the host's.

The entry is chosen before any view is made: the latest at or before the
day, and of two of one date the first. Signals that are not available are
passed over; one that is must be mapped to a sleeve and carry a number. A
strategy without an out-of-sample score is put just under the floor of those
that pass.
-/
import Warehouse.Config
import Warehouse.Decision.BlackLitterman
import Warehouse.Decision.Ips
import Warehouse.Research.WalkForward
import Mathlib.Data.List.Sort

namespace Warehouse

-- ================================================================ the export

/-- A value `json.loads` returns: numbers are finite, the keys of an object
distinct. -/
inductive Json where
  | null
  | bool (b : Bool)
  | num (q : ℚ)
  | str (s : String)
  | arr (items : List Json)
  | obj (fields : List (String × Json))

/-- `isinstance(value, dict)`, with its entries. -/
def Json.fields? : Json → Option (List (String × Json))
  | obj fields => some fields
  | _ => none

/-- `isinstance(value, (int, float))`: a `bool` is an `int`. -/
def Json.numeric? : Json → Option ℚ
  | num q => some q
  | bool b => some (if b then 1 else 0)
  | _ => none

/-- `bool(value)`. -/
def Json.truthy : Json → Bool
  | null => false
  | bool b => b
  | num q => q ≠ 0
  | str s => s ≠ ""
  | arr items => !items.isEmpty
  | obj fields => !fields.isEmpty

/-- What is at a path: no file, a text `json.loads` refuses, or a value. -/
inductive ExportFile where
  | missing
  | malformed (err : String)
  | loaded (json : Json)

/-- What the loader asks of its host: the export files and the date parsers. -/
structure FiijHost where
  read : String → ExportFile
  defaultExportPath : String
  dateFromIsoformat : String → Except Exc Date
  datetimeFromIsoformat : String → Except Exc DateTime
  midnight : Date → DateTime
  general : ℚ → String
  str : Json → String

/-- `str(value)`. -/
def FiijHost.text (host : FiijHost) : Json → String
  | .str s => s
  | value => host.str value

/-- `str(d.get(key, ""))`. -/
def FiijHost.field (host : FiijHost) (fields : List (String × Json))
    (key : String) : String :=
  host.text ((fields.lookup key).getD (.str ""))

/-- The export's file of snapshots. -/
def historyFile : String := "finance_view_history.json"

/-- The export's file of thresholds. -/
def thresholdsFile : String := "calibrated_thresholds.json"

/-- `export_dir / name`. -/
def exportFile (exportDir name : String) : String := exportDir ++ "/" ++ name

/-- The caller's path, else the settings' path, else the repository's own. -/
def resolveExportDir (host : FiijHost) (path : Option String)
    (settings : Settings) : String :=
  match path with
  | some path => path
  | none =>
      if settings.fiijExportPath ≠ "" then settings.fiijExportPath
      else host.defaultExportPath

/-- A JSON file, or the ingest error that says what is wrong with it. -/
def loadJson (host : FiijHost) (path : String) : Except Exc Json :=
  match host.read path with
  | .missing => .error (.fiijIngest ("FIIJ export file not found: " ++ path))
  | .malformed err =>
      .error (.fiijIngest ("malformed FIIJ export " ++ path ++ ": " ++ err))
  | .loaded json => .ok json

/-- Accept a top-level list, or an object with a list of snapshots. -/
def snapshotList (raw : Json) : Except Exc (List (List (String × Json))) :=
  let lists : List (Option Json) :=
    match raw with
    | .arr items => [some (.arr items)]
    | .obj fields =>
        ["snapshots", "history"].map fun key => fields.lookup key
    | _ => []
  let found := lists.findSome? fun inner =>
    match inner with
    | some (.arr items) => some (items.filterMap Json.fields?)
    | _ => none
  match found with
  | some snapshots => .ok snapshots
  | none => .error (.fiijIngest
      ("FIIJ finance_view_history.json must be a list of snapshots "
        ++ "(or an object with a 'snapshots'/'history' list)"))

/-- A date field: the first ten characters of a string. -/
def parseDate (host : FiijHost) (value : Option Json) (field : String) :
    Except Exc Date :=
  match value with
  | some (.str s) => host.dateFromIsoformat (String.ofList (s.toList.take 10))
  | _ => .error (.fiijIngest ("FIIJ snapshot missing/invalid " ++ field))

-- ================================================================= the views

/-- `_FIIJ_SIGNAL_TO_SLEEVE`. -/
def fiijSignalToSleeve : List (String × IpsSleeve) :=
  [("silk_equity", .equity), ("silk_commodity_etf", .commodities),
   ("silk_crypto", .alternatives), ("cash_flow", .equity), ("fx", .fx),
   ("rates", .fixedIncome)]

/-- The sleeve a signal speaks of; an unmapped one names all that are mapped. -/
def sleeveForSignal (signalId : String) : Except Exc IpsSleeve :=
  match fiijSignalToSleeve.lookup signalId with
  | some sleeve => .ok sleeve
  | none => .error (.fiijMapping ("no IPS-sleeve mapping for FIIJ signal id "
      ++ reprText signalId ++ "; known signals: "
      ++ listText ((fiijSignalToSleeve.map Prod.fst).insertionSort (· ≤ ·))))

/-- The decimals an excess return is quantized to. -/
def excessPlaces : Nat := 8

/-- The decimals a confidence is quantized to. -/
def confPlaces : Nat := 4

/-- Keeps a failing view strictly below the floor. -/
def confEps : ℚ := 1 / 10 ^ 4

/-- Confidence traced to the out-of-sample Brier score: a passing strategy
earns at least the floor, a failing one is capped below it. -/
def confidenceFromBrier (brier floor ceil : ℚ) (passes : Bool) : ℚ :=
  let raw := 1 - brier
  if passes then quantize confPlaces (max floor (min ceil raw))
  else
    let capped := min raw (floor - confEps)
    quantize confPlaces (if capped < 0 then 0 else capped)

/-- A strategy's out-of-sample Brier score, where it has one. -/
def oosBrier (thresholds : List (String × Json)) (signalId : String) :
    Option ℚ := do
  let entry ← (← thresholds.lookup signalId).fields?
  (← entry.lookup "oos_brier").numeric?

/-- A view's confidence and its calibration. -/
def calibrated (host : FiijHost) (settings : Settings)
    (thresholds : List (String × Json)) (signalId : String) : ℚ × String :=
  let floor := settings.fiijConfidenceFloor
  match oosBrier thresholds signalId with
  | none => (quantize confPlaces (floor - confEps), "not_computed")
  | some brier =>
      let passes : Bool := brier ≤ settings.fiijBrierPassMax
      (confidenceFromBrier brier floor (1 - confEps) passes,
        "oos_brier=" ++ host.general brier
          ++ (if passes then " (pass)" else " (fail)"))

/-- `Decimal(str(value))` of a value that is an `int` or a `float`. -/
def decimalOf (value : Json) (q : ℚ) : Except Exc ℚ :=
  match value with
  | .bool _ => .error (.invalidOperation
      "[<class 'decimal.ConversionSyntax'>]")
  | _ => .ok q

/-- `View(...)`, which validates its confidence. -/
def View.validated (sleeve : IpsSleeve) (expectedExcess confidence : ℚ)
    (source : ViewSource) (sourceRef : Option String)
    (calibration rationale : String) : Except Exc (View IpsSleeve) :=
  if h : IsFraction confidence then
    .ok
      { sleeve := sleeve
        expectedExcess := expectedExcess
        confidence := confidence
        source := source
        sourceRef := sourceRef
        calibration := calibration
        rationale := rationale
        fraction := h }
  else .error (.validationError "View" "confidence")

/-- One signal of a sheet; those that are not available are passed over. -/
def signalView (host : FiijHost) (settings : Settings)
    (thresholds : List (String × Json)) (regimeLabel : String)
    (asOfDate : Date) (sig : Json) : Except Exc (Option (View IpsSleeve)) :=
  match sig.fields? with
  | none => .ok none
  | some fields =>
      if !((fields.lookup "available").getD (.bool true)).truthy then .ok none
      else
        match fields.lookup "id" with
        | some (.str signalId) => do
            let value := (fields.lookup "value").getD .null
            match value.numeric? with
            | none => throw (.fiijIngest ("FIIJ signal " ++ reprText signalId
                ++ " missing numeric 'value'"))
            | some q =>
                let sleeve ← sleeveForSignal signalId
                let excess := quantize excessPlaces
                  (settings.fiijValueExcessScale * (← decimalOf value q))
                let (confidence, calibration) :=
                  calibrated host settings thresholds signalId
                let regime := if regimeLabel ≠ "" then regimeLabel else "n/a"
                let view ← View.validated sleeve excess confidence .fiij
                  (some (signalId ++ "@" ++ isoformat asOfDate)) calibration
                  (String.ofList (strip ("FIIJ " ++ signalId ++ " value="
                    ++ host.general q ++ " (regime " ++ regime ++ "); "
                    ++ host.field fields "detail").toList))
                return some view
        | _ => .error (.fiijIngest "FIIJ signal missing 'id'")

/-- The signals of a sheet. -/
def sheetSignals (sheet : Json) : List Json :=
  match sheet.fields? with
  | none => []
  | some fields =>
      match fields.lookup "signals" with
      | some (.arr signals) => signals
      | _ => []

/-- The views of the snapshot's sheets: one a signal, without the signals that
have none. -/
def viewsForSnapshot (host : FiijHost) (snapshot thresholdsRaw :
    List (String × Json)) (asOfDate : Date) (settings : Settings) :
    Except Exc (List (View IpsSleeve)) := do
  let thresholds :=
    ((thresholdsRaw.lookup "thresholds").bind Json.fields?).getD []
  match snapshot.lookup "sheets" with
  | some (.arr sheets) =>
      let views ← (sheets.flatMap sheetSignals).mapM (signalView host settings
        thresholds (host.field snapshot "regime_label") asOfDate)
      return views.filterMap id
  | _ => throw (.fiijIngest "FIIJ snapshot has no 'sheets' list")

-- ============================================================== the snapshot

/-- One FIIJ daily finance-view snapshot, ingested as views. -/
structure FiijFinanceViewSnapshot where
  asOfDate : Date
  fetchedAt : DateTime
  regimeLabel : String
  regimeClass : String
  views : List (View IpsSleeve)
  fiijConfigVersion : String

/-- `max(rows, key=lambda row: row[0])`: the first of the latest rows. -/
def latestRow {α : Type} : List (Date × α) → Option (Date × α)
  | [] => none
  | row :: rest => some (rest.foldl (fun best row =>
      if best.1 < row.1 then row else best) row)

/-- Load the snapshot at or before `asOf`. -/
def loadFiijSnapshot (host : FiijHost) (settings : Settings) (asOf : Date)
    (path : Option String) : Except Exc FiijFinanceViewSnapshot := do
  let exportDir := resolveExportDir host path settings
  let snapshots ← snapshotList
    (← loadJson host (exportFile exportDir historyFile))
  if snapshots.isEmpty then
    throw (.fiijIngest ("FIIJ finance-view history is empty: " ++ exportDir))
  let dated ← snapshots.mapM fun s => do
    return (← parseDate host (s.lookup "as_of_date") "as_of_date", s)
  let candidates := dated.filter fun row => row.1 ≤ asOf
  match latestRow candidates with
  | none =>
      assertScenarioObservationsNotAfter
        (dated.map fun row => (row.1, "fiij snapshot")) asOf
      throw (.fiijIngest ("no FIIJ snapshot at or before " ++ isoformat asOf))
  | some (chosenDate, chosen) =>
      match (← loadJson host (exportFile exportDir thresholdsFile)).fields? with
      | none => throw (.fiijIngest (thresholdsFile
          ++ " must be a JSON object at " ++ exportDir))
      | some thresholdsRaw =>
          let views ← viewsForSnapshot host chosen thresholdsRaw chosenDate
            settings
          let fetchedAt ←
            match chosen.lookup "fetched_at" with
            | some (.str fetched) => host.datetimeFromIsoformat fetched
            | _ => .ok (host.midnight chosenDate)
          return {
            asOfDate := chosenDate
            fetchedAt := fetchedAt
            regimeLabel := host.field chosen "regime_label"
            regimeClass := host.field chosen "regime_class"
            views := views
            fiijConfigVersion := settings.fiijConfigVersion }

end Warehouse
