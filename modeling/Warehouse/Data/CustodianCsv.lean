/-
Custodian files (`data/ingest/schwab_csv.py`, `data/ingest/fidelity_csv.py`).

The two parsers are one body under two delimiters. What a file's text is,
how a text is upper-cased, which characters are decimal digits and which
texts are ISO dates is the host's; the reader is `Lib/Csv.lean`'s, and
`decimalOf` is the `Decimal` constructor, specials included.

A row is a dictionary from columns to cells. `csv.DictReader` reads `None`
for the cells a short row lacks, and a column named twice keeps its last
cell.
-/
import Warehouse.Data.Ingest
import Warehouse.Lib.Csv
import Warehouse.Lib.Decimal
import Warehouse.Lib.Dict

namespace Warehouse.CustodianCsv

open Lib

-- ================================================================= decimals

/-- A `Decimal` as its constructor makes it: also an infinity, or not a
number. -/
inductive PyDecimal where
  | finite (d : Decimal)
  | infinity (negative : Bool)
  | nan (negative signaling : Bool) (payload : Nat)
  deriving DecidableEq

/-- `d.is_finite()`. -/
def PyDecimal.isFinite : PyDecimal → Bool
  | finite _ => true
  | _ => false

/-- The file system and the character database; `date.fromisoformat`
raises only `ValueError`, here by its text. -/
structure CsvHost where
  read : Path → Option String
  upper : String → String
  decimalDigit : Char → Option (Fin 10)
  dateFromIsoformat : String → Except String Date

/-- One character of a numeral: underscores are dropped and any decimal
digit stands for its value. -/
def asciiChar (host : CsvHost) (c : Char) : Option (List Char) :=
  if c = '_' then some []
  else if c.toNat < 128 then some [c]
  else (host.decimalDigit c).map fun digit => [Nat.digitChar digit]

/-- The text stripped, without underscores, each digit in ASCII; none where a
character has no such reading. -/
def numericAsAscii (host : CsvHost) (s : List Char) : Option (List Char) :=
  ((strip s).mapM (asciiChar host)).map List.flatten

/-- The payload of a NaN: digits only. -/
def readPayload (negative signaling : Bool) (digits : List Char) :
    Option PyDecimal :=
  if digits.all Char.isDigit then
    some (.nan negative signaling (Nat.ofDigitChars 10 digits 0))
  else none

/-- Infinity and NaN in any case, a NaN with its payload. -/
def readSpecial (negative : Bool) (cs : List Char) : Option PyDecimal :=
  match cs.map Char.toLower with
  | ['i', 'n', 'f'] | ['i', 'n', 'f', 'i', 'n', 'i', 't', 'y'] =>
      some (.infinity negative)
  | 'n' :: 'a' :: 'n' :: digits => readPayload negative false digits
  | 's' :: 'n' :: 'a' :: 'n' :: digits => readPayload negative true digits
  | _ => none

/-- `MAX_EMAX` and `MIN_ETINY`: the constructor is exact, so a numeral
outside them is refused. -/
def inRange (d : Decimal) : Bool :=
  d.exponent + (Nat.toDigits 10 d.coefficient).length - 1
      ≤ 999999999999999999
    ∧ -1999999999999999997 ≤ d.exponent

/-- What `Decimal` raises on text it cannot read. -/
def conversionSyntax : Exc :=
  .invalidOperation "[<class 'decimal.ConversionSyntax'>]"

/-- `Decimal(s)`. -/
def decimalOf (host : CsvHost) (s : String) : Except Exc PyDecimal :=
  match numericAsAscii host s.toList with
  | none => .error conversionSyntax
  | some cs =>
      let (negative, rest) := Decimal.takeSign cs
      match readSpecial negative rest with
      | some special => .ok special
      | none =>
          match Decimal.readText cs with
          | none => .error conversionSyntax
          | some d =>
              if inRange d then .ok (.finite d)
              else .error
                (.invalidOperation "[<class 'decimal.InvalidOperation'>]")

-- ============================================================= csv.DictReader

theorem comma_distinct : [',', '"', '\n', '\r'].Nodup := by decide

theorem semicolon_distinct : [';', '"', '\n', '\r'].Nodup := by decide

/-- The `excel` dialect. -/
def comma : Csv.Dialect Char := ⟨',', '"', '\n', '\r', comma_distinct⟩

/-- The same with `delimiter=";"`. -/
def semicolon : Csv.Dialect Char := ⟨';', '"', '\n', '\r', semicolon_distinct⟩

/-- The rows of `csv.reader`. -/
def csvRows (dialect : Csv.Dialect Char) (text : String) :
    List (List String) :=
  (Csv.read dialect text.toList).map fun row => row.map String.ofList

/-- `csv.field_size_limit()`. -/
def fieldSizeLimit : Nat := 131072

/-- The reader raises at a row with an over-long field. -/
def checkFields (row : List String) : Except Exc Unit :=
  if row.all fun cell => cell.length ≤ fieldSizeLimit then .ok ()
  else .error (.csvError "field larger than field limit (131072)")

/-- Rows that are only a line ending are passed over. -/
def dataRows (rows : List (List String)) : List (List String) :=
  rows.filter fun row => row ≠ []

/-- `dict(zip(fieldnames, row))`, and `None` for the fields the row does
not reach. -/
def dictRow (header row : List String) : Dict String (Option String) :=
  Dict.ofPairs
    (((header.zip row).map fun p => (p.1, some p.2))
      ++ (header.drop row.length).map fun name => (name, none))

-- ================================================================== the parsers

/-- `CustodianPositionRecord`: one parsed line. -/
structure CustodianPositionRecord where
  accountId : String
  ticker : String
  quantity : PyDecimal
  asOfDate : Date
  deriving DecidableEq

/-- The columns a file must name. -/
def requiredColumns : List String :=
  ["account_id", "ticker", "quantity", "as_of_date"]

/-- `str.strip`. -/
def stripText (s : String) : String := String.ofList (strip s.toList)

/-- `row[column].strip()`. -/
def stripped (cells : Dict String (Option String)) (column : String) :
    Except Exc String :=
  match cells.get? column with
  | none => .error (.keyError column)
  | some none => .error
      (.attributeError "'NoneType' object has no attribute 'strip'")
  | some (some text) => .ok (stripText text)

/-- `date.fromisoformat(s)`. -/
def isoDate (host : CsvHost) (s : String) : Except Exc Date :=
  match host.dateFromIsoformat s with
  | .ok day => .ok day
  | .error msg => .error (.valueError msg)

/-- The record of a row, its cells read in the source's order. -/
def recordOf (host : CsvHost) (cells : Dict String (Option String)) :
    Except Exc CustodianPositionRecord := do
  let accountId ← stripped cells "account_id"
  let ticker ← stripped cells "ticker"
  let quantityText ← stripped cells "quantity"
  let quantity ← decimalOf host quantityText
  let dateText ← stripped cells "as_of_date"
  let asOfDate ← isoDate host dateText
  return { accountId := accountId
           ticker := host.upper ticker
           quantity := quantity
           asOfDate := asOfDate }

/-- `except (KeyError, ValueError, ArithmeticError)`. -/
def caught : Exc → Bool
  | .keyError _ | .invalidOperation _ | .zeroDivision _ => true
  | err => err.isValueError

/-- The text that names a row. -/
def invalidRow (lineNo : Nat) (name why : String) : String :=
  "Invalid row " ++ toString lineNo ++ " in " ++ name ++ ": " ++ why

/-- One line: the record, or the error with the file's name and line number. -/
def parseRow (host : CsvHost) (name : String) (lineNo : Nat)
    (cells : Dict String (Option String)) :
    Except Exc CustodianPositionRecord :=
  match recordOf host cells with
  | .ok record => .ok record
  | .error err =>
      if caught err then .error (.valueError (invalidRow lineNo name err.str))
      else .error err

/-- The loop over the reader, `enumerate(reader, start=2)`. -/
def parseRows (host : CsvHost) (name : String) (header : List String) :
    Nat → List (List String) → Except Exc (List CustodianPositionRecord)
  | _, [] => .ok []
  | lineNo, row :: rest => do
      checkFields row
      let record ← parseRow host name lineNo (dictRow header row)
      let records ← parseRows host name header (lineNo + 1) rest
      return record :: records

/-- What the parsers do with the rows of an open file. -/
def parseTable (host : CsvHost) (path : Path) :
    List (List String) → Except Exc (List CustodianPositionRecord)
  | [] => .error (.valueError ("Empty custodian file: " ++ path.text))
  | header :: rows => do
      checkFields header
      let missing := requiredColumns.filter fun col => col ∉ header
      if missing ≠ [] then
        throw (.valueError
          ("Missing columns " ++ listText missing ++ " in " ++ path.name))
      let records ← parseRows host path.name header 2 (dataRows rows)
      if records = [] then
        throw (.valueError ("No position rows in " ++ path.name))
      return records

/-- A file under one dialect, or `FileNotFoundError`. -/
def parseDelimited (dialect : Csv.Dialect Char) (host : CsvHost)
    (path : Path) : Except Exc (List CustodianPositionRecord) :=
  match host.read path with
  | none => .error
      (.fileNotFoundError ("Custodian file not found: " ++ path.text))
  | some text => parseTable host path (csvRows dialect text)

/-- `parse_custodian_csv`: commas. -/
def parseCustodianCsv (host : CsvHost) (path : Path) :
    Except Exc (List CustodianPositionRecord) :=
  parseDelimited comma host path

/-- `parse_fidelity_csv`: semicolons. -/
def parseFidelityCsv (host : CsvHost) (path : Path) :
    Except Exc (List CustodianPositionRecord) :=
  parseDelimited semicolon host path

end Warehouse.CustodianCsv
