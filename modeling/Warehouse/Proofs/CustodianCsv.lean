/-
A custodian file is read cleanly exactly when the loop's handler sees its
first bad row.

A row is bad when it spells no record with a finite quantity (`Spells`).
The parser reports such a row when `Decimal` or `date.fromisoformat`
refuses a cell. It does not when a cell it reads is `None`, for the
`AttributeError` of `.strip()` is none of the exceptions it catches, when
a field outgrows the reader's limit, which raises outside the handler, and
when the quantity is an infinity or not a number, which it takes.

# The first bad row

The engine is `parseRows_firstBad`: up to the first bad row the loop
collects records, so what it raises is that row's or a later one's, and
`invalidRow_inj` tells the two apart. What the row itself does is read off
`recordOf_dictRow`, by `spells_iff` and `reported_iff`.

# Two dialects

The two registered parsers differ in their delimiter only. A table written
under either dialect, in any style of quotes and line ends, is read back
cell by cell (`Lib.Csv`), so under one file name both parsers come to one
outcome on it.

# What is a parameter

The host holds the files, reads the dates and knows the digits of other
scripts. `date.fromisoformat` and the digit table are taken as the host
gives them; the reader, its field limit and the reading of a decimal are
modelled.
-/
import Warehouse.Data.CustodianCsv

namespace Warehouse.CustodianCsv

open Lib

-- =========================================================== clean failure

/-- The cell of a row under a column: `None` where the row is too short. -/
def cellOf (header row : List String) (column : String) : Option String :=
  ((dictRow header row).get? column).join

/-- No field outgrows the reader's limit. -/
def FieldsFit (row : List String) : Prop :=
  ∀ cell ∈ row, cell.length ≤ fieldSizeLimit

/-- A row spells a record with a finite quantity. -/
structure Spells (host : CsvHost) (header row : List String)
    (record : CustodianPositionRecord) : Prop where
  fits : FieldsFit row
  accountId : ∃ text, cellOf header row "account_id" = some text
    ∧ record.accountId = stripText text
  ticker : ∃ text, cellOf header row "ticker" = some text
    ∧ record.ticker = host.upper (stripText text)
  quantity : ∃ text, cellOf header row "quantity" = some text
    ∧ decimalOf host (stripText text) = .ok record.quantity
  finite : record.quantity.isFinite = true
  asOfDate : ∃ text, cellOf header row "as_of_date" = some text
    ∧ host.dateFromIsoformat (stripText text) = .ok record.asOfDate

/-- Some record is what the row spells. -/
def GoodRow (host : CsvHost) (header row : List String) : Prop :=
  ∃ record, Spells host header row record

/-- The first row that is not good, and where it stands. -/
structure FirstBad (host : CsvHost) (header : List String)
    (rows : List (List String)) (i : Nat) (row : List String) : Prop where
  at_index : rows[i]? = some row
  bad : ¬GoodRow host header row
  before : ∀ j < i, ∀ other ∈ rows[j]?, GoodRow host header other

/-- One record a row, in order; or a `ValueError` that names the first bad
row when there is one; and nothing else. -/
def FailsCleanly (host : CsvHost) (name : String) (header : List String)
    (rows : List (List String)) :
    Except Exc (List CustodianPositionRecord) → Prop
  | .ok records => List.Forall₂ (Spells host header) rows records
  | .error (.valueError msg) => ∀ i row, FirstBad host header rows i row →
      ∃ why, msg = invalidRow (i + 2) name why
  | .error _ => False

/-- The row's fields fit, its first three cells are there, and one of the
two conversions refuses its cell: the quantity is no `Decimal`, or the
date is there and is none. -/
def Reported (host : CsvHost) (header row : List String) : Prop :=
  FieldsFit row
    ∧ (∃ text, cellOf header row "account_id" = some text)
    ∧ (∃ text, cellOf header row "ticker" = some text)
    ∧ ∃ quantity, cellOf header row "quantity" = some quantity
      ∧ ((∃ err, decimalOf host (stripText quantity) = .error err)
        ∨ ∃ day err, cellOf header row "as_of_date" = some day
          ∧ host.dateFromIsoformat (stripText day) = .error err)

/-- The first bad row, if any, is one the parser reports. -/
def ReadsCleanly (host : CsvHost) (header : List String)
    (rows : List (List String)) : Prop :=
  FieldsFit header
    ∧ ∀ i row, FirstBad host header rows i row → Reported host header row

/-- A file whose header has the required columns, and its data rows. -/
def Opens (dialect : Csv.Dialect Char) (host : CsvHost) (path : Path)
    (header : List String) (rows : List (List String)) : Prop :=
  ∃ text table, host.read path = some text
    ∧ csvRows dialect text = header :: table
    ∧ (∀ column ∈ requiredColumns, column ∈ header)
    ∧ rows = dataRows table

/-- A table's text under a dialect, in any style. -/
def csvText (dialect : Csv.Dialect Char) (style : Csv.Style Char)
    (table : List (List String)) : String :=
  String.ofList (Csv.encode dialect style
    (table.map fun row => row.map String.toList))

-- ================================================================= one row

variable {host : CsvHost} {name : String} {header : List String}

/-- A header's column is looked up by position. -/
theorem get?_dictRow (row : List String) {column : String}
    (hcol : column ∈ header) :
    (dictRow header row).get? column = some (cellOf header row column) := by
  unfold cellOf
  cases hget : (dictRow header row).get? column with
  | some value => rfl
  | none =>
      rw [Dict.get?_eq_none_iff, dictRow, Dict.mem_keys_ofPairs,
        List.map_append, List.map_map, List.map_map, List.mem_append,
        not_or] at hget
      obtain ⟨hzip, hdrop⟩ := hget
      -- the zip reaches the names that the row has cells for
      have hreach : ∀ (names cells : List String),
          (names.zip cells).map Prod.fst = names.take cells.length := by
        intro names
        induction names with
        | nil => intro cells; simp
        | cons first names ih =>
            intro cells
            cases cells with
            | nil => rfl
            | cons cell cells => simp [ih]
      have htake : column ∉ header.take row.length := by
        rw [← hreach header row]
        exact hzip
      have hrest : column ∉ header.drop row.length := by
        intro hmem
        exact hdrop (List.mem_map.mpr ⟨column, hmem, rfl⟩)
      rw [← List.take_append_drop row.length header, List.mem_append] at hcol
      exact (hcol.elim htake hrest).elim

/-- `.strip()` of a cell that is not there. -/
def noStrip : Exc :=
  .attributeError "'NoneType' object has no attribute 'strip'"

/-- A missing cell raises, any other is stripped. -/
theorem stripped_dictRow (row : List String) {column : String}
    (hcol : column ∈ header) :
    stripped (dictRow header row) column
      = match cellOf header row column with
        | none => .error noStrip
        | some text => .ok (stripText text) := by
  unfold stripped
  rw [get?_dictRow row hcol]
  cases cellOf header row column <;> rfl

/-- What a row's record comes to, cell by cell. -/
theorem recordOf_dictRow (row : List String)
    (hcols : ∀ column ∈ requiredColumns, column ∈ header) :
    recordOf host (dictRow header row)
      = match cellOf header row "account_id", cellOf header row "ticker",
            cellOf header row "quantity" with
        | some account, some ticker, some quantity =>
            match decimalOf host (stripText quantity) with
            | .error err => .error err
            | .ok amount =>
                match cellOf header row "as_of_date" with
                | none => .error noStrip
                | some day =>
                    match host.dateFromIsoformat (stripText day) with
                    | .error msg => .error (.valueError msg)
                    | .ok asOfDate => .ok
                        { accountId := stripText account
                          ticker := host.upper (stripText ticker)
                          quantity := amount
                          asOfDate := asOfDate }
        | _, _, _ => .error noStrip := by
  have hread : ∀ column ∈ requiredColumns,
      stripped (dictRow header row) column
        = match cellOf header row column with
          | none => .error noStrip
          | some text => .ok (stripText text) :=
    fun column hcol => stripped_dictRow row (hcols column hcol)
  simp only [requiredColumns, List.forall_mem_cons] at hread
  obtain ⟨haccount, hticker, hquantity, hday, -⟩ := hread
  unfold recordOf
  rw [haccount, hticker, hquantity, hday]
  cases cellOf header row "account_id" with
  | none => rfl
  | some account =>
    cases cellOf header row "ticker" with
    | none => rfl
    | some ticker =>
      cases cellOf header row "quantity" with
      | none => rfl
      | some quantity =>
        simp only [ok_bind]
        cases decimalOf host (stripText quantity) with
        | error err => rfl
        | ok amount =>
          cases cellOf header row "as_of_date" with
          | none => rfl
          | some day =>
            simp only [ok_bind, isoDate]
            cases host.dateFromIsoformat (stripText day) with
            | error msg => rfl
            | ok asOfDate => rfl

/-- The constructor refuses a text by an `InvalidOperation`. -/
theorem decimalOf_error {s : String} {err : Exc}
    (h : decimalOf host s = .error err) : caught err = true := by
  unfold decimalOf at h
  split at h
  · cases h
    rfl
  · dsimp only at h
    split at h
    · cases h
    · split at h
      · cases h
        rfl
      · split at h
        · cases h
        · cases h
          rfl

/-- A row spells the record it comes to, when its fields fit and the
quantity is finite. -/
theorem spells_iff (hcols : ∀ column ∈ requiredColumns, column ∈ header)
    {row : List String} {record : CustodianPositionRecord} :
    Spells host header row record
      ↔ FieldsFit row ∧ recordOf host (dictRow header row) = .ok record
        ∧ record.quantity.isFinite = true := by
  rw [recordOf_dictRow row hcols]
  constructor
  · intro ⟨hfits, ⟨account, haccount, hid⟩, ⟨ticker, hticker, hname⟩,
      ⟨quantity, hquantity, hamount⟩, hfinite, ⟨day, hday, hdate⟩⟩
    rw [haccount, hticker, hquantity, hday]
    dsimp only
    rw [hamount, hdate]
    refine ⟨hfits, ?_, hfinite⟩
    dsimp only
    rw [← hid, ← hname]
  · intro ⟨hfits, hrecord, hfinite⟩
    split at hrecord
    · next account ticker quantity haccount hticker hquantity =>
      cases hamount : decimalOf host (stripText quantity) with
      | error err =>
          rw [hamount] at hrecord
          cases hrecord
      | ok amount =>
          rw [hamount] at hrecord
          cases hday : cellOf header row "as_of_date" with
          | none =>
              rw [hday] at hrecord
              cases hrecord
          | some day =>
              rw [hday] at hrecord
              dsimp only at hrecord
              cases hdate : host.dateFromIsoformat (stripText day) with
              | error msg =>
                  rw [hdate] at hrecord
                  cases hrecord
              | ok asOfDate =>
                  rw [hdate] at hrecord
                  cases hrecord
                  exact
                    { fits := hfits
                      accountId := ⟨account, haccount, rfl⟩
                      ticker := ⟨ticker, hticker, rfl⟩
                      quantity := ⟨quantity, hquantity, hamount⟩
                      finite := hfinite
                      asOfDate := ⟨day, hday, hdate⟩ }
    · cases hrecord

/-- A row is reported when it comes to an exception the handler takes. -/
theorem reported_iff (hcols : ∀ column ∈ requiredColumns, column ∈ header)
    {row : List String} :
    Reported host header row
      ↔ FieldsFit row ∧ ∃ err,
        recordOf host (dictRow header row) = .error err
          ∧ caught err = true := by
  rw [recordOf_dictRow row hcols]
  constructor
  · intro ⟨hfits, ⟨account, haccount⟩, ⟨ticker, hticker⟩, quantity, hquantity,
      hrefused⟩
    refine ⟨hfits, ?_⟩
    rw [haccount, hticker, hquantity]
    dsimp only
    cases hamount : decimalOf host (stripText quantity) with
    | error err => exact ⟨err, rfl, decimalOf_error hamount⟩
    | ok amount =>
        rcases hrefused with ⟨err, herr⟩ | ⟨day, err, hday, hdate⟩
        · rw [hamount] at herr
          cases herr
        · rw [hday]
          dsimp only
          rw [hdate]
          exact ⟨_, rfl, rfl⟩
  · intro ⟨hfits, err, herr, hcaught⟩
    refine ⟨hfits, ?_⟩
    split at herr
    · next account ticker quantity haccount hticker hquantity =>
      refine ⟨⟨account, haccount⟩, ⟨ticker, hticker⟩, quantity, hquantity, ?_⟩
      cases hamount : decimalOf host (stripText quantity) with
      | error err => exact .inl ⟨err, rfl⟩
      | ok amount =>
          rw [hamount] at herr
          cases hday : cellOf header row "as_of_date" with
          | none =>
              -- the `AttributeError` is not taken
              rw [hday] at herr
              cases herr
              cases hcaught
          | some day =>
              rw [hday] at herr
              dsimp only at herr
              cases hdate : host.dateFromIsoformat (stripText day) with
              | error msg => exact .inr ⟨day, msg, rfl, hdate⟩
              | ok asOfDate =>
                  rw [hdate] at herr
                  cases herr
    · cases herr
      cases hcaught

-- ================================================================ the loop

theorem checkFields_of_fit {row : List String} (hfits : FieldsFit row) :
    checkFields row = .ok () := by
  unfold checkFields
  rw [if_pos]
  rw [List.all_eq_true]
  intro cell hcell
  exact decide_eq_true (hfits cell hcell)

theorem checkFields_of_not_fit {row : List String} (hfits : ¬FieldsFit row) :
    checkFields row
      = .error (.csvError "field larger than field limit (131072)") := by
  unfold checkFields
  rw [if_neg]
  intro hall
  rw [List.all_eq_true] at hall
  exact hfits fun cell hcell => of_decide_eq_true (hall cell hcell)

/-- A row that spells a record adds it. -/
theorem parseRows_cons_of_spells
    (hcols : ∀ column ∈ requiredColumns, column ∈ header)
    {row : List String} {record : CustodianPositionRecord}
    (h : Spells host header row record) (lineNo : Nat)
    (rest : List (List String)) :
    parseRows host name header lineNo (row :: rest)
      = (do
          let records ← parseRows host name header (lineNo + 1) rest
          return record :: records) := by
  obtain ⟨hfits, hrecord, -⟩ := (spells_iff hcols).mp h
  have hrow : parseRow host name lineNo (dictRow header row) = .ok record := by
    unfold parseRow
    rw [hrecord]
  rw [parseRows, checkFields_of_fit hfits, ok_bind, hrow, ok_bind]

/-- Good rows are passed: what the rows after them raise is raised, and
what these come to follows the good rows' records. -/
theorem parseRows_append (name : String)
    (hcols : ∀ column ∈ requiredColumns, column ∈ header)
    (before rest : List (List String)) (lineNo : Nat)
    (hgood : ∀ row ∈ before, GoodRow host header row) :
    ∃ records, List.Forall₂ (Spells host header) before records
      ∧ parseRows host name header lineNo (before ++ rest)
        = (do
            let later ← parseRows host name header (lineNo + before.length)
              rest
            return records ++ later) := by
  induction before generalizing lineNo with
  | nil =>
      refine ⟨[], .nil, ?_⟩
      show parseRows host name header lineNo rest = _
      cases parseRows host name header lineNo rest <;> rfl
  | cons row before ih =>
      obtain ⟨record, hrecord⟩ := hgood row (List.mem_cons_self ..)
      obtain ⟨records, hspelled, hrecords⟩ := ih (lineNo + 1)
        fun other hother => hgood other (List.mem_cons_of_mem _ hother)
      refine ⟨record :: records, .cons hrecord hspelled, ?_⟩
      have hline : lineNo + 1 + before.length
          = lineNo + (row :: before).length := by
        rw [List.length_cons]
        omega
      rw [List.cons_append, parseRows_cons_of_spells hcols hrecord, hrecords,
        hline]
      cases parseRows host name header (lineNo + (row :: before).length) rest
        <;> rfl

/-- Rows that are all good are their records. -/
theorem parseRows_of_good (name : String)
    (hcols : ∀ column ∈ requiredColumns, column ∈ header)
    (rows : List (List String)) (lineNo : Nat)
    (hgood : ∀ row ∈ rows, GoodRow host header row) :
    ∃ records, parseRows host name header lineNo rows = .ok records
      ∧ List.Forall₂ (Spells host header) rows records := by
  obtain ⟨records, hspelled, hrecords⟩ :=
    parseRows_append name hcols rows [] lineNo hgood
  refine ⟨records, ?_, hspelled⟩
  rw [List.append_nil] at hrecords
  rw [hrecords, parseRows, ok_bind, List.append_nil]
  rfl

/-- A `ValueError` of the loop names one of its rows. -/
theorem parseRows_valueError
    {rows : List (List String)} {lineNo : Nat} {msg : String}
    (h : parseRows host name header lineNo rows
      = .error (.valueError msg)) :
    ∃ n why, lineNo ≤ n ∧ msg = invalidRow n name why := by
  induction rows generalizing lineNo with
  | nil => cases h
  | cons row rest ih =>
      rw [parseRows] at h
      by_cases hfits : FieldsFit row
      · rw [checkFields_of_fit hfits, ok_bind] at h
        unfold parseRow at h
        cases hrecord : recordOf host (dictRow header row) with
        | error err =>
            rw [hrecord] at h
            dsimp only at h
            by_cases hcaught : caught err = true
            · rw [if_pos hcaught] at h
              cases h
              exact ⟨lineNo, err.str, le_refl _, rfl⟩
            · rw [if_neg hcaught] at h
              cases h
              exact absurd rfl hcaught
        | ok record =>
            rw [hrecord, ok_bind] at h
            cases hrest : parseRows host name header (lineNo + 1) rest with
            | ok records =>
                rw [hrest] at h
                cases h
            | error err =>
                rw [hrest] at h
                cases h
                obtain ⟨n, why, hn, hmsg⟩ := ih hrest
                exact ⟨n, why, by omega, hmsg⟩
      · rw [checkFields_of_not_fit hfits] at h
        cases h

/-- The text that names a row names no other. -/
theorem invalidRow_inj {n m : Nat} {why why' : String}
    (h : invalidRow n name why = invalidRow m name why') : n = m := by
  have hlists := congrArg String.toList h
  unfold invalidRow at hlists
  simp only [String.toList_append, List.append_assoc] at hlists
  have htails := List.append_cancel_left hlists
  have hdigits : ∀ (k : Nat) (rest : List Char),
      ((toString k).toList ++ (" in ".toList ++ rest)).takeWhile Char.isDigit
        = Nat.toDigits 10 k := by
    intro k rest
    rw [Nat.toString_eq_repr, Nat.toList_repr]
    refine (Decimal.takeWhile_digits Decimal.isDigit_toDigits ?_).1
    intro c hc
    cases hc
    decide
  have htaken := congrArg (List.takeWhile Char.isDigit) htails
  rw [hdigits, hdigits] at htaken
  calc n = Nat.ofDigitChars 10 (Nat.toDigits 10 n) 0 :=
        Nat.ofDigitChars_ten_toDigits.symm
    _ = Nat.ofDigitChars 10 (Nat.toDigits 10 m) 0 := by rw [htaken]
    _ = m := Nat.ofDigitChars_ten_toDigits

-- ======================================================= the first bad row

/-- There is one first bad row. -/
theorem FirstBad.unique {rows : List (List String)} {i j : Nat}
    {row other : List String} (h : FirstBad host header rows i row)
    (h' : FirstBad host header rows j other) : i = j ∧ row = other := by
  rcases Nat.lt_trichotomy i j with hlt | heq | hgt
  · exact absurd (h'.before i hlt row h.at_index) h.bad
  · subst heq
    have hat := h.at_index
    rw [h'.at_index] at hat
    cases hat
    exact ⟨rfl, rfl⟩
  · exact absurd (h.before j hgt other h'.at_index) h'.bad

/-- Either every row is good or one is the first that is not. -/
theorem good_or_firstBad (host : CsvHost) (header : List String)
    (rows : List (List String)) :
    (∀ row ∈ rows, GoodRow host header row)
      ∨ ∃ i row, FirstBad host header rows i row := by
  induction rows with
  | nil => exact .inl fun row hrow => (nomatch hrow)
  | cons first rest ih =>
      by_cases hfirst : GoodRow host header first
      · rcases ih with hgood | ⟨i, row, hbad⟩
        · refine .inl fun row hrow => ?_
          rcases List.mem_cons.mp hrow with rfl | hrest
          · exact hfirst
          · exact hgood row hrest
        · refine .inr ⟨i + 1, row, hbad.at_index, hbad.bad, ?_⟩
          intro j hj other hother
          cases j with
          | zero =>
              cases hother
              exact hfirst
          | succ j =>
              exact hbad.before j (by omega) other hother
      · refine .inr ⟨0, first, rfl, hfirst, ?_⟩
        intro j hj
        exact absurd hj (Nat.not_lt_zero j)

/-- With a first bad row, not every row is good. -/
theorem FirstBad.not_good {rows : List (List String)} {i : Nat}
    {row : List String} (h : FirstBad host header rows i row) :
    ¬∀ other ∈ rows, GoodRow host header other :=
  fun hgood => h.bad (hgood row (List.mem_of_getElem? h.at_index))

/-- Up to the first bad row the loop collects records. -/
theorem parseRows_firstBad (name : String)
    (hcols : ∀ column ∈ requiredColumns, column ∈ header)
    {rows : List (List String)} {i : Nat} {row : List String}
    (h : FirstBad host header rows i row) (lineNo : Nat) :
    ∃ (records : List CustodianPositionRecord) (rest : List (List String)),
      parseRows host name header lineNo rows
        = (do
            let later ← parseRows host name header (lineNo + i) (row :: rest)
            return records ++ later) := by
  obtain ⟨hi, hrow⟩ := List.getElem?_eq_some_iff.mp h.at_index
  have hsplit : rows = rows.take i ++ row :: rows.drop (i + 1) := by
    rw [← hrow, List.getElem_cons_drop, List.take_append_drop]
  have hgood : ∀ other ∈ rows.take i, GoodRow host header other := by
    intro other hother
    obtain ⟨j, hj, hat⟩ := List.mem_take_iff_getElem.mp hother
    refine h.before j (by omega) other ?_
    rw [← hat]
    exact List.getElem?_eq_getElem _
  obtain ⟨records, -, hrecords⟩ := parseRows_append name hcols
    (rows.take i) (row :: rows.drop (i + 1)) lineNo hgood
  refine ⟨records, rows.drop (i + 1), ?_⟩
  rw [List.length_take, Nat.min_eq_left hi.le, ← hsplit] at hrecords
  exact hrecords

-- ================================================================= the table

/-- With the required columns there, only the reader and the loop are left
to fail, and a loop over no rows. -/
theorem parseTable_eq (hcols : ∀ column ∈ requiredColumns, column ∈ header)
    (path : Path) (table : List (List String)) :
    parseTable host path (header :: table)
      = (do
          checkFields header
          let records ← parseRows host path.name header 2 (dataRows table)
          if records = [] then
            throw (.valueError ("No position rows in " ++ path.name))
          return records) := by
  have hmissing : (requiredColumns.filter fun col => col ∉ header) = [] := by
    rw [List.filter_eq_nil_iff]
    intro column hcol hout
    exact of_decide_eq_true hout (hcols column hcol)
  rw [parseTable, hmissing]
  rfl

/-- Clean, when the row the loop raises at is the first bad one. -/
theorem failsCleanly_valueError (name : String) {rows : List (List String)} {i : Nat}
    {row : List String} (hbad : FirstBad host header rows i row)
    (n : Nat) (why : String) :
    FailsCleanly host name header rows
        (.error (.valueError (invalidRow n name why)))
      ↔ n = i + 2 := by
  constructor
  · intro hclean
    obtain ⟨why', hmsg⟩ := hclean i row hbad
    exact invalidRow_inj hmsg
  · intro hn j other hother
    obtain ⟨rfl, -⟩ := hbad.unique hother
    exact ⟨why, by rw [hn]⟩

/-- A parse that succeeds over a bad row is no clean failure. -/
theorem not_failsCleanly_ok {rows : List (List String)} {i : Nat}
    {row : List String} (hbad : FirstBad host header rows i row)
    (records : List CustodianPositionRecord) :
    ¬FailsCleanly host name header rows (.ok records) := by
  intro hclean
  refine hbad.not_good fun other hother => ?_
  obtain ⟨k, hk, hat⟩ := List.getElem_of_mem hother
  have hspelled := List.forall₂_iff_get.mp hclean
  rw [← hat]
  exact ⟨_, hspelled.2 k hk (hspelled.1 ▸ hk)⟩

/-- What a row after the first bad one raises names that row, or is no
`ValueError`. -/
theorem not_failsCleanly_later {rows rest : List (List String)} {i : Nat}
    {row : List String} (hbad : FirstBad host header rows i row)
    {lineNo : Nat} (hlater : i + 2 < lineNo) {err : Exc}
    (h : parseRows host name header lineNo rest = .error err) :
    ¬FailsCleanly host name header rows (.error err) := by
  intro hclean
  cases err with
  | valueError msg =>
      obtain ⟨n, why, hn, rfl⟩ := parseRows_valueError h
      have hnamed := (failsCleanly_valueError name hbad n why).mp hclean
      omega
  | _ => exact hclean.elim

/-- What the loop comes to at a first bad row is clean when the row is
reported. -/
theorem failsCleanly_firstBad_iff
    (hcols : ∀ column ∈ requiredColumns, column ∈ header)
    {rows : List (List String)} {i : Nat} {row : List String}
    (hbad : FirstBad host header rows i row)
    (finish : List CustodianPositionRecord →
      Except Exc (List CustodianPositionRecord))
    (hfinish : ∀ records, records ≠ [] → finish records = .ok records) :
    FailsCleanly host name header rows
        (parseRows host name header 2 rows >>= finish)
      ↔ Reported host header row := by
  obtain ⟨records, rest, hrun⟩ := parseRows_firstBad name hcols hbad 2
  rw [hrun, reported_iff hcols, parseRows]
  by_cases hfits : FieldsFit row
  · rw [checkFields_of_fit hfits, ok_bind]
    unfold parseRow
    cases hrecord : recordOf host (dictRow header row) with
    | error err =>
        dsimp only
        by_cases hcaught : caught err = true
        · rw [if_pos hcaught]
          have hclean := (failsCleanly_valueError name hbad (2 + i)
            err.str).mpr (by omega)
          exact ⟨fun _ => ⟨hfits, err, rfl, hcaught⟩, fun _ => hclean⟩
        · rw [if_neg hcaught]
          constructor
          · intro hclean
            cases err <;> first | exact hclean.elim | exact absurd rfl hcaught
          · intro ⟨_, err', herr', hcaught'⟩
            cases herr'
            exact absurd hcaught' hcaught
    | ok record =>
        rw [ok_bind]
        constructor
        · intro hclean
          cases hlater : parseRows host name header (2 + i + 1) rest with
          | ok later =>
              rw [hlater] at hclean
              have hne : records ++ record :: later ≠ [] := by simp
              change FailsCleanly host name header rows
                (finish (records ++ record :: later)) at hclean
              rw [hfinish _ hne] at hclean
              exact absurd hclean (not_failsCleanly_ok hbad _)
          | error err =>
              rw [hlater] at hclean
              exact absurd hclean
                (not_failsCleanly_later hbad (by omega) hlater)
        · intro ⟨_, err, herr, _⟩
          cases herr
  · rw [checkFields_of_not_fit hfits]
    exact ⟨fun hclean => hclean.elim, fun hreported => absurd hreported.1 hfits⟩

/-- A table is read cleanly exactly when its first bad row is reported. -/
theorem failsCleanly_parseTable_iff
    (hcols : ∀ column ∈ requiredColumns, column ∈ header)
    (path : Path) (table : List (List String)) :
    FailsCleanly host path.name header (dataRows table)
        (parseTable host path (header :: table))
      ↔ ReadsCleanly host header (dataRows table) := by
  rw [parseTable_eq hcols]
  by_cases hfits : FieldsFit header
  · rw [checkFields_of_fit hfits, ok_bind]
    rcases good_or_firstBad host header (dataRows table) with
      hgood | ⟨i, row, hbad⟩
    · -- no row is bad: the records, or the error of a file without rows
      have hnone : ∀ i row, ¬FirstBad host header (dataRows table) i row :=
        fun i row hbad => hbad.not_good hgood
      obtain ⟨records, hrecords, hspelled⟩ := parseRows_of_good
        path.name hcols (dataRows table) 2 hgood
      rw [hrecords, ok_bind]
      refine ⟨fun _ => ⟨hfits, fun i row hbad => (hnone i row hbad).elim⟩,
        fun _ => ?_⟩
      by_cases hempty : records = []
      · rw [if_pos hempty]
        exact fun i row hbad => (hnone i row hbad).elim
      · rw [if_neg hempty]
        exact hspelled
    · rw [failsCleanly_firstBad_iff hcols hbad]
      · constructor
        · intro hreported
          refine ⟨hfits, fun j other hother => ?_⟩
          obtain ⟨-, rfl⟩ := hbad.unique hother
          exact hreported
        · exact fun hclean => hclean.2 i row hbad
      · intro records hne
        rw [if_neg hne]
        rfl
  · rw [checkFields_of_not_fit hfits]
    exact ⟨fun hclean => hclean.elim, fun hclean => absurd hclean.1 hfits⟩

-- ================================================================= the files

/-- A readable file is parsed as the rows of its text. -/
theorem parseDelimited_of_read {dialect : Csv.Dialect Char} {path : Path}
    {text : String} (hread : host.read path = some text) :
    parseDelimited dialect host path
      = parseTable host path (csvRows dialect text) := by
  unfold parseDelimited
  rw [hread]

/-- Over an opened file the parser fails cleanly exactly when the rows read
cleanly. -/
theorem failsCleanly_parseDelimited_iff {dialect : Csv.Dialect Char}
    {path : Path} {rows : List (List String)}
    (hfile : Opens dialect host path header rows) :
    FailsCleanly host path.name header rows
        (parseDelimited dialect host path)
      ↔ ReadsCleanly host header rows := by
  obtain ⟨text, table, hread, htable, hcols, rfl⟩ := hfile
  rw [parseDelimited_of_read hread, htable]
  exact failsCleanly_parseTable_iff hcols path table

/-- A table reads back from its text. -/
theorem csvRows_csvText (dialect : Csv.Dialect Char) (style : Csv.Style Char)
    (table : List (List String)) :
    csvRows dialect (csvText dialect style table) = table := by
  unfold csvRows csvText
  rw [String.toList_ofList, Csv.read_encode, List.map_map]
  have hrow : ∀ row : List String,
      (row.map String.toList).map String.ofList = row := by
    intro row
    rw [List.map_map]
    exact (List.map_congr_left fun cell _ => String.ofList_toList).trans
      (List.map_id row)
  exact (List.map_congr_left fun row _ => hrow row).trans (List.map_id table)

/-- Each parser fails cleanly exactly on the files whose first bad row it
reports; and under one name the same header and data rows come to the same
outcome, so one table does, however it is written under each delimiter. -/
theorem custodian_csv_fails_cleanly_iff (host : CsvHost) :
    (∀ path header rows, Opens comma host path header rows →
      (FailsCleanly host path.name header rows (parseCustodianCsv host path)
        ↔ ReadsCleanly host header rows))
    ∧ (∀ path header rows, Opens semicolon host path header rows →
      (FailsCleanly host path.name header rows (parseFidelityCsv host path)
        ↔ ReadsCleanly host header rows))
    ∧ (∀ path path' header rows, path.name = path'.name →
      Opens comma host path header rows →
      Opens semicolon host path' header rows →
      parseCustodianCsv host path = parseFidelityCsv host path')
    ∧ ∀ path path' header table style style', path.name = path'.name →
      (∀ column ∈ requiredColumns, column ∈ header) →
      host.read path = some (csvText comma style (header :: table)) →
      host.read path' = some (csvText semicolon style' (header :: table)) →
      parseCustodianCsv host path = parseFidelityCsv host path' := by
  have hagree : ∀ path path' header rows, path.name = path'.name →
      Opens comma host path header rows →
      Opens semicolon host path' header rows →
      parseCustodianCsv host path = parseFidelityCsv host path' := by
    intro path path' header rows hname ⟨text, table, hread, htable, hcols, hrows⟩
      ⟨text', table', hread', htable', _, hrows'⟩
    show parseDelimited comma host path = parseDelimited semicolon host path'
    rw [parseDelimited_of_read hread, parseDelimited_of_read hread', htable,
      htable', parseTable_eq hcols, parseTable_eq hcols, hname, ← hrows,
      ← hrows']
  refine ⟨?_, ?_, hagree, ?_⟩
  · intro path header rows hfile
    exact failsCleanly_parseDelimited_iff hfile
  · intro path header rows hfile
    exact failsCleanly_parseDelimited_iff hfile
  · intro path path' header table style style' hname hcols hread hread'
    exact hagree path path' header (dataRows table) hname
      ⟨_, table, hread, csvRows_csvText comma style _, hcols, rfl⟩
      ⟨_, table, hread', csvRows_csvText semicolon style' _, hcols, rfl⟩

/-- Characters as ASCII has them, and the one date the files hold. -/
def asciiHost (read : Path → Option String) : CsvHost where
  read := read
  upper s := String.ofList (s.toList.map Char.toUpper)
  decimalDigit _ := none
  dateFromIsoformat s :=
    if s = "2026-06-24" then .ok 739791
    else .error ("Invalid isoformat string: '" ++ s ++ "'")

/-- A file under the comma parser. -/
def schwabFile : Path := ⟨"/schwab/positions.csv", "positions.csv"⟩

/-- A file under the semicolon parser. -/
def fidelityFile : Path := ⟨"/fidelity/positions.csv", "positions.csv"⟩

/-- Two lines: the second one's quantity is no number. -/
def lotsTable : List (List String) :=
  [["acct_a", "vti", "10.5", "2026-06-24"], ["acct_b", "agg", "ten", ""]]

/-- As spreadsheets write: quotes where needed, lines that end `cr lf`. -/
def minimal : Csv.Style Char := ⟨fun _ => false, true⟩

/-- Every cell quoted, lines that end `lf`. -/
def quoteAll : Csv.Style Char := ⟨fun _ => true, false⟩

/-- One table in both directories, each under its delimiter. -/
def lotsFiles (path : Path) : Option String :=
  if path = schwabFile then
    some (csvText comma minimal (requiredColumns :: lotsTable))
  else if path = fidelityFile then
    some (csvText semicolon quoteAll (requiredColumns :: lotsTable))
  else none

/-- The host that holds both files. -/
def lotsHost : CsvHost := asciiHost lotsFiles

theorem lotsHost_read (path : Path) : lotsHost.read path = lotsFiles path := rfl

theorem lotsHost_schwab : lotsHost.read schwabFile
    = some (csvText comma minimal (requiredColumns :: lotsTable)) := by
  rw [lotsHost_read, lotsFiles, if_pos rfl]

theorem lotsHost_fidelity : lotsHost.read fidelityFile
    = some (csvText semicolon quoteAll (requiredColumns :: lotsTable)) := by
  have hne : fidelityFile ≠ schwabFile := by decide
  rw [lotsHost_read, lotsFiles, if_neg hne, if_pos rfl]

/-- The first line of the table is good. -/
theorem lotsTable_good :
    GoodRow lotsHost requiredColumns
      ["acct_a", "vti", "10.5", "2026-06-24"] := by
  refine ⟨⟨"acct_a", "VTI", .finite ⟨false, 105, -1⟩, 739791⟩,
    (spells_iff fun _ h => h).mpr ⟨?_, ?_, ?_⟩⟩
  · unfold FieldsFit
    decide
  · decide +kernel
  · rfl

/-- The second fails on a field the parser reports. -/
theorem lotsTable_readsCleanly :
    ReadsCleanly lotsHost requiredColumns lotsTable := by
  have hbad : Reported lotsHost requiredColumns ["acct_b", "agg", "ten", ""] := by
    rw [reported_iff fun _ h => h]
    refine ⟨?_, conversionSyntax, ?_, rfl⟩
    · unfold FieldsFit
      decide
    · decide +kernel
  refine ⟨?_, fun i row hfirst => ?_⟩
  · unfold FieldsFit
    decide
  · have hat := hfirst.at_index
    match i, hat with
    | 0, rfl => exact absurd lotsTable_good hfirst.bad
    | 1, rfl => exact hbad

/-- The second row of the table is named by both parsers alike. -/
theorem custodian_csv_fails_cleanly_lots :
    FailsCleanly lotsHost schwabFile.name requiredColumns lotsTable
        (parseCustodianCsv lotsHost schwabFile)
      ∧ FailsCleanly lotsHost fidelityFile.name requiredColumns lotsTable
        (parseFidelityCsv lotsHost fidelityFile)
      ∧ parseCustodianCsv lotsHost schwabFile
        = parseFidelityCsv lotsHost fidelityFile := by
  obtain ⟨hcomma, hsemicolon, -, hwritten⟩ :=
    custodian_csv_fails_cleanly_iff lotsHost
  have hrows : lotsTable = dataRows lotsTable := by decide
  have hschwab : Opens comma lotsHost schwabFile requiredColumns lotsTable :=
    ⟨_, lotsTable, lotsHost_schwab, csvRows_csvText comma minimal _,
      fun _ h => h, hrows⟩
  have hfidelity :
      Opens semicolon lotsHost fidelityFile requiredColumns lotsTable :=
    ⟨_, lotsTable, lotsHost_fidelity, csvRows_csvText semicolon quoteAll _,
      fun _ h => h, hrows⟩
  have hname : schwabFile.name = fidelityFile.name := by decide
  refine ⟨?_, ?_, ?_⟩
  · rw [hcomma _ _ _ hschwab]
    exact lotsTable_readsCleanly
  · rw [hsemicolon _ _ _ hfidelity]
    exact lotsTable_readsCleanly
  · exact hwritten schwabFile fidelityFile requiredColumns lotsTable minimal
      quoteAll hname (fun _ h => h) lotsHost_schwab lotsHost_fidelity

/-- A row that ends after its second cell. -/
def shortHost : CsvHost :=
  asciiHost fun _ =>
    some "account_id,ticker,quantity,as_of_date\nacct_a,VTI\n"

/-- A row without its last cells raises `AttributeError`, which is not wrapped. -/
theorem short_row_escapes :
    Opens comma shortHost schwabFile requiredColumns [["acct_a", "VTI"]]
      ∧ parseCustodianCsv shortHost schwabFile = .error (.attributeError
        "'NoneType' object has no attribute 'strip'")
      ∧ ¬FailsCleanly shortHost "positions.csv" requiredColumns
        [["acct_a", "VTI"]] (parseCustodianCsv shortHost schwabFile) := by
  have hrun : parseCustodianCsv shortHost schwabFile
      = .error (.attributeError
        "'NoneType' object has no attribute 'strip'") := by decide +kernel
  refine ⟨⟨_, [["acct_a", "VTI"]], rfl, ?_, fun _ h => h, ?_⟩, hrun, ?_⟩
  · decide +kernel
  · decide
  · rw [hrun]
    exact fun hclean => hclean

end Warehouse.CustodianCsv
