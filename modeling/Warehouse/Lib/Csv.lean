/-
Delimited text: a reader with six modes that takes one character at a
time, and a writer that quotes a cell where it must, and wherever else its
style says.

The reader's alphabet is any type; a `Dialect` names the four characters
that mean something and carries that they differ. Outside quotes either
newline ends the record, and one `lf` right after a `cr` belongs to it.

`read_encode` is the round trip: a table written in any style reads back
as the table. Its engine is `run_cell`: however a cell is written, the
reader is left holding exactly its characters, in a mode that a delimiter
or a newline ends (`Ended`).
-/
import Mathlib.Data.List.Basic

namespace Warehouse.Lib.Csv

/-- The characters that mean something. -/
structure Dialect (α : Type*) where
  delimiter : α
  quote : α
  lf : α
  cr : α
  distinct : [delimiter, quote, lf, cr].Nodup

/-- Where the reader stands within a record. -/
inductive Mode where
  | startRecord
  | startField
  | inField
  | inQuotedField
  | quoteInQuotedField
  | eatCrnl
  deriving DecidableEq, Repr

/-- The field and the record being read, and the records read. -/
structure Reader (α : Type*) where
  mode : Mode
  field : List α
  fields : List (List α)
  rows : List (List (List α))

namespace Reader

variable {α : Type*}

/-- One more character of the field being read. -/
def addChar (r : Reader α) (c : α) (mode : Mode) : Reader α :=
  { r with field := r.field ++ [c], mode := mode }

/-- The field ends here. -/
def saveField (r : Reader α) (mode : Mode) : Reader α :=
  { r with field := [], fields := r.fields ++ [r.field], mode := mode }

/-- The record ends here. -/
def endRecord (r : Reader α) (mode : Mode) : Reader α :=
  { r with fields := [], rows := r.rows ++ [r.fields], mode := mode }

end Reader

variable {α : Type*} [DecidableEq α] (d : Dialect α)

-- ================================================================ reading

/-- Either character of a line end. -/
def IsNewline (c : α) : Prop := c = d.lf ∨ c = d.cr

instance (c : α) : Decidable (IsNewline d c) :=
  inferInstanceAs (Decidable (c = d.lf ∨ c = d.cr))

/-- Where a newline leaves the reader. -/
def afterNewline (c : α) : Mode := if c = d.cr then .eatCrnl else .startRecord

/-- The end of a record that has a field in hand. -/
def endRow (r : Reader α) (c : α) : Reader α :=
  (r.saveField .startField).endRecord (afterNewline d c)

/-- The first character of a field that is not the record's first. -/
def stepStartField (r : Reader α) (c : α) : Reader α :=
  if IsNewline d c then endRow d r c
  else if c = d.quote then { r with mode := .inQuotedField }
  else if c = d.delimiter then r.saveField .startField
  else r.addChar c .inField

/-- An empty line is a record without fields. -/
def stepStartRecord (r : Reader α) (c : α) : Reader α :=
  if IsNewline d c then r.endRecord (afterNewline d c)
  else stepStartField d r c

/-- The reader's move on one character, by mode. -/
def step (r : Reader α) (c : α) : Reader α :=
  match r.mode with
  | .startRecord => stepStartRecord d r c
  | .startField => stepStartField d r c
  | .inField =>
      if IsNewline d c then endRow d r c
      else if c = d.delimiter then r.saveField .startField
      else r.addChar c .inField
  | .inQuotedField =>
      if c = d.quote then { r with mode := .quoteInQuotedField }
      else r.addChar c .inQuotedField
  | .quoteInQuotedField =>
      if c = d.quote then r.addChar c .inQuotedField
      else if c = d.delimiter then r.saveField .startField
      else if IsNewline d c then endRow d r c
      else r.addChar c .inField
  | .eatCrnl =>
      if c = d.lf then { r with mode := .startRecord }
      else stepStartRecord d r c

/-- The reader over a whole text. -/
def run (r : Reader α) (text : List α) : Reader α := text.foldl (step d) r

/-- The text ends: a record under way ends with it, an open quote too. -/
def finish (r : Reader α) : List (List (List α)) :=
  match r.mode with
  | .startRecord | .eatCrnl => r.rows
  | _ => r.rows ++ [r.fields ++ [r.field]]

/-- The records of a text. -/
def read (text : List α) : List (List (List α)) :=
  finish (run d ⟨.startRecord, [], [], []⟩ text)

-- ================================================================ writing

/-- What a writer may choose: which cells it quotes without need, and the
line ending. -/
structure Style (α : Type*) where
  quoted : List α → Bool
  crlf : Bool

/-- A character no bare cell may hold. -/
def Special (c : α) : Prop := c = d.delimiter ∨ c = d.quote ∨ IsNewline d c

instance (c : α) : Decidable (Special d c) :=
  inferInstanceAs (Decidable (c = d.delimiter ∨ c = d.quote ∨ IsNewline d c))

/-- A quote within quotes is doubled. -/
def escape (cell : List α) : List α :=
  cell.flatMap fun c => if c = d.quote then [d.quote, d.quote] else [c]

/-- A cell in quotes. -/
def quoteCell (cell : List α) : List α :=
  d.quote :: (escape d cell ++ [d.quote])

/-- A cell as the style writes it: quoted where it asks for it, or where a
special character forces it. -/
def encodeCell (style : Style α) (cell : List α) : List α :=
  if style.quoted cell ∨ ∃ c ∈ cell, Special d c then quoteCell d cell
  else cell

/-- The cells after the first, each behind its delimiter. -/
def encodeCells (style : Style α) (cells : List (List α)) : List α :=
  cells.flatMap fun cell => d.delimiter :: encodeCell d style cell

/-- One empty cell is quoted: bare, the line would be empty. -/
def encodeRow (style : Style α) : List (List α) → List α
  | [] => []
  | [[]] => quoteCell d []
  | cell :: cells => encodeCell d style cell ++ encodeCells d style cells

/-- What the style ends a record with. -/
def terminator (style : Style α) : List α :=
  if style.crlf then [d.cr, d.lf] else [d.lf]

/-- The text of a table. -/
def encode (style : Style α) (table : List (List (List α))) : List α :=
  table.flatMap fun row => encodeRow d style row ++ terminator d style

-- ============================================================ single steps

/-- A mode in which the field in hand is complete if it ends now. -/
def Ended (mode : Mode) : Prop :=
  mode = .startField ∨ mode = .inField ∨ mode = .quoteInQuotedField

omit [DecidableEq α] in
/-- The four special characters of a dialect differ. -/
theorem Dialect.ne (d : Dialect α) :
    d.delimiter ≠ d.quote ∧ d.delimiter ≠ d.lf ∧ d.delimiter ≠ d.cr
      ∧ d.quote ≠ d.lf ∧ d.quote ≠ d.cr ∧ d.lf ≠ d.cr := by
  have h := d.distinct
  simp only [List.nodup_cons, List.mem_cons, List.not_mem_nil, or_false,
    not_or] at h
  obtain ⟨⟨hq, hl, hc⟩, ⟨hql, hqc⟩, hlc, -⟩ := h
  exact ⟨hq, hl, hc, hql, hqc, hlc⟩

omit [DecidableEq α] in
theorem not_isNewline_delimiter : ¬IsNewline d d.delimiter := by
  obtain ⟨-, hl, hc, -⟩ := d.ne
  intro h
  exact h.elim hl hc

omit [DecidableEq α] in
theorem not_isNewline_quote : ¬IsNewline d d.quote := by
  obtain ⟨-, -, -, hl, hc, -⟩ := d.ne
  intro h
  exact h.elim hl hc

/-- A text is read as its halves, one after the other. -/
theorem run_append (r : Reader α) (text text' : List α) :
    run d r (text ++ text') = run d (run d r text) text' :=
  List.foldl_append

theorem run_cons (r : Reader α) (c : α) (text : List α) :
    run d r (c :: text) = run d (step d r c) text := rfl

theorem run_nil (r : Reader α) : run d r [] = r := rfl

/-- A delimiter ends a complete field. -/
theorem step_delimiter {mode : Mode} (hmode : Ended mode) (field : List α)
    (fields : List (List α)) (rows : List (List (List α))) :
    step d ⟨mode, field, fields, rows⟩ d.delimiter
      = ⟨.startField, [], fields ++ [field], rows⟩ := by
  have hnl := not_isNewline_delimiter d
  have hq := d.ne.1
  rcases hmode with rfl | rfl | rfl
  · show stepStartField d _ _ = _
    rw [stepStartField, if_neg hnl, if_neg hq, if_pos rfl]
    rfl
  · simp only [step]
    rw [if_neg hnl]
    simp only [if_true]
    rfl
  · simp only [step]
    rw [if_neg hq]
    simp only [if_true]
    rfl

/-- A newline ends a complete field and its record. -/
theorem step_newline {mode : Mode} (hmode : Ended mode) {c : α}
    (hc : IsNewline d c) (field : List α) (fields : List (List α))
    (rows : List (List (List α))) :
    step d ⟨mode, field, fields, rows⟩ c
      = ⟨afterNewline d c, [], [], rows ++ [fields ++ [field]]⟩ := by
  rcases hmode with rfl | rfl | rfl
  · show stepStartField d _ _ = _
    rw [stepStartField, if_pos hc]
    rfl
  · simp only [step]
    rw [if_pos hc]
    rfl
  · have hq : c ≠ d.quote := by
      intro h
      exact not_isNewline_quote d (h ▸ hc)
    have hdelim : c ≠ d.delimiter := by
      intro h
      exact not_isNewline_delimiter d (h ▸ hc)
    simp only [step]
    rw [if_neg hq, if_neg hdelim, if_pos hc]
    rfl

/-- A record that starts with anything but a newline starts with a field. -/
theorem step_startRecord {c : α} (hc : ¬IsNewline d c) (field : List α)
    (fields : List (List α)) (rows : List (List (List α))) :
    step d ⟨.startRecord, field, fields, rows⟩ c
      = step d ⟨.startField, field, fields, rows⟩ c := by
  show stepStartRecord d _ _ = stepStartField d _ _
  rw [stepStartRecord, if_neg hc]
  unfold stepStartField Reader.saveField Reader.addChar
  rw [if_neg hc, if_neg hc]

-- =================================================================== cells

/-- Bare characters are added as they come. -/
theorem run_bare {cs : List α} (hcs : ∀ c ∈ cs, ¬Special d c)
    (field : List α) (fields : List (List α)) (rows : List (List (List α))) :
    run d ⟨.inField, field, fields, rows⟩ cs
      = ⟨.inField, field ++ cs, fields, rows⟩ := by
  induction cs generalizing field with
  | nil => rw [run_nil, List.append_nil]
  | cons c cs ih =>
      have hc : ¬Special d c := hcs c (List.mem_cons_self ..)
      simp only [Special, not_or] at hc
      obtain ⟨hdelim, -, hnl⟩ := hc
      have hstep : step d ⟨.inField, field, fields, rows⟩ c
          = ⟨.inField, field ++ [c], fields, rows⟩ := by
        simp only [step]
        rw [if_neg hnl, if_neg hdelim]
        rfl
      rw [run_cons, hstep, ih fun c hc => hcs c (List.mem_cons_of_mem _ hc),
        List.append_assoc]
      rfl

/-- Within quotes everything is added, a doubled quote once. -/
theorem run_escape (cell field : List α) (fields : List (List α))
    (rows : List (List (List α))) :
    run d ⟨.inQuotedField, field, fields, rows⟩ (escape d cell)
      = ⟨.inQuotedField, field ++ cell, fields, rows⟩ := by
  induction cell generalizing field with
  | nil => rw [escape, List.flatMap_nil, run_nil, List.append_nil]
  | cons c cell ih =>
      have hescape : escape d (c :: cell)
          = (if c = d.quote then [d.quote, d.quote] else [c])
            ++ escape d cell := rfl
      have hchar : run d ⟨.inQuotedField, field, fields, rows⟩
          (if c = d.quote then [d.quote, d.quote] else [c])
            = ⟨.inQuotedField, field ++ [c], fields, rows⟩ := by
        by_cases hc : c = d.quote
        · subst hc
          rw [if_pos rfl]
          simp [run_cons, run_nil, step, Reader.addChar]
        · rw [if_neg hc]
          simp [run_cons, run_nil, step, Reader.addChar, hc]
      rw [hescape, run_append, hchar, ih, List.append_assoc]
      rfl

/-- A quoted cell is read back, up to its closing quote. -/
theorem run_quoteCell (cell : List α) (fields : List (List α))
    (rows : List (List (List α))) :
    run d ⟨.startField, [], fields, rows⟩ (quoteCell d cell)
      = ⟨.quoteInQuotedField, cell, fields, rows⟩ := by
  have hopen : step d ⟨.startField, [], fields, rows⟩ d.quote
      = ⟨.inQuotedField, [], fields, rows⟩ := by
    show stepStartField d _ _ = _
    rw [stepStartField, if_neg (not_isNewline_quote d), if_pos rfl]
  rw [quoteCell, run_cons, hopen, run_append, run_escape, List.nil_append]
  simp [run_cons, run_nil, step]

/-- A cell is quoted, or bare and free of special characters. -/
theorem encodeCell_cases (style : Style α) (cell : List α) :
    encodeCell d style cell = quoteCell d cell
      ∨ encodeCell d style cell = cell ∧ ∀ c ∈ cell, ¬Special d c := by
  unfold encodeCell
  split
  · exact .inl rfl
  · next hbare =>
    refine .inr ⟨rfl, fun c hc hspecial => ?_⟩
    exact hbare (.inr ⟨c, hc, hspecial⟩)

/-- However a cell is written, the reader ends up holding it. -/
theorem run_cell (style : Style α) (cell : List α) (fields : List (List α))
    (rows : List (List (List α))) :
    ∃ mode, Ended mode
      ∧ run d ⟨.startField, [], fields, rows⟩ (encodeCell d style cell)
        = ⟨mode, cell, fields, rows⟩ := by
  rcases encodeCell_cases d style cell with hquoted | ⟨hbare, hcs⟩
  · rw [hquoted]
    exact ⟨_, .inr (.inr rfl), run_quoteCell d cell fields rows⟩
  · rw [hbare]
    cases cell with
    | nil => exact ⟨_, .inl rfl, rfl⟩
    | cons c cs =>
        have hc : ¬Special d c := hcs c (List.mem_cons_self ..)
        simp only [Special, not_or] at hc
        obtain ⟨hdelim, hq, hnl⟩ := hc
        have hstep : step d ⟨.startField, [], fields, rows⟩ c
            = ⟨.inField, [c], fields, rows⟩ := by
          show stepStartField d _ _ = _
          rw [stepStartField, if_neg hnl, if_neg hq, if_neg hdelim]
          rfl
        refine ⟨_, .inr (.inl rfl), ?_⟩
        rw [run_cons, hstep,
          run_bare d fun c hc => hcs c (List.mem_cons_of_mem _ hc)]
        rfl

-- ==================================================================== rows

/-- The line ending ends the record and leaves the reader at the next. -/
theorem run_terminator (style : Style α) {mode : Mode} (hmode : Ended mode)
    (field : List α) (fields : List (List α)) (rows : List (List (List α))) :
    run d ⟨mode, field, fields, rows⟩ (terminator d style)
      = ⟨.startRecord, [], [], rows ++ [fields ++ [field]]⟩ := by
  have hlc := d.ne.2.2.2.2.2
  unfold terminator
  split
  · rw [run_cons, step_newline d hmode (.inr rfl), run_cons, run_nil]
    simp [step, afterNewline]
  · rw [run_cons, step_newline d hmode (.inl rfl), run_nil]
    simp [afterNewline, hlc]

/-- The cells after the first, and the line ending. -/
theorem run_cells (style : Style α) (cells : List (List α)) {mode : Mode}
    (hmode : Ended mode) (field : List α) (fields : List (List α))
    (rows : List (List (List α))) :
    run d ⟨mode, field, fields, rows⟩
        (encodeCells d style cells ++ terminator d style)
      = ⟨.startRecord, [], [], rows ++ [fields ++ field :: cells]⟩ := by
  induction cells generalizing mode field fields with
  | nil => exact run_terminator d style hmode field fields rows
  | cons cell cells ih =>
      obtain ⟨mode', hmode', hcell⟩ :=
        run_cell d style cell (fields ++ [field]) rows
      have hsplit : encodeCells d style (cell :: cells) ++ terminator d style
          = d.delimiter :: (encodeCell d style cell
            ++ (encodeCells d style cells ++ terminator d style)) := by
        simp [encodeCells]
      rw [hsplit, run_cons, step_delimiter d hmode, run_append, hcell,
        ih hmode', List.append_assoc]
      rfl

/-- A row that has cells does not look like an empty line. -/
theorem encodeRow_head (style : Style α) {row : List (List α)}
    (hrow : row ≠ []) :
    ∃ c text, encodeRow d style row = c :: text ∧ ¬IsNewline d c := by
  unfold encodeRow
  split
  · exact absurd rfl hrow
  · exact ⟨_, _, rfl, not_isNewline_quote d⟩
  · next cell cells hne =>
    rcases encodeCell_cases d style cell with hquoted | ⟨hbare, hcs⟩
    · rw [hquoted]
      exact ⟨_, _, rfl, not_isNewline_quote d⟩
    · rw [hbare]
      cases cell with
      | cons c cs =>
          refine ⟨c, _, rfl, fun hnl => ?_⟩
          exact hcs c (List.mem_cons_self ..) (.inr (.inr hnl))
      | nil =>
          cases cells with
          | nil => exact (hne rfl rfl).elim
          | cons cell' cells =>
              exact ⟨_, _, rfl, not_isNewline_delimiter d⟩

/-- A row's text, from the start of a field. -/
theorem run_row_of_startField (style : Style α) {row : List (List α)}
    (hrow : row ≠ []) (rows : List (List (List α))) :
    run d ⟨.startField, [], [], rows⟩
        (encodeRow d style row ++ terminator d style)
      = ⟨.startRecord, [], [], rows ++ [row]⟩ := by
  unfold encodeRow
  split
  · exact absurd rfl hrow
  · rw [run_append, run_quoteCell, run_terminator d style (.inr (.inr rfl))]
    rfl
  · next cell cells _ =>
    obtain ⟨mode, hmode, hcell⟩ := run_cell d style cell [] rows
    rw [List.append_assoc, run_append, hcell, run_cells d style cells hmode]
    rfl

/-- A row's text, read from between two records, adds the row. -/
theorem run_row (style : Style α) (row : List (List α))
    (rows : List (List (List α))) :
    run d ⟨.startRecord, [], [], rows⟩
        (encodeRow d style row ++ terminator d style)
      = ⟨.startRecord, [], [], rows ++ [row]⟩ := by
  by_cases hrow : row = []
  · -- an empty line, which is a record without fields
    subst hrow
    have hlc := d.ne.2.2.2.2.2
    show run d _ (terminator d style) = _
    unfold terminator
    split
    · simp [run_cons, run_nil, step, stepStartRecord, IsNewline,
        afterNewline, Reader.endRecord]
    · simp [run_cons, run_nil, step, stepStartRecord, IsNewline,
        afterNewline, Reader.endRecord, hlc]
  · obtain ⟨c, text, htext, hc⟩ := encodeRow_head d style hrow
    have hfield := run_row_of_startField d style hrow rows
    rw [htext, List.cons_append, run_cons] at hfield ⊢
    rw [step_startRecord d hc]
    exact hfield

/-- An encoded table is read back, whatever the style. -/
theorem run_encode (style : Style α) (table rows : List (List (List α))) :
    run d ⟨.startRecord, [], [], rows⟩ (encode d style table)
      = ⟨.startRecord, [], [], rows ++ table⟩ := by
  induction table generalizing rows with
  | nil => rw [encode, List.flatMap_nil, run_nil, List.append_nil]
  | cons row table ih =>
      have hsplit : encode d style (row :: table)
          = (encodeRow d style row ++ terminator d style)
            ++ encode d style table := rfl
      rw [hsplit, run_append, run_row, ih, List.append_assoc]
      rfl

/-- A table reads back from its text, whatever the style. -/
theorem read_encode (style : Style α) (table : List (List (List α))) :
    read d (encode d style table) = table := by
  rw [read, run_encode]
  rfl

end Warehouse.Lib.Csv
