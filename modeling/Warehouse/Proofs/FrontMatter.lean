/-
A report's Markdown says which report it is.

The front matter of a pack is read back field by field, whatever the text
after it (`parseFrontMatter_lines`): no line of it is a closing line, since
each starts with its key (`Key`), and none breaks where its value does not
(`OneLine`). So the PDF step, given a pack's Markdown, finds the snapshot it
was rendered from, and renders it for no other (`pack_renders_own_snapshot`).

# The writer and the parser

The writer puts one `key: value` line a field between two rules; the parser
takes what stands before the first closing rule, splits each line at its
first colon and strips both halves. So a value may hold colons and rules
inside a line, and loses its outer blanks. What the statement asks of a
report is that its names stay on their lines, and that its id is not empty
and has no outer blanks; dates, ids that are drawn and the texts of the
source all do.
-/
import Mathlib.Data.List.TakeWhile
import Mathlib.Data.Rat.Sqrt
import Warehouse.Proofs.ExternalPdf
import Warehouse.Reporting.Render

namespace Warehouse

open Lib

-- ===================================================================== lines

section Lines

/-- Where `splitlines` breaks. -/
def lineBreak (c : Char) : Bool :=
  (10 ≤ c.toNat ∧ c.toNat ≤ 13) ∨ (28 ≤ c.toNat ∧ c.toNat ≤ 30)
    ∨ c.toNat ∈ [0x85, 0x2028, 0x2029]

/-- A text that `splitlines` does not break. -/
def OneLine (line : List Char) : Prop := ∀ c ∈ line, lineBreak c = false

instance (line : List Char) : Decidable (OneLine line) :=
  List.decidableBAll _ line

/-- A closing line starts with dashes; these start with something else. -/
structure InnerLine (line : List Char) : Prop where
  unbroken : OneLine line
  start : ∃ c rest, line = c :: rest ∧ c ≠ '-' ∧ isSpace c = false

theorem OneLine.newline {line : List Char} (h : OneLine line) :
    ∀ c ∈ line, c ≠ '\n' := by
  rintro c hc rfl
  exact absurd (h '\n' hc) (by decide)

/-- The search for a closing line runs over a line. -/
theorem beforeClosing_line {line : List Char} (h : ∀ c ∈ line, c ≠ '\n')
    (rest : List Char) :
    beforeClosing (line ++ rest) = (beforeClosing rest).map (line ++ ·) := by
  induction line with
  | nil =>
    rw [List.nil_append]
    cases beforeClosing rest with
    | none => rfl
    | some block => rfl
  | cons c line ih =>
    obtain ⟨hc, hline⟩ := List.forall_mem_cons.mp h
    have hopen : ['\n', '-', '-', '-'].isPrefixOf (c :: (line ++ rest))
        = false := by
      show (('\n' == c) && _) = false
      rw [beq_eq_false_iff_ne.mpr hc.symm, Bool.false_and]
    show (if ['\n', '-', '-', '-'].isPrefixOf (c :: (line ++ rest)) then _
      else (beforeClosing (line ++ rest)).map (c :: ·)) = _
    rw [hopen, ih hline]
    cases beforeClosing rest with
    | none => rfl
    | some block => rfl

/-- And over the break before a line that is not one. -/
theorem beforeClosing_break {c : Char} (hc : c ≠ '-') (rest : List Char) :
    beforeClosing ('\n' :: c :: rest)
      = (beforeClosing (c :: rest)).map ('\n' :: ·) := by
  have hopen : ['\n', '-', '-', '-'].isPrefixOf ('\n' :: c :: rest)
      = false := by
    show (('\n' == '\n') && (('-' == c) && _)) = false
    rw [beq_eq_false_iff_ne.mpr hc.symm, Bool.false_and, Bool.and_false]
  show (if ['\n', '-', '-', '-'].isPrefixOf ('\n' :: c :: rest) then _
    else (beforeClosing (c :: rest)).map ('\n' :: ·)) = _
  rw [hopen]
  rfl

theorem beforeClosing_closing (tail : List Char) :
    beforeClosing ('\n' :: '-' :: '-' :: '-' :: tail) = some [] := rfl

/-- What precedes the closing line is the lines before it. -/
theorem beforeClosing_lines {lines : List (List Char)} (hne : lines ≠ [])
    (h : ∀ line ∈ lines, InnerLine line) (tail : List Char) :
    beforeClosing (['\n'].intercalate lines
        ++ '\n' :: '-' :: '-' :: '-' :: tail)
      = some (['\n'].intercalate lines) := by
  induction lines with
  | nil => exact absurd rfl hne
  | cons line more ih =>
    obtain ⟨hline, hmore⟩ := List.forall_mem_cons.mp h
    cases more with
    | nil =>
      rw [List.intercalate_singleton,
        beforeClosing_line hline.unbroken.newline, beforeClosing_closing,
        Option.map_some, List.append_nil]
    | cons next more =>
      have hnext := ih (List.cons_ne_nil _ _) hmore
      obtain ⟨c, rest, hstart, hc, -⟩ := (List.forall_mem_cons.mp hmore).1.start
      rw [List.intercalate_cons_cons, List.append_assoc, List.append_assoc,
        beforeClosing_line hline.unbroken.newline]
      have hhead : ['\n'].intercalate (next :: more)
          = c :: ['\n'].intercalate (rest :: more) := by
        rw [hstart, List.intercalate_cons_cons_left]
      rw [hhead] at hnext ⊢
      show (beforeClosing ('\n' :: c :: (_ ++ _))).map _ = _
      rw [beforeClosing_break hc]
      show ((beforeClosing (c :: _ ++ _)).map _).map _ = _
      rw [hnext, Option.map_some, Option.map_some, List.append_assoc]
      rfl

/-- A block that opens with a line of its own is that block. -/
theorem frontMatterBlock_lines {lines : List (List Char)} (hne : lines ≠ [])
    (h : ∀ line ∈ lines, InnerLine line) (tail : List Char) :
    frontMatterBlock ('\n' :: (['\n'].intercalate lines
        ++ '\n' :: '-' :: '-' :: '-' :: tail))
      = some (['\n'].intercalate lines) := by
  have hblock := beforeClosing_lines hne h tail
  obtain ⟨first, more, rfl⟩ := List.exists_cons_of_ne_nil hne
  obtain ⟨c, rest, hstart, -, hspace⟩ := (List.forall_mem_cons.mp h).1.start
  have hhead : ['\n'].intercalate (first :: more)
      = c :: ['\n'].intercalate (rest :: more) := by
    rw [hstart, List.intercalate_cons_cons_left]
  -- the first line is not blank, so the blanks end at the break before it
  have hnone : frontMatterBlock (['\n'].intercalate (first :: more)
      ++ '\n' :: '-' :: '-' :: '-' :: tail) = none := by
    rw [hhead]
    show (if isSpace c = true then _ else none) = none
    rw [hspace]
    rfl
  rw [frontMatterBlock, if_pos (by decide), hnone]
  exact hblock

/-- Lines that do not break are split where they were joined. -/
theorem splitLines_lines {lines : List (List Char)} (hne : lines ≠ [])
    (h : ∀ line ∈ lines, OneLine line) :
    splitLines (['\n'].intercalate lines) = lines := by
  show (['\n'].intercalate lines).splitOnP lineBreak = lines
  induction lines with
  | nil => exact absurd rfl hne
  | cons line more ih =>
    obtain ⟨hline, hmore⟩ := List.forall_mem_cons.mp h
    cases more with
    | nil =>
      rw [List.intercalate_singleton]
      exact List.splitOnP_eq_singleton hline
    | cons next more =>
      rw [List.intercalate_cons_cons, List.append_assoc]
      show List.splitOnP lineBreak
        (line ++ '\n' :: ['\n'].intercalate (next :: more)) = _
      rw [List.splitOnP_append_cons _ _ (by decide),
        List.splitOnP_eq_singleton hline, ih (List.cons_ne_nil _ _) hmore]
      rfl

end Lines

-- ==================================================================== fields

section Fields

/-- `s.strip()`. -/
def trimmed (s : String) : String := String.ofList (strip s.toList)

/-- A key of front matter breaks nothing, and is neither blank nor dashed. -/
def Key (key : String) : Prop :=
  key ≠ "" ∧ ∀ c ∈ key.toList,
    c ≠ ':' ∧ c ≠ '-' ∧ isSpace c = false ∧ lineBreak c = false

instance (key : String) : Decidable (Key key) :=
  have := List.decidableBAll (fun c => c ≠ ':' ∧ c ≠ '-' ∧ isSpace c = false
    ∧ lineBreak c = false) key.toList
  inferInstanceAs (Decidable (key ≠ "" ∧ ∀ c ∈ key.toList, _))

/-- The line of a field. -/
def fieldLine (field : String × String) : String :=
  field.1 ++ ": " ++ field.2

/-- A field that front matter can carry. -/
structure Carried (field : String × String) : Prop where
  key : Key field.1
  value : OneLine field.2.toList

variable {field : String × String}

/-- A key and a one-line value survive the writer. -/
theorem carried {key value : String} (hkey : Key key)
    (hvalue : OneLine value.toList) : Carried (key, value) := ⟨hkey, hvalue⟩

/-- A field's line, character by character. -/
theorem toList_fieldLine (field : String × String) :
    (fieldLine field).toList
      = field.1.toList ++ ':' :: ' ' :: field.2.toList := by
  unfold fieldLine
  rw [String.toList_append, String.toList_append, List.append_assoc]
  rfl

/-- It neither breaks nor closes the block. -/
theorem Carried.innerLine (h : Carried field) :
    InnerLine (fieldLine field).toList := by
  rw [toList_fieldLine]
  constructor
  · intro c hc
    rcases List.mem_append.mp hc with hc | hc
    · exact (h.key.2 c hc).2.2.2
    · rcases List.mem_cons.mp hc with rfl | hc
      · decide
      · rcases List.mem_cons.mp hc with rfl | hc
        · decide
        · exact h.value c hc
  · cases hkey : field.1.toList with
    | nil => exact absurd (String.toList_eq_nil_iff.mp hkey) h.key.1
    | cons c rest =>
      obtain ⟨-, hdash, hspace, -⟩ :=
        h.key.2 c (by rw [hkey]; exact List.mem_cons_self)
      exact ⟨c, _, rfl, hdash, hspace⟩

/-- Without blanks there is nothing to strip. -/
theorem strip_of_noSpace {s : List Char} (h : ∀ c ∈ s, isSpace c = false) :
    strip s = s := by
  have hdrop : ∀ t : List Char, (∀ c ∈ t, isSpace c = false) →
      t.dropWhile isSpace = t := by
    intro t ht
    cases t with
    | nil => rfl
    | cons c rest =>
      rw [List.dropWhile_cons_of_neg (by rw [ht c List.mem_cons_self]; decide)]
  unfold strip
  rw [hdrop s h, hdrop s.reverse fun c hc => h c (List.mem_reverse.mp hc),
    List.reverse_reverse]

/-- A leading blank is stripped. -/
theorem strip_blank (s : List Char) : strip (' ' :: s) = strip s := by
  unfold strip
  rw [List.dropWhile_cons_of_pos (by decide)]

/-- A line is read as its field. -/
theorem readLine (h : Carried field) :
    (if ':' ∈ (fieldLine field).toList then
      some (String.ofList (strip ((fieldLine field).toList.takeWhile (· ≠ ':'))),
        String.ofList (strip (((fieldLine field).toList.dropWhile
          (· ≠ ':')).drop 1)))
    else none) = some (field.1, trimmed field.2) := by
  have hkey : ∀ c ∈ field.1.toList, (decide (c ≠ ':')) = true :=
    fun c hc => decide_eq_true (h.key.2 c hc).1
  have htaken : (field.1.toList ++ ':' :: ' ' :: field.2.toList).takeWhile
      (· ≠ ':') = field.1.toList := by
    rw [List.takeWhile_append_of_pos hkey]
    exact List.append_nil _
  have hdropped : (field.1.toList ++ ':' :: ' ' :: field.2.toList).dropWhile
      (· ≠ ':') = ':' :: ' ' :: field.2.toList := by
    rw [List.dropWhile_append_of_pos hkey]
    rfl
  rw [toList_fieldLine, if_pos (List.mem_append_right _ List.mem_cons_self),
    htaken, hdropped, List.drop_one, List.tail_cons, strip_blank,
    strip_of_noSpace fun c hc => (h.key.2 c hc).2.2.1, String.ofList_toList]
  rfl

/-- One more line, after its separator. -/
theorem intercalate_append_singleton {sep last : List Char}
    {xs : List (List Char)} (hne : xs ≠ []) :
    sep.intercalate (xs ++ [last]) = sep.intercalate xs ++ (sep ++ last) := by
  induction xs with
  | nil => exact absurd rfl hne
  | cons x rest ih =>
    cases rest with
    | nil =>
      show sep.intercalate [x, last] = _
      rw [List.intercalate_cons_cons, List.intercalate_singleton,
        List.intercalate_singleton, List.append_assoc]
    | cons y rest =>
      show sep.intercalate (x :: (y :: rest ++ [last])) = _
      rw [List.intercalate_cons_of_ne_nil (by simp),
        ih (List.cons_ne_nil _ _), List.intercalate_cons_cons]
      simp only [List.append_assoc]

variable {fields : List (String × String)}

/-- Front matter is read back field by field, whatever comes after it. -/
theorem parseFrontMatter_lines (hne : fields ≠ [])
    (h : ∀ field ∈ fields, Carried field) (hnd : (fields.map Prod.fst).Nodup)
    (tail : String) :
    parseFrontMatter (joinLines (["---"] ++ fields.map fieldLine ++ ["---"])
        ++ tail)
      = fields.map fun field => (field.1, trimmed field.2) := by
  have hlines : ∀ line ∈ fields.map (String.toList ∘ fieldLine),
      InnerLine line := by
    intro line hline
    obtain ⟨field, hfield, rfl⟩ := List.mem_map.mp hline
    exact (h field hfield).innerLine
  have hsome : fields.map (String.toList ∘ fieldLine) ≠ [] := by
    rw [ne_eq, List.map_eq_nil_iff]
    exact hne
  have htext : (joinLines (["---"] ++ fields.map fieldLine ++ ["---"])
      ++ tail).toList = ['-', '-', '-'] ++ '\n' :: (['\n'].intercalate
        (fields.map (String.toList ∘ fieldLine))
          ++ '\n' :: '-' :: '-' :: '-' :: tail.toList) := by
    unfold joinLines
    rw [String.toList_append, String.toList_intercalate, List.map_append,
      List.map_append, List.map_map]
    show ['\n'].intercalate (['-', '-', '-'] :: (fields.map
      (String.toList ∘ fieldLine) ++ [['-', '-', '-']])) ++ _ = _
    rw [List.intercalate_cons_of_ne_nil (by simp),
      intercalate_append_singleton hsome]
    simp only [List.append_assoc, List.cons_append, List.nil_append]
  have hblock := frontMatterBlock_lines hsome hlines tail.toList
  have hsplit := splitLines_lines hsome fun line hline =>
    (hlines line hline).unbroken
  have hread : (fields.map (String.toList ∘ fieldLine)).filterMap (fun line =>
      if ':' ∈ line then
        some (String.ofList (strip (line.takeWhile (· ≠ ':'))),
          String.ofList (strip ((line.dropWhile (· ≠ ':')).drop 1)))
      else none) = fields.map fun field => (field.1, trimmed field.2) := by
    rw [List.filterMap_map, ← List.filterMap_eq_map]
    exact List.filterMap_congr fun field hfield => readLine (h field hfield)
  have hrest : ∀ rest : List Char, (['-', '-', '-'] ++ rest).drop 3 = rest :=
    fun _ => rfl
  unfold parseFrontMatter
  rw [htext, if_pos (List.isPrefixOf_iff_prefix.mpr (List.prefix_append _ _)),
    hrest, hblock]
  dsimp only
  rw [hsplit, hread, Dict.entries_ofPairs]
  rw [List.map_map]
  exact hnd

end Fields

-- =================================================================== reports

section Reports

/-- Two texts without line breaks join without one. -/
theorem oneLine_append {s t : String} (hs : OneLine s.toList)
    (ht : OneLine t.toList) : OneLine (s ++ t).toList := by
  intro c hc
  rw [String.toList_append, List.mem_append] at hc
  rcases hc with hc | hc
  · exact hs c hc
  · exact ht c hc

theorem lineBreak_of_isDigit {c : Char} (h : c.isDigit = true) :
    lineBreak c = false := by
  unfold Char.isDigit at h
  rw [Bool.and_eq_true, decide_eq_true_iff, decide_eq_true_iff] at h
  have hlow : 48 ≤ c.toNat := h.1
  have hhigh : c.toNat ≤ 57 := h.2
  unfold lineBreak
  rw [decide_eq_false_iff_not]
  simp only [List.mem_cons, List.not_mem_nil, or_false]
  omega

theorem isDigit_of_mem_zeroPad {width : Nat} {n : Int} {c : Char}
    (hc : c ∈ (zeroPad width n).toList) : c.isDigit = true := by
  unfold zeroPad at hc
  rw [String.toList_append, List.mem_append, String.toList_ofList] at hc
  rcases hc with hc | hc
  · rw [List.eq_of_mem_replicate hc]
    rfl
  · rw [Nat.toString_eq_ofList_toDigits, String.toList_ofList] at hc
    exact Nat.isDigit_of_mem_toDigits (by decide) (by decide) hc

/-- A date is spelled in digits and dashes. -/
theorem mem_isoformat {d : Date} {c : Char} (hc : c ∈ (isoformat d).toList) :
    c.isDigit = true ∨ c = '-' := by
  have hdash : "-".toList = ['-'] := rfl
  unfold isoformat at hc
  simp only [String.toList_append, List.mem_append, hdash,
    List.mem_singleton] at hc
  rcases hc with (((hyear | hc) | hmonth) | hc) | hday
  · exact Or.inl (isDigit_of_mem_zeroPad hyear)
  · exact Or.inr hc
  · exact Or.inl (isDigit_of_mem_zeroPad hmonth)
  · exact Or.inr hc
  · exact Or.inl (isDigit_of_mem_zeroPad hday)

/-- A date's digits break nothing. -/
theorem oneLine_isoformat (d : Date) : OneLine (isoformat d).toList := by
  intro c hc
  rcases mem_isoformat hc with hdigit | rfl
  · exact lineBreak_of_isDigit hdigit
  · rfl

variable {A R : Type}

/-- A report whose names are on one line each. -/
structure NamedInline (bundle : ReportBundle A R) : Prop where
  household : OneLine bundle.householdId.toList
  label : OneLine bundle.period.label.toList
  snapshot : OneLine bundle.snapshotId.toList

/-- The front matter of an audience's pack. -/
def packFields (bundle : ReportBundle A R) :
    ReportAudience → List (String × String)
  | .external => frontMatterFields bundle .external "client-facing"
  | .internal => frontMatterFields bundle .internal "IC / advisor"

/-- What is read back of a field. -/
def readBack (fields : List (String × String)) : List (String × String) :=
  fields.map fun field => (field.1, trimmed field.2)

variable {bundle : ReportBundle A R}

/-- Dates and labels of a period stay on one line. -/
theorem oneLine_reportingWindow (period : ReportPeriod) (asOf : Date) :
    OneLine (reportingWindow period asOf).toList := by
  unfold reportingWindow
  cases period.startDate with
  | none => exact oneLine_append (by decide) (oneLine_isoformat _)
  | some start =>
    exact oneLine_append (oneLine_append (oneLine_isoformat _) (by decide))
      (oneLine_isoformat _)

/-- The fields every pack has are carried. -/
theorem carried_frontMatterFields (h : NamedInline bundle)
    (audience : ReportAudience) {classification : String}
    (hclass : OneLine classification.toList) :
    ∀ field ∈ frontMatterFields bundle audience classification,
      Carried field := by
  have haudience : OneLine audience.value.toList := by
    cases audience <;> decide
  unfold frontMatterFields
  rw [List.forall_mem_append]
  constructor
  · rintro field hfield
    simp only [List.mem_cons, List.not_mem_nil, or_false] at hfield
    rcases hfield with rfl | rfl | rfl | rfl | rfl | rfl
    · exact carried (by decide) (oneLine_append (by decide) h.household)
    · exact carried (by decide) (oneLine_isoformat _)
    · exact carried (by decide) haudience
    · exact carried (by decide) hclass
    · exact carried (by decide) h.label
    · exact carried (by decide) h.snapshot
  · split
    · exact List.forall_mem_singleton.mpr
        (carried (by decide) (oneLine_reportingWindow _ _))
    · exact List.forall_mem_nil _

/-- Every field of a pack survives the writer. -/
theorem carried_packFields (h : NamedInline bundle)
    (audience : ReportAudience) :
    ∀ field ∈ packFields bundle audience, Carried field := by
  cases audience with
  | internal => exact carried_frontMatterFields h .internal (by decide)
  | external => exact carried_frontMatterFields h .external (by decide)

/-- No field is written twice. -/
theorem nodup_packFields (bundle : ReportBundle A R)
    (audience : ReportAudience) :
    ((packFields bundle audience).map Prod.fst).Nodup := by
  cases audience with
  | internal =>
    show ["title", "date", "audience", "classification", "period",
      "snapshot_id", "reporting_window"].Nodup
    decide
  | external =>
    show ["title", "date", "audience", "classification", "period",
      "snapshot_id"].Nodup
    decide

theorem joinLines_cons_cons (first next : String) (rest : List String) :
    joinLines (first :: next :: rest)
      = first ++ ("\n" ++ joinLines (next :: rest)) := by
  unfold joinLines
  rw [String.intercalate_cons_cons, String.append_assoc]

/-- A pack opens with its front matter. -/
theorem renderMarkdown_opens (ctx : DecimalContext)
    (exhibits : InternalExhibits A R) (bundle : ReportBundle A R)
    (audience : ReportAudience) :
    ∃ tail, renderMarkdown ctx exhibits bundle audience
      = joinLines (["---"] ++ (packFields bundle audience).map fieldLine
        ++ ["---"]) ++ tail := by
  cases audience with
  | internal =>
    exact ⟨_, (congrArg (· ++ "\n") (joinLines_cons_cons _ "" _)).trans
      (String.append_assoc ..)⟩
  | external => exact ⟨_, joinLines_cons_cons _ "" _⟩

/-- A pack's front matter is read back as it was written. -/
theorem parseFrontMatter_renderMarkdown (ctx : DecimalContext)
    (exhibits : InternalExhibits A R) (h : NamedInline bundle)
    (audience : ReportAudience) :
    parseFrontMatter (renderMarkdown ctx exhibits bundle audience)
      = readBack (packFields bundle audience) := by
  obtain ⟨tail, htail⟩ := renderMarkdown_opens ctx exhibits bundle audience
  rw [htail]
  refine parseFrontMatter_lines ?_ (carried_packFields h audience)
    (nodup_packFields bundle audience) tail
  cases audience <;> exact List.cons_ne_nil _ _

/-- The snapshot id is read back, trimmed. -/
theorem lookup_snapshotId (bundle : ReportBundle A R)
    (audience : ReportAudience) :
    (readBack (packFields bundle audience)).lookup "snapshot_id"
      = some (trimmed bundle.snapshotId) := by
  cases audience <;> rfl

/-- Text that starts with no blank is not stripped away. -/
theorem strip_ne_nil {c : Char} (hc : isSpace c = false) (rest : List Char) :
    strip (c :: rest) ≠ [] := by
  intro hnil
  unfold strip at hnil
  rw [List.dropWhile_cons_of_neg (by rw [hc]; decide), List.reverse_eq_nil_iff,
    List.dropWhile_eq_nil_iff] at hnil
  have hblank := hnil c (List.mem_reverse.mpr List.mem_cons_self)
  rw [hc] at hblank
  cases hblank

/-- A pack is not blank: its first line is dashes. -/
theorem strip_renderMarkdown (ctx : DecimalContext)
    (exhibits : InternalExhibits A R) (bundle : ReportBundle A R)
    (audience : ReportAudience) :
    (strip (renderMarkdown ctx exhibits bundle audience).toList).isEmpty
      = false := by
  have hopens : ∃ rest, (renderMarkdown ctx exhibits bundle audience).toList
      = '-' :: rest := by
    obtain ⟨tail, htail⟩ := renderMarkdown_opens ctx exhibits bundle audience
    rw [htail]
    obtain ⟨next, lines, hlines⟩ := List.exists_cons_of_ne_nil
      (List.append_ne_nil_of_right_ne_nil
        ((packFields bundle audience).map fieldLine)
        (List.cons_ne_nil "---" []))
    rw [List.append_assoc, hlines]
    show ∃ rest, (joinLines ("---" :: next :: lines) ++ tail).toList = _
    rw [joinLines_cons_cons, String.append_assoc, String.toList_append]
    exact ⟨_, rfl⟩
  obtain ⟨rest, hrest⟩ := hopens
  rw [hrest, List.isEmpty_eq_false_iff]
  exact strip_ne_nil (by decide) rest

variable {tools : PdfTools A R} {site : Site A R} {mdPath : FilePath}
  {file : File A R} {ctx : DecimalContext} {exhibits : InternalExhibits A R}
  {audience : ReportAudience}

/-- Given a pack, the PDF step checks the snapshot it was rendered from. -/
theorem renderExternalPdf_checks (hpandoc : tools.pandocInstalled = true)
    (hfile : site.disk.get? mdPath = some file)
    (hpack : file.contents = renderMarkdown ctx exhibits bundle audience)
    (h : NamedInline bundle) (outputPath : FilePath) (snapshotId : String) :
    (renderExternalPdf tools mdPath outputPath snapshotId).exec site
      = (if trimmed bundle.snapshotId ≠ ""
          ∧ trimmed bundle.snapshotId ≠ snapshotId then
          throw (.reportWriterError ("Markdown snapshot_id "
            ++ reprText (trimmed bundle.snapshotId)
            ++ " does not match expected " ++ reprText snapshotId))
        else tryEngines tools mdPath outputPath
          (readBack (packFields bundle audience)) snapshotId pdfEngines
          []).exec site := by
  unfold renderExternalPdf
  rw [Work.exec_get_bind, hfile]
  dsimp only
  rw [hpack, strip_renderMarkdown, hpandoc,
    parseFrontMatter_renderMarkdown ctx exhibits h, lookup_snapshotId,
    if_neg (by decide), if_neg (by decide)]
  by_cases hother : trimmed bundle.snapshotId ≠ ""
      ∧ trimmed bundle.snapshotId ≠ snapshotId
  · rw [if_pos hother, if_pos]
    · rfl
    · exact ⟨decide_eq_true hother.1, fun hsome =>
        hother.2 (Option.some.inj hsome)⟩
  · rw [if_neg hother, if_neg]
    rintro ⟨hsome, hne⟩
    exact hother ⟨of_decide_eq_true hsome, fun hsame =>
      hne (congrArg some hsame)⟩

/-- So it renders the pack, for its own snapshot, or refuses and leaves the
site as it was. -/
theorem pack_renders_own_snapshot (hpandoc : tools.pandocInstalled = true)
    (hfile : site.disk.get? mdPath = some file)
    (hpack : file.contents = renderMarkdown ctx exhibits bundle audience)
    (h : NamedInline bundle)
    (htrimmed : trimmed bundle.snapshotId = bundle.snapshotId)
    (hnamed : bundle.snapshotId ≠ "")
    (outputPath : FilePath) (snapshotId : String) :
    parseFrontMatter file.contents = readBack (packFields bundle audience)
      ∧ (renderExternalPdf tools mdPath outputPath snapshotId).exec site
        = if bundle.snapshotId = snapshotId then
            (tryEngines tools mdPath outputPath
              (readBack (packFields bundle audience)) snapshotId pdfEngines
              []).exec site
          else (.error (.reportWriterError ("Markdown snapshot_id "
            ++ reprText bundle.snapshotId ++ " does not match expected "
            ++ reprText snapshotId)), site) := by
  constructor
  · rw [hpack]
    exact parseFrontMatter_renderMarkdown ctx exhibits h audience
  · rw [renderExternalPdf_checks hpandoc hfile hpack h, htrimmed]
    by_cases hsame : bundle.snapshotId = snapshotId
    · rw [if_pos hsame, if_neg fun hother => hother.2 hsame]
    · rw [if_neg hsame, if_pos ⟨hnamed, hsame⟩]
      rfl

/-- Quantities to the cent. -/
def centText : DecimalContext where
  sqrt := Rat.sqrt
  pow q _ := q
  str := formatFixed 2

/-- Exhibits of planes that report nothing. -/
def blankExhibits : InternalExhibits Unit Unit where
  attribution _ := ""
  risk _ _ := ""

/-- A household's first report, of a month end without figures. -/
def firstReport : ReportBundle Unit Unit where
  snapshotId := "rpt_1"
  householdId := "hh_1"
  period := .monthEnd 739400
  asOfDate := 739400
  generatedAt := 0
  performance := none
  ipsDrift := none
  taxScenarios := []
  stagedOrders := []
  pendingApprovalCount := 0
  openBreaks := []
  limitations := []
  dataSources := dataSources
  attribution := none
  riskHeadline := some ()
  comparison := none

/-- A rendered external pack, as the file it is written to. -/
def firstPack : File Unit Unit where
  contents := renderMarkdown centText blankExhibits firstReport .external

/-- The first report's pack on disk, and no database. -/
def firstSite : Site Unit Unit where
  store := Store.empty
  disk := Dict.empty.set ["pack.md"] firstPack

/-- The first report's pack is not rendered for a second snapshot. -/
theorem pack_renders_own_snapshot_second :
    (renderExternalPdf plainReports.tools ["pack.md"] ["pack.pdf"]
        "rpt_2").exec firstSite
      = (.error (.reportWriterError ("Markdown snapshot_id "
          ++ reprText "rpt_1" ++ " does not match expected "
          ++ reprText "rpt_2")), firstSite) := by
  have hpack : firstPack.contents
      = renderMarkdown centText blankExhibits firstReport .external := rfl
  have hnamed : NamedInline firstReport :=
    ⟨by decide, oneLine_append (by decide) (oneLine_isoformat 739400),
      by decide⟩
  have htrimmed : trimmed firstReport.snapshotId = firstReport.snapshotId := by
    decide
  have hother : firstReport.snapshotId ≠ "rpt_2" := by decide
  have hfile : firstSite.disk.get? ["pack.md"] = some firstPack := rfl
  exact (pack_renders_own_snapshot rfl hfile hpack hnamed htrimmed (by decide)
    ["pack.pdf"] "rpt_2").2.trans (if_neg hother)

end Reports

end Warehouse
