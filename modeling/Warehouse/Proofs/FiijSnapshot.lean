/-
Which snapshot an as-of date chooses.

On a history of well-formed dates the loader is one choice and one reading
(`loadFiijSnapshot_eq`): the first of the latest entries dated on or before
the as-of date, read by `snapshotFrom`, which looks at no other entry.
Later entries can so neither be chosen nor move the choice, and without an
entry to choose the guard finds the first one after the as-of date. The
reading raises no walk-forward error of its own
(`snapshotFrom_ne_walkForward`), and makes one view of each available signal
(`views_available`).

# Hypotheses about the host

The date parsers are the host's. Of `datetime.fromisoformat` only what is
documented is assumed: it raises a `ValueError` where it raises at all. A
history is well formed (`DatedHistory`) when every entry has a date the host
reads; a history that is not raises an error of its own before any choice is
made, and nothing is said of it here.
-/
import Warehouse.Data.Fiij

namespace Warehouse

-- ============================================================= the latest row

section LatestRow

variable {α : Type} {rows : List (Date × α)}

/-- One more row is chosen exactly when it is strictly later. -/
theorem latestRow_append (rows : List (Date × α)) (row : Date × α) :
    latestRow (rows ++ [row])
      = match latestRow rows with
        | none => some row
        | some best => some (if best.1 < row.1 then row else best) := by
  cases rows with
  | nil => rfl
  | cons first rest =>
      show some ((rest ++ [row]).foldl _ first) = _
      rw [List.foldl_append]
      rfl

/-- Some row is chosen unless there is none. -/
theorem latestRow_eq_none_iff : latestRow rows = none ↔ rows = [] := by
  cases rows with
  | nil => exact iff_of_true rfl rfl
  | cons first rest => exact ⟨fun h => (nomatch h), fun h => (nomatch h)⟩

/-- The row chosen is the latest, and the first of the latest. -/
theorem latestRow_first {row : Date × α} (h : latestRow rows = some row) :
    ∃ before after, rows = before ++ row :: after
      ∧ (∀ x ∈ before, x.1 < row.1) ∧ ∀ x ∈ after, x.1 ≤ row.1 := by
  induction rows using List.reverseRecOn generalizing row with
  | nil => cases h
  | append_singleton rows last ih =>
      rw [latestRow_append] at h
      cases hbest : latestRow rows with
      | none =>
          rw [hbest] at h
          cases h
          rw [latestRow_eq_none_iff.mp hbest]
          exact ⟨[], [], rfl, List.forall_mem_nil _, List.forall_mem_nil _⟩
      | some best =>
          rw [hbest] at h
          dsimp only at h
          obtain ⟨before, after, hsplit, hbefore, hafter⟩ := ih hbest
          by_cases hlt : best.1 < last.1
          · -- the last row is later than every row before it
            rw [if_pos hlt] at h
            cases h
            refine ⟨rows, [], rfl, fun x hx => ?_, List.forall_mem_nil _⟩
            rw [hsplit, List.mem_append, List.mem_cons] at hx
            rcases hx with hx | rfl | hx
            · exact (hbefore x hx).trans hlt
            · exact hlt
            · exact (hafter x hx).trans_lt hlt
          · rw [if_neg hlt] at h
            cases h
            refine ⟨before, after ++ [last], ?_, hbefore, ?_⟩
            · rw [hsplit, List.append_assoc, List.cons_append]
            · rw [List.forall_mem_append]
              exact ⟨hafter, List.forall_mem_singleton.mpr (not_lt.mp hlt)⟩

/-- The same among the rows of a list that are dated in time. -/
theorem latestRow_filter_first {asOf : Date} {row : Date × α}
    (h : latestRow (rows.filter fun x => x.1 ≤ asOf) = some row) :
    ∃ before after, rows = before ++ row :: after ∧ row.1 ≤ asOf
      ∧ (∀ x ∈ before, x.1 ≤ asOf → x.1 < row.1)
      ∧ ∀ x ∈ after, x.1 ≤ asOf → x.1 ≤ row.1 := by
  obtain ⟨before, after, hsplit, hbefore, hafter⟩ := latestRow_first h
  obtain ⟨front, back, rfl, rfl, hback⟩ := List.filter_eq_append_iff.mp hsplit
  obtain ⟨gap, rest, rfl, hgap, hrow, rfl⟩ := List.filter_eq_cons_iff.mp hback
  refine ⟨front ++ gap, rest, (List.append_assoc ..).symm,
    of_decide_eq_true hrow, ?_, ?_⟩
  · intro x hx hle
    rcases List.mem_append.mp hx with hx | hx
    · exact hbefore x (List.mem_filter.mpr ⟨hx, decide_eq_true hle⟩)
    · exact absurd (decide_eq_true hle) (hgap x hx)
  · intro x hx hle
    exact hafter x (List.mem_filter.mpr ⟨hx, decide_eq_true hle⟩)

end LatestRow

-- =========================================================== the two halves

/-- A history of well-formed dates: the entries of the export's list, each
with the date it reads as. -/
structure DatedHistory (host : FiijHost) (exportDir : String)
    (entries : List (Date × List (String × Json))) : Prop where
  snapshots : ∃ json,
    host.read (exportFile exportDir historyFile) = .loaded json
      ∧ snapshotList json = .ok (entries.map Prod.snd)
  nonempty : entries ≠ []
  dates : ∀ e ∈ entries,
    parseDate host (e.2.lookup "as_of_date") "as_of_date" = .ok e.1

/-- The snapshot of a chosen entry. -/
def snapshotFrom (host : FiijHost) (settings : Settings) (exportDir : String)
    (chosen : Date × List (String × Json)) :
    Except Exc FiijFinanceViewSnapshot := do
  match (← loadJson host (exportFile exportDir thresholdsFile)).fields? with
  | none => throw (.fiijIngest (thresholdsFile
      ++ " must be a JSON object at " ++ exportDir))
  | some thresholdsRaw =>
      let views ← viewsForSnapshot host chosen.2 thresholdsRaw chosen.1
        settings
      let fetchedAt ←
        match chosen.2.lookup "fetched_at" with
        | some (.str fetched) => host.datetimeFromIsoformat fetched
        | _ => .ok (host.midnight chosen.1)
      return {
        asOfDate := chosen.1
        fetchedAt := fetchedAt
        regimeLabel := host.field chosen.2 "regime_label"
        regimeClass := host.field chosen.2 "regime_class"
        views := views
        fiijConfigVersion := settings.fiijConfigVersion }

/-- What the guard raises without an entry to choose. -/
def fiijLateError (entries : List (Date × List (String × Json)))
    (asOf : Date) : Exc :=
  .walkForward ("fiij snapshot" ++ " observation "
    ++ isoformat ((entries.head?.map Prod.fst).getD 0) ++ " after as_of "
    ++ isoformat asOf)

/-- Over a dated history the loader is the choice of a row, then its reading. -/
theorem loadFiijSnapshot_eq (host : FiijHost) (settings : Settings)
    (path : Option String) {entries : List (Date × List (String × Json))}
    (h : DatedHistory host (resolveExportDir host path settings) entries)
    (asOf : Date) :
    loadFiijSnapshot host settings asOf path
      = match latestRow (entries.filter fun e => e.1 ≤ asOf) with
        | none => .error (fiijLateError entries asOf)
        | some chosen => snapshotFrom host settings
            (resolveExportDir host path settings) chosen := by
  obtain ⟨json, hread, hlist⟩ := h.snapshots
  have hload : loadJson host (exportFile (resolveExportDir host path settings)
      historyFile) = .ok json := by
    unfold loadJson
    rw [hread]
  have hdated : (entries.map Prod.snd).mapM (fun s => do
      return (← parseDate host (s.lookup "as_of_date") "as_of_date", s))
        = (.ok entries : Except Exc _) := by
    rw [List.mapM_map]
    refine (mapM_eq_map (g := id) entries fun e he => ?_).trans
      (by rw [List.map_id])
    show (parseDate host (e.2.lookup "as_of_date") "as_of_date" >>= _) = _
    rw [h.dates e he]
    rfl
  have hsome : (entries.map Prod.snd).isEmpty = false := by
    rw [List.isEmpty_eq_false_iff]
    exact fun hnil => h.nonempty (List.map_eq_nil_iff.mp hnil)
  unfold loadFiijSnapshot
  dsimp only
  rw [hload, ok_bind, hlist, ok_bind, hsome, if_neg (by decide), hdated,
    ok_bind]
  cases hchosen : latestRow (entries.filter fun e => e.1 ≤ asOf) with
  | none =>
      have hlate : ∀ e ∈ entries, asOf < e.1 := by
        have hnone := latestRow_eq_none_iff.mp hchosen
        rw [List.filter_eq_nil_iff] at hnone
        intro e he
        simpa using hnone e he
      cases hentries : entries with
      | nil => exact absurd hentries h.nonempty
      | cons first rest =>
          have hfirst : asOf < first.1 := by
            apply hlate
            rw [hentries]
            exact List.mem_cons_self ..
          have hguard : assertScenarioObservationsNotAfter
              ((first :: rest).map fun row => (row.1, "fiij snapshot")) asOf
              = .error (fiijLateError (first :: rest) asOf) := by
            unfold assertScenarioObservationsNotAfter
            rw [List.map_cons, List.find?_cons_of_pos (by simpa using hfirst)]
            rfl
          dsimp only
          rw [hguard]
          rfl
  | some chosen => rfl

-- ================================================================ the reading

section Reading

variable {host : FiijHost} {settings : Settings} {text : String}

/-- Reading a file raises no walk-forward error. -/
theorem loadJson_ne_walkForward {path : String} :
    loadJson host path ≠ .error (.walkForward text) := by
  unfold loadJson
  split <;> exact fun h => nomatch h

/-- Two hosts with one file read it alike. -/
theorem loadJson_congr {host host' : FiijHost} {path : String}
    (h : host.read path = host'.read path) :
    loadJson host path = loadJson host' path := by
  unfold loadJson
  rw [h]

/-- The available signals of a snapshot, sheet by sheet. -/
def availableSignal (sig : Json) : Option (List (String × Json)) :=
  sig.fields?.filter fun fields =>
    ((fields.lookup "available").getD (.bool true)).truthy

/-- The signals a snapshot states a value for, sheet by sheet. -/
def availableSignals (snapshot : List (String × Json)) :
    List (List (String × Json)) :=
  match snapshot.lookup "sheets" with
  | some (.arr sheets) =>
      (sheets.flatMap sheetSignals).filterMap availableSignal
  | _ => []

/-- A view of a signal, on the sleeve its id maps to. -/
def ViewOf (asOfDate : Date) (fields : List (String × Json))
    (view : View IpsSleeve) : Prop :=
  ∃ signalId, fields.lookup "id" = some (.str signalId)
    ∧ fiijSignalToSleeve.lookup signalId = some view.sleeve
    ∧ view.sourceRef = some (signalId ++ "@" ++ isoformat asOfDate)

/-- A signal is mapped, or raises its own error. -/
theorem sleeveForSignal_cases (signalId : String) :
    (∃ sleeve, fiijSignalToSleeve.lookup signalId = some sleeve
        ∧ sleeveForSignal signalId = .ok sleeve)
      ∨ ∃ err, sleeveForSignal signalId = .error err
        ∧ ∀ text, err ≠ .walkForward text := by
  unfold sleeveForSignal
  cases fiijSignalToSleeve.lookup signalId with
  | none => exact Or.inr ⟨_, rfl, fun text h => nomatch h⟩
  | some sleeve => exact Or.inl ⟨sleeve, rfl, rfl⟩

/-- A number is read, or raises its own error. -/
theorem decimalOf_cases (value : Json) (q : ℚ) :
    decimalOf value q = .ok q
      ∨ ∃ err, decimalOf value q = .error err
        ∧ ∀ text, err ≠ .walkForward text := by
  unfold decimalOf
  split
  · exact Or.inr ⟨_, rfl, fun text h => nomatch h⟩
  · exact Or.inl rfl

/-- A view is built, or raises its own error. -/
theorem View.validated_cases (sleeve : IpsSleeve)
    (expectedExcess confidence : ℚ) (source : ViewSource)
    (sourceRef : Option String) (calibration rationale : String) :
    (∃ view, View.validated sleeve expectedExcess confidence source sourceRef
          calibration rationale = .ok view
        ∧ view.sleeve = sleeve ∧ view.sourceRef = sourceRef)
      ∨ ∃ err, View.validated sleeve expectedExcess confidence source
          sourceRef calibration rationale = .error err
        ∧ ∀ text, err ≠ .walkForward text := by
  unfold View.validated
  split
  · exact Or.inl ⟨_, rfl, rfl, rfl⟩
  · exact Or.inr ⟨_, rfl, fun text h => nomatch h⟩

/-- What reading a signal does: a signal that is not available is passed
over, another is a view on its sleeve or an error of its own. -/
theorem signalView_cases (host : FiijHost) (settings : Settings)
    (thresholds : List (String × Json)) (regimeLabel : String)
    (asOfDate : Date) (sig : Json) :
    (availableSignal sig = none
        ∧ signalView host settings thresholds regimeLabel asOfDate sig
          = .ok none)
      ∨ ∃ fields, availableSignal sig = some fields
        ∧ ((∃ view, signalView host settings thresholds regimeLabel asOfDate
                sig = .ok (some view)
              ∧ ViewOf asOfDate fields view)
          ∨ ∃ err, signalView host settings thresholds regimeLabel asOfDate
                sig = .error err
              ∧ ∀ text, err ≠ .walkForward text) := by
  unfold signalView availableSignal
  cases sig.fields? with
  | none => exact Or.inl ⟨rfl, rfl⟩
  | some fields =>
      cases havailable :
          ((fields.lookup "available").getD (.bool true)).truthy with
      | false =>
          left
          rw [Option.filter_some, havailable]
          refine ⟨rfl, ?_⟩
          dsimp only
          rw [havailable]
          rfl
      | true =>
          right
          refine ⟨fields, by rw [Option.filter_some, havailable]; rfl, ?_⟩
          dsimp only
          rw [havailable, if_neg (by decide)]
          split
          · next signalId hid =>
            cases ((fields.lookup "value").getD .null).numeric? with
            | none => exact Or.inr ⟨_, rfl, fun text h => nomatch h⟩
            | some q =>
                dsimp only
                rcases sleeveForSignal_cases signalId with
                  ⟨sleeve, hlookup, hsleeve⟩ | ⟨err, hsleeve, hne⟩
                · rw [hsleeve, ok_bind]
                  rcases decimalOf_cases ((fields.lookup "value").getD .null) q
                    with hdecimal | ⟨err, hdecimal, hne⟩
                  · rw [hdecimal, ok_bind]
                    rcases View.validated_cases sleeve (quantize excessPlaces
                        (settings.fiijValueExcessScale * q))
                        (calibrated host settings thresholds signalId).1 .fiij
                        (some (signalId ++ "@" ++ isoformat asOfDate))
                        (calibrated host settings thresholds signalId).2 _ with
                      ⟨view, hview, hon, href⟩ | ⟨err, hview, hne⟩
                    · left
                      refine ⟨view, ?_, signalId, hid, hlookup.trans
                        (congrArg some hon.symm), href⟩
                      rw [hview]
                      rfl
                    · right
                      refine ⟨err, ?_, hne⟩
                      rw [hview]
                      rfl
                  · right
                    refine ⟨err, ?_, hne⟩
                    rw [hdecimal]
                    rfl
                · right
                  refine ⟨err, ?_, hne⟩
                  rw [hsleeve]
                  rfl
          · exact Or.inr ⟨_, rfl, fun text h => nomatch h⟩

/-- One view of each available signal, in order. -/
theorem signals_available {thresholds : List (String × Json)}
    {regimeLabel : String} {asOfDate : Date} {signals : List Json}
    {results : List (Option (View IpsSleeve))}
    (h : signals.mapM (signalView host settings thresholds regimeLabel
      asOfDate) = .ok results) :
    List.Forall₂ (ViewOf asOfDate) (signals.filterMap availableSignal)
      (results.filterMap id) := by
  induction signals generalizing results with
  | nil =>
      cases h
      exact List.Forall₂.nil
  | cons sig rest ih =>
      rw [List.mapM_cons] at h
      obtain ⟨first, hfirst, h⟩ := bind_ok_iff.mp h
      obtain ⟨others, hothers, h⟩ := bind_ok_iff.mp h
      cases h
      rcases signalView_cases host settings thresholds regimeLabel asOfDate sig
        with ⟨hnone, hskip⟩ | ⟨fields, hsome, ⟨view, hview, hof⟩ | ⟨err, herr, -⟩⟩
      · rw [hskip] at hfirst
        cases hfirst
        rw [List.filterMap_cons_none hnone, List.filterMap_cons_none rfl]
        exact ih hothers
      · rw [hview] at hfirst
        cases hfirst
        rw [List.filterMap_cons_some hsome]
        exact List.Forall₂.cons hof (ih hothers)
      · rw [herr] at hfirst
        cases hfirst

/-- The views are those of the signals with a value, dated as the snapshot. -/
theorem views_available {snapshot thresholdsRaw : List (String × Json)}
    {asOfDate : Date} {views : List (View IpsSleeve)}
    (h : viewsForSnapshot host snapshot thresholdsRaw asOfDate settings
      = .ok views) :
    List.Forall₂ (ViewOf asOfDate) (availableSignals snapshot) views := by
  unfold viewsForSnapshot at h
  dsimp only at h
  split at h
  · next sheets hsheets =>
    obtain ⟨results, hresults, h⟩ := bind_ok_iff.mp h
    cases h
    have havailable : availableSignals snapshot
        = (sheets.flatMap sheetSignals).filterMap availableSignal := by
      unfold availableSignals
      rw [hsheets]
    rw [havailable]
    exact signals_available hresults
  · cases h

theorem viewsForSnapshot_ne_walkForward
    {snapshot thresholdsRaw : List (String × Json)} {asOfDate : Date} :
    viewsForSnapshot host snapshot thresholdsRaw asOfDate settings
      ≠ .error (.walkForward text) := by
  intro h
  unfold viewsForSnapshot at h
  dsimp only at h
  split at h
  · next sheets hsheets =>
    cases hresults : (sheets.flatMap sheetSignals).mapM (signalView host
        settings (((thresholdsRaw.lookup "thresholds").bind
          Json.fields?).getD []) (host.field snapshot "regime_label")
        asOfDate) with
    | ok results =>
        rw [hresults] at h
        cases h
    | error err =>
        rw [hresults] at h
        cases h
        obtain ⟨sig, -, hsig⟩ := mapM_error hresults
        rcases signalView_cases host settings (((thresholdsRaw.lookup
            "thresholds").bind Json.fields?).getD [])
            (host.field snapshot "regime_label") asOfDate sig with
          ⟨-, hskip⟩ | ⟨fields, -, ⟨view, hview, -⟩ | ⟨err, herr, hne⟩⟩
        · rw [hskip] at hsig
          cases hsig
        · rw [hview] at hsig
          cases hsig
        · rw [herr] at hsig
          cases hsig
          exact hne text rfl
  · cases h

/-- A chosen entry is read alone, and raises no walk-forward error where the
reader of timestamps raises none. -/
theorem snapshotFrom_ne_walkForward {exportDir : String}
    {chosen : Date × List (String × Json)}
    (hiso : ∀ s err, host.datetimeFromIsoformat s = .error err →
      ∃ why, err = .valueError why) :
    snapshotFrom host settings exportDir chosen
      ≠ .error (.walkForward text) := by
  intro h
  unfold snapshotFrom at h
  cases hload : loadJson host (exportFile exportDir thresholdsFile) with
  | error err =>
      rw [hload] at h
      cases h
      exact loadJson_ne_walkForward hload
  | ok json =>
      rw [hload, ok_bind] at h
      split at h
      · cases h
      · next thresholdsRaw _ =>
        cases hviews : viewsForSnapshot host chosen.2 thresholdsRaw chosen.1
            settings with
        | error err =>
            rw [hviews] at h
            cases h
            exact viewsForSnapshot_ne_walkForward hviews
        | ok views =>
            rw [hviews, ok_bind] at h
            split at h
            · next fetched _ =>
              cases hfetched : host.datetimeFromIsoformat fetched with
              | error err =>
                  rw [hfetched] at h
                  cases h
                  obtain ⟨why, hwhy⟩ := hiso _ _ hfetched
                  cases hwhy
              | ok fetchedAt =>
                  rw [hfetched] at h
                  cases h
            · cases h

/-- A loaded snapshot has the date and the views of its row. -/
theorem snapshotFrom_ok {exportDir : String}
    {chosen : Date × List (String × Json)}
    {snapshot : FiijFinanceViewSnapshot}
    (h : snapshotFrom host settings exportDir chosen = .ok snapshot) :
    snapshot.asOfDate = chosen.1
      ∧ List.Forall₂ (ViewOf chosen.1) (availableSignals chosen.2)
        snapshot.views := by
  unfold snapshotFrom at h
  obtain ⟨json, -, h⟩ := bind_ok_iff.mp h
  split at h
  · cases h
  · obtain ⟨views, hviews, h⟩ := bind_ok_iff.mp h
    have hviews := views_available hviews
    split at h
    · obtain ⟨fetchedAt, -, h⟩ := bind_ok_iff.mp h
      cases h
      exact ⟨rfl, hviews⟩
    · cases h
      exact ⟨rfl, hviews⟩

end Reading

-- ================================================================== the loader

/-- What a load chose: the first of the latest entries in time, and what it
read off that entry alone. -/
structure ChosenFrom (host : FiijHost) (settings : Settings)
    (path : Option String) (asOf : Date)
    (entries before : List (Date × List (String × Json)))
    (chosen : Date × List (String × Json))
    (after : List (Date × List (String × Json))) : Prop where
  split : entries = before ++ chosen :: after
  inTime : chosen.1 ≤ asOf
  latest : ∀ e ∈ entries, e.1 ≤ asOf → e.1 ≤ chosen.1
  first : ∀ e ∈ before, e.1 ≤ asOf → e.1 < chosen.1
  read : loadFiijSnapshot host settings asOf path
    = snapshotFrom host settings (resolveExportDir host path settings) chosen
  views : ∀ snapshot, loadFiijSnapshot host settings asOf path = .ok snapshot →
    snapshot.asOfDate = chosen.1
      ∧ List.Forall₂ (ViewOf chosen.1) (availableSignals chosen.2)
        snapshot.views

/-- Up to the day asked for, the row chosen is the newest one. -/
theorem loadFiijSnapshot_chosen (host : FiijHost) (settings : Settings)
    (path : Option String) {entries : List (Date × List (String × Json))}
    (h : DatedHistory host (resolveExportDir host path settings) entries)
    {asOf : Date} (hin : ∃ e ∈ entries, e.1 ≤ asOf) :
    ∃ before chosen after,
      ChosenFrom host settings path asOf entries before chosen after := by
  have heq := loadFiijSnapshot_eq host settings path h asOf
  cases hchosen : latestRow (entries.filter fun e => e.1 ≤ asOf) with
  | none =>
      obtain ⟨e, he, hle⟩ := hin
      have hnone := List.filter_eq_nil_iff.mp
        (latestRow_eq_none_iff.mp hchosen) e he
      exact absurd (decide_eq_true hle) hnone
  | some chosen =>
      rw [hchosen] at heq
      obtain ⟨before, after, hsplit, hle, hbefore, hafter⟩ :=
        latestRow_filter_first hchosen
      refine ⟨before, chosen, after, hsplit, hle, ?_, hbefore, heq, ?_⟩
      · intro e he hin
        rw [hsplit, List.mem_append, List.mem_cons] at he
        rcases he with he | rfl | he
        · exact (hbefore e he hin).le
        · exact le_refl _
        · exact hafter e he hin
      · intro snapshot hok
        rw [heq] at hok
        exact snapshotFrom_ok hok

/-- The walk-forward error is raised exactly when the history has no row up to
the day. -/
theorem loadFiijSnapshot_walkForward_iff (host : FiijHost)
    (settings : Settings) (path : Option String)
    {entries : List (Date × List (String × Json))}
    (hiso : ∀ s err, host.datetimeFromIsoformat s = .error err →
      ∃ why, err = .valueError why)
    (h : DatedHistory host (resolveExportDir host path settings) entries)
    (asOf : Date) :
    (∃ text, loadFiijSnapshot host settings asOf path
        = .error (.walkForward text))
      ↔ ¬∃ e ∈ entries, e.1 ≤ asOf := by
  have heq := loadFiijSnapshot_eq host settings path h asOf
  constructor
  · intro ⟨text, herr⟩ hin
    obtain ⟨_, chosen, _, hchosen⟩ := loadFiijSnapshot_chosen host settings path h hin
    rw [hchosen.read] at herr
    exact snapshotFrom_ne_walkForward hiso herr
  · intro hnone
    have hempty : entries.filter (fun e => e.1 ≤ asOf) = [] := by
      rw [List.filter_eq_nil_iff]
      intro e he hle
      exact hnone ⟨e, he, of_decide_eq_true hle⟩
    rw [hempty] at heq
    exact ⟨_, heq⟩

/-- The host whose export files are `read`. -/
def FiijHost.withFiles (host : FiijHost) (read : String → ExportFile) :
    FiijHost :=
  { host with read := read }

/-- Entries after the as-of date change nothing. -/
theorem loadFiijSnapshot_agree {host : FiijHost} {settings : Settings}
    {path : Option String} {read read' : String → ExportFile}
    {entries entries' : List (Date × List (String × Json))}
    (h : DatedHistory (host.withFiles read)
      (resolveExportDir host path settings) entries)
    (h' : DatedHistory (host.withFiles read')
      (resolveExportDir host path settings) entries')
    (hthresholds : read' (exportFile (resolveExportDir host path settings)
        thresholdsFile)
      = read (exportFile (resolveExportDir host path settings)
        thresholdsFile))
    {asOf : Date} (hin : ∃ e ∈ entries, e.1 ≤ asOf)
    (hagree : entries.filter (fun e => e.1 ≤ asOf)
      = entries'.filter fun e => e.1 ≤ asOf) :
    loadFiijSnapshot (host.withFiles read) settings asOf path
      = loadFiijSnapshot (host.withFiles read') settings asOf path := by
  have heq := loadFiijSnapshot_eq (host.withFiles read) settings path h asOf
  have heq' := loadFiijSnapshot_eq (host.withFiles read') settings path h' asOf
  rw [heq, heq', ← hagree]
  cases hchosen : latestRow (entries.filter fun e => e.1 ≤ asOf) with
  | none =>
      obtain ⟨e, he, hle⟩ := hin
      have hnone := List.filter_eq_nil_iff.mp
        (latestRow_eq_none_iff.mp hchosen) e he
      exact absurd (decide_eq_true hle) hnone
  | some chosen =>
      -- the two hosts read the same thresholds and nothing else differs
      have hload : loadJson (host.withFiles read) (exportFile
          (resolveExportDir host path settings) thresholdsFile)
          = loadJson (host.withFiles read') (exportFile
            (resolveExportDir host path settings) thresholdsFile) :=
        loadJson_congr hthresholds.symm
      show snapshotFrom (host.withFiles read) settings
          (resolveExportDir host path settings) chosen
        = snapshotFrom (host.withFiles read') settings
          (resolveExportDir host path settings) chosen
      unfold snapshotFrom
      rw [hload]
      rfl

/-- Snapshot selection is walk-forward. Histories that agree on the entries in
time load alike; the walk-forward error means no entry is in time; and
otherwise the load reads the first of the latest entries in time, one view of
each of its available signals. -/
theorem fiij_snapshot_walk_forward (host : FiijHost) (settings : Settings)
    (path : Option String) (asOf : Date)
    (hiso : ∀ s err, host.datetimeFromIsoformat s = .error err →
      ∃ why, err = .valueError why) :
    (∀ read read' entries entries',
        DatedHistory (host.withFiles read)
            (resolveExportDir host path settings) entries →
          DatedHistory (host.withFiles read')
              (resolveExportDir host path settings) entries' →
            read' (exportFile (resolveExportDir host path settings)
                thresholdsFile)
              = read (exportFile (resolveExportDir host path settings)
                thresholdsFile) →
              (∃ e ∈ entries, e.1 ≤ asOf) →
                entries.filter (fun e => e.1 ≤ asOf)
                    = entries'.filter (fun e => e.1 ≤ asOf) →
                  loadFiijSnapshot (host.withFiles read) settings asOf path
                    = loadFiijSnapshot (host.withFiles read') settings asOf
                      path)
      ∧ ∀ read entries, DatedHistory (host.withFiles read)
          (resolveExportDir host path settings) entries →
        ((∃ text, loadFiijSnapshot (host.withFiles read) settings asOf path
              = .error (.walkForward text))
            ↔ ¬∃ e ∈ entries, e.1 ≤ asOf)
          ∧ ((∃ e ∈ entries, e.1 ≤ asOf) →
            ∃ before chosen after, ChosenFrom (host.withFiles read) settings
              path asOf entries before chosen after) := by
  constructor
  · intro read read' entries entries' h h' hthresholds hin hagree
    exact loadFiijSnapshot_agree h h' hthresholds hin hagree
  · intro read entries h
    exact ⟨loadFiijSnapshot_walkForward_iff (host.withFiles read) settings path
        hiso h asOf,
      loadFiijSnapshot_chosen (host.withFiles read) settings path h⟩

/-- The last day of June 2026, and the day after. -/
def isoDates : List (String × Date) :=
  [("2026-06-30", 739797), ("2026-07-01", 739798)]

/-- A parser that knows two dates. -/
def isoDate (s : String) : Except Exc Date :=
  match isoDates.lookup s with
  | some d => .ok d
  | none => .error (.valueError ("Invalid isoformat string: " ++ reprText s))

/-- A host that holds no files. -/
def fiijDesk : FiijHost where
  read _ := .missing
  defaultExportPath := "exports"
  dateFromIsoformat := isoDate
  datetimeFromIsoformat s :=
    .error (.valueError ("Invalid isoformat string: " ++ reprText s))
  midnight d := d * 86400
  general := formatFixed 1
  str _ := ""

/-- A snapshot with one currency signal. -/
def fxSnapshot (asOfDate : String) : List (String × Json) :=
  [("as_of_date", .str asOfDate),
   ("sheets", .arr [.obj [("signals", .arr [.obj
     [("id", .str "fx"), ("value", .num (1 / 2))]])]])]

/-- An export of daily snapshots. -/
def fxExport (days : List String) (file : String) : ExportFile :=
  if file = "exports/finance_view_history.json" then
    .loaded (.arr (days.map fun day => .obj (fxSnapshot day)))
  else .loaded (.obj [])

/-- The sample export is a dated history. -/
theorem fxExport_dated (days : List (String × Date)) (hne : days ≠ [])
    (h : ∀ day ∈ days, day ∈ isoDates) :
    DatedHistory (fiijDesk.withFiles (fxExport (days.map Prod.fst))) "exports"
      (days.map fun day => (day.2, fxSnapshot day.1)) where
  snapshots := by
    have hread : fxExport (days.map Prod.fst) (exportFile "exports" historyFile)
        = .loaded (.arr ((days.map Prod.fst).map fun day =>
          .obj (fxSnapshot day))) := if_pos (by decide)
    refine ⟨_, hread, ?_⟩
    have hentries : ((days.map Prod.fst).map fun day =>
        Json.obj (fxSnapshot day)).filterMap Json.fields?
          = days.map fun day => fxSnapshot day.1 := by
      rw [List.map_map, List.filterMap_map]
      exact congrFun List.filterMap_eq_map days
    show Except.ok _ = _
    rw [hentries, List.map_map]
    rfl
  nonempty hnil := hne (List.map_eq_nil_iff.mp hnil)
  dates := by
    intro e he
    obtain ⟨day, hday, rfl⟩ := List.mem_map.mp he
    have hiso := h day hday
    unfold isoDates at hiso
    simp only [List.mem_cons, List.not_mem_nil, or_false] at hiso
    rcases hiso with rfl | rfl
    · rfl
    · rfl

/-- The snapshot of the next day changes nothing. -/
theorem fiij_snapshot_walk_forward_nextDay :
    loadFiijSnapshot (fiijDesk.withFiles (fxExport ["2026-06-30"])) {} 739797
        none
      = loadFiijSnapshot (fiijDesk.withFiles
          (fxExport ["2026-06-30", "2026-07-01"])) {} 739797 none := by
  have hagree := (fiij_snapshot_walk_forward fiijDesk {} none 739797
    fun s err h => ⟨_, (Except.error.inj h).symm⟩).1
  exact hagree _ _ _ _
    (fxExport_dated [("2026-06-30", 739797)] (by decide) (by decide))
    (fxExport_dated isoDates (by decide) (by decide))
    rfl ⟨_, List.mem_cons_self .., le_refl _⟩ rfl

end Warehouse
