/-
What the alternatives sub-ledger keeps.

Each call on a holding adds one event row and applies it to the holding's
row (`exec_holding`); a call on another holding leaves both alone, and a
commit between two calls has every row loaded anew.

# The called capital

A run adds up the capital calls in any order of dates (`run_called`). What
a commit may take from the sum is what the money column rounds off. So the
sum stands as long as the column hands back the running totals and the
amounts (`CallsKept`), as it does with whole cents (`callsKept_of_cents`).

# The marks

A mark replaces value and date without looking at the date it replaces, so
the last mark date stands still or moves forward exactly while the marks
come in date order (`everyStep_markKept_iff`). Commits do not matter here:
a date column hands back its date.
-/
import Warehouse.Data.Alternatives
import Warehouse.Lib.Runs
import Mathlib.Data.List.Chain

namespace Warehouse

open Lib Runs

-- ================================================================= one event

/-- No event moves a row to another holding. -/
@[simp] theorem AlternativeHoldingRow.afterEvent_holdingId
    (row : AlternativeHoldingRow) (event : AlternativeEventRow) :
    (row.afterEvent event).holdingId = row.holdingId := by
  unfold AlternativeHoldingRow.afterEvent
  split_ifs <;> rfl

/-- Only a capital call adds to the called capital. -/
theorem AlternativeHoldingRow.afterEvent_calledCapital
    (row : AlternativeHoldingRow) (event : AlternativeEventRow) :
    (row.afterEvent event).calledCapital = row.calledCapital
      + if event.eventType = "capital_call" then event.amount else 0 := by
  unfold AlternativeHoldingRow.afterEvent
  by_cases hmark : event.eventType = "mark"
  · simp [hmark]
  · by_cases hcall : event.eventType = "capital_call"
    · simp [hcall]
    · rw [if_neg hmark, if_neg hcall, if_neg hcall, add_zero]
      split <;> rfl

/-- A mark overwrites the NAV and the date of the last mark. -/
theorem AlternativeHoldingRow.afterEvent_mark {event : AlternativeEventRow}
    (h : event.eventType = "mark") (row : AlternativeHoldingRow) :
    row.afterEvent event = { row with
      currentNav := event.amount
      lastMarkDate := event.eventDate } := by
  unfold AlternativeHoldingRow.afterEvent
  rw [if_pos h]

/-- Only a mark moves the date of the last mark. -/
theorem AlternativeHoldingRow.afterEvent_lastMarkDate
    {event : AlternativeEventRow} (h : event.eventType ≠ "mark")
    (row : AlternativeHoldingRow) :
    (row.afterEvent event).lastMarkDate = row.lastMarkDate := by
  unfold AlternativeHoldingRow.afterEvent
  rw [if_neg h]
  split_ifs <;> rfl

-- ================================================================== one call

section Replay

variable (env : Env) (holdingId : String)

/-- The rows about a holding. -/
def eventsOf (events : List AlternativeEventRow) : List AlternativeEventRow :=
  events.filter (·.holdingId = holdingId)

/-- The calls on one holding, in the order made. -/
def callsOn (calls : List AlternativeEventCall) : List AlternativeEventCall :=
  calls.filter (·.holdingId = holdingId)

/-- The capital calls among a holding's events. -/
def capitalCalled (events : List AlternativeEventRow) : ℚ :=
  (((eventsOf holdingId events).filter
    (·.eventType = "capital_call")).map (·.amount)).sum

variable {holdingId}

theorem eventsOf_append (events events' : List AlternativeEventRow) :
    eventsOf holdingId (events ++ events')
      = eventsOf holdingId events ++ eventsOf holdingId events' :=
  List.filter_append ..

theorem callsOn_cons_own {call : AlternativeEventCall}
    (h : call.holdingId = holdingId) (rest : List AlternativeEventCall) :
    callsOn holdingId (call :: rest) = call :: callsOn holdingId rest :=
  List.filter_cons_of_pos (by simpa using h)

theorem callsOn_cons_other {call : AlternativeEventCall}
    (h : call.holdingId ≠ holdingId) (rest : List AlternativeEventCall) :
    callsOn holdingId (call :: rest) = callsOn holdingId rest :=
  List.filter_cons_of_neg (by simpa using h)

/-- On a known holding the call appends its event and updates that row alone. -/
theorem recordAlternativeEvent_ok {ledger : AlternativesLedger}
    {call : AlternativeEventCall} {row : AlternativeHoldingRow}
    (h : ledger.holding call.holdingId = some row) :
    (execAlternativeEvent env ledger call).holdings
        = Keyed.put (·.holdingId) ledger.holdings
          (row.afterEvent (call.row (env.freshId "alt_evt" ledger.store)))
      ∧ (execAlternativeEvent env ledger call).events
        = ledger.events ++ [call.row (env.freshId "alt_evt" ledger.store)] := by
  unfold execAlternativeEvent recordAlternativeEvent
  rw [h]
  exact ⟨rfl, rfl⟩

/-- On an unknown holding the call raises, so nothing is committed. -/
theorem recordAlternativeEvent_missing {ledger : AlternativesLedger}
    {call : AlternativeEventCall}
    (h : ledger.holding call.holdingId = none) :
    execAlternativeEvent env ledger call = ledger := by
  unfold execAlternativeEvent recordAlternativeEvent
  rw [h]

/-- A call applies its event to its own holding and to no other. -/
theorem exec_holding {ledger : AlternativesLedger}
    {row : AlternativeHoldingRow} (h : ledger.holding holdingId = some row)
    (call : AlternativeEventCall) :
    (execAlternativeEvent env ledger call).holding holdingId
      = some (if call.holdingId = holdingId
          then row.afterEvent (call.row "") else row) := by
  cases hcall : ledger.holding call.holdingId with
  | none =>
      rw [recordAlternativeEvent_missing env hcall, h, if_neg]
      intro heq
      rw [heq, h] at hcall
      cases hcall
  | some called =>
      have hid : called.holdingId = call.holdingId := Keyed.key_of_get hcall
      unfold AlternativesLedger.holding
      rw [(recordAlternativeEvent_ok env hcall).1,
        Keyed.get_put ledger.keys _ (Keyed.mem_of_get hcall)
          (by rw [AlternativeHoldingRow.afterEvent_holdingId]),
        AlternativeHoldingRow.afterEvent_holdingId, hid]
      by_cases hown : call.holdingId = holdingId
      · rw [hown, h] at hcall
        cases hcall
        rw [if_pos hown.symm, if_pos hown]
        rfl
      · rw [if_neg fun heq => hown heq.symm, if_neg hown]
        exact h

/-- A call records one event about its own holding and none about
another. -/
theorem exec_events {ledger : AlternativesLedger}
    {row : AlternativeHoldingRow} (h : ledger.holding holdingId = some row)
    (call : AlternativeEventCall) :
    ∃ recorded eventId,
      (execAlternativeEvent env ledger call).events
          = ledger.events ++ recorded
        ∧ eventsOf holdingId recorded
          = if call.holdingId = holdingId then [call.row eventId] else [] := by
  cases hcall : ledger.holding call.holdingId with
  | none =>
      refine ⟨[], "", ?_, ?_⟩
      · rw [recordAlternativeEvent_missing env hcall, List.append_nil]
      · rw [if_neg]
        · rfl
        · intro heq
          rw [heq, h] at hcall
          cases hcall
  | some called =>
      refine ⟨_, env.freshId "alt_evt" ledger.store,
        (recordAlternativeEvent_ok env hcall).2, ?_⟩
      unfold eventsOf
      by_cases hown : call.holdingId = holdingId
      · rw [if_pos hown, List.filter_eq_self]
        intro event hevent
        rw [List.mem_singleton.mp hevent]
        exact decide_eq_true hown
      · rw [if_neg hown, List.filter_eq_nil_iff]
        intro event hevent heq
        rw [List.mem_singleton.mp hevent] at heq
        exact hown (of_decide_eq_true heq)

-- ================================================================= reloading

/-- A row as it is read later: the amount may have been rounded, unless the
column keeps it. -/
structure ReadAs (money : ℚ → ℚ) (event event' : AlternativeEventRow) :
    Prop where
  fields : { event' with amount := event.amount } = event
  amount : money event.amount = event.amount → event'.amount = event.amount

variable {money : ℚ → ℚ}

theorem ReadAs.refl (event : AlternativeEventRow) : ReadAs money event event :=
  ⟨rfl, fun _ => rfl⟩

theorem ReadAs.trans {a b c : AlternativeEventRow} (h : ReadAs money a b)
    (h' : ReadAs money b c) : ReadAs money a c where
  fields := by
    rw [← h.fields, ← h'.fields]
  amount hkept := by
    have hb := h.amount hkept
    rw [← hb]
    refine h'.amount ?_
    rw [hb]
    exact hkept

/-- An event reads as what its money column keeps. -/
theorem readAs_read (event : AlternativeEventRow) :
    ReadAs money event (event.read money) :=
  ⟨rfl, id⟩

theorem ReadAs.sameHolding {event event' : AlternativeEventRow}
    (h : ReadAs money event event') : event'.holdingId = event.holdingId := by
  rw [← h.fields]

theorem ReadAs.sameType {event event' : AlternativeEventRow}
    (h : ReadAs money event event') : event'.eventType = event.eventType := by
  rw [← h.fields]

variable (holdingId) in
/-- The same rows are a holding's, however often they are loaded. -/
theorem eventsOf_readAs {events events' : List AlternativeEventRow}
    (h : List.Forall₂ (ReadAs money) events events') :
    List.Forall₂ (ReadAs money) (eventsOf holdingId events)
      (eventsOf holdingId events') := by
  induction h with
  | nil => exact .nil
  | @cons event event' _ _ hread _ ih =>
      unfold eventsOf at ih ⊢
      by_cases hown : event.holdingId = holdingId
      · have hown' := hread.sameHolding.trans hown
        rw [List.filter_cons_of_pos (by simpa using hown),
          List.filter_cons_of_pos (by simpa using hown')]
        exact .cons hread ih
      · have hown' : ¬event'.holdingId = holdingId := by
          rw [hread.sameHolding]
          exact hown
        rw [List.filter_cons_of_neg (by simpa using hown),
          List.filter_cons_of_neg (by simpa using hown')]
        exact ih

/-- After a reload a holding reads as its columns keep it. -/
theorem reload_holding {ledger : AlternativesLedger}
    {row : AlternativeHoldingRow} (h : ledger.holding holdingId = some row) :
    (ledger.reload money).holding holdingId = some (row.read money) := by
  have hmem := List.mem_map_of_mem (f := (·.read money)) (Keyed.mem_of_get h)
  have hfound := Keyed.get_of_mem (ledger.reload money).keys hmem
  have hid : row.holdingId = holdingId := Keyed.key_of_get h
  unfold AlternativesLedger.holding
  rw [← hid]
  exact hfound

/-- Appended rows are loaded as the two parts they are. -/
theorem forall₂_split {α β : Type*} {R : α → β → Prop} {before added : List α}
    {loaded : List β} (h : List.Forall₂ R (before ++ added) loaded) :
    ∃ before' added', loaded = before' ++ added'
      ∧ List.Forall₂ R before before' ∧ List.Forall₂ R added added' := by
  have hbefore := List.forall₂_take before.length h
  have hadded := List.forall₂_drop before.length h
  rw [List.take_left' rfl] at hbefore
  rw [List.drop_left' rfl] at hadded
  exact ⟨_, _, (List.take_append_drop _ _).symm, hbefore, hadded⟩

-- ==================================================================== a run

/-- Of a run, the calls. -/
def callsOf (ops : List AlternativesOp) : List AlternativeEventCall :=
  ops.filterMap fun op => match op with
    | .record call => some call
    | .reload => none

theorem callsOf_record (call : AlternativeEventCall)
    (rest : List AlternativesOp) :
    callsOf (.record call :: rest) = call :: callsOf rest := rfl

theorem callsOf_reload (rest : List AlternativesOp) :
    callsOf (.reload :: rest) = callsOf rest := rfl

variable (holdingId money) in
/-- What a run leaves of the event rows: those that were there, as they are
read by now, and one row more for each call on the holding. -/
structure Recorded (ledger ledger' : AlternativesLedger)
    (calls : List AlternativeEventCall)
    (earlier recorded : List AlternativeEventRow) : Prop where
  events : ledger'.events = earlier ++ recorded
  earlier : List.Forall₂ (ReadAs money) ledger.events earlier
  rows : List.Forall₂ (fun call event => ReadAs money
    (call.row event.eventId) event) (callsOn holdingId calls)
    (eventsOf holdingId recorded)

/-- A call's own row, loaded later, is the row of the call. -/
theorem rows_of_call {call : AlternativeEventCall} {eventId : String}
    {added : List AlternativeEventRow}
    (h : List.Forall₂ (ReadAs money) [call.row eventId]
      (eventsOf holdingId added)) :
    ∃ event, eventsOf holdingId added = [event]
      ∧ ReadAs money (call.row event.eventId) event := by
  cases hadded : eventsOf holdingId added with
  | nil =>
      rw [hadded] at h
      cases h
  | cons event others =>
      rw [hadded] at h
      obtain ⟨hread, hnil⟩ := List.forall₂_cons.mp h
      have hid : event.eventId = eventId := congrArg (·.eventId) hread.fields
      rw [List.forall₂_nil_left_iff.mp hnil]
      rw [← hid] at hread
      exact ⟨event, rfl, hread⟩

variable (money) in
/-- A run adds one row a call on the holding, each loaded any number of
times, and leaves the earlier ones to be loaded. -/
theorem run_recorded (ops : List AlternativesOp) :
    ∀ (ledger : AlternativesLedger) (row : AlternativeHoldingRow),
      ledger.holding holdingId = some row → ∃ earlier recorded,
        Recorded holdingId money ledger
          (run (execAlternatives money env) ledger ops) (callsOf ops) earlier
          recorded := by
  induction ops with
  | nil =>
      intro ledger row _
      exact ⟨ledger.events, [], (List.append_nil _).symm,
        List.forall₂_same.mpr fun event _ => .refl event, .nil⟩
  | cons op rest ih =>
      intro ledger row hrow
      cases op with
      | reload =>
          obtain ⟨earlier, recorded, hrest⟩ := ih _ _ (reload_holding hrow)
          refine ⟨earlier, recorded, hrest.events, ?_, hrest.rows⟩
          have hloaded := List.forall₂_map_left_iff.mp hrest.earlier
          exact hloaded.imp fun event event' h =>
            (readAs_read event).trans h
      | record call =>
          obtain ⟨first, eventId, hevents, hfirst⟩ := exec_events env hrow call
          obtain ⟨loaded, others, hrest⟩ := ih _ _ (exec_holding env hrow call)
          have hloaded := hrest.earlier
          rw [hevents] at hloaded
          obtain ⟨earlier, added, hsplit, hearlier, hadded⟩ :=
            forall₂_split hloaded
          refine ⟨earlier, added ++ others, ?_, hearlier, ?_⟩
          · rw [← List.append_assoc, ← hsplit]
            exact hrest.events
          · have hown := eventsOf_readAs holdingId hadded
            rw [hfirst] at hown
            rw [eventsOf_append, callsOf_record]
            by_cases hcalled : call.holdingId = holdingId
            · rw [if_pos hcalled] at hown
              obtain ⟨event, hone, hread⟩ := rows_of_call hown
              rw [callsOn_cons_own hcalled, hone]
              exact .cons hread hrest.rows
            · rw [if_neg hcalled] at hown
              rw [callsOn_cons_other hcalled,
                List.forall₂_nil_left_iff.mp hown]
              exact hrest.rows

-- =========================================================== called capital

variable (holdingId) in
/-- The amounts of the holding's capital calls, as they are called. -/
def callAmounts (calls : List AlternativeEventCall) : List ℚ :=
  ((callsOn holdingId calls).filter
    (·.eventType = "capital_call")).map (·.amount)

variable (money) in
/-- The money column hands back the amounts, and every total on the way. -/
def CallsKept : ℚ → List ℚ → Prop
  | called, [] => money called = called
  | called, amount :: rest => money called = called ∧ money amount = amount
      ∧ CallsKept (called + amount) rest

/-- The balance the calls start from is one the column keeps. -/
theorem CallsKept.start {called : ℚ} {amounts : List ℚ}
    (h : CallsKept money called amounts) : money called = called := by
  cases amounts with
  | nil => exact h
  | cons amount rest => exact h.1

/-- A whole number of cents. -/
def Cents (x : ℚ) : Prop := ∃ n : ℤ, x = n / 100

/-- The money column hands back whole cents. -/
theorem quantize_cents {x : ℚ} (h : Cents x) : quantize 2 x = x := by
  obtain ⟨n, rfl⟩ := h
  have hscaled : (n : ℚ) / 100 * 10 ^ 2 = n := by ring
  unfold quantize
  rw [hscaled, roundHalfEven_intCast]
  norm_num

/-- A column that hands back whole cents keeps calls of whole cents. -/
theorem callsKept_of_cents (hmoney : ∀ x, Cents x → money x = x)
    {amounts : List ℚ} (hall : ∀ amount ∈ amounts, Cents amount) :
    ∀ {called : ℚ}, Cents called → CallsKept money called amounts := by
  induction amounts with
  | nil => exact fun h => hmoney _ h
  | cons amount rest ih =>
      intro called hcalled
      have hamount := hall amount List.mem_cons_self
      refine ⟨hmoney _ hcalled, hmoney _ hamount,
        ih (fun other h => hall other (List.mem_cons_of_mem _ h)) ?_⟩
      obtain ⟨m, rfl⟩ := hcalled
      obtain ⟨n, rfl⟩ := hamount
      exact ⟨m + n, by push_cast; ring⟩

theorem callAmounts_cons_call {call : AlternativeEventCall}
    (hown : call.holdingId = holdingId)
    (hcall : call.eventType = "capital_call")
    (rest : List AlternativeEventCall) :
    callAmounts holdingId (call :: rest)
      = call.amount :: callAmounts holdingId rest := by
  unfold callAmounts
  rw [callsOn_cons_own hown, List.filter_cons_of_pos (by simpa using hcall),
    List.map_cons]

theorem callAmounts_cons_other {call : AlternativeEventCall}
    (h : ¬(call.holdingId = holdingId ∧ call.eventType = "capital_call"))
    (rest : List AlternativeEventCall) :
    callAmounts holdingId (call :: rest) = callAmounts holdingId rest := by
  unfold callAmounts
  by_cases hown : call.holdingId = holdingId
  · have htype : call.eventType ≠ "capital_call" := fun hcall => h ⟨hown, hcall⟩
    rw [callsOn_cons_own hown, List.filter_cons_of_neg (by simpa using htype)]
  · rw [callsOn_cons_other hown]

/-- What one call adds to a holding's called capital. -/
theorem calledCapital_step (row : AlternativeHoldingRow)
    (call : AlternativeEventCall) :
    (if call.holdingId = holdingId then row.afterEvent (call.row "")
        else row).calledCapital
      = row.calledCapital + if call.holdingId = holdingId
          ∧ call.eventType = "capital_call" then call.amount else 0 := by
  by_cases hown : call.holdingId = holdingId
  · rw [if_pos hown, AlternativeHoldingRow.afterEvent_calledCapital]
    simp only [hown, true_and]
    rfl
  · rw [if_neg hown, if_neg fun h => hown h.1, add_zero]

/-- A run adds the capital calls up, as long as the column keeps them. -/
theorem run_called (ops : List AlternativesOp) :
    ∀ (ledger : AlternativesLedger) (row : AlternativeHoldingRow),
      ledger.holding holdingId = some row →
      CallsKept money row.calledCapital (callAmounts holdingId (callsOf ops)) →
        ∃ row', (run (execAlternatives money env) ledger ops).holding holdingId
            = some row'
          ∧ row'.calledCapital = row.calledCapital
            + (callAmounts holdingId (callsOf ops)).sum := by
  induction ops with
  | nil => exact fun ledger row hrow _ => ⟨row, hrow, (add_zero _).symm⟩
  | cons op rest ih =>
      intro ledger row hrow hkept
      cases op with
      | reload =>
          have hcalled : (row.read money).calledCapital = row.calledCapital :=
            hkept.start
          obtain ⟨row', hrow', hsum⟩ := ih _ _ (reload_holding hrow)
            (by rw [hcalled]; exact hkept)
          exact ⟨row', hrow', by rw [hsum, hcalled]; rfl⟩
      | record call =>
          have hafter := exec_holding env hrow call
          have hadded : (if call.holdingId = holdingId
              then row.afterEvent (call.row "") else row).calledCapital = _ :=
            calledCapital_step row call
          rw [callsOf_record] at hkept ⊢
          by_cases hcalled : call.holdingId = holdingId
              ∧ call.eventType = "capital_call"
          · rw [callAmounts_cons_call hcalled.1 hcalled.2] at hkept ⊢
            rw [if_pos hcalled] at hadded
            obtain ⟨row', hrow', hsum⟩ := ih _ _ hafter
              (by rw [hadded]; exact hkept.2.2)
            refine ⟨row', hrow', ?_⟩
            rw [hsum, hadded, List.sum_cons, add_assoc]
          · rw [callAmounts_cons_other hcalled] at hkept ⊢
            rw [if_neg hcalled, add_zero] at hadded
            obtain ⟨row', hrow', hsum⟩ := ih _ _ hafter
              (by rw [hadded]; exact hkept)
            exact ⟨row', hrow', by rw [hsum, hadded]⟩

/-- The amounts of rows that are read as they were called. -/
theorem sum_calls_readAs {calls : List AlternativeEventCall}
    {events : List AlternativeEventRow}
    (hrows : List.Forall₂ (fun call event => ReadAs money
      (call.row event.eventId) event) calls events)
    (hkept : ∀ amount ∈ (calls.filter
      (·.eventType = "capital_call")).map (·.amount), money amount = amount) :
    ((events.filter (·.eventType = "capital_call")).map (·.amount)).sum
      = ((calls.filter (·.eventType = "capital_call")).map (·.amount)).sum := by
  induction hrows with
  | nil => rfl
  | @cons call event calls' events' hread _ ih =>
      have htype : event.eventType = call.eventType := hread.sameType
      by_cases hcall : call.eventType = "capital_call"
      · have hcall' := htype.trans hcall
        rw [List.filter_cons_of_pos (by simpa using hcall)] at hkept
        rw [List.filter_cons_of_pos (by simpa using hcall'),
          List.filter_cons_of_pos (by simpa using hcall), List.map_cons,
          List.map_cons, List.sum_cons, List.sum_cons,
          ih fun amount hmem => hkept amount (List.mem_cons_of_mem _ hmem)]
        congr 1
        exact hread.amount (hkept _ List.mem_cons_self)
      · have hcall' : ¬event.eventType = "capital_call" := by
          rw [htype]
          exact hcall
        rw [List.filter_cons_of_neg (by simpa using hcall)] at hkept
        rw [List.filter_cons_of_neg (by simpa using hcall'),
          List.filter_cons_of_neg (by simpa using hcall), ih hkept]

/-- So is every amount: where partial sums are kept, so are their differences. -/
theorem CallsKept.amounts {amounts : List ℚ} : ∀ {called : ℚ},
    CallsKept money called amounts → ∀ amount ∈ amounts,
      money amount = amount := by
  induction amounts with
  | nil => exact fun _ amount hmem => absurd hmem List.not_mem_nil
  | cons first rest ih =>
      intro called h amount hmem
      rcases List.mem_cons.mp hmem with rfl | hmem
      · exact h.2.1
      · exact ih h.2.2 amount hmem

-- ===================================================================== marks

variable (holdingId money) in
/-- An operation moves the holding's last mark date forward or not at all,
and a mark older than it changes neither value nor date. -/
def MarkKept (ledger : AlternativesLedger) (op : AlternativesOp) : Prop :=
  ∀ row row', ledger.holding holdingId = some row →
    (execAlternatives money env ledger op).holding holdingId = some row' →
      row.lastMarkDate ≤ row'.lastMarkDate
        ∧ ∀ call, op = .record call → call.holdingId = holdingId →
          call.eventType = "mark" → call.eventDate < row.lastMarkDate →
            row'.currentNav = row.currentNav
              ∧ row'.lastMarkDate = row.lastMarkDate

variable (holdingId) in
/-- The dates of the marks of a holding, as they are called. -/
def markDates (calls : List AlternativeEventCall) : List Date :=
  ((callsOn holdingId calls).filter (·.eventType = "mark")).map (·.eventDate)

theorem markDates_cons_mark {call : AlternativeEventCall}
    (hown : call.holdingId = holdingId) (hmark : call.eventType = "mark")
    (rest : List AlternativeEventCall) :
    markDates holdingId (call :: rest)
      = call.eventDate :: markDates holdingId rest := by
  unfold markDates
  rw [callsOn_cons_own hown, List.filter_cons_of_pos (by simpa using hmark),
    List.map_cons]

theorem markDates_cons_other {call : AlternativeEventCall}
    (h : ¬(call.holdingId = holdingId ∧ call.eventType = "mark"))
    (rest : List AlternativeEventCall) :
    markDates holdingId (call :: rest) = markDates holdingId rest := by
  unfold markDates
  by_cases hown : call.holdingId = holdingId
  · have htype : call.eventType ≠ "mark" := fun hmark => h ⟨hown, hmark⟩
    rw [callsOn_cons_own hown, List.filter_cons_of_neg (by simpa using htype)]
  · rw [callsOn_cons_other hown]

/-- A mark is kept exactly when it is no older than the last one. -/
theorem markKept_of_mark {ledger : AlternativesLedger}
    {row : AlternativeHoldingRow} {call : AlternativeEventCall}
    (hrow : ledger.holding holdingId = some row)
    (hown : call.holdingId = holdingId) (hmark : call.eventType = "mark") :
    MarkKept env holdingId money ledger (.record call)
      ↔ row.lastMarkDate ≤ call.eventDate := by
  have hafter := exec_holding env hrow call
  rw [if_pos hown, AlternativeHoldingRow.afterEvent_mark hmark] at hafter
  constructor
  · intro h
    exact (h _ _ hrow hafter).1
  · intro hle first last hfirst hlast
    rw [hrow] at hfirst
    rw [execAlternatives_record, hafter] at hlast
    cases hfirst
    cases hlast
    refine ⟨hle, fun other heq _ _ hlt => ?_⟩
    cases heq
    exact absurd hlt (not_lt.mpr hle)

/-- A call that marks nothing here keeps the last mark here. -/
theorem markKept_of_other {ledger : AlternativesLedger}
    {row : AlternativeHoldingRow} {call : AlternativeEventCall}
    (hrow : ledger.holding holdingId = some row)
    (hother : ¬(call.holdingId = holdingId ∧ call.eventType = "mark")) :
    (∃ row', (execAlternativeEvent env ledger call).holding holdingId
          = some row' ∧ row'.lastMarkDate = row.lastMarkDate)
      ∧ MarkKept env holdingId money ledger (.record call) := by
  have hafter := exec_holding env hrow call
  have hdate : (if call.holdingId = holdingId
      then row.afterEvent (call.row "") else row).lastMarkDate
        = row.lastMarkDate := by
    by_cases hown : call.holdingId = holdingId
    · rw [if_pos hown]
      exact AlternativeHoldingRow.afterEvent_lastMarkDate
        (fun hmark => hother ⟨hown, hmark⟩) row
    · rw [if_neg hown]
  refine ⟨⟨_, hafter, hdate⟩, fun first last hfirst hlast => ?_⟩
  rw [hrow] at hfirst
  rw [execAlternatives_record, hafter] at hlast
  cases hfirst
  cases hlast
  refine ⟨hdate.ge, fun other heq hown hmark => ?_⟩
  cases heq
  exact absurd ⟨hown, hmark⟩ hother

/-- A commit leaves the date of the last mark. -/
theorem markKept_of_reload {ledger : AlternativesLedger}
    {row : AlternativeHoldingRow}
    (hrow : ledger.holding holdingId = some row) :
    MarkKept env holdingId money ledger .reload := by
  intro first last hfirst hlast
  rw [hrow] at hfirst
  rw [execAlternatives_reload, reload_holding hrow] at hlast
  cases hfirst
  cases hlast
  exact ⟨le_refl _, fun call heq => nomatch heq⟩

/-- Every step keeps the marks exactly when they come in date order. -/
theorem everyStep_markKept_iff (ops : List AlternativesOp) :
    ∀ (ledger : AlternativesLedger) (row : AlternativeHoldingRow),
      ledger.holding holdingId = some row →
        (EveryStep (execAlternatives money env) (MarkKept env holdingId money)
            ledger ops
          ↔ List.IsChain (· ≤ ·)
            (row.lastMarkDate :: markDates holdingId (callsOf ops))) := by
  induction ops with
  | nil =>
      intro ledger row _
      exact ⟨fun _ => List.isChain_singleton _,
        fun _ => everyStep_nil _ ledger⟩
  | cons op rest ih =>
      intro ledger row hrow
      rw [everyStep_cons]
      cases op with
      | reload =>
          rw [execAlternatives_reload, ih _ _ (reload_holding hrow),
            callsOf_reload]
          exact and_iff_right (markKept_of_reload env hrow)
      | record call =>
          rw [callsOf_record, execAlternatives_record]
          by_cases hmark : call.holdingId = holdingId
              ∧ call.eventType = "mark"
          · obtain ⟨hown, htype⟩ := hmark
            have hafter := exec_holding env hrow call
            rw [if_pos hown] at hafter
            rw [markKept_of_mark env hrow hown htype, ih _ _ hafter,
              AlternativeHoldingRow.afterEvent_mark htype,
              markDates_cons_mark hown htype, List.isChain_cons_cons]
            rfl
          · obtain ⟨⟨row', hafter, hdate⟩, hkept⟩ :=
              markKept_of_other env hrow hmark
            rw [ih _ _ hafter, hdate, markDates_cons_other hmark]
            exact and_iff_right hkept

/-- Over any run of calls, with commits anywhere between them.

A holding's called capital is its first value plus the capital calls
recorded, where the money column hands back those amounts and the totals on
the way. Its last mark date never moves back, and no older mark changes it
or the value, exactly when the marks come in date order. -/
theorem alternative_marks_kept_iff {ledger : AlternativesLedger}
    {row : AlternativeHoldingRow} (hrow : ledger.holding holdingId = some row)
    (ops : List AlternativesOp) :
    (CallsKept money row.calledCapital (callAmounts holdingId (callsOf ops)) →
      ∃ row' earlier recorded,
        (run (execAlternatives money env) ledger ops).holding holdingId
            = some row'
          ∧ Recorded holdingId money ledger
            (run (execAlternatives money env) ledger ops) (callsOf ops)
            earlier recorded
          ∧ row'.calledCapital
            = row.calledCapital + capitalCalled holdingId recorded)
      ∧ (EveryStep (execAlternatives money env) (MarkKept env holdingId money)
            ledger ops
          ↔ List.IsChain (· ≤ ·)
            (row.lastMarkDate :: markDates holdingId (callsOf ops))) := by
  refine ⟨fun hkept => ?_, everyStep_markKept_iff env ops ledger row hrow⟩
  obtain ⟨row', hrow', hsum⟩ := run_called env ops ledger row hrow hkept
  obtain ⟨earlier, recorded, hrecorded⟩ :=
    run_recorded env money ops ledger row hrow
  refine ⟨row', earlier, recorded, hrow', hrecorded, ?_⟩
  have hcalled : capitalCalled holdingId recorded
      = (callAmounts holdingId (callsOf ops)).sum :=
    sum_calls_readAs hrecorded.rows hkept.amounts
  rw [hsum, hcalled]

end Replay

-- ============================================================= a late mark

/-- The fund of the demo household, marked on the last day of March 2026. -/
def growthFund : AlternativeHoldingRow where
  holdingId := "alt_pe_smith"
  householdId := "hh_smith"
  entityId := "trust_smith_rev"
  name := "Smith Growth PE Fund II"
  assetType := "private_equity"
  committedCapital := 500000
  calledCapital := 350000
  currentNav := 410000
  lastMarkDate := 739706

/-- One holding, nothing called yet. -/
def growthFundLedger : AlternativesLedger where
  holdings := [growthFund]
  events := []
  store := Store.empty
  keys := List.nodup_singleton _

/-- A capital call of fifty thousand on it. -/
def growthFundCall : AlternativeEventCall where
  holdingId := "alt_pe_smith"
  eventType := "capital_call"
  amount := 50000
  eventDate := 739751

/-- The mark of the end of June. -/
def growthFundMark : AlternativeEventCall where
  holdingId := "alt_pe_smith"
  eventType := "mark"
  amount := 430000
  eventDate := 739797

/-- The mark of the middle of May, arriving after it. -/
def growthFundLateMark : AlternativeEventCall where
  holdingId := "alt_pe_smith"
  eventType := "mark"
  amount := 415000
  eventDate := 739751

/-- Two capital calls with a commit between them, and marks in order: a
session that loads the rows finds the sum. -/
theorem alternative_marks_kept_iff_in_order :
    let ops : List AlternativesOp := [.record growthFundCall, .reload,
      .record growthFundLateMark, .record growthFundCall,
      .record growthFundMark, .reload]
    EveryStep (execAlternatives (quantize 2) Env.counting)
        (MarkKept Env.counting "alt_pe_smith" (quantize 2)) growthFundLedger ops
      ∧ ∃ row earlier recorded,
        (run (execAlternatives (quantize 2) Env.counting) growthFundLedger
            ops).holding "alt_pe_smith" = some row
          ∧ Recorded "alt_pe_smith" (quantize 2) growthFundLedger
            (run (execAlternatives (quantize 2) Env.counting) growthFundLedger
              ops) (callsOf ops) earlier recorded
          ∧ row.calledCapital = 350000 + capitalCalled "alt_pe_smith" recorded
          ∧ row.calledCapital = 450000 := by
  intro ops
  have hrow : growthFundLedger.holding "alt_pe_smith" = some growthFund := by
    decide
  have hcents : Cents 50000 := ⟨5000000, by norm_num⟩
  have hkept : CallsKept (quantize 2) 350000 [50000, 50000] :=
    callsKept_of_cents (fun _ => quantize_cents)
      (List.forall_mem_cons.mpr ⟨hcents, List.forall_mem_singleton.mpr hcents⟩)
      ⟨35000000, by norm_num⟩
  obtain ⟨hcalled, hmarks⟩ := alternative_marks_kept_iff Env.counting hrow ops
  obtain ⟨row, earlier, recorded, hafter, hrecorded, hsum⟩ := hcalled hkept
  have htotal : ((run (execAlternatives (quantize 2) Env.counting)
      growthFundLedger ops).holding "alt_pe_smith").map (·.calledCapital)
        = some 450000 := by decide +kernel
  rw [hafter] at htotal
  exact ⟨hmarks.mpr (by decide), row, earlier, recorded, hafter, hrecorded,
    hsum, Option.some.inj htotal⟩

/-- A mark overwritten by an older one that arrives after it. -/
theorem growthFund_late_mark_overwrites :
    ¬EveryStep (execAlternatives (quantize 2) Env.counting)
      (MarkKept Env.counting "alt_pe_smith" (quantize 2)) growthFundLedger
      [.record growthFundMark, .record growthFundLateMark] := by
  intro h
  have hkept := h [.record growthFundMark] (.record growthFundLateMark) [] rfl
  have hmarked : growthFundLedger.holding "alt_pe_smith"
      = some growthFund := by
    decide
  have hafter := exec_holding Env.counting hmarked growthFundMark
  have hlate := exec_holding Env.counting hafter growthFundLateMark
  have hback := (hkept _ _ hafter hlate).1
  revert hback
  decide

end Warehouse
