/-
When reconciliation is sound and complete.

The passes append breaks and nothing else, so a call's breaks are read
as one list of signatures (break type, account, security): the as-of
and symbology passes sign without a security, the custodian pass signs
once for every file row off the ledger's total, the ledger pass once for
every custodied key the file lacks (`reconcileIngest_signatures`).

# The condition

The custodian pass compares row by row, against a ledger side summed
over lots. For one file row per key that is the comparison of totals;
for several it is the comparison of totals only where
`rowsReadAsTotal` holds.

# Where it misses

Two rows of one key that add up to the ledger's total, neither of them
carrying it, are reported twice, though the totals agree; two that each
carry a total other than nought are not reported at all, though together
they are twice as much. `rowsReadAsTotal` leaves out exactly the files of
this kind.
-/
import Warehouse.Execution.Reconciliation
import Warehouse.Lib.Keyed
import Mathlib.Data.List.Count
import Mathlib.Data.List.Dedup
import Mathlib.Tactic.Ring

namespace Warehouse

open Lib

-- ========================================================== the two totals

/-- What a break is about. -/
abbrev BreakSignature := ReconBreakType × String × Option String

/-- A break without its id and its texts. -/
def ReconciliationBreakRow.signature (row : ReconciliationBreakRow) :
    BreakSignature :=
  (row.breakType, row.accountId, row.securityId)

/-- The signature of a break at one position. -/
def keySignature (breakType : ReconBreakType) (key : PositionKey) :
    BreakSignature :=
  (breakType, key.1, some key.2)

/-- How many breaks of a type a call opened on a key. -/
def openedOn (breaks : List ReconciliationBreakRow)
    (breakType : ReconBreakType) (key : PositionKey) : Nat :=
  (breaks.filter fun row => row.breakType = breakType
    ∧ row.accountId = key.1 ∧ row.securityId = some key.2).length

/-- The file's quantities for a key, row by row. -/
def fileQuantities (store : Store) (ingestRunId : String)
    (key : PositionKey) : List ℚ :=
  ((custodianRowsOf store ingestRunId).filter fun row =>
    (row.accountId, row.securityId) = key).map (·.quantity)

/-- The sum of the ledger lots' quantities for a key. -/
def ledgerQuantity (store : Store) (key : PositionKey) : ℚ :=
  ((store.lots.filter fun lot => (lot.accountId, lot.securityId) = key).map
    (·.quantity)).sum

/-- The keys that have lots. -/
def ledgerKeys (store : Store) : List PositionKey :=
  (store.lots.map fun lot => (lot.accountId, lot.securityId)).dedup

/-- The tally lists each key once, with its quantity. -/
theorem ledgerQuantities_entries (store : Store) :
    (ledgerQuantities store).entries
      = (ledgerKeys store).map fun key => (key, ledgerQuantity store key) := by
  unfold ledgerQuantities
  rw [Dict.entries_ofPairs]
  · rfl
  · rw [List.map_map]
    show ((ledgerKeys store).map fun key => key).Nodup
    rw [List.map_id']
    exact List.nodup_dedup _

/-- A key without a lot has quantity zero. -/
theorem ledgerQuantity_eq_zero {store : Store} {key : PositionKey}
    (h : key ∉ ledgerKeys store) : ledgerQuantity store key = 0 := by
  unfold ledgerKeys at h
  rw [List.mem_dedup] at h
  have hnone : store.lots.filter (fun lot =>
      (lot.accountId, lot.securityId) = key) = [] := by
    rw [List.filter_eq_nil_iff]
    intro lot hlot heq
    exact h (List.mem_map.mpr ⟨lot, hlot, by simpa using heq⟩)
  rw [ledgerQuantity, hnone]
  rfl

/-- A key without lots reads as zero. -/
theorem ledgerQuantities_getD (store : Store) (key : PositionKey) :
    ((ledgerQuantities store).get? key).getD 0 = ledgerQuantity store key := by
  cases h : (ledgerQuantities store).get? key with
  | some quantity =>
      rw [Dict.get?_eq_some_iff, ledgerQuantities_entries] at h
      obtain ⟨k, -, hk⟩ := List.mem_map.mp h
      cases hk
      rfl
  | none =>
      rw [Dict.get?_eq_none_iff, Dict.keys, ledgerQuantities_entries,
        List.map_map] at h
      show 0 = ledgerQuantity store key
      refine (ledgerQuantity_eq_zero fun hmem => h ?_).symm
      exact List.mem_map.mpr ⟨key, hmem, rfl⟩

-- ======================================================= what opening keeps

variable {env : Env} {ingestRunId actorId : String}
  {householdId : Option String}

/-- A relation that opening a break keeps, on the securities of `about`. -/
structure KeptByOpening (env : Env) (ingestRunId actorId : String)
    (householdId : Option String) (about : Option String → Prop)
    (Rel : BreakState → BreakState → Prop) : Prop where
  refl : ∀ st, Rel st st
  trans : ∀ st st' st'', Rel st st' → Rel st' st'' → Rel st st''
  opened : ∀ accountId securityId breakType description st,
    about securityId → Rel st (openBreak env ingestRunId accountId securityId
      breakType description actorId householdId st)

namespace KeptByOpening

variable {about : Option String → Prop}
  {Rel : BreakState → BreakState → Prop}
  (h : KeptByOpening env ingestRunId actorId householdId about Rel)

include h

/-- A loop keeps what its turns keep; `view` is what of the accumulator
holds the breaks. -/
theorem foldl {α β : Type} (view : β → BreakState) {turn : β → α → β}
    (hturn : ∀ st x, Rel (view st) (view (turn st x))) (xs : List α) :
    ∀ st, Rel (view st) (view (xs.foldl turn st)) := by
  induction xs with
  | nil => exact fun st => h.refl _
  | cons x rest ih => exact fun st => h.trans _ _ _ (hturn st x) (ih _)

/-- The date pass opens breaks without a security. -/
theorem asOfDateBreaks (hnone : about none)
    (rows : List CustodianPositionRow) (st : BreakState) :
    Rel st (asOfDateBreaks env ingestRunId rows actorId householdId st) := by
  cases rows with
  | nil => exact h.refl st
  | cons first rest =>
      unfold Warehouse.asOfDateBreaks
      dsimp only
      split
      · exact h.opened _ _ _ _ _ hnone
      · cases ledgerAsOfDate st.store with
        | none => exact h.opened _ _ _ _ _ hnone
        | some ledgerAsOf =>
            dsimp only
            split
            · exact h.opened _ _ _ _ _ hnone
            · exact h.refl st

/-- One duplicated identifier opens at most one such break. -/
theorem symbologyBreak (hnone : about none) (label : String)
    (column : SecurityRow → Option String) (accountId : String)
    (st : BreakState) (key : String) :
    Rel st (symbologyBreak env ingestRunId label column actorId householdId
      accountId st key) := by
  unfold Warehouse.symbologyBreak
  dsimp only
  split
  · exact h.refl st
  · exact h.opened _ _ _ _ _ hnone

/-- The symbology pass opens such breaks only. -/
theorem symbologyBreaks (hnone : about none) (securityIds : List String)
    (accountId : String) (st : BreakState) :
    Rel st (symbologyBreaks env ingestRunId securityIds actorId householdId
      accountId st) := by
  unfold Warehouse.symbologyBreaks
  split
  · exact h.refl st
  · exact h.trans _ _ _
      (h.foldl id (h.symbologyBreak hnone _ _ accountId) _ st)
      (h.foldl id (h.symbologyBreak hnone _ _ accountId) _ _)

/-- One row of the file opens breaks at its own key. -/
theorem compareCustodianRow (hsome : ∀ id, about (some id))
    (ledger : Dict PositionKey ℚ) (st : ReconState)
    (row : CustodianPositionRow) :
    Rel st.opened (compareCustodianRow env ingestRunId ledger actorId
      householdId st row).opened := by
  unfold Warehouse.compareCustodianRow
  dsimp only
  split
  · exact h.opened _ _ _ _ _ (hsome _)
  · exact h.refl _

/-- One key of the ledger opens a break at that key. -/
theorem compareLedgerKey (hsome : ∀ id, about (some id))
    (accounts : List String) (st : ReconState) (entry : PositionKey × ℚ) :
    Rel st.opened (compareLedgerKey env ingestRunId accounts actorId
      householdId st entry).opened := by
  unfold Warehouse.compareLedgerKey
  dsimp only
  split
  · exact h.refl _
  · split
    · exact h.refl _
    · split
      · exact h.refl _
      · exact h.opened _ _ _ _ _ (hsome _)

end KeptByOpening

-- ================================================ what each pass appends

/-- Only breaks without a security were opened in between. -/
def AddsUnkeyed (st st' : BreakState) : Prop :=
  ∃ extra : List BreakSignature,
    st'.breaks.map (·.signature) = st.breaks.map (·.signature) ++ extra
      ∧ ∀ sig ∈ extra, sig.2.2 = none

theorem AddsUnkeyed.refl (st : BreakState) : AddsUnkeyed st st :=
  ⟨[], (List.append_nil _).symm, fun _ h => nomatch h⟩

theorem AddsUnkeyed.trans {st st' st'' : BreakState}
    (h : AddsUnkeyed st st') (h' : AddsUnkeyed st' st'') :
    AddsUnkeyed st st'' := by
  obtain ⟨extra, heq, hnone⟩ := h
  obtain ⟨extra', heq', hnone'⟩ := h'
  refine ⟨extra ++ extra', by rw [heq', heq, List.append_assoc],
    fun sig hsig => ?_⟩
  rcases List.mem_append.mp hsig with h | h
  · exact hnone sig h
  · exact hnone' sig h

/-- An opened break appends its signature. -/
theorem openBreak_signatures (accountId : String)
    (securityId : Option String) (breakType : ReconBreakType)
    (description : String) (st : BreakState) :
    (openBreak env ingestRunId accountId securityId breakType description
        actorId householdId st).breaks.map (·.signature)
      = st.breaks.map (·.signature) ++ [(breakType, accountId, securityId)] := by
  unfold openBreak
  rw [List.map_append]
  rfl

theorem keptByOpening_addsUnkeyed :
    KeptByOpening env ingestRunId actorId householdId (· = none)
      AddsUnkeyed where
  refl := AddsUnkeyed.refl
  trans _ _ _ h h' := h.trans h'
  opened accountId securityId breakType description st hnone := by
    refine ⟨_, openBreak_signatures accountId securityId breakType description
      st, fun sig hsig => ?_⟩
    rw [List.mem_singleton] at hsig
    rw [hsig, hnone]

/-- The file rows the custodian pass opens a break on. -/
def offRows (store : Store) (rows : List CustodianPositionRow) :
    List CustodianPositionRow :=
  rows.filter fun row =>
    ledgerQuantity store (row.accountId, row.securityId) ≠ row.quantity

/-- The pass over the file appends exactly the signatures of the rows that are
off. -/
theorem compareCustodianRows_signatures (store : Store)
    (rows : List CustodianPositionRow) :
    ∀ st : ReconState,
      (rows.foldl (compareCustodianRow env ingestRunId (ledgerQuantities store)
          actorId householdId) st).opened.breaks.map (·.signature)
        = st.opened.breaks.map (·.signature)
          ++ (offRows store rows).map fun row =>
            keySignature .quantityMismatch (row.accountId, row.securityId) := by
  induction rows with
  | nil => exact fun st => (List.append_nil _).symm
  | cons row rest ih =>
      intro st
      rw [List.foldl_cons, ih]
      unfold compareCustodianRow offRows
      simp only [ledgerQuantities_getD, List.filter_cons, decide_eq_true_eq]
      split
      · rw [openBreak_signatures, List.append_assoc]
        rfl
      · rfl

/-- After the custodian pass, `seen` is the keys of the file. -/
theorem mem_seen_compareCustodianRows (ledger : Dict PositionKey ℚ)
    (key : PositionKey) (rows : List CustodianPositionRow) (st : ReconState) :
    key ∈ (rows.foldl (compareCustodianRow env ingestRunId ledger actorId
        householdId) st).seen
      ↔ key ∈ st.seen
        ∨ ∃ row ∈ rows, (row.accountId, row.securityId) = key :=
  Keyed.mem_foldl_insert ReconState.seen (fun _ _ => rfl) rows st

/-- The ledger entries the ledger pass opens a break on. -/
def unseenKeys (store : Store) (custodianAccounts : List String)
    (seen : List PositionKey) (keys : List PositionKey) :
    List PositionKey :=
  keys.filter fun key => custodianAccounts.contains key.1
    && !seen.contains key && ledgerQuantity store key != 0

/-- The pass over the ledger appends exactly those of the keys the file misses. -/
theorem compareLedgerKeys_signatures (store : Store)
    (custodianAccounts : List String) (keys : List PositionKey) :
    ∀ st : ReconState,
      ((keys.map fun key => (key, ledgerQuantity store key)).foldl
          (compareLedgerKey env ingestRunId custodianAccounts actorId
            householdId) st).opened.breaks.map (·.signature)
        = st.opened.breaks.map (·.signature)
          ++ (unseenKeys store custodianAccounts st.seen keys).map
            (keySignature .ledgerOnly) := by
  induction keys with
  | nil => exact fun st => (List.append_nil _).symm
  | cons key rest ih =>
      intro st
      rw [List.map_cons, List.foldl_cons, ih]
      unfold compareLedgerKey unseenKeys
      rw [List.filter_cons]
      by_cases hacct : key.1 ∈ custodianAccounts
      · by_cases hseen : key ∈ st.seen
        · simp [hacct, hseen]
        · by_cases hzero : ledgerQuantity store key = 0
          · simp [hacct, hseen, hzero]
          · simp [hacct, hseen, hzero, openBreak_signatures, keySignature]
      · simp [hacct]

/-- The reconciliation after its custodian pass. -/
def fileCompared (env : Env) (store : Store) (ingestRunId actorId : String)
    (householdId : Option String) : ReconState :=
  (custodianRowsOf store ingestRunId).foldl
    (compareCustodianRow env ingestRunId (ledgerQuantities store) actorId
      householdId)
    { opened := asOfDateBreaks env ingestRunId
        (custodianRowsOf store ingestRunId) actorId householdId
        { store := store } }

/-- The reconciliation after its ledger pass. -/
def ledgerCompared (env : Env) (store : Store) (ingestRunId actorId : String)
    (householdId : Option String) (custodianAccounts : List String) :
    ReconState :=
  (ledgerQuantities store).entries.foldl
    (compareLedgerKey env ingestRunId custodianAccounts actorId householdId)
    (fileCompared env store ingestRunId actorId householdId)

/-- The breaks of a call and the session they are written to. -/
def reconciled (env : Env) (store : Store) (ingestRunId actorId : String)
    (householdId : Option String) (ingestRun : IngestRunRow) : BreakState :=
  let st := ledgerCompared env store ingestRunId actorId householdId
    (accountsForCustodian store ingestRun.custodianId)
  match custodianRowsOf store ingestRunId with
  | [] => st.opened
  | first :: _ => symbologyBreaks env ingestRunId st.securityIds actorId
      householdId first.accountId st.opened

/-- On a known run reconciling cannot fail. -/
theorem reconcileIngest_eq {store : Store} {ingestRun : IngestRunRow}
    (hrun : store.ingestRuns.find? (·.runId = ingestRunId) = some ingestRun) :
    reconcileIngest env store ingestRunId actorId householdId
      = .ok ((reconciled env store ingestRunId actorId householdId
            ingestRun).breaks,
          (reconciled env store ingestRunId actorId householdId
            ingestRun).store) := by
  unfold reconcileIngest
  rw [hrun]
  rfl

namespace KeptByOpening

variable {about : Option String → Prop}
  {Rel : BreakState → BreakState → Prop}
  (h : KeptByOpening env ingestRunId actorId householdId about Rel)

include h

/-- The two passes together, under any relation the opening of a break keeps. -/
theorem ledgerCompared (hnone : about none) (hsome : ∀ id, about (some id))
    (store : Store) (accounts : List String) :
    Rel { store := store } (ledgerCompared env store ingestRunId actorId
      householdId accounts).opened := by
  have hdates := h.asOfDateBreaks hnone (custodianRowsOf store ingestRunId)
    { store := store }
  have hfile : Rel _ (fileCompared env store ingestRunId actorId
      householdId).opened :=
    h.foldl ReconState.opened (h.compareCustodianRow hsome _) _ _
  have hledger : Rel _ (Warehouse.ledgerCompared env store ingestRunId actorId
      householdId accounts).opened :=
    h.foldl ReconState.opened (h.compareLedgerKey hsome _) _ _
  exact h.trans _ _ _ (h.trans _ _ _ hdates hfile) hledger

/-- The whole reconciliation, under any such relation. -/
theorem reconciled (hnone : about none) (hsome : ∀ id, about (some id))
    (store : Store) (ingestRun : IngestRunRow) :
    Rel { store := store } (reconciled env store ingestRunId actorId
      householdId ingestRun) := by
  have hledger := h.ledgerCompared hnone hsome store
    (accountsForCustodian store ingestRun.custodianId)
  unfold Warehouse.reconciled
  dsimp only
  cases custodianRowsOf store ingestRunId with
  | nil => exact hledger
  | cons first rest =>
    exact h.trans _ _ _ hledger (h.symbologyBreaks hnone ..)

end KeptByOpening

/-- The keys of the file. -/
def fileKeys (store : Store) (ingestRunId : String) : List PositionKey :=
  (custodianRowsOf store ingestRunId).map fun row =>
    (row.accountId, row.securityId)

/-- The keys seen are those of the file. -/
theorem mem_seen_fileCompared {store : Store} {key : PositionKey} :
    key ∈ (fileCompared env store ingestRunId actorId householdId).seen
      ↔ key ∈ fileKeys store ingestRunId := by
  rw [fileCompared, mem_seen_compareCustodianRows, fileKeys, List.mem_map]
  refine ⟨fun h => ?_, Or.inr⟩
  rcases h with h | h
  · cases h
  · exact h

/-- The keyed breaks of a call. -/
def keyedSignatures (store : Store) (ingestRunId : String)
    (custodianAccounts : List String) : List BreakSignature :=
  (offRows store (custodianRowsOf store ingestRunId)).map (fun row =>
      keySignature .quantityMismatch (row.accountId, row.securityId))
    ++ (unseenKeys store custodianAccounts (fileKeys store ingestRunId)
        (ledgerKeys store)).map (keySignature .ledgerOnly)

/-- The comparison passes append the keyed breaks to the dated ones. -/
theorem ledgerCompared_signatures_eq (env : Env) (store : Store)
    (ingestRunId actorId : String) (householdId : Option String)
    (custodianAccounts : List String) :
    (ledgerCompared env store ingestRunId actorId householdId
        custodianAccounts).opened.breaks.map (·.signature)
      = (asOfDateBreaks env ingestRunId (custodianRowsOf store ingestRunId)
          actorId householdId { store := store }).breaks.map (·.signature)
        ++ keyedSignatures store ingestRunId custodianAccounts := by
  have hseen : unseenKeys store custodianAccounts
        (fileCompared env store ingestRunId actorId householdId).seen
        (ledgerKeys store)
      = unseenKeys store custodianAccounts (fileKeys store ingestRunId)
        (ledgerKeys store) := by
    unfold unseenKeys
    refine List.filter_congr fun key _ => ?_
    simp only [List.contains_eq_mem, mem_seen_fileCompared]
  rw [ledgerCompared, ledgerQuantities_entries, compareLedgerKeys_signatures,
    hseen, fileCompared, compareCustodianRows_signatures, keyedSignatures,
    List.append_assoc]

/-- The signatures after both passes: unkeyed ones, then the rows' and the
keys'. -/
theorem ledgerCompared_signatures (env : Env) (store : Store)
    (ingestRunId actorId : String) (householdId : Option String)
    (custodianAccounts : List String) :
    ∃ before : List BreakSignature, (∀ sig ∈ before, sig.2.2 = none)
      ∧ (ledgerCompared env store ingestRunId actorId householdId
          custodianAccounts).opened.breaks.map (·.signature)
        = before ++ keyedSignatures store ingestRunId custodianAccounts := by
  have hasOf : AddsUnkeyed { store := store }
      (asOfDateBreaks env ingestRunId (custodianRowsOf store ingestRunId)
        actorId householdId { store := store }) :=
    keptByOpening_addsUnkeyed.asOfDateBreaks rfl ..
  obtain ⟨before, hbefore, hnone⟩ := hasOf
  refine ⟨before, hnone, ?_⟩
  rw [ledgerCompared_signatures_eq, hbefore]
  rfl

/-- The breaks of a call: the keyed ones, between unkeyed ones. -/
theorem reconcileIngest_signatures (env : Env) {store : Store}
    {ingestRunId : String} (actorId : String) (householdId : Option String)
    {ingestRun : IngestRunRow}
    (hrun : store.ingestRuns.find? (·.runId = ingestRunId) = some ingestRun) :
    ∃ breaks store', reconcileIngest env store ingestRunId actorId householdId
          = .ok (breaks, store')
      ∧ ∃ before after : List BreakSignature,
          (∀ sig ∈ before, sig.2.2 = none) ∧ (∀ sig ∈ after, sig.2.2 = none)
          ∧ breaks.map (·.signature)
            = before ++ keyedSignatures store ingestRunId
                (accountsForCustodian store ingestRun.custodianId)
              ++ after := by
  obtain ⟨before, hbeforeNone, hbefore⟩ := ledgerCompared_signatures env store
    ingestRunId actorId householdId
    (accountsForCustodian store ingestRun.custodianId)
  unfold reconcileIngest
  rw [hrun]
  refine ⟨_, _, rfl, before, ?_⟩
  cases hrows : custodianRowsOf store ingestRunId with
  | nil =>
      refine ⟨[], hbeforeNone, (fun _ h => nomatch h), ?_⟩
      rw [List.append_nil, ← hbefore, ledgerCompared, fileCompared, hrows]
  | cons first rest =>
      have hsymb : AddsUnkeyed
          (ledgerCompared env store ingestRunId actorId householdId
            (accountsForCustodian store ingestRun.custodianId)).opened
          (symbologyBreaks env ingestRunId
            (ledgerCompared env store ingestRunId actorId householdId
              (accountsForCustodian store ingestRun.custodianId)).securityIds
            actorId householdId first.accountId
            (ledgerCompared env store ingestRunId actorId householdId
              (accountsForCustodian store ingestRun.custodianId)).opened) :=
        keptByOpening_addsUnkeyed.symbologyBreaks rfl ..
      obtain ⟨after, hafter, hafterNone⟩ := hsymb
      refine ⟨after, hbeforeNone, hafterNone, ?_⟩
      rw [hbefore] at hafter
      rw [← hafter, ledgerCompared, fileCompared, hrows]

-- ===================================================== counting per key

/-- Counting breaks at a key is counting a signature. -/
theorem openedOn_eq_count (breaks : List ReconciliationBreakRow)
    (breakType : ReconBreakType) (key : PositionKey) :
    openedOn breaks breakType key
      = (breaks.map (·.signature)).count (keySignature breakType key) := by
  unfold openedOn
  rw [← List.countP_eq_length_filter, List.count, List.countP_map]
  refine List.countP_congr fun row _ => ?_
  simp [ReconciliationBreakRow.signature, keySignature]

/-- Unkeyed breaks count for no key. -/
theorem count_unkeyed {sigs : List BreakSignature}
    (h : ∀ sig ∈ sigs, sig.2.2 = none) (breakType : ReconBreakType)
    (key : PositionKey) : sigs.count (keySignature breakType key) = 0 := by
  rw [List.count_eq_zero]
  intro hmem
  cases h _ hmem

/-- One mismatch break for every file row of the key off the total. -/
theorem count_offRows (store : Store) (ingestRunId : String)
    (key : PositionKey) :
    ((offRows store (custodianRowsOf store ingestRunId)).map fun row =>
        keySignature .quantityMismatch (row.accountId, row.securityId)).count
        (keySignature .quantityMismatch key)
      = ((fileQuantities store ingestRunId key).filter
          (· ≠ ledgerQuantity store key)).length := by
  unfold offRows fileQuantities
  rw [List.count, List.countP_map, List.countP_filter, List.filter_map,
    List.length_map, List.filter_filter, ← List.countP_eq_length_filter]
  refine List.countP_congr fun row _ => ?_
  obtain ⟨accountId, securityId⟩ := key
  simp only [Function.comp, keySignature, beq_iff_eq, Prod.mk.injEq,
    Option.some.injEq, true_and, Bool.and_eq_true, decide_eq_true_eq]
  refine ⟨fun h => ?_, fun h => ?_⟩
  · obtain ⟨⟨rfl, rfl⟩, hoff⟩ := h
    exact ⟨hoff.symm, rfl, rfl⟩
  · obtain ⟨hoff, rfl, rfl⟩ := h
    exact ⟨⟨rfl, rfl⟩, hoff.symm⟩

/-- A signature determines its key. -/
theorem keySignature_injective (breakType : ReconBreakType) :
    Function.Injective (keySignature breakType) := by
  intro a b h
  obtain ⟨accountA, securityA⟩ := a
  obtain ⟨accountB, securityB⟩ := b
  simp only [keySignature, Prod.mk.injEq, Option.some.injEq, true_and] at h
  rw [h.1, h.2]

theorem keySignature_ne {breakType breakType' : ReconBreakType}
    (h : breakType ≠ breakType') (key key' : PositionKey) :
    keySignature breakType key ≠ keySignature breakType' key' :=
  fun heq => h (congrArg Prod.fst heq)

/-- At most one ledger-only break for a key, and one exactly on a custodied
key with a quantity the file lacks. -/
theorem count_unseenKeys (store : Store) (custodianAccounts : List String)
    (seen : List PositionKey) (key : PositionKey) :
    ((unseenKeys store custodianAccounts seen (ledgerKeys store)).map
        (keySignature .ledgerOnly)).count (keySignature .ledgerOnly key)
      = if key.1 ∈ custodianAccounts ∧ key ∉ seen
          ∧ ledgerQuantity store key ≠ 0 then 1 else 0 := by
  rw [List.count_map_of_injective _ _ (keySignature_injective _)]
  have hnodup : (unseenKeys store custodianAccounts seen
      (ledgerKeys store)).Nodup := (List.nodup_dedup _).filter _
  rw [hnodup.count]
  refine if_congr ?_ rfl rfl
  unfold unseenKeys
  rw [List.mem_filter]
  simp only [Bool.and_eq_true, Bool.not_eq_true', List.contains_eq_mem,
    decide_eq_true_eq, decide_eq_false_iff_not, bne_iff_ne, and_assoc]
  refine ⟨fun h => h.2, fun h => ⟨?_, h⟩⟩
  by_contra habsent
  exact h.2.2 (ledgerQuantity_eq_zero habsent)

/-- The two counts of a call on a key. -/
theorem openedOn_reconcileIngest (env : Env) {store : Store}
    {ingestRunId : String} (actorId : String) (householdId : Option String)
    {ingestRun : IngestRunRow}
    (hrun : store.ingestRuns.find? (·.runId = ingestRunId) = some ingestRun) :
    ∃ breaks store', reconcileIngest env store ingestRunId actorId householdId
          = .ok (breaks, store')
      ∧ ∀ key : PositionKey,
          openedOn breaks .quantityMismatch key
            = ((fileQuantities store ingestRunId key).filter
                (· ≠ ledgerQuantity store key)).length
          ∧ openedOn breaks .ledgerOnly key
            = if key.1 ∈ accountsForCustodian store ingestRun.custodianId
                ∧ key ∉ fileKeys store ingestRunId
                ∧ ledgerQuantity store key ≠ 0 then 1 else 0 := by
  obtain ⟨breaks, store', hok, before, after, hbefore, hafter, hsigs⟩ :=
    reconcileIngest_signatures env actorId householdId hrun
  refine ⟨breaks, store', hok, fun key => ⟨?_, ?_⟩⟩
  · have hledgerOnly : ((unseenKeys store
          (accountsForCustodian store ingestRun.custodianId)
          (fileKeys store ingestRunId) (ledgerKeys store)).map
          (keySignature .ledgerOnly)).count
          (keySignature .quantityMismatch key) = 0 := by
      rw [List.count_eq_zero]
      intro hmem
      obtain ⟨key', -, heq⟩ := List.mem_map.mp hmem
      exact keySignature_ne (by decide) key' key heq
    rw [openedOn_eq_count, hsigs, List.count_append, List.count_append,
      count_unkeyed hbefore, count_unkeyed hafter, keyedSignatures,
      List.count_append, hledgerOnly, count_offRows]
    omega
  · have hmismatch : ((offRows store (custodianRowsOf store ingestRunId)).map
          fun row => keySignature .quantityMismatch
            (row.accountId, row.securityId)).count
          (keySignature .ledgerOnly key) = 0 := by
      rw [List.count_eq_zero]
      intro hmem
      obtain ⟨row, -, heq⟩ := List.mem_map.mp hmem
      exact keySignature_ne (by decide) _ key heq
    rw [openedOn_eq_count, hsigs, List.count_append, List.count_append,
      count_unkeyed hbefore, count_unkeyed hafter, keyedSignatures,
      List.count_append, hmismatch, count_unseenKeys]
    omega

-- ============================================================ the condition

/-- What reconciliation owes a key: a mismatch break exactly where the
totals differ, a ledger-only break exactly where the file is silent on a
custodied position, and one break at most. -/
structure ReconciledOn (store : Store) (ingestRunId : String)
    (custodianAccounts : List String) (breaks : List ReconciliationBreakRow)
    (key : PositionKey) : Prop where
  mismatch : 0 < openedOn breaks .quantityMismatch key
    ↔ fileQuantities store ingestRunId key ≠ []
      ∧ (fileQuantities store ingestRunId key).sum ≠ ledgerQuantity store key
  ledgerOnly : 0 < openedOn breaks .ledgerOnly key
    ↔ fileQuantities store ingestRunId key = []
      ∧ key.1 ∈ custodianAccounts ∧ ledgerQuantity store key ≠ 0
  once : openedOn breaks .quantityMismatch key
    + openedOn breaks .ledgerOnly key ≤ 1

/-- Row by row against the ledger's total, the quantities of one key come
out as their own total does: there is one row at most; or all rows and
the ledger are zero; or exactly one row `q` is off the ledger's `total`,
and it does not make up for the others. -/
def rowsReadAsTotal (quantities : List ℚ) (total : ℚ) : Prop :=
  quantities.length ≤ 1
  ∨ (total = 0 ∧ ∀ q ∈ quantities, q = 0)
  ∨ ∃ q, quantities.filter (· ≠ total) = [q]
      ∧ q ≠ -((quantities.length : ℚ) - 2) * total

/-- The rows on the total each carry it, the others sum as they are. -/
theorem sum_eq_off_add (quantities : List ℚ) (total : ℚ) :
    quantities.sum = (quantities.filter (· ≠ total)).sum
      + ((quantities.length : ℚ)
          - ((quantities.filter (· ≠ total)).length : ℚ)) * total := by
  induction quantities with
  | nil => simp
  | cons q rest ih =>
      rw [List.sum_cons, List.length_cons, List.filter_cons, ih]
      by_cases h : q = total
      · simp only [h, ne_eq, not_true_eq_false, decide_false, if_false,
          Bool.false_eq_true]
        push_cast
        ring
      · simp only [ne_eq, h, not_false_eq_true, decide_true, if_true,
          List.sum_cons, List.length_cons]
        push_cast
        ring

/-- With every row on the total, the file's sum is the total unless there
are several rows and the total is not zero. -/
theorem sum_eq_of_none_off {quantities : List ℚ} {total : ℚ}
    (hoff : quantities.filter (· ≠ total) = []) :
    (quantities ≠ [] → quantities.sum = total)
      ↔ quantities.length ≤ 1 ∨ (total = 0 ∧ ∀ q ∈ quantities, q = 0) := by
  have hall : ∀ q ∈ quantities, q = total := by
    intro q hq
    by_contra hne
    have : q ∈ quantities.filter (· ≠ total) :=
      List.mem_filter.mpr ⟨hq, by simpa using hne⟩
    rw [hoff] at this
    cases this
  have hsum : quantities.sum = (quantities.length : ℚ) * total := by
    have := sum_eq_off_add quantities total
    rw [hoff] at this
    simpa using this
  rw [hsum]
  refine ⟨fun h => ?_, fun h hne => ?_⟩
  · by_cases hle : quantities.length ≤ 1
    · exact Or.inl hle
    · right
      have hne : quantities ≠ [] := by
        intro hnil
        rw [hnil] at hle
        exact hle (Nat.zero_le _)
      have heq := h hne
      have hfactor : ((quantities.length : ℚ) - 1) * total = 0 := by
        linarith
      rcases mul_eq_zero.mp hfactor with hone | hzero
      · have : (quantities.length : ℚ) = 1 := by linarith
        have : quantities.length = 1 := by exact_mod_cast this
        omega
      · exact ⟨hzero, fun q hq => by rw [hall q hq, hzero]⟩
  · rcases h with h | ⟨hzero, -⟩
    · have hone : quantities.length = 1 := by
        have := List.length_pos_of_ne_nil hne
        omega
      rw [hone, Nat.cast_one, one_mul]
    · rw [hzero, mul_zero]

/-- One row off the total, and it does not make up for the others. -/
theorem sum_ne_iff_of_one_off {quantities : List ℚ} {total q : ℚ}
    (hoff : quantities.filter (· ≠ total) = [q]) :
    quantities.sum ≠ total
      ↔ q ≠ -((quantities.length : ℚ) - 2) * total := by
  have hsum := sum_eq_off_add quantities total
  rw [hoff] at hsum
  simp only [List.sum_singleton, List.length_singleton, Nat.cast_one] at hsum
  rw [hsum]
  refine not_congr ⟨fun h => ?_, fun h => ?_⟩
  · linarith
  · rw [h]
    ring

/-- The row-by-row comparison answers for the totals, once, exactly under
the condition. -/
theorem rowsReadAsTotal_iff (quantities : List ℚ) (total : ℚ) :
    rowsReadAsTotal quantities total
      ↔ ((0 < (quantities.filter (· ≠ total)).length
            ↔ quantities ≠ [] ∧ quantities.sum ≠ total)
          ∧ (quantities.filter (· ≠ total)).length ≤ 1) := by
  have hlen : (quantities.filter (· ≠ total)).length ≤ quantities.length :=
    List.length_filter_le ..
  unfold rowsReadAsTotal
  cases hoff : quantities.filter (· ≠ total) with
  | nil =>
      simp only [List.length_nil, lt_irrefl, false_iff, not_and, not_not,
        zero_le_one, and_true, reduceCtorEq, false_and, exists_false, or_false]
      exact (sum_eq_of_none_off hoff).symm
  | cons q rest =>
      have hq : q ∈ quantities ∧ q ≠ total := by
        have : q ∈ quantities.filter (· ≠ total) := by
          rw [hoff]
          exact List.mem_cons_self ..
        simpa using this
      have hne : quantities ≠ [] := List.ne_nil_of_mem hq.1
      have hnotzero : ¬ (total = 0 ∧ ∀ q ∈ quantities, q = 0) :=
        fun h => hq.2 (by rw [h.2 q hq.1, h.1])
      cases rest with
      | nil =>
          have hmade := sum_ne_iff_of_one_off hoff
          simp only [List.length_singleton, zero_lt_one, true_iff, le_refl,
            and_true, List.cons.injEq, exists_eq_left']
          refine ⟨fun h => ⟨hne, ?_⟩, fun h => Or.inr (Or.inr (hmade.mp h.2))⟩
          rcases h with h | h | h
          · have hone : quantities.length = 1 :=
              le_antisymm h (List.length_pos_of_ne_nil hne)
            have hown : -((quantities.length : ℚ) - 2) * total = total := by
              rw [hone, Nat.cast_one]
              ring
            rw [hmade, hown]
            exact hq.2
          · exact absurd h hnotzero
          · exact hmade.mpr h
      | cons q' rest =>
          -- two rows off: two breaks
          rw [hoff] at hlen
          simp only [List.length_cons] at hlen ⊢
          refine ⟨fun h => ?_, fun h => by omega⟩
          rcases h with h | h | ⟨_, h, -⟩
          · omega
          · exact absurd h hnotzero
          · cases h

/-- The ledger-only clause holds on every key of every call. -/
theorem ledgerOnly_iff {store : Store} {custodianAccounts : List String}
    {breaks : List ReconciliationBreakRow} {key : PositionKey}
    (hcount : openedOn breaks .ledgerOnly key
      = if key.1 ∈ custodianAccounts ∧ key ∉ fileKeys store ingestRunId
          ∧ ledgerQuantity store key ≠ 0 then 1 else 0) :
    0 < openedOn breaks .ledgerOnly key
      ↔ fileQuantities store ingestRunId key = []
        ∧ key.1 ∈ custodianAccounts ∧ ledgerQuantity store key ≠ 0 := by
  have hsilent : fileQuantities store ingestRunId key = []
      ↔ key ∉ fileKeys store ingestRunId := by
    simp [fileQuantities, fileKeys, List.filter_eq_nil_iff]
  rw [hcount, hsilent]
  split
  · next h => exact ⟨fun _ => ⟨h.2.1, h.1, h.2.2⟩, fun _ => zero_lt_one⟩
  · next h =>
    exact ⟨fun hlt => absurd hlt (lt_irrefl 0),
      fun hcond => absurd ⟨hcond.2.1, hcond.1, hcond.2.2⟩ h⟩

/-- A call reconciles exactly the keys whose rows read as their total. -/
theorem reconciledOn_iff {store : Store} {custodianAccounts : List String}
    {breaks : List ReconciliationBreakRow} {key : PositionKey}
    (hmismatch : openedOn breaks .quantityMismatch key
      = ((fileQuantities store ingestRunId key).filter
          (· ≠ ledgerQuantity store key)).length)
    (hledgerOnly : openedOn breaks .ledgerOnly key
      = if key.1 ∈ custodianAccounts ∧ key ∉ fileKeys store ingestRunId
          ∧ ledgerQuantity store key ≠ 0 then 1 else 0) :
    ReconciledOn store ingestRunId custodianAccounts breaks key
      ↔ rowsReadAsTotal (fileQuantities store ingestRunId key)
          (ledgerQuantity store key) := by
  have hiff := ledgerOnly_iff hledgerOnly
  rw [rowsReadAsTotal_iff, ← hmismatch]
  refine ⟨fun h => ⟨h.mismatch, ?_⟩, fun h => ⟨h.1, hiff, ?_⟩⟩
  · have := h.once
    omega
  · -- the file is silent on a key the ledger pass reports
    by_cases hsilent : fileQuantities store ingestRunId key = []
    · have hzero : openedOn breaks .quantityMismatch key = 0 := by
        rw [hmismatch, hsilent]
        rfl
      have hle : openedOn breaks .ledgerOnly key ≤ 1 := by
        rw [hledgerOnly]
        split <;> omega
      omega
    · have hzero : ¬ 0 < openedOn breaks .ledgerOnly key :=
        fun hpos => hsilent (hiff.mp hpos).1
      have := h.2
      omega

/-- When reconciliation is sound and complete.

Every call on a known ingest run succeeds, and reconciles every key
exactly when, on every key, the file's rows read as their total. -/
theorem reconcileIngest_sound_complete_iff (env : Env) (store : Store)
    (ingestRunId actorId : String) (householdId : Option String)
    (ingestRun : IngestRunRow)
    (hrun : store.ingestRuns.find? (·.runId = ingestRunId) = some ingestRun) :
    ∃ breaks store', reconcileIngest env store ingestRunId actorId householdId
          = .ok (breaks, store')
      ∧ ((∀ key, ReconciledOn store ingestRunId
            (accountsForCustodian store ingestRun.custodianId) breaks key)
          ↔ ∀ key, rowsReadAsTotal (fileQuantities store ingestRunId key)
              (ledgerQuantity store key)) := by
  obtain ⟨breaks, store', hok, hcounts⟩ :=
    openedOn_reconcileIngest env actorId householdId hrun
  refine ⟨breaks, store', hok, forall_congr' fun key => ?_⟩
  obtain ⟨hmismatch, hledgerOnly⟩ := hcounts key
  exact reconciledOn_iff hmismatch hledgerOnly

/-- One position of 150, listed by the custodian as 100 and 50. -/
def splitRowsStore : Store where
  ingestRuns := [{ runId := "ingest_1", custodianId := "custodian_schwab" }]
  lots :=
    [{ lotId := "lot_1", accountId := "acct_taxable", securityId := "sec_vti",
       quantity := 150, costBasisPerShare := 200, acquisitionDate := 0 }]
  custodianPositions :=
    [{ ingestRunId := "ingest_1", accountId := "acct_taxable",
       securityId := "sec_vti", quantity := 100, asOfDate := 0 },
     { ingestRunId := "ingest_1", accountId := "acct_taxable",
       securityId := "sec_vti", quantity := 50, asOfDate := 0 }]

/-- The position listed whole instead. -/
def wholeRowStore : Store :=
  { splitRowsStore with
    custodianPositions :=
      [{ ingestRunId := "ingest_1", accountId := "acct_taxable",
         securityId := "sec_vti", quantity := 150, asOfDate := 0 }] }

/-- A file with one row for the position: the breaks answer for its total. -/
theorem reconcileIngest_sound_complete_iff_whole :
    ∃ breaks store', reconcileIngest Env.counting wholeRowStore "ingest_1"
          = .ok (breaks, store')
      ∧ ∀ key, ReconciledOn wholeRowStore "ingest_1" [] breaks key := by
  obtain ⟨breaks, store', hok, hiff⟩ := reconcileIngest_sound_complete_iff
    Env.counting wholeRowStore "ingest_1" "system:reconcile" none
    { runId := "ingest_1", custodianId := "custodian_schwab" } (by decide)
  refine ⟨breaks, store', hok, hiff.mpr fun key => Or.inl ?_⟩
  exact (List.length_map _).trans_le
    ((List.length_filter_le ..).trans (by decide))

/-- The totals agree, and two mismatch breaks are opened. -/
theorem reconcileIngest_split_rows :
    ∃ breaks store', reconcileIngest Env.counting splitRowsStore "ingest_1"
          = .ok (breaks, store')
      ∧ (fileQuantities splitRowsStore "ingest_1"
            ("acct_taxable", "sec_vti")).sum
          = ledgerQuantity splitRowsStore ("acct_taxable", "sec_vti")
      ∧ openedOn breaks .quantityMismatch ("acct_taxable", "sec_vti") = 2
      ∧ ¬ ReconciledOn splitRowsStore "ingest_1" [] breaks
          ("acct_taxable", "sec_vti") := by
  have hrun : splitRowsStore.ingestRuns.find? (·.runId = "ingest_1")
      = some { runId := "ingest_1", custodianId := "custodian_schwab" } := by
    decide
  obtain ⟨breaks, store', hok, hcounts⟩ := openedOn_reconcileIngest
    Env.counting "system:reconcile" none hrun
  have htwo : openedOn breaks .quantityMismatch ("acct_taxable", "sec_vti")
      = 2 := by
    rw [(hcounts _).1]
    decide +kernel
  refine ⟨breaks, store', hok, by decide +kernel, htwo, fun h => ?_⟩
  have := h.once
  omega

end Warehouse
