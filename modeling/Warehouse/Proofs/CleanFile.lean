/-
When a reconciliation writes nothing.

A call writes by opening breaks, and every break it opens makes both its
list of breaks and the tables longer (`Opens`). So it leaves the store as
it was exactly when each of its passes has nothing to report, which is a
condition on the file, the ledger and the security master
(`reconciled_eq_self_iff`).

# The passes

The as-of pass is idle when every row is dated as the ledger is
(`asOfDateBreaks_eq_self_iff`), the symbology pass when no identifier of the
file's securities is anybody else's (`symbologyBreaks_eq_self_iff`), the
custodian pass when no row is off (`offRows_eq_nil_iff`), and the ledger
pass when the custodied keys the file leaves out hold nothing
(`unseenKeys_eq_nil_iff`). Since no pass can take back a break of another,
the whole is idle when each of them is.
-/
import Warehouse.Lib.Runs
import Warehouse.Proofs.Reconciliation

namespace Warehouse

open Lib

-- ============================================================ growing tables

/-- The rows of the tables the commands append to. -/
def Store.size (store : Store) : Nat :=
  store.ingestRuns.length + store.reconciliationBreaks.length
    + store.optimizationRuns.length + store.approvalRequests.length
    + store.taxScenarioRuns.length + store.auditLog.length

theorem size_writeAudit (env : Env) (store : Store)
    (actorId action resourceType resourceId : String)
    (householdId : Option String) (details : List (String × String)) :
    (writeAudit env store actorId action resourceType resourceId householdId
      details).size = store.size + 1 := by
  unfold writeAudit Store.size
  rw [List.length_append, List.length_singleton]
  exact (Nat.add_assoc _ _ _).symm

variable {env : Env} {store : Store} {ingestRunId actorId : String}
  {householdId : Option String} {st : BreakState}

/-- Nothing was opened, or both the breaks and the tables have grown. -/
def Opens (st st' : BreakState) : Prop :=
  st' = st ∨ (st.breaks.length < st'.breaks.length
    ∧ st.store.size < st'.store.size)

theorem openBreak_grows (env : Env) (ingestRunId actorId : String)
    (householdId : Option String) (accountId : String)
    (securityId : Option String) (breakType : ReconBreakType)
    (description : String) (st : BreakState) :
    st.breaks.length < (openBreak env ingestRunId accountId securityId
        breakType description actorId householdId st).breaks.length
      ∧ st.store.size < (openBreak env ingestRunId accountId securityId
        breakType description actorId householdId st).store.size := by
  unfold openBreak
  refine ⟨?_, ?_⟩
  · rw [List.length_append, List.length_singleton]
    omega
  · rw [size_writeAudit]
    unfold Store.size
    simp only [Store.drawn, Store.ticked, List.length_append,
      List.length_singleton]
    omega

theorem openBreak_ne {accountId : String} {securityId : Option String}
    {breakType : ReconBreakType} {description : String} :
    openBreak env ingestRunId accountId securityId breakType description
      actorId householdId st ≠ st := by
  intro h
  have hgrow := (openBreak_grows env ingestRunId actorId householdId accountId
    securityId breakType description st).1
  rw [h] at hgrow
  exact absurd hgrow (lt_irrefl _)

/-- Opening breaks either leaves the state or adds to it. -/
theorem keptByOpening_opens (env : Env) (ingestRunId actorId : String)
    (householdId : Option String) :
    KeptByOpening env ingestRunId actorId householdId (fun _ => True)
      Opens where
  refl _ := .inl rfl
  trans st st' st'' h h' := by
    rcases h with rfl | h
    · exact h'
    · rcases h' with rfl | h'
      · exact .inr h
      · exact .inr ⟨h.1.trans h'.1, h.2.trans h'.2⟩
  opened accountId securityId breakType description st _ :=
    .inr (openBreak_grows env ingestRunId actorId householdId accountId
      securityId breakType description st)

/-- Two passes open nothing exactly when neither does. -/
theorem Opens.eq_trans_iff {st st' st'' : BreakState} (h : Opens st st')
    (h' : Opens st' st'') : st'' = st ↔ st' = st ∧ st'' = st' := by
  rcases h with rfl | h
  · exact (and_iff_right rfl).symm
  · constructor
    · intro heq
      rcases h' with rfl | h'
      · exact ⟨heq, rfl⟩
      · rw [heq] at h'
        exact absurd (h.1.trans h'.1) (lt_irrefl _)
    · rintro ⟨rfl, -⟩
      exact absurd h.1 (lt_irrefl _)

-- ============================================================== the as-of date

/-- Fewer than two distinct values is one value throughout. -/
theorem dedup_length_lt_two_iff {α : Type*} [DecidableEq α] (xs : List α) :
    xs.dedup.length < 2 ↔ ∀ a ∈ xs, ∀ b ∈ xs, a = b := by
  have hmem : ∀ a, a ∈ xs ↔ a ∈ xs.dedup := fun a => List.mem_dedup.symm
  have hnodup := xs.nodup_dedup
  simp only [hmem]
  generalize xs.dedup = ys at hnodup
  cases ys with
  | nil => simp
  | cons y rest =>
    cases rest with
    | nil => simp
    | cons z rest =>
      constructor
      · intro hlen
        rw [List.length_cons, List.length_cons] at hlen
        omega
      · intro heq
        have hyz := heq y (by simp) z (by simp)
        subst hyz
        simp at hnodup

/-- The date pass is idle exactly when the file has one date and it is the
ledger's. -/
theorem asOfDateBreaks_eq_self_iff (env : Env) (ingestRunId actorId : String)
    (householdId : Option String) (st : BreakState)
    (rows : List CustodianPositionRow) :
    asOfDateBreaks env ingestRunId rows actorId householdId st = st
      ↔ ∀ row ∈ rows, ledgerAsOfDate st.store = some row.asOfDate := by
  cases rows with
  | nil => simp [asOfDateBreaks]
  | cons first rest =>
    have hsame := dedup_length_lt_two_iff
      ((first :: rest).map (·.asOfDate))
    unfold asOfDateBreaks
    dsimp only
    by_cases hmixed : ((first :: rest).map (·.asOfDate)).dedup.length > 1
    · rw [if_pos hmixed]
      refine iff_of_false openBreak_ne fun hdated => ?_
      have hlt : ((first :: rest).map (·.asOfDate)).dedup.length < 2 := by
        rw [hsame]
        intro a ha b hb
        obtain ⟨row, hrow, rfl⟩ := List.mem_map.mp ha
        obtain ⟨row', hrow', rfl⟩ := List.mem_map.mp hb
        have heq := (hdated row hrow).symm.trans (hdated row' hrow')
        exact Option.some.inj heq
      omega
    · rw [if_neg hmixed]
      rw [gt_iff_lt, not_lt] at hmixed
      have hall := hsame.mp (by omega)
      cases ledgerAsOfDate st.store with
      | none =>
        refine iff_of_false openBreak_ne fun hdated => ?_
        exact nomatch hdated first (List.mem_cons_self ..)
      | some ledgerAsOf =>
        dsimp only
        by_cases hstale : first.asOfDate ≠ ledgerAsOf
        · rw [if_pos hstale]
          refine iff_of_false openBreak_ne fun hdated => hstale ?_
          exact (Option.some.inj (hdated first (List.mem_cons_self ..))).symm
        · rw [if_neg hstale]
          refine iff_of_true rfl fun row hrow => ?_
          rw [ne_eq, not_not] at hstale
          rw [← hstale]
          exact congrArg some (hall _ (List.mem_map_of_mem
            (List.mem_cons_self ..)) _ (List.mem_map_of_mem hrow))

-- =============================================================== the passes

/-- The as-of check and the comparisons open nothing. -/
theorem ledgerCompared_eq_self_iff (env : Env) (store : Store)
    (ingestRunId actorId : String) (householdId : Option String)
    (accounts : List String) :
    (ledgerCompared env store ingestRunId actorId householdId accounts).opened
        = { store := store }
      ↔ (∀ row ∈ custodianRowsOf store ingestRunId,
          ledgerAsOfDate store = some row.asOfDate)
        ∧ offRows store (custodianRowsOf store ingestRunId) = []
        ∧ unseenKeys store accounts (fileKeys store ingestRunId)
          (ledgerKeys store) = [] := by
  have hopens : Opens { store := store } (ledgerCompared env store ingestRunId
      actorId householdId accounts).opened :=
    (keptByOpening_opens ..).ledgerCompared trivial (fun _ => trivial) store
      accounts
  have hdates : Opens { store := store } (asOfDateBreaks env ingestRunId
      (custodianRowsOf store ingestRunId) actorId householdId
      { store := store }) :=
    (keptByOpening_opens ..).asOfDateBreaks trivial ..
  have hlength := congrArg List.length (ledgerCompared_signatures_eq env store
    ingestRunId actorId householdId accounts)
  rw [keyedSignatures] at hlength
  simp only [List.length_append, List.length_map] at hlength
  have hdated := asOfDateBreaks_eq_self_iff env ingestRunId actorId householdId
    { store := store } (custodianRowsOf store ingestRunId)
  rw [← hdated, ← List.length_eq_zero_iff, ← List.length_eq_zero_iff]
  have hzero : ({ store := store } : BreakState).breaks.length = 0 := rfl
  constructor
  · intro heq
    rw [heq, hzero] at hlength
    refine ⟨?_, by omega, by omega⟩
    rcases hdates with h | h
    · exact h
    · omega
  · rintro ⟨hdated, hoff, hunseen⟩
    rw [hdated, hzero, hoff, hunseen] at hlength
    rcases hopens with h | h
    · exact h
    · omega

/-- The ledger pass is still where it has nothing to report. -/
theorem compareLedgerKeys_eq_self {accounts : List String}
    {keys : List PositionKey} {st : ReconState}
    (hunseen : unseenKeys store accounts st.seen keys = []) :
    (keys.map fun key => (key, ledgerQuantity store key)).foldl
      (compareLedgerKey env ingestRunId accounts actorId householdId) st
      = st := by
  unfold unseenKeys at hunseen
  rw [List.filter_eq_nil_iff] at hunseen
  induction keys with
  | nil => rfl
  | cons key rest ih =>
    rw [List.forall_mem_cons] at hunseen
    have hkey := hunseen.1
    simp only [List.contains_eq_mem, Bool.and_eq_true, decide_eq_true_eq,
      Bool.not_eq_true', decide_eq_false_iff_not, bne_iff_ne] at hkey
    have hturn : compareLedgerKey env ingestRunId accounts actorId householdId
        st (key, ledgerQuantity store key) = st := by
      unfold compareLedgerKey
      dsimp only
      split
      · rfl
      · next hacct =>
        split
        · rfl
        · next hseen =>
          split
          · rfl
          · next hquantity =>
            exact absurd ⟨⟨not_not.mp hacct, hseen⟩, hquantity⟩ hkey
    rw [List.map_cons, List.foldl_cons, hturn]
    exact ih hunseen.2

theorem mem_securityIds_compareCustodianRows (ledger : Dict PositionKey ℚ)
    (id : String) (rows : List CustodianPositionRow) (st : ReconState) :
    id ∈ (rows.foldl (compareCustodianRow env ingestRunId ledger actorId
        householdId) st).securityIds
      ↔ id ∈ st.securityIds ∨ ∃ row ∈ rows, row.securityId = id :=
  Keyed.mem_foldl_insert ReconState.securityIds (fun _ _ => rfl) rows st

/-- What the symbology pass is given when nothing was opened before it. -/
theorem mem_securityIds_ledgerCompared {accounts : List String} {id : String}
    (hunseen : unseenKeys store accounts (fileKeys store ingestRunId)
      (ledgerKeys store) = []) :
    id ∈ (ledgerCompared env store ingestRunId actorId householdId
        accounts).securityIds
      ↔ ∃ row ∈ custodianRowsOf store ingestRunId, row.securityId = id := by
  have hseen : unseenKeys store accounts (fileCompared env store ingestRunId
      actorId householdId).seen (ledgerKeys store) = [] := by
    rw [← hunseen]
    unfold unseenKeys
    refine List.filter_congr fun key _ => ?_
    simp only [List.contains_eq_mem, mem_seen_fileCompared]
  rw [ledgerCompared, ledgerQuantities_entries,
    compareLedgerKeys_eq_self hseen, fileCompared,
    mem_securityIds_compareCustodianRows]
  simp

-- ================================================================ symbology

/-- The identifiers the symbology pass compares. -/
def identifierColumns : List (SecurityRow → Option String) :=
  [(·.isin), (·.cusip)]

/-- No identifier of the security is another security's too. -/
def IdentifiersOwn (store : Store) (securityId : String) : Prop :=
  ∀ column ∈ identifierColumns, ∀ security ∈ store.securities,
    security.securityId = securityId → ∀ key, column security = some key →
      key ≠ "" → ∀ other ∈ store.securities, column other = some key →
        other.securityId = securityId

/-- One identifier is idle exactly when nobody else uses it. -/
theorem symbologyBreak_eq_self_iff (label : String)
    (column : SecurityRow → Option String) (accountId key : String) :
    symbologyBreak env ingestRunId label column actorId householdId accountId
        st key = st
      ↔ ∀ security ∈ st.store.securities, column security = some key →
        ∀ other ∈ st.store.securities, column other = some key →
          other.securityId = security.securityId := by
  have hone := dedup_length_lt_two_iff
    ((st.store.securities.filter fun row => column row = some key).map
      (·.securityId))
  have hown : (∀ a ∈ (st.store.securities.filter fun row =>
        column row = some key).map (·.securityId),
      ∀ b ∈ (st.store.securities.filter fun row =>
        column row = some key).map (·.securityId), a = b)
      ↔ ∀ security ∈ st.store.securities, column security = some key →
        ∀ other ∈ st.store.securities, column other = some key →
          other.securityId = security.securityId := by
    simp only [List.forall_mem_map, List.mem_filter, decide_eq_true_eq,
      and_imp]
    exact ⟨fun h security hs hk other ho hk' => (h security hs hk other ho
      hk').symm, fun h security hs hk other ho hk' => (h security hs hk other
      ho hk').symm⟩
  rw [← hown, ← hone]
  unfold symbologyBreak
  dsimp only
  split
  · next hlt => exact iff_of_true rfl hlt
  · next hlt => exact iff_of_false openBreak_ne hlt

/-- One column's pass over the identifiers of some securities. -/
theorem symbologyColumn_eq_self_iff (label : String)
    (column : SecurityRow → Option String) (accountId : String)
    (securityIds : List String) :
    ((((st.store.securities.filter (·.securityId ∈ securityIds)).filterMap
        column).filter (· ≠ "")).dedup.foldl (symbologyBreak env ingestRunId
        label column actorId householdId accountId) st) = st
      ↔ ∀ security ∈ st.store.securities, security.securityId ∈ securityIds →
        ∀ key, column security = some key → key ≠ "" →
          ∀ other ∈ st.store.securities, column other = some key →
            other.securityId = security.securityId := by
  have hgrow : ∀ (st : BreakState) (key : String),
      symbologyBreak env ingestRunId label column actorId householdId accountId
          st key = st
        ∨ st.breaks.length < (symbologyBreak env ingestRunId label column
          actorId householdId accountId st key).breaks.length := by
    intro st key
    have hopens := keptByOpening_opens env ingestRunId actorId householdId
    rcases hopens.symbologyBreak trivial label column accountId st key
      with h | h
    · exact .inl h
    · exact .inr h.1
  refine (Runs.run_eq_self_iff (fun st : BreakState => st.breaks.length) hgrow
    _ st).trans ?_
  simp only [symbologyBreak_eq_self_iff, List.mem_dedup, List.mem_filter,
    List.mem_filterMap, decide_eq_true_eq]
  constructor
  · intro h security hs hid key hkey hne
    exact h key ⟨⟨security, ⟨hs, hid⟩, hkey⟩, hne⟩ security hs hkey
  · rintro h key ⟨⟨touched, ⟨ht, hid⟩, hkey⟩, hne⟩ security hs hk other ho hk'
    have hother := h touched ht hid key hkey hne other ho hk'
    have hself := h touched ht hid key hkey hne security hs hk
    rw [hother, hself]

/-- The symbology pass is idle exactly when no identifier is shared. -/
theorem symbologyBreaks_eq_self_iff (securityIds : List String)
    (accountId : String) :
    symbologyBreaks env ingestRunId securityIds actorId householdId accountId
        st = st
      ↔ ∀ id ∈ securityIds, IdentifiersOwn st.store id := by
  have hopens := keptByOpening_opens env ingestRunId actorId householdId
  unfold symbologyBreaks
  cases hids : securityIds.isEmpty with
  | true =>
    rw [List.isEmpty_iff] at hids
    subst hids
    exact iff_of_true rfl fun _ h => nomatch h
  | false =>
    simp only [Bool.false_eq_true, if_false]
    have hisin : Opens st ((((st.store.securities.filter
        (·.securityId ∈ securityIds)).filterMap (·.isin)).filter
        (· ≠ "")).dedup.foldl (symbologyBreak env ingestRunId "isin" (·.isin)
        actorId householdId accountId) st) :=
      hopens.foldl (fun st => st) (hopens.symbologyBreak trivial _ _ accountId)
        _ st
    have hcusip := hopens.foldl (fun st => st) (hopens.symbologyBreak trivial
      "cusip" (·.cusip) accountId) (((st.store.securities.filter
        (·.securityId ∈ securityIds)).filterMap (·.cusip)).filter
        (· ≠ "")).dedup ((((st.store.securities.filter
        (·.securityId ∈ securityIds)).filterMap (·.isin)).filter
        (· ≠ "")).dedup.foldl (symbologyBreak env ingestRunId "isin" (·.isin)
        actorId householdId accountId) st)
    rw [hisin.eq_trans_iff hcusip, and_congr_right fun h => by rw [h],
      symbologyColumn_eq_self_iff, symbologyColumn_eq_self_iff]
    unfold IdentifiersOwn identifierColumns
    simp only [List.forall_mem_cons, List.not_mem_nil, false_imp_iff,
      implies_true, and_true]
    constructor
    · rintro ⟨hi, hc⟩ id hid
      refine ⟨fun security hs heq key hk hne other ho hk' => ?_,
        fun security hs heq key hk hne other ho hk' => ?_⟩
      · rw [← heq]
        exact hi security hs (heq ▸ hid) key hk hne other ho hk'
      · rw [← heq]
        exact hc security hs (heq ▸ hid) key hk hne other ho hk'
    · intro h
      exact ⟨fun security hs hid => (h _ hid).1 security hs rfl,
        fun security hs hid => (h _ hid).2 security hs rfl⟩

-- ================================================================ the whole

/-- The file is dated as the ledger, agrees with it row by row, leaves out
no holding the custodian has, and its securities share no identifier. -/
structure CleanFile (store : Store) (ingestRunId : String)
    (accounts : List String) : Prop where
  dated : ∀ row ∈ custodianRowsOf store ingestRunId,
    ledgerAsOfDate store = some row.asOfDate
  agreed : ∀ row ∈ custodianRowsOf store ingestRunId,
    ledgerQuantity store (row.accountId, row.securityId) = row.quantity
  covered : ∀ key ∈ ledgerKeys store, key.1 ∈ accounts →
    key ∉ fileKeys store ingestRunId → ledgerQuantity store key = 0
  identified : ∀ row ∈ custodianRowsOf store ingestRunId,
    IdentifiersOwn store row.securityId

/-- No row is off exactly when each agrees with the ledger. -/
theorem offRows_eq_nil_iff (rows : List CustodianPositionRow) :
    offRows store rows = [] ↔ ∀ row ∈ rows,
      ledgerQuantity store (row.accountId, row.securityId) = row.quantity := by
  unfold offRows
  simp only [List.filter_eq_nil_iff, decide_eq_true_eq, ne_eq, not_not]

/-- No key is missed exactly when the unseen ones hold nothing. -/
theorem unseenKeys_eq_nil_iff (accounts : List String)
    (seen keys : List PositionKey) :
    unseenKeys store accounts seen keys = [] ↔ ∀ key ∈ keys,
      key.1 ∈ accounts → key ∉ seen → ledgerQuantity store key = 0 := by
  unfold unseenKeys
  simp only [List.filter_eq_nil_iff, List.contains_eq_mem, Bool.and_eq_true,
    decide_eq_true_eq, Bool.not_eq_true', decide_eq_false_iff_not, bne_iff_ne,
    not_and, ne_eq, not_not, and_imp]

/-- A reconciliation leaves the state or adds to it. -/
theorem reconciled_opens (env : Env) (store : Store)
    (ingestRunId actorId : String) (householdId : Option String)
    (ingestRun : IngestRunRow) :
    Opens { store := store } (reconciled env store ingestRunId actorId
      householdId ingestRun) :=
  (keptByOpening_opens ..).reconciled trivial (fun _ => trivial) store ingestRun

/-- A call opens nothing exactly on a clean file. -/
theorem reconciled_eq_self_iff (ingestRun : IngestRunRow) :
    reconciled env store ingestRunId actorId householdId ingestRun
        = { store := store }
      ↔ CleanFile store ingestRunId
        (accountsForCustodian store ingestRun.custodianId) := by
  have hopens := keptByOpening_opens env ingestRunId actorId householdId
  have hledger := hopens.ledgerCompared trivial (fun _ => trivial) store
    (accountsForCustodian store ingestRun.custodianId)
  have hcompared := ledgerCompared_eq_self_iff env store ingestRunId actorId
    householdId (accountsForCustodian store ingestRun.custodianId)
  rw [offRows_eq_nil_iff, unseenKeys_eq_nil_iff] at hcompared
  unfold reconciled
  dsimp only
  cases hrows : custodianRowsOf store ingestRunId with
  | nil =>
    dsimp only
    rw [hcompared]
    constructor
    · rintro ⟨hdated, hagreed, hcovered⟩
      exact ⟨hdated, hagreed, hcovered, by rw [hrows]; exact fun _ h => nomatch h⟩
    · exact fun h => ⟨h.dated, h.agreed, h.covered⟩
  | cons first rest =>
    dsimp only
    rw [hledger.eq_trans_iff (hopens.symbologyBreaks trivial ..)]
    constructor
    · rintro ⟨hself, hsymbology⟩
      obtain ⟨hdated, hagreed, hcovered⟩ := hcompared.mp hself
      rw [symbologyBreaks_eq_self_iff, hself] at hsymbology
      refine ⟨hdated, hagreed, hcovered, fun row hrow => hsymbology _ ?_⟩
      rw [mem_securityIds_ledgerCompared
        ((unseenKeys_eq_nil_iff ..).mpr hcovered)]
      exact ⟨row, hrow, rfl⟩
    · intro h
      have hself := hcompared.mpr ⟨h.dated, h.agreed, h.covered⟩
      refine ⟨hself, ?_⟩
      rw [symbologyBreaks_eq_self_iff, hself]
      intro id hid
      rw [mem_securityIds_ledgerCompared
        ((unseenKeys_eq_nil_iff ..).mpr h.covered)] at hid
      obtain ⟨row, hrow, rfl⟩ := hid
      exact h.identified row hrow

end Warehouse
