/-
Post-ingest reconciliation — custodian vs lot ledger
(`execution/reconciliation/service.py`).

`reconcileIngest` threads the source's four accumulators (`breaks`,
`seen`, `security_ids` and the session) through its passes: the as-of
check, the custodian rows, the ledger keys, the symbology check.
-/
import Warehouse.Infra.Audit
import Warehouse.Lib.Dict

namespace Warehouse

open Lib

/-- An account and a security. -/
abbrev PositionKey := String × String

/-- The ledger's quantity per key: one summed entry for each key that has
lots. -/
def ledgerQuantities (store : Store) : Dict PositionKey ℚ :=
  let key (lot : Lot) : PositionKey := (lot.accountId, lot.securityId)
  Dict.ofPairs ((store.lots.map key).dedup.map fun k =>
    (k, ((store.lots.filter fun lot => key lot = k).map (·.quantity)).sum))

/-- The date of the newest mark. -/
def ledgerAsOfDate (store : Store) : Option Date :=
  (store.marketPrices.map (·.asOfDate)).max?

/-- The breaks opened so far and the session they were written to. -/
structure BreakState where
  breaks : List ReconciliationBreakRow := []
  store : Store

/-- Write one break row and its audit row. -/
def openBreak (env : Env) (ingestRunId accountId : String)
    (securityId : Option String) (breakType : ReconBreakType)
    (description actorId : String) (householdId : Option String)
    (st : BreakState) : BreakState :=
  let breakId := env.freshId "break" st.store
  let opened := env.clock st.store
  let row : ReconciliationBreakRow :=
    { breakId := breakId
      ingestRunId := ingestRunId
      accountId := accountId
      securityId := securityId
      breakType := breakType
      description := description
      openedAt := opened }
  let store := st.store.drawn.ticked
  let store := { store with
    reconciliationBreaks := store.reconciliationBreaks ++ [row] }
  { breaks := st.breaks ++ [row]
    store := writeAudit env store actorId "recon_break_opened"
      "reconciliation_break" breakId householdId
      [("ingest_run_id", ingestRunId), ("break_type", breakType.value),
       ("description", description)] }

/-- Open breaks when the custodian file's as-of date does not match the
ledger. -/
def asOfDateBreaks (env : Env) (ingestRunId : String)
    (custodianRows : List CustodianPositionRow) (actorId : String)
    (householdId : Option String) (st : BreakState) : BreakState :=
  match custodianRows with
  | [] => st
  | first :: _ =>
    let custodianDates := (custodianRows.map (·.asOfDate)).dedup
    if custodianDates.length > 1 then
      openBreak env ingestRunId first.accountId none .mixedAsOf
        ("mixed as_of_date in ingest: "
          ++ listText ((custodianDates.insertionSort (· ≤ ·)).map isoformat))
        actorId householdId st
    else
      match ledgerAsOfDate st.store with
      | none =>
          openBreak env ingestRunId first.accountId none .staleAsOf
            ("ledger has no market-price as_of_date; custodian="
              ++ isoformat first.asOfDate) actorId householdId st
      | some ledgerAsOf =>
          if first.asOfDate ≠ ledgerAsOf then
            openBreak env ingestRunId first.accountId none .staleAsOf
              ("stale custodian file: custodian as_of="
                ++ isoformat first.asOfDate ++ ", ledger as_of="
                ++ isoformat ledgerAsOf) actorId householdId st
          else st

/-- One identifier shared by two or more securities. -/
def symbologyBreak (env : Env) (ingestRunId label : String)
    (column : SecurityRow → Option String) (actorId : String)
    (householdId : Option String) (accountId : String) (st : BreakState)
    (key : String) : BreakState :=
  let ids := ((st.store.securities.filter fun row => column row = some key).map
    (·.securityId)).dedup
  if ids.length < 2 then st
  else
    openBreak env ingestRunId accountId none .symbologyMismatch
      ("symbology conflict (" ++ label ++ "=" ++ key ++ "): security_ids="
        ++ listText (ids.insertionSort (· ≤ ·))) actorId householdId st

/-- Open breaks when ingest touches securities sharing an ISIN/CUSIP. -/
def symbologyBreaks (env : Env) (ingestRunId : String)
    (securityIds : List String) (actorId : String)
    (householdId : Option String) (accountId : String) (st : BreakState) :
    BreakState :=
  if securityIds.isEmpty then st
  else
    let touched := st.store.securities.filter (·.securityId ∈ securityIds)
    let isins := ((touched.filterMap (·.isin)).filter (· ≠ "")).dedup
    let cusips := ((touched.filterMap (·.cusip)).filter (· ≠ "")).dedup
    let st := isins.foldl (symbologyBreak env ingestRunId "isin" (·.isin)
      actorId householdId accountId) st
    cusips.foldl (symbologyBreak env ingestRunId "cusip" (·.cusip)
      actorId householdId accountId) st

/-- The accounts a custodian holds. -/
def accountsForCustodian (store : Store) (custodianId : String) :
    List String :=
  ((store.entityRelationships.filter fun row =>
    row.targetId = custodianId ∧ row.relationshipType = .custodiedAt).map
      (·.sourceId)).dedup

/-- `ticker or security_id`. -/
def tickerOrId (store : Store) (securityId : String) : String :=
  let ticker := (store.securities.find? (·.securityId = securityId)).bind
    (·.ticker)
  if truthy ticker then ticker.getD securityId else securityId

/-- The accumulators of the two comparison passes. -/
structure ReconState where
  seen : List PositionKey := []
  securityIds : List String := []
  opened : BreakState

/-- One custodian row against the ledger. -/
def compareCustodianRow (env : Env) (ingestRunId : String)
    (ledger : Dict PositionKey ℚ) (actorId : String)
    (householdId : Option String) (st : ReconState)
    (row : CustodianPositionRow) : ReconState :=
  let key := (row.accountId, row.securityId)
  let ledgerQty := (ledger.get? key).getD 0
  let opened :=
    if ledgerQty ≠ row.quantity then
      openBreak env ingestRunId row.accountId (some row.securityId)
        .quantityMismatch
        (tickerOrId st.opened.store row.securityId ++ ": custodian="
          ++ env.str row.quantity ++ ", ledger=" ++ env.str ledgerQty)
        actorId householdId st.opened
    else st.opened
  { seen := st.seen.insert key
    securityIds := st.securityIds.insert row.securityId
    opened := opened }

/-- One ledger key against the file. -/
def compareLedgerKey (env : Env) (ingestRunId : String)
    (custodianAccounts : List String) (actorId : String)
    (householdId : Option String) (st : ReconState)
    (entry : PositionKey × ℚ) : ReconState :=
  let accountId := entry.1.1
  let securityId := entry.1.2
  if accountId ∉ custodianAccounts then st
  else if (accountId, securityId) ∈ st.seen then st
  else if entry.2 = 0 then st
  else
    { st with
      securityIds := st.securityIds.insert securityId
      opened :=
        openBreak env ingestRunId accountId (some securityId) .ledgerOnly
          (tickerOrId st.opened.store securityId ++ ": custodian=0, ledger="
            ++ env.str entry.2) actorId householdId st.opened }

/-- The rows of one ingest run. -/
def custodianRowsOf (store : Store) (ingestRunId : String) :
    List CustodianPositionRow :=
  store.custodianPositions.filter (·.ingestRunId = ingestRunId)

/-- `reconcile_ingest`: the breaks of one ingested file against the ledger,
stored with an audit row. -/
def reconcileIngest (env : Env) (store : Store) (ingestRunId : String)
    (actorId : String := "system:reconcile")
    (householdId : Option String := none) :
    Except Exc (List ReconciliationBreakRow × Store) :=
  match store.ingestRuns.find? (·.runId = ingestRunId) with
  | none => .error (.valueError ("Ingest run not found: " ++ ingestRunId))
  | some ingestRun =>
    let custodianAccounts := accountsForCustodian store ingestRun.custodianId
    let custodianRows := custodianRowsOf store ingestRunId
    let ledger := ledgerQuantities store
    let opened := asOfDateBreaks env ingestRunId custodianRows actorId
      householdId { store := store }
    let st := custodianRows.foldl (compareCustodianRow env ingestRunId ledger
      actorId householdId) { opened := opened }
    let st := ledger.entries.foldl (compareLedgerKey env ingestRunId
      custodianAccounts actorId householdId) st
    let opened :=
      match custodianRows with
      | [] => st.opened
      | first :: _ => symbologyBreaks env ingestRunId st.securityIds actorId
          householdId first.accountId st.opened
    .ok (opened.breaks, opened.store)

/-- Newest first. -/
def listReconciliationBreaks (order : ReportOrder) (store : Store)
    (openOnly : Bool := true) (limit : Nat := 50) :
    List ReconciliationBreakRow :=
  let rows := store.reconciliationBreaks.filter fun row =>
    !openOnly || !row.resolved
  ((order.breaks rows).insertionSort fun a b =>
    b.openedAt ≤ a.openedAt).take limit

end Warehouse
