/-
Positions as the planes read them (`data/ledger/views.py`).

A join on a primary key has at most one match, so each joined row is found
by its key. The joined query has no `ORDER BY`: `scan` is the order in
which the engine returns the rows of `lots`.
-/
import Warehouse.Infra.Db
import Mathlib.Data.Fintype.Defs

namespace Warehouse

/-- `_latest_mark_subquery`: a security's most recent mark at or before
`asOf`, or its latest mark overall without one. -/
def latestMark (store : Store) (asOf : Option Date) (securityId : String) :
    Option ℚ :=
  let marks := store.marketPrices.filter fun row =>
    row.securityId = securityId ∧ ∀ d ∈ asOf, row.asOfDate ≤ d
  match (marks.map (·.asOfDate)).max? with
  | none => none
  | some latest => (marks.find? (·.asOfDate = latest)).map (·.price)

/-- A lot joined with its security and its account. -/
structure JoinedLot where
  lot : Lot
  security : SecurityRow
  account : EntityRow

/-- A lot with its security and its account; a lot that lacks either drops out
of the join. -/
def joinLot (store : Store) (lot : Lot) : Option JoinedLot :=
  match store.securities.find? (·.securityId = lot.securityId),
      store.entities.find? (·.entityId = lot.accountId) with
  | some security, some account =>
      some { lot := lot, security := security, account := account }
  | _, _ => none

/-- The joined lots of a household, or of every household. -/
def joinedLots (scan : List Lot → List Lot) (store : Store)
    (householdId : Option String) : List JoinedLot :=
  let rows := (scan store.lots).filterMap (joinLot store)
  if truthy householdId then
    rows.filter (·.account.householdId = householdId)
  else rows

/-- A joined lot as a position: market value and gain exist where there is a
mark. -/
def lotPositionView (markPrice : Option ℚ) (row : JoinedLot) :
    LotPositionView :=
  let totalCost := row.lot.quantity * row.lot.costBasisPerShare
  let marketValue := markPrice.map fun price => row.lot.quantity * price
  { lotId := row.lot.lotId
    accountId := row.lot.accountId
    accountName := row.account.name
    securityId := row.lot.securityId
    ticker := row.security.ticker
    securityName := row.security.name
    securityAssetClass := row.security.assetClass
    liquidityTier := row.security.liquidityTier
    quantity := row.lot.quantity
    costBasisPerShare := row.lot.costBasisPerShare
    totalCostBasis := totalCost
    marketPrice := markPrice
    marketValue := marketValue
    unrealizedGain := marketValue.map fun value => value - totalCost
    acquisitionDate := row.lot.acquisitionDate
    isRestricted := row.lot.isRestricted
    washSaleSubstituteGroup := row.security.washSaleSubstituteGroup }

/-- `list_lot_positions`: the joined lots, each at its latest mark up to `asOf`
if that is given. -/
def listLotPositions (scan : List Lot → List Lot) (store : Store)
    (householdId : Option String := none) (asOf : Option Date := none) :
    List LotPositionView :=
  (joinedLots scan store householdId).map fun row =>
    lotPositionView (latestMark store asOf row.lot.securityId) row

-- ================================================================= summary

/-- The household's totals. -/
structure HouseholdPnlSummary where
  householdId : String
  asOfDate : Option Date
  totalMarketValue : ℚ
  totalCostBasis : ℚ
  unrealizedGain : ℚ
  lotCount : Nat
  deriving DecidableEq

/-- One turn of the summary's loop: total market value and total cost. -/
def pnlTotals (totals : ℚ × ℚ) (pos : LotPositionView) : ℚ × ℚ :=
  let totalCost := totals.2 + pos.totalCostBasis
  match pos.marketValue with
  | none => (totals.1, totalCost)
  | some marketValue => (totals.1 + marketValue, totalCost)

/-- `household_pnl_summary`: totals over every position, dated by the newest
mark. -/
def householdPnlSummary (scan : List Lot → List Lot) (store : Store)
    (householdId : String) : HouseholdPnlSummary :=
  let positions := listLotPositions scan store (some householdId)
  let (totalMv, totalCost) := positions.foldl pnlTotals (0, 0)
  { householdId := householdId
    asOfDate := (store.marketPrices.map (·.asOfDate)).max?
    totalMarketValue := totalMv
    totalCostBasis := totalCost
    unrealizedGain := totalMv - totalCost
    lotCount := positions.length }

end Warehouse
