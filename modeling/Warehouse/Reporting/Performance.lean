/-
Household performance snapshot from lot ledger positions
(`reporting/performance/compute.py`).

Positions are summed in one pass, which stops at the first lot that was
acquired after the day or has no mark. Marks are the ledger's newest and may
be of a later day. Realized gains are those of the day's calendar year up to
the day, and a book that cost nothing has no after-tax return.
-/
import Warehouse.Config
import Warehouse.Data.Views

namespace Warehouse

/-- The performance figures of one pack. -/
structure HouseholdPerformanceReport where
  householdId : String
  asOfDate : String
  totalMarketValue : ℚ
  unrealizedGain : ℚ
  realizedGainYtd : ℚ
  afterTaxReturnYtd : Option ℚ := none
  deriving DecidableEq

/-- Sum realized gains with event date in [Jan 1, `asOf`] of its year. -/
def realizedGainYtd (events : List RealizedGainEventRow) (asOf : Date) : ℚ :=
  let ytdStart := newYear (yearOf asOf)
  ((events.filter fun event =>
    ytdStart ≤ event.eventDate ∧ event.eventDate ≤ asOf).map (·.amount)).sum

/-- YTD after-tax return over the cost basis. -/
def computeAfterTaxReturnYtd (totalMarketValue totalCostBasis realizedGainYtd
    fedLtcgRate : ℚ) : Except Exc ℚ :=
  if totalCostBasis ≤ 0 then
    .error (.performanceError
      "after-tax return YTD requires positive cost basis")
  else
    let gross := (totalMarketValue - totalCostBasis) / totalCostBasis
    let taxable := max realizedGainYtd 0
    let taxDrag := taxable * fedLtcgRate / totalCostBasis
    .ok (gross - taxDrag)

/-- Realized gain and loss events for the household through `asOf`. -/
def fetchRealizedEvents (store : Store) (householdId : String)
    (asOf : Date) : List RealizedGainEventRow :=
  (store.realizedGainEvents.filter fun row =>
    row.householdId = householdId ∧ row.eventDate ≤ asOf).mergeSort
      fun row row' => decide (row.eventDate ≤ row'.eventDate)

/-- One turn of the aggregation: total market value and total cost. -/
def aggregatePosition (asOf : Date) (totals : ℚ × ℚ) (pos : LotPositionView) :
    Except Exc (ℚ × ℚ) :=
  if asOf < pos.acquisitionDate then
    .error (.performanceError ("as_of " ++ isoformat asOf ++ " before lot "
      ++ pos.lotId ++ " acquisition " ++ isoformat pos.acquisitionDate))
  else
    match pos.marketValue with
    | none =>
        let ticker :=
          if truthy pos.ticker then pos.ticker.getD "" else pos.securityId
        .error (.performanceError ("missing market mark for " ++ ticker
          ++ " (lot " ++ pos.lotId ++ ")"))
    | some marketValue =>
        .ok (totals.1 + marketValue, totals.2 + pos.totalCostBasis)

/-- Total market value and total cost basis, with loud failures. -/
def aggregatePositions (positions : List LotPositionView) (asOf : Date) :
    Except Exc (ℚ × ℚ) :=
  positions.foldlM (aggregatePosition asOf) (0, 0)

/-- A frozen household performance snapshot as of `asOf`. -/
def buildHouseholdPerformanceReport (scan : List Lot → List Lot)
    (settings : Settings) (store : Store) (householdId : String)
    (asOf : Date) : Except Exc HouseholdPerformanceReport := do
  let positions := listLotPositions scan store (some householdId)
  let (totalMv, totalCost) ← aggregatePositions positions asOf
  let unrealized := totalMv - totalCost
  let realizedYtd :=
    realizedGainYtd (fetchRealizedEvents store householdId asOf) asOf
  let afterTaxYtd ←
    if totalCost > 0 then
      (computeAfterTaxReturnYtd totalMv totalCost realizedYtd
        settings.fedLtcgRate).map some
    else .ok none
  return {
    householdId := householdId
    asOfDate := isoformat asOf
    totalMarketValue := totalMv
    unrealizedGain := unrealized
    realizedGainYtd := realizedYtd
    afterTaxReturnYtd := afterTaxYtd }

end Warehouse
