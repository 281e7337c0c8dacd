/-
Position-level attribution (`decision/analyst/attribution.py`, and the
report of `models.py`): each lot's unrealized return is its class's
expected return scaled to the holding window plus an active return.

`pow` is the decimal context's power, taken as given.
-/
import Warehouse.Data.Ledger
import Warehouse.Research.Assumptions
import Mathlib.Data.List.Sort

namespace Warehouse

/-- Per-lot decomposition: total = expected cumulative + active return. -/
structure PositionAttribution where
  lotId : String
  accountId : String
  ticker : Option String
  securityAssetClass : SecurityAssetClass
  riskClass : RiskClass
  liquidityTier : Nat
  holdingYears : ℚ
  marketValue : ℚ
  totalReturn : ℚ
  classExpected : ℚ
  expectedCumulative : ℚ
  activeReturn : ℚ
  activeAnnualized : Option ℚ
  deriving DecidableEq

/-- The attribution of one household on one day. -/
structure AttributionReport where
  householdId : String
  asOfDate : Date
  configVersion : String
  positions : List PositionAttribution
  portfolioActiveReturn : ℚ
  limitations : List String
  deriving DecidableEq

/-- `_SEC_TO_RISK`, which has every security class. -/
def SecurityAssetClass.riskClassFor : SecurityAssetClass → RiskClass
  | equity => .equity
  | etf => .equity
  | fixedIncome => .fixedIncome
  | cash => .cash
  | alternative => .alternatives

/-- What every attribution says it does not cover. -/
def attributionLimitations : List String :=
  ["Unrealized point-in-time only — no realized lots, income or dividends.",
   "Class-beta first cut — not full factor (Brinson) attribution.",
   "ETF maps to EQUITY as a v0 beta proxy; bond/commodity ETFs are "
     ++ "mis-mapped until look-through ships.",
   "The beta-stripped idiosyncratic component (axiom 1) is not_computed — "
     ++ "no realized class-return series to subtract."]

/-- The decimals of a return. -/
def returnPlaces : Nat := 6

/-- The decimals of a holding period. -/
def yearsPlaces : Nat := 4

/-- The length of a year the holding period is measured in. -/
def daysPerYear : ℚ := 36525 / 100

/-- `f"{c!r}"`. -/
def RiskClass.memberText (c : RiskClass) : String :=
  let name :=
    match c with
    | equity => "EQUITY"
    | fixedIncome => "FIXED_INCOME"
    | commodities => "COMMODITIES"
    | fx => "FX"
    | alternatives => "ALTERNATIVES"
    | cash => "CASH"
  "<AssetClass." ++ name ++ ": " ++ reprText c.value ++ ">"

/-- Annualized active return; none below the holding floor, or for a
wipeout. -/
def annualizedActive (ctx : DecimalContext) (totalReturn classExpected
    holdingYears minHoldingYears : ℚ) : Option ℚ :=
  if holdingYears < minHoldingYears ∨ holdingYears ≤ 0 then none
  else
    let onePlus := 1 + totalReturn
    if onePlus ≤ 0 then none
    else some (ctx.pow onePlus (1 / holdingYears) - 1 - classExpected)

/-- The decomposition of a lot its checks let through. -/
def attributed (ctx : DecimalContext) (pos : LotPositionView) (asOf : Date)
    (minHoldingYears marketValue unrealizedGain classExpected : ℚ) :
    PositionAttribution :=
  let days := max (asOf - pos.acquisitionDate) 0
  let holdingYears := days / daysPerYear
  let totalReturn := unrealizedGain / pos.totalCostBasis
  let expectedCumulative := ctx.pow (1 + classExpected) holdingYears - 1
  let activeReturn := totalReturn - expectedCumulative
  let activeAnnualized := annualizedActive ctx totalReturn classExpected
    holdingYears minHoldingYears
  { lotId := pos.lotId
    accountId := pos.accountId
    ticker := pos.ticker
    securityAssetClass := pos.securityAssetClass
    riskClass := pos.securityAssetClass.riskClassFor
    liquidityTier := pos.liquidityTier
    holdingYears := quantize yearsPlaces holdingYears
    marketValue := marketValue
    totalReturn := quantize returnPlaces totalReturn
    classExpected := classExpected
    expectedCumulative := quantize returnPlaces expectedCumulative
    activeReturn := quantize returnPlaces activeReturn
    activeAnnualized := activeAnnualized.map (quantize returnPlaces) }

/-- One position against its class's expected return; a lot bought after the day
is refused. -/
def attributeOne (ctx : DecimalContext)
    (classExpectedReturn : RiskClass → Option ℚ) (asOf : Date)
    (minHoldingYears : ℚ) (pos : LotPositionView) :
    Except Exc PositionAttribution :=
  if pos.acquisitionDate > asOf then
    .error (.attributionError ("lot " ++ pos.lotId ++ " acquired "
      ++ isoformat pos.acquisitionDate ++ " after as_of " ++ isoformat asOf
      ++ " — walk-forward violation"))
  else
    match pos.marketValue, pos.unrealizedGain with
    | some marketValue, some unrealizedGain =>
        if pos.totalCostBasis ≤ 0 then
          .error (.attributionError ("lot " ++ pos.lotId
            ++ " has non-positive cost basis " ++ ctx.str pos.totalCostBasis
            ++ "; cannot compute return"))
        else
          let riskClass := pos.securityAssetClass.riskClassFor
          match classExpectedReturn riskClass with
          | none => .error (.attributionError
              ("no class-expected return for " ++ riskClass.memberText))
          | some classExpected => .ok (attributed ctx pos asOf
              minHoldingYears marketValue unrealizedGain classExpected)
    | _, _ => .error (.attributionError ("lot " ++ pos.lotId
        ++ " has no market value; cannot attribute return"))

/-- The portfolio's active return, weighted by market value. -/
def mvWeightedActive (rows : List PositionAttribution) : ℚ :=
  let totalMv := (rows.map (·.marketValue)).sum
  if totalMv ≤ 0 then 0
  else
    quantize returnPlaces
      (rows.map fun r => r.marketValue / totalMv * r.activeReturn).sum

/-- `rows.sort(key=lambda r: abs(r.active_return), reverse=True)`: a
reversed sort keeps the order of equal keys too. -/
def sortedByActive (rows : List PositionAttribution) :
    List PositionAttribution :=
  rows.insertionSort fun r s => |s.activeReturn| ≤ |r.activeReturn|

/-- Decompose each lot into expected and active return. -/
def evaluateAttribution (ctx : DecimalContext)
    (positions : List LotPositionView)
    (classExpectedReturn : RiskClass → Option ℚ) (householdId : String)
    (asOf : Date) (configVersion : String) (minHoldingYears : ℚ) :
    Except Exc AttributionReport := do
  let attributions ← positions.mapM
    (attributeOne ctx classExpectedReturn asOf minHoldingYears)
  let rows := sortedByActive attributions
  return {
    householdId := householdId
    asOfDate := asOf
    configVersion := configVersion
    positions := rows
    portfolioActiveReturn := mvWeightedActive rows
    limitations := attributionLimitations }

end Warehouse
