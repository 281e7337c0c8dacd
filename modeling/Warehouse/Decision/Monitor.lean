/-
IPS drift and concentration monitoring (`decision/ips/monitor.py`).

Weights are shares of the marked value, so a position without a mark counts
for nothing. A book worth nothing has zero weights, a row a target all the
same, and no concentration alert. As in the source, the concentration limit
is held against one lot at a time.
-/
import Warehouse.Decision.Constraints

namespace Warehouse

open Lib

/-- One sleeve's weight against its band. -/
structure AllocationDriftRow where
  assetClass : String
  currentWeight : ℚ
  targetWeight : ℚ
  minWeight : ℚ
  maxWeight : ℚ
  drift : ℚ
  deriving DecidableEq

/-- `IpsDriftReport`: a row a target, and the two kinds of alerts. -/
structure IpsDriftReport where
  householdId : String
  rows : List AllocationDriftRow
  alerts : List String
  concentrationAlerts : List String
  deriving DecidableEq

/-- Market value by sleeve: positions without one are skipped. -/
def classMarketValue (positions : List LotPositionView) : Dict IpsSleeve ℚ :=
  positions.foldl (fun classMv pos =>
    match pos.marketValue with
    | none => classMv
    | some marketValue =>
        let sleeve := ipsSleeveForPosition pos
        classMv.set sleeve ((classMv.get? sleeve).getD 0 + marketValue))
    Dict.empty

/-- A target's share of NAV. -/
def targetWeightNow (totalMv : ℚ) (classMv : Dict IpsSleeve ℚ)
    (target : AllocationTarget) : ℚ :=
  let mv := (classMv.get? target.assetClass).getD 0
  if totalMv > 0 then mv / totalMv else 0

/-- The row of one target: the drift is signed. -/
def driftRow (totalMv : ℚ) (classMv : Dict IpsSleeve ℚ)
    (target : AllocationTarget) : AllocationDriftRow :=
  let current := targetWeightNow totalMv classMv target
  { assetClass := target.assetClass.value
    currentWeight := current
    targetWeight := target.targetWeight
    minWeight := target.minWeight
    maxWeight := target.maxWeight
    drift := current - target.targetWeight }

/-- One turn of the concentration loop: what a position adds. -/
def concentrationAlert (totalMv cap : ℚ) (pos : LotPositionView) :
    Option String :=
  match pos.marketValue with
  | none => none
  | some marketValue =>
      let weight := marketValue / totalMv
      if weight > cap then
        some (pos.ticker.getD "None" ++ " concentration "
          ++ formatPercent 1 weight ++ " (limit " ++ formatPercent 1 cap
          ++ ")")
      else none

/-- Session-less IPS drift report. -/
def buildIpsDriftReportFromViews (householdId : String)
    (positions : List LotPositionView) (ips : InvestmentPolicyStatement) :
    IpsDriftReport :=
  let totalMv := totalMarketValue positions
  let classMv := classMarketValue positions
  let weights := Dict.ofPairs (ips.allocationTargets.map fun target =>
    (target.assetClass, targetWeightNow totalMv classMv target))
  { householdId := householdId
    rows := ips.allocationTargets.map (driftRow totalMv classMv)
    alerts := driftVsIps weights ips ++ liquidityVsIps positions ips
    concentrationAlerts :=
      if totalMv > 0 then
        positions.filterMap
          (concentrationAlert totalMv ips.concentrationLimitPct)
      else [] }

end Warehouse
