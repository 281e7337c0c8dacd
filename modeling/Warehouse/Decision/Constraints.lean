/-
Constraint library — IPS, restricted lists, do-not-sell lots
(`decision/constraints.py`, `decision/ips/liquidity.py`).

The rules of the decision plane, beside the ledger's own: what may be sold
at all, which sales would wash, and where a book stands outside its policy.
Each answers with the tags or texts it adds, in the order of the positions
or targets.
-/
import Warehouse.Decision.Ips

namespace Warehouse

/-- `constraints.WASH_SALE_WINDOW_DAYS`: the decision plane's own copy of
the ledger's window. -/
def constraintWashSaleWindowDays : Int := 30

/-- `evaluate_lot_sell_allowed`: the lot's own restriction before the policy's
list. -/
def evaluateLotSellAllowed (lot : LotPositionView)
    (ips : InvestmentPolicyStatement) : Bool × List String :=
  if lot.isRestricted then (false, ["do_not_sell_lot:" ++ lot.lotId])
  else if lot.securityId ∈ ips.restrictedSecurities then
    (false, ["restricted_security:" ++ lot.securityId])
  else (true, [])

/-- Wash-sale identity: same security or same substitute group. -/
def substantiallyIdentical (a b : LotPositionView) : Bool :=
  if a.securityId = b.securityId then true
  else a.washSaleSubstituteGroup.isSome
    && a.washSaleSubstituteGroup == b.washSaleSubstituteGroup

/-- Detect whether harvesting `lot` at a loss would trigger a wash sale:
one binding-constraint tag per replacement lot, none when the harvest is
clear to propose. -/
def evaluateWashSaleRisk (lot : LotPositionView)
    (positions : List LotPositionView) (asOf : Date)
    (windowDays : Int := constraintWashSaleWindowDays) : List String :=
  positions.filterMap fun other =>
    if other.lotId = lot.lotId then none
    else if !substantiallyIdentical lot other then none
    else if |other.acquisitionDate - asOf| ≤ windowDays then
      some ("wash_sale_30d:" ++ lot.lotId ++ "<-" ++ other.lotId)
    else none

/-- Share of NAV in positions at liquidity tier `maxTier` or better. -/
def liquidTierNavShare (positions : List LotPositionView)
    (maxTier : Nat := 2) : ℚ :=
  let totalMv := totalMarketValue positions
  let liquidMv :=
    totalMarketValue (positions.filter (·.liquidityTier ≤ maxTier))
  if totalMv ≤ 0 then 0 else liquidMv / totalMv

/-- The liquidity floor's tag, where the policy has one and the book misses it. -/
def liquidityVsIps (positions : List LotPositionView)
    (ips : InvestmentPolicyStatement) : List String :=
  match ips.liquidityTierMinPct with
  | none => []
  | some floor =>
      let share := liquidTierNavShare positions 2
      if share < floor then
        ["liquidity tier 1+2 " ++ formatPercent 1 share ++ " below floor "
          ++ formatPercent 1 floor]
      else []

/-- Per target, in policy order: below its minimum, above its maximum,
more than five points off its target. -/
def driftVsIps (weights : Lib.Dict IpsSleeve ℚ)
    (ips : InvestmentPolicyStatement) : List String :=
  ips.allocationTargets.flatMap fun target =>
    let cls := target.assetClass.value
    let current := (weights.get? target.assetClass).getD 0
    let drift := |current - target.targetWeight|
    (if current < target.minWeight then
      [cls ++ " below min (" ++ formatPercent 1 current ++ " < "
        ++ formatPercent 1 target.minWeight ++ ")"] else [])
    ++ (if current > target.maxWeight then
      [cls ++ " above max (" ++ formatPercent 1 current ++ " > "
        ++ formatPercent 1 target.maxWeight ++ ")"] else [])
    ++ (if drift > 5 / 100 then
      [cls ++ " drift " ++ formatPercent 1 drift ++ " from target "
        ++ formatPercent 1 target.targetWeight] else [])

end Warehouse
