/-
The investment policy statement and the sleeve rollup
(`decision/ips/__init__.py`, `sleeves.py`, `rollup.py`).

The `Field(ge=0, le=1)` constraints a statement is validated with are
fields here: a statement outside them cannot be built. `min ≤ max` is
not among them, in the source or here.
-/
import Warehouse.Data.Ledger
import Warehouse.Lib.Dict
import Mathlib.Data.List.Infix

namespace Warehouse

open Lib

/-- Strategic allocation sleeves for IPS min/max/target weights. -/
inductive IpsSleeve where
  | equity
  | fixedIncome
  | commodities
  | fx
  | alternatives
  | cash
  deriving DecidableEq, Repr

namespace IpsSleeve

/-- The sleeve as statements spell it. -/
def value : IpsSleeve → String
  | equity => "equity"
  | fixedIncome => "fixed_income"
  | commodities => "commodities"
  | fx => "fx"
  | alternatives => "alternatives"
  | cash => "cash"

/-- Canonical enum order. -/
def all : List IpsSleeve :=
  [equity, fixedIncome, commodities, fx, alternatives, cash]

theorem mem_all (s : IpsSleeve) : s ∈ all := by cases s <;> decide

theorem nodup_all : all.Nodup := by decide

end IpsSleeve

/-- A quarter of NAV, the default concentration limit. -/
theorem isFraction_quarter : IsFraction (1 / 4) := by norm_num [IsFraction]

/-- `AllocationTarget`, its bounds as fields. -/
structure AllocationTarget where
  assetClass : IpsSleeve
  minWeight : ℚ
  maxWeight : ℚ
  targetWeight : ℚ
  minFraction : IsFraction minWeight
  maxFraction : IsFraction maxWeight
  targetFraction : IsFraction targetWeight

/-- Machine-readable IPS on the household graph — versioned, dated. -/
structure InvestmentPolicyStatement where
  ipsId : String
  householdId : String
  version : Int
  effectiveDate : String
  allocationTargets : List AllocationTarget
  restrictedSecurities : List String := []
  concentrationLimitPct : ℚ := 1 / 4
  liquidityTierMinPct : Option ℚ := none
  turnoverBudgetPct : Option ℚ := none
  concentrationFraction : IsFraction concentrationLimitPct
  liquidityFraction : ∀ q ∈ liquidityTierMinPct, IsFraction q
  turnoverFraction : ∀ q ∈ turnoverBudgetPct, IsFraction q

/-- Map security-master class to IPS sleeve for drift and optimizer. The
source's closing `raise` guards against classes the enum does not have. -/
def rollupSecurityToIpsSleeve (assetClass : SecurityAssetClass)
    (ticker washSaleSubstituteGroup : Option String) : IpsSleeve :=
  match assetClass with
  | .equity => .equity
  | .fixedIncome => .fixedIncome
  | .cash => .cash
  | .alternative => .alternatives
  | .etf =>
      if ticker = some "BND" then .fixedIncome
      else
        match washSaleSubstituteGroup with
        | some group =>
            if group ≠ "" ∧ "bond".toList <:+: group.toList then .fixedIncome
            else .equity
        | none => .equity

/-- The sleeve a position rolls up to. -/
def ipsSleeveForPosition (pos : LotPositionView) : IpsSleeve :=
  rollupSecurityToIpsSleeve pos.securityAssetClass pos.ticker
    pos.washSaleSubstituteGroup

/-- `sum((p.market_value or Decimal("0")) for p in positions)`. -/
def totalMarketValue (positions : List LotPositionView) : ℚ :=
  (positions.map fun p => p.marketValue.getD 0).sum

/-- The sleeve-weight accumulation the optimizers share: positions
without a market value are skipped. -/
def sleeveWeights (totalMv : ℚ) (positions : List LotPositionView) :
    Dict IpsSleeve ℚ :=
  positions.foldl (fun weights pos =>
    match pos.marketValue with
    | none => weights
    | some marketValue =>
        let sleeve := ipsSleeveForPosition pos
        weights.set sleeve
          ((weights.get? sleeve).getD 0 + marketValue / totalMv))
    Dict.empty

end Warehouse
