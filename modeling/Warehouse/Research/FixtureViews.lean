/-
Shape B lots as ledger views (`research/synthetic/fixture_views.py`): the
positions in-process workflow smokes run on, without a session.

An emitted lot is its own mark: value, cost and gain are computed from the
price and basis it was emitted with. Here a security is identified by its
ticker, and restrictions are by ticker too. A lot whose class is none of the
enum's has no tier, and a fixture with one no views.
-/
import Warehouse.Research.SyntheticIps

namespace Warehouse

open Lib

/-- `_TICKER_SECURITY_CLASS`. -/
def tickerSecurityClass : String → Option SecurityAssetClass
  | "VTI" => some .etf
  | "BND" => some .etf
  | "AAPL" => some .equity
  | "DBC" => some .etf
  | "CASH" => some .cash
  | _ => none

/-- `_WASH_GROUPS`. -/
def washGroup : String → Option String
  | "VTI" => some "us_equity_broad"
  | "BND" => some "us_aggregate_bond"
  | "AAPL" => some "aapl"
  | _ => none

/-- `_RISK_TO_SECURITY`, with its default. -/
def riskToSecurity : String → SecurityAssetClass
  | "equity" => .equity
  | "fixed_income" => .fixedIncome
  | "cash" => .cash
  | "commodities" => .etf
  | "alternatives" => .alternative
  | _ => .equity

/-- The security class of an emitted lot: by ticker, else by its risk class. -/
def securityAssetClass (lot : SyntheticLot) : SecurityAssetClass :=
  (tickerSecurityClass lot.ticker).getD (riskToSecurity lot.assetClass)

/-- A lot's view. -/
def lotPosition (accounts : Dict String String) (restricted : List String)
    (lot : SyntheticLot) : Except Exc LotPositionView := do
  let marketValue := lot.quantity * lot.marketPrice
  let totalCost := lot.quantity * lot.costBasisPerShare
  let tier ← lotLiquidityTier lot
  return {
    lotId := lot.lotId
    accountId := lot.accountId
    accountName := (accounts.get? lot.accountId).getD lot.accountId
    securityId := lot.ticker
    ticker := some lot.ticker
    securityName := lot.ticker
    securityAssetClass := securityAssetClass lot
    liquidityTier := tier
    quantity := lot.quantity
    costBasisPerShare := lot.costBasisPerShare
    totalCostBasis := totalCost
    marketPrice := some lot.marketPrice
    marketValue := some marketValue
    unrealizedGain := some (marketValue - totalCost)
    acquisitionDate := lot.acquisitionDate
    isRestricted := lot.ticker ∈ restricted
    washSaleSubstituteGroup := washGroup lot.ticker }

/-- Map synthetic lots to ledger views — no DB session required. -/
def lotPositionsFromFixture (fixture : HouseholdFixture)
    (restrictedTickers : Option (List String)) :
    Except Exc (List LotPositionView) :=
  let accounts := Dict.ofPairs (fixture.accounts.map fun account =>
    (account.accountId, account.name))
  fixture.lots.mapM (lotPosition accounts (restrictedTickers.getD []))

end Warehouse
