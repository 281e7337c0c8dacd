/-
The lot ledger: `Lot` is the ledger's own record, `LotPositionView` the
joined row (lot, security, account, mark) the decision plane reads, and
`AlternativeHoldingView` a manually marked holding beside it.
-/
import Warehouse.Python

namespace Warehouse

/-- `data.security_master.AssetClass`. -/
inductive SecurityAssetClass where
  | equity
  | etf
  | fixedIncome
  | cash
  | alternative
  deriving DecidableEq, Repr

/-- Account × Instrument × Lot — cost basis and wash-sale chain. -/
structure Lot where
  lotId : String
  accountId : String
  securityId : String
  quantity : ℚ
  costBasisPerShare : ℚ
  acquisitionDate : Date
  washSaleChainId : Option String := none
  isRestricted : Bool := false
  deriving DecidableEq

/-- `LotPositionView`: a lot joined with its security, account and mark. -/
structure LotPositionView where
  lotId : String
  accountId : String
  accountName : String
  securityId : String
  ticker : Option String
  securityName : String
  securityAssetClass : SecurityAssetClass
  liquidityTier : Nat := 1
  quantity : ℚ
  costBasisPerShare : ℚ
  totalCostBasis : ℚ
  marketPrice : Option ℚ
  marketValue : Option ℚ
  unrealizedGain : Option ℚ
  acquisitionDate : Date
  isRestricted : Bool
  washSaleSubstituteGroup : Option String
  deriving DecidableEq

/-- A holding of the alternatives sub-ledger. -/
structure AlternativeHoldingView where
  holdingId : String
  householdId : String
  name : String
  currentNav : ℚ
  deriving DecidableEq

end Warehouse
