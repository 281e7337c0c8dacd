/-
Corporate actions on the lot ledger: stock splits
(`data/ledger/corporate_actions.py`).

A split moves quantity and per-share basis in opposite directions. The
quotient is exact: the context of fifty digits it is computed in is not
modelled.
-/
import Warehouse.Data.Ledger

namespace Warehouse

/-- Total cost basis is invariant under a split. -/
def oracleStockSplitBasis (ctx : DecimalContext)
    (quantity costBasisPerShare ratio : ℚ) : Except Exc (ℚ × ℚ) :=
  if ratio ≤ 0 then
    .error (.valueError ("split ratio must be positive, got "
      ++ ctx.str ratio))
  else
    let newQty := quantity * ratio
    if newQty ≤ 0 then
      .error (.valueError ("split ratio " ++ ctx.str ratio
        ++ " reduces quantity " ++ ctx.str quantity
        ++ " to zero or negative"))
    else .ok (newQty, costBasisPerShare / ratio)

/-- Forward or reverse stock split of a security: `ratio` is new shares per
existing share. -/
structure StockSplitAction where
  securityId : String
  ratio : ℚ
  deriving DecidableEq

/-- One turn of the split's loop. -/
def splitOne (ctx : DecimalContext) (action : StockSplitAction) (lot : Lot) :
    Except Exc Lot :=
  if lot.securityId ≠ action.securityId then .ok lot
  else do
    let (newQty, newCost) ← oracleStockSplitBasis ctx lot.quantity
      lot.costBasisPerShare action.ratio
    return { lot with
      quantity := newQty
      costBasisPerShare := newCost }

/-- The lots after an action on the rows of its security. -/
def applyStockSplit (ctx : DecimalContext) (lots : List Lot)
    (action : StockSplitAction) : Except Exc (List Lot) :=
  if action.ratio ≤ 0 then
    .error (.valueError ("split ratio must be positive, got "
      ++ ctx.str action.ratio))
  else lots.mapM (splitOne ctx action)

/-- Apply split actions in order. -/
def applyStockSplits (ctx : DecimalContext) (lots : List Lot)
    (actions : List StockSplitAction) : Except Exc (List Lot) :=
  actions.foldlM (applyStockSplit ctx) lots

end Warehouse
