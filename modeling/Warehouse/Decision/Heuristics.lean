/-
Tax-aware optimizer v0 — TLH heuristics
(`decision/optimizer/heuristics.py`).

One pass over the loss lots, largest loss first. A lot that may be sold, has
a mark and would wash no sale is sold whole; any other leaves the tags of
what stopped it, and an unmarked one leaves none. The policy's bounds are
tagged on the book as it stands, whatever is sold, and a book worth nothing
is refused.
-/
import Warehouse.Config
import Warehouse.Decision.Constraints
import Warehouse.Decision.OptimizerModels
import Mathlib.Data.String.Basic

namespace Warehouse

open Lib

/-- Long-term from the 365th day on. -/
def holdingPeriodRate (acquisitionDate asOf : Date) (settings : Settings) :
    ℚ :=
  let days := asOf - acquisitionDate
  if days ≥ 365 then settings.fedLtcgRate else settings.fedStcgRate

/-- Tax-liability delta from realizing `gain` at `rate`: negative for a
harvested loss. -/
def taxOnGain (gain rate : ℚ) : ℚ := gain * rate

/-- The trades, binding tags and tax delta gathered so far. -/
structure HarvestState where
  trades : List TradeProposal := []
  binding : List String := []
  taxDelta : ℚ := 0

/-- One turn of the loss-lot loop. -/
def harvestLot (positions : List LotPositionView)
    (ips : InvestmentPolicyStatement) (settings : Settings) (today : Date)
    (st : HarvestState) (lot : LotPositionView) : HarvestState :=
  let (allowed, lotBinding) := evaluateLotSellAllowed lot ips
  let st := { st with binding := st.binding ++ lotBinding }
  if !allowed then st
  else
    match lot.unrealizedGain, lot.marketValue with
    | some gain, some _ =>
        let washTriggers := evaluateWashSaleRisk lot positions today
        if washTriggers ≠ [] then
          { st with binding := st.binding ++ washTriggers }
        else
          let rate := holdingPeriodRate lot.acquisitionDate today settings
          let harvestTax := taxOnGain gain rate
          { st with
            taxDelta := st.taxDelta + harvestTax
            trades := st.trades ++
              [{ lotId := some lot.lotId
                 securityId := lot.securityId
                 accountId := lot.accountId
                 side := "sell"
                 quantity := lot.quantity
                 rationale := "TLH harvest unrealized loss "
                   ++ formatFixed 2 gain ++ " ("
                   ++ lot.ticker.getD "None" ++ ", est tax delta "
                   ++ formatFixed 2 harvestTax ++ ")" }] }
    | _, _ => st

/-- `p.unrealized_gain is not None and p.unrealized_gain < 0`. -/
def isLossLot (p : LotPositionView) : Bool :=
  match p.unrealizedGain with
  | some gain => gain < 0
  | none => false

/-- The loss lots, largest loss first. -/
def lossLots (positions : List LotPositionView) : List LotPositionView :=
  (positions.filter isLossLot).mergeSort fun p q =>
    p.unrealizedGain.getD 0 ≤ q.unrealizedGain.getD 0

/-- The IPS bounds a book's sleeve weights break, one tag per breach. -/
def ipsBoundTags (weights : Dict IpsSleeve ℚ)
    (ips : InvestmentPolicyStatement) : List String :=
  ips.allocationTargets.flatMap fun target =>
    let current := (weights.get? target.assetClass).getD 0
    (if current > target.maxWeight then
      ["ips_max:" ++ target.assetClass.value] else [])
    ++ (if current < target.minWeight then
      ["ips_min:" ++ target.assetClass.value] else [])

/-- `asOf` defaults to `clockToday`, the day the call is made. -/
def runTaxAwareOptimizer (householdId : String)
    (positions : List LotPositionView) (ips : InvestmentPolicyStatement)
    (settings : Settings) (asOf : Option Date) (clockToday : Date) :
    Except Exc OptimizationResult :=
  let today := asOf.getD clockToday
  let totalMv := totalMarketValue positions
  if totalMv ≤ 0 then
    .error (.valueError "Cannot optimize — portfolio has no market value")
  else
    let classWeights := sleeveWeights totalMv positions
    let st := (lossLots positions).foldl
      (harvestLot positions ips settings today) {}
    let binding := st.binding ++ ipsBoundTags classWeights ips
    let binding :=
      if st.trades.isEmpty ∧ binding ≠ [] then
        binding ++ ["no_action:constraints_or_no_loss_lots"]
      else binding
    .ok
      { householdId := householdId
        configVersion := settings.taxConfigVersion
        trades := st.trades
        estimatedTaxDelta := st.taxDelta
        bindingConstraints := binding.dedup.mergeSort (· ≤ ·) }

end Warehouse
