/-
MIP optimizer stub — lot-discrete selection without external solver
(`decision/optimizer/mip.py`).

Its eligibility filter is its own, and so are its copies of the weights of
the book and of the IPS bound tags; these two read as the harvester's do
(`decision/optimizer/heuristics.py`), so here they are the harvester's
(`sleeveWeights`, `ipsBoundTags`). The holding-period rate is imported from
there.
-/
import Warehouse.Decision.Heuristics
import Mathlib.Data.List.Sort

namespace Warehouse

open Lib

/-- The scored candidates and the binding tags gathered so far. -/
structure MipState where
  candidates : List (ℚ × LotPositionView) := []
  binding : List String := []

/-- Tax benefit per dollar; a lot that is worth nothing scores nought. -/
def mipScore (settings : Settings) (today : Date) (lot : LotPositionView)
    (gain marketValue : ℚ) : ℚ :=
  let rate := holdingPeriodRate lot.acquisitionDate today settings
  let benefit := |gain * rate|
  if marketValue > 0 then benefit / marketValue else 0

/-- One turn of the candidate loop. -/
def mipCandidate (positions : List LotPositionView)
    (ips : InvestmentPolicyStatement) (settings : Settings) (today : Date)
    (st : MipState) (lot : LotPositionView) : MipState :=
  match lot.unrealizedGain with
  | none => st
  | some gain =>
      if gain ≥ 0 then st
      else
        let (allowed, lotBinding) := evaluateLotSellAllowed lot ips
        let st := { st with binding := st.binding ++ lotBinding }
        if !allowed then st
        else
          match lot.marketValue with
          | none => st
          | some marketValue =>
              let washTriggers := evaluateWashSaleRisk lot positions today
              if washTriggers ≠ [] then
                { st with binding := st.binding ++ washTriggers }
              else
                { st with
                  candidates := st.candidates ++
                    [(mipScore settings today lot gain marketValue, lot)] }

/-- One turn of the trade loop. -/
def mipTrade (settings : Settings) (today : Date) (st : HarvestState)
    (candidate : ℚ × LotPositionView) : HarvestState :=
  let (score, lot) := candidate
  match lot.unrealizedGain with
  | none => st
  | some gain =>
      let rate := holdingPeriodRate lot.acquisitionDate today settings
      let harvestTax := gain * rate
      { st with
        taxDelta := st.taxDelta + harvestTax
        trades := st.trades ++
          [{ lotId := some lot.lotId
             securityId := lot.securityId
             accountId := lot.accountId
             side := "sell"
             quantity := lot.quantity
             rationale := "MIP discrete lot " ++ lot.lotId ++ " score "
               ++ formatFixed 4 score ++ " loss " ++ formatFixed 2 gain
               ++ " tax delta " ++ formatFixed 2 harvestTax }] }

/-- Best score first; the sort keeps the order of equal scores. -/
def rankCandidates (candidates : List (ℚ × LotPositionView)) :
    List (ℚ × LotPositionView) :=
  candidates.insertionSort fun a b => b.1 ≤ a.1

/-- `asOf` defaults to `clockToday`, the day the call is made. -/
def runMipOptimizer (householdId : String)
    (positions : List LotPositionView) (ips : InvestmentPolicyStatement)
    (settings : Settings) (asOf : Option Date) (clockToday : Date) :
    Except Exc OptimizationResult :=
  let today := asOf.getD clockToday
  let totalMv := totalMarketValue positions
  if totalMv ≤ 0 then
    .error (.valueError "Cannot optimize — portfolio has no market value")
  else
    let classWeights := sleeveWeights totalMv positions
    let gathered := positions.foldl
      (mipCandidate positions ips settings today) {}
    let st := (sliceTo (rankCandidates gathered.candidates)
      settings.mipMaxTrades).foldl (mipTrade settings today)
      { binding := gathered.binding }
    let binding := st.binding ++ ipsBoundTags classWeights ips
    let binding :=
      if st.trades.isEmpty then binding ++ ["mip_no_feasible_lots"]
      else binding
    .ok
      { householdId := householdId
        configVersion := settings.taxConfigVersion
        trades := st.trades
        estimatedTaxDelta := st.taxDelta
        bindingConstraints := binding.dedup.mergeSort (· ≤ ·) }

end Warehouse
