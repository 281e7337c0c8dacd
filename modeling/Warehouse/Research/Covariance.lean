/-
Covariance-based portfolio variance and risk contributions
(`research/risk/covariance.py`).

The variance is a double sum over slots, the correlations looked up by
class. Sums, products and quotients are exact, where the source rounds each
to the digits of its decimal context; the root is the context's.
-/
import Warehouse.Research.RiskModels

namespace Warehouse

/-- A slot with its volatility and how that was measured. -/
structure SleeveRiskState where
  slot : AllocationSlot
  annualVolatility : ℚ
  measurement : String

/-- The variance and what each slot contributes to it. -/
structure CovarianceResult where
  portfolioVariance : ℚ
  pctVarianceContributions : List ℚ
  marginalVariance : List ℚ

/-- `portfolio_volatility`: the variance's square root. -/
def CovarianceResult.portfolioVolatility (ctx : DecimalContext)
    (cov : CovarianceResult) : ℚ :=
  if cov.portfolioVariance > 0 then ctx.sqrt cov.portfolioVariance else 0

/-- `portfolio_covariance`: the double sum over slots. The shares are zero where
the variance is not positive. -/
def portfolioCovariance (states : List SleeveRiskState)
    (assumptions : RiskAssumptions) : CovarianceResult :=
  let n := states.length
  if n = 0 then
    { portfolioVariance := 0
      pctVarianceContributions := []
      marginalVariance := [] }
  else
    let weights := states.map (·.slot.weight)
    let cov := states.map fun left => states.map fun right =>
      left.annualVolatility * right.annualVolatility
        * assumptions.pairwiseCorrelation left.slot.assetClass
            right.slot.assetClass
    let variance := sumRange n fun i => sumRange n fun j =>
      item weights i * item weights j * item (cov.getD i []) j
    let marginal := (List.range n).map fun i =>
      item weights i * sumRange n fun j =>
        item (cov.getD i []) j * item weights j
    { portfolioVariance := variance
      pctVarianceContributions :=
        if variance > 0 then marginal.map (· / variance)
        else List.replicate n 0
      marginalVariance := marginal }

end Warehouse
