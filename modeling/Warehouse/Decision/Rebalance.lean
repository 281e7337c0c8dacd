/-
Constrained mean-variance rebalance and its stress overlay
(`decision/optimizer/rebalance.py`, `robust.py`,
`decision/tax/estimator.py`).

The source is one long function; here each of its stages is a function
of its own, in the source's order, and `rebalanceCore` runs them. It is
the call with `compute_stress=False`, which is also the overlay's inner
call.

# The stages

Current weights and targets make up the universe, priors and the tax drag
its returns, and the policy its box; the solver's point is quantized inside
the box, taken back towards the current weights where the turnover budget
asks for it, and re-checked. What is reported is computed from the quantized
weights. A sleeve without a target is free between nought and one.

# Exact and rounded

Floats and decimals are rationals here: the solver's iterates are exact, and
what the source quantizes on purpose is quantized (`quantizeBox`, and the
objective).
-/
import Warehouse.Config
import Warehouse.Decision.OptimizerModels
import Warehouse.Decision.Qp
import Warehouse.Research.Covariance

namespace Warehouse

open Lib

/-- Explicit, total sleeve→risk map. -/
def riskClassFor : IpsSleeve → RiskClass
  | .equity => .equity
  | .fixedIncome => .fixedIncome
  | .commodities => .commodities
  | .fx => .fx
  | .alternatives => .alternatives
  | .cash => .cash

/-- Per-sleeve after-tax drag, subtracted from the ex-ante class return. -/
structure TaxEstimator where
  isZero : Bool
  sleeveMuDrag : List IpsSleeve → Settings → Dict IpsSleeve ℚ

/-- Identity overlay, the seam default. -/
def zeroTaxEstimator : TaxEstimator where
  isZero := true
  sleeveMuDrag sleeves _ := Dict.tabulate sleeves fun _ => 0

/-- The weights the book has now; a book worth nothing is refused. -/
def currentWeights (positions : List LotPositionView) :
    Except Exc (Dict IpsSleeve ℚ) :=
  let totalMv := totalMarketValue positions
  if totalMv ≤ 0 then
    .error (.valueError "cannot rebalance — portfolio has no market value")
  else .ok (sleeveWeights totalMv positions)

-- ============================================================== the problem

/-- The targets by sleeve, a repeated sleeve keeping its last. -/
def targetByClass (ips : InvestmentPolicyStatement) :
    Dict IpsSleeve AllocationTarget :=
  Dict.ofPairs (ips.allocationTargets.map fun t => (t.assetClass, t))

/-- Sleeves in positions ∪ sleeves in IPS targets, in enum order. -/
def sleeveUniverse (current : Dict IpsSleeve ℚ)
    (targets : Dict IpsSleeve AllocationTarget) : List IpsSleeve :=
  IpsSleeve.all.filter fun s => s ∈ current.keys ∨ s ∈ targets.keys

/-- `μ`, less the drag of an estimator that is not the identity. -/
def expectedReturns (priors : RiskAssumptions) (estimator : TaxEstimator)
    (cfg : Settings) (sleeves : List IpsSleeve) : List ℚ :=
  let mu := sleeves.map fun s => priors.classExpectedReturn (riskClassFor s)
  if estimator.isZero then mu
  else
    let drag := estimator.sleeveMuDrag sleeves cfg
    sleeves.map fun s =>
      priors.classExpectedReturn (riskClassFor s) - (drag.get? s).getD 0

/-- `Σ`. -/
def covarianceMatrix (priors : RiskAssumptions) (sleeves : List IpsSleeve) :
    List (List ℚ) :=
  sleeves.map fun left => sleeves.map fun right =>
    priors.classAnnualVol (riskClassFor left)
      * priors.classAnnualVol (riskClassFor right)
      * priors.pairwiseCorrelation (riskClassFor left) (riskClassFor right)

/-- A sleeve's box; without an IPS policy it is free in `[0, 1]`. -/
def sleeveBox (targets : Dict IpsSleeve AllocationTarget) (s : IpsSleeve) :
    ℚ × ℚ :=
  match targets.get? s with
  | none => (0, 1)
  | some target => (target.minWeight, target.maxWeight)

-- ============================================================== the targets

/-- Clip into the box, then quantize. -/
def quantizeBox (wMin wMax : List ℚ) (value : ℚ) (i : Nat) : ℚ :=
  quantize 6 (min (max value (item wMin i)) (item wMax i))

/-- The solver's weights, quantized within their bounds. -/
def quantizedTargets (sleeves : List IpsSleeve) (wMin wMax w : List ℚ) :
    Dict IpsSleeve ℚ :=
  Dict.enumerated sleeves fun i _ => quantizeBox wMin wMax (item w i) i

/-- A weight a dictionary may not have. -/
def weightOf (weights : Dict IpsSleeve ℚ) (s : IpsSleeve) : ℚ :=
  (weights.get? s).getD 0

/-- Two-way turnover between two sets of weights. -/
def turnoverL1 (sleeves : List IpsSleeve) (target current : Dict IpsSleeve ℚ) :
    ℚ :=
  (sleeves.map fun s => |weightOf target s - weightOf current s|).sum

/-- The budget-scaled convex step towards the optimum. -/
def budgetStep (sleeves : List IpsSleeve) (unconstrained current :
    Dict IpsSleeve ℚ) (alpha : ℚ) : List ℚ :=
  sleeves.map fun s =>
    weightOf current s
      + alpha * (weightOf unconstrained s - weightOf current s)

/-- The turnover cap: whether it binds, and the targets under it. -/
def cappedTargets (sleeves : List IpsSleeve) (wMin wMax : List ℚ)
    (turnoverBudget : Option ℚ) (unconstrained current : Dict IpsSleeve ℚ) :
    Bool × Dict IpsSleeve ℚ :=
  let unconstrainedL1 := turnoverL1 sleeves unconstrained current
  match turnoverBudget with
  | none => (false, unconstrained)
  | some budget =>
      if unconstrainedL1 > budget then
        let step := budgetStep sleeves unconstrained current
          (budget / unconstrainedL1)
        -- the projection restores the box where the current weights breach it
        (true, quantizedTargets sleeves wMin wMax
          (projectCappedSimplex step wMin wMax))
      else (false, unconstrained)

/-- Sum-budget re-assertion tolerance after quantization. -/
def sumTolerance : ℚ := 1 / 10 ^ 4

/-- A bound is binding when the target sits within this of it. -/
def bindTolerance : ℚ := 5 / 10 ^ 4

-- ============================================================== the report

/-- `w_current − target_weight`, 0 without a target. -/
def policyDrift (sleeves : List IpsSleeve)
    (targets : Dict IpsSleeve AllocationTarget)
    (current : Dict IpsSleeve ℚ) : Dict IpsSleeve ℚ :=
  Dict.tabulate sleeves fun s =>
    match targets.get? s with
    | none => 0
    | some target => weightOf current s - target.targetWeight

/-- A tag a sleeve whose target weight lies on a bound, the upper one looked at
first. -/
def bindingBounds (sleeves : List IpsSleeve)
    (targets : Dict IpsSleeve AllocationTarget)
    (targetWeights : Dict IpsSleeve ℚ) : List String :=
  sleeves.flatMap fun s =>
    match targets.get? s with
    | none => []
    | some target =>
        let w := weightOf targetWeights s
        if |w - target.maxWeight| ≤ bindTolerance then
          ["ips_max:" ++ s.value]
        else if |w - target.minWeight| ≤ bindTolerance then
          ["ips_min:" ++ s.value]
        else []

/-- One risk state per sleeve, its slot validated. -/
def riskStates (priors : RiskAssumptions) (targetWeights : Dict IpsSleeve ℚ)
    (sleeves : List IpsSleeve) : Except Exc (List SleeveRiskState) :=
  sleeves.mapM fun s => do
    let slot ← AllocationSlot.validated (riskClassFor s)
      (weightOf targetWeights s)
    return { slot := slot
             annualVolatility := priors.classAnnualVol (riskClassFor s)
             measurement := "model_prior" }

/-- `w*ᵀμ − (λ/2)·w*ᵀΣw*`. -/
def objective (sleeves : List IpsSleeve) (mu : List ℚ)
    (sigma : List (List ℚ)) (lam : ℚ) (targetWeights : Dict IpsSleeve ℚ) : ℚ :=
  let n := sleeves.length
  let w := sleeves.map (weightOf targetWeights)
  let quad := sumRange n fun i => sumRange n fun j =>
    item w i * item (sigma.getD i []) j * item w j
  let linear := sumRange n fun i => item w i * item mu i
  linear - 1 / 2 * lam * quad

/-- The rebalance without its stress overlay. -/
def rebalanceCore (positions : List LotPositionView)
    (ips : InvestmentPolicyStatement) (priors : RiskAssumptions)
    (cfg : Settings) (estimator : TaxEstimator) :
    Except Exc RebalanceProposal := do
  let held ← currentWeights positions
  let targets := targetByClass ips
  let sleeves := sleeveUniverse held targets
  let mu := expectedReturns priors estimator cfg sleeves
  let sigma := covarianceMatrix priors sleeves
  let wMin := sleeves.map fun s => (sleeveBox targets s).1
  let wMax := sleeves.map fun s => (sleeveBox targets s).2
  let lam := cfg.riskAversionLambda
  let wStar ← solveQp mu sigma wMin wMax lam cfg.qpTolerance cfg.qpMaxIters
  let current := Dict.tabulate sleeves (weightOf held)
  let unconstrained := quantizedTargets sleeves wMin wMax wStar
  let (turnoverBinding, targetWeights) := cappedTargets sleeves wMin wMax
    ips.turnoverBudgetPct unconstrained current
  let total := targetWeights.values.sum
  if |total - 1| > sumTolerance then
    throw (.optimizerInfeasible ("target weights sum to "
      ++ formatFixed 6 total ++ ", not 1 within 0.0001; "
      ++ "projection or quantization is wrong"))
  else
    let deltaW := Dict.tabulate sleeves fun s =>
      weightOf targetWeights s - weightOf current s
    let states ← riskStates priors targetWeights sleeves
    let cov := portfolioCovariance states priors
    return {
      targetWeights := targetWeights
      currentWeights := current
      deltaW := deltaW
      policyDrift := policyDrift sleeves targets current
      bindingBounds := bindingBounds sleeves targets targetWeights
      unboundedSleeves :=
        sleeves.filter fun s => (targets.get? s).isNone
      illiquidAdvisorySleeves :=
        if .alternatives ∈ sleeves then [.alternatives] else []
      riskContributions := Dict.enumerated sleeves fun i _ =>
        item cov.pctVarianceContributions i
      turnoverL1 := turnoverL1 sleeves targetWeights current
      turnoverBudget := ips.turnoverBudgetPct
      turnoverBinding := turnoverBinding
      unconstrainedTurnoverL1 := turnoverL1 sleeves unconstrained current
      objectiveValue := quantize 8 (objective sleeves mu sigma lam
        targetWeights)
      lam := lam
      configVersion := cfg.optimizerConfigVersion }

/-- `assumptions or assumptions_for(name)`. -/
def assumptionsOr (assumptions : Option RiskAssumptions) (name : String) :
    Except Exc RiskAssumptions :=
  match assumptions with
  | some assumptions => .ok assumptions
  | none => assumptionsFor name

-- ================================================================== stress

/-- Re-solve under the crisis priors; the overlay's fields beside the base
proposal's. -/
def computeStressOverlay (positions : List LotPositionView)
    (ips : InvestmentPolicyStatement) (base : RebalanceProposal)
    (cfg : Settings) (stressAssumptions : Option RiskAssumptions) :
    Except Exc RebalanceProposal := do
  let regime := cfg.optimizerStressRegime
  let priors ← assumptionsOr stressAssumptions regime
  let stress ← rebalanceCore positions ips priors cfg zeroTaxEstimator
  let reported := base.targetWeights.keys ++ stress.targetWeights.keys.filter
    fun s => s ∉ base.targetWeights.keys
  let stressDeltaW := Dict.tabulate reported fun s =>
    weightOf stress.targetWeights s - weightOf base.targetWeights s
  return { base with
    stressRegime := some regime
    stressTargetWeights := stress.targetWeights
    stressDeltaW := stressDeltaW
    regimeGapL1 := (stressDeltaW.values.map fun d => |d|).sum
    stressObjectiveValue := stress.objectiveValue
    stressRiskContributions := stress.riskContributions }

/-- Constrained MV QP over sleeve weights → advisory proposal. -/
def runMvRebalance (positions : List LotPositionView)
    (ips : InvestmentPolicyStatement)
    (assumptions : Option RiskAssumptions) (cfg : Settings)
    (taxEstimator : Option TaxEstimator) (computeStress : Bool)
    (stressAssumptions : Option RiskAssumptions) :
    Except Exc RebalanceProposal := do
  let priors ← assumptionsOr assumptions "base"
  let base ← rebalanceCore positions ips priors cfg
    (taxEstimator.getD zeroTaxEstimator)
  if computeStress then
    computeStressOverlay positions ips base cfg stressAssumptions
  else return base

end Warehouse
