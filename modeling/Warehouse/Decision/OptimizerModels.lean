/-
What the optimizers return (`decision/optimizer/__init__.py`,
`models.py`).

The harvesters and the rebalance share one record: trades and binding tags,
and beside them an advisory proposal that trades nothing. Weights are keyed
by the policy's sleeves, in dictionaries that keep the order they were
filled in.
-/
import Warehouse.Decision.Ips

namespace Warehouse

open Lib

/-- `TradeProposal`: one sale, and why. -/
structure TradeProposal where
  lotId : Option String := none
  securityId : String
  accountId : String
  side : String
  quantity : ℚ
  rationale : String
  deriving DecidableEq

/-- Advisory constrained-MV target — w*/Δw/RC, no trade. -/
structure RebalanceProposal where
  targetWeights : Dict IpsSleeve ℚ
  currentWeights : Dict IpsSleeve ℚ
  deltaW : Dict IpsSleeve ℚ
  policyDrift : Dict IpsSleeve ℚ
  bindingBounds : List String := []
  unboundedSleeves : List IpsSleeve := []
  illiquidAdvisorySleeves : List IpsSleeve := []
  riskContributions : Dict IpsSleeve ℚ
  turnoverL1 : ℚ
  turnoverBudget : Option ℚ := none
  turnoverBinding : Bool := false
  unconstrainedTurnoverL1 : ℚ := 0
  objectiveValue : ℚ
  muSource : String := "ex_ante_class_assumption"
  lam : ℚ
  configVersion : String
  stressRegime : Option String := none
  stressTargetWeights : Dict IpsSleeve ℚ := Dict.empty
  stressDeltaW : Dict IpsSleeve ℚ := Dict.empty
  regimeGapL1 : ℚ := 0
  stressObjectiveValue : ℚ := 0
  stressRiskContributions : Dict IpsSleeve ℚ := Dict.empty

/-- v0 TLH `trades` + breach flags, plus the additive po0 `rebalance`. -/
structure OptimizationResult where
  householdId : String
  configVersion : String
  trades : List TradeProposal
  estimatedTaxDelta : ℚ
  bindingConstraints : List String := []
  rebalance : Option RebalanceProposal := none

end Warehouse
