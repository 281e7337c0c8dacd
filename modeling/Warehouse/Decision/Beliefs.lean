/-
Bayesian belief engine (`decision/beliefs/__init__.py`, and the records of
`decision/beliefs/models.py` the blend does not read).

Pure and advisory: an update reads the passed book and the pinned priors.
`clockToday` is what `date.today()` answers.

The universe is what the book holds at a mark and what the policy targets,
in the order of the enum. The posterior's expected returns replace the
priors', and the rebalance is run on the result; nothing else of the
assumptions changes.
-/
import Warehouse.Decision.BlackLitterman
import Warehouse.Decision.Pm
import Warehouse.Decision.Rebalance

namespace Warehouse

open Lib

/-- The prior μ, v0: the shipped ex-ante class assumption. -/
structure PriorBelief where
  mu : Dict IpsSleeve ℚ
  priorSource : String := "class_assumption"
  assumptionsVersion : String

/-- The belief-journal entry. -/
structure BeliefUpdate where
  correlationId : String
  asOfDate : Date
  prior : PriorBelief
  views : List (View IpsSleeve)
  posterior : PosteriorBelief IpsSleeve
  beliefConfigVersion : String
  calibration : String := "not_computed"

/-- The name of a sleeve in the enum. -/
def IpsSleeve.name : IpsSleeve → String
  | .equity => "EQUITY"
  | .fixedIncome => "FIXED_INCOME"
  | .commodities => "COMMODITIES"
  | .fx => "FX"
  | .alternatives => "ALTERNATIVES"
  | .cash => "CASH"

/-- How Python shows a sleeve. -/
def ipsSleeveNames : SleeveNames IpsSleeve where
  repr s := "<IpsSleeve." ++ s.name ++ ": '" ++ s.value ++ "'>"
  value := IpsSleeve.value

/-- Positions ∪ IPS targets, in enum order. -/
def beliefUniverse (positions : List LotPositionView)
    (ips : InvestmentPolicyStatement) : List IpsSleeve :=
  let held := positions.filter fun p => p.marketValue.isSome
  let present := held.map ipsSleeveForPosition
    ++ ips.allocationTargets.map (·.assetClass)
  IpsSleeve.all.filter fun s => s ∈ present

/-- Prior μ, labelled an assumption and not an equilibrium. -/
def buildPrior (positions : List LotPositionView)
    (ips : InvestmentPolicyStatement) (assumptions : Option RiskAssumptions) :
    Except Exc PriorBelief := do
  let priors ← assumptionsOr assumptions "base"
  return {
    mu := Dict.tabulate (beliefUniverse positions ips) fun s =>
      priors.classExpectedReturn (riskClassFor s)
    assumptionsVersion := priors.modelVersion }

/-- Blend the book's prior μ with views. -/
def updateBeliefs (settings : Settings) (clockToday : Date)
    (book : PmAdvisePayload) (views : List (View IpsSleeve))
    (correlationId : String) (asOfDate : Option Date) :
    Except Exc BeliefUpdate := do
  let priors ← assumptionsFor "base"
  let prior ← buildPrior book.positions book.ips (some priors)
  let sigma := covarianceMatrix priors prior.mu.keys
  let posterior ← blackLitterman ipsSleeveNames prior.mu sigma views
    settings.blackLittermanTau
  return {
    correlationId := correlationId
    asOfDate := (asOfDate.orElse fun _ => book.asOfDate).getD clockToday
    prior := prior
    views := views
    posterior := posterior
    beliefConfigVersion := settings.beliefConfigVersion }

/-- The priors, their expected returns overridden by the posterior μ. -/
def posteriorPriors (priors : RiskAssumptions)
    (posterior : PosteriorBelief IpsSleeve) : RiskAssumptions :=
  { priors with
    classExpectedReturn :=
      posterior.mu.override riskClassFor priors.classExpectedReturn }

/-- Feed the posterior μ into the QP. -/
def rebalanceOnPosterior (cfg : Settings) (book : PmAdvisePayload)
    (posterior : PosteriorBelief IpsSleeve) (computeStress : Bool) :
    Except Exc RebalanceProposal := do
  let priors ← assumptionsFor "base"
  runMvRebalance book.positions book.ips
    (some (posteriorPriors priors posterior)) cfg none computeStress none

end Warehouse
