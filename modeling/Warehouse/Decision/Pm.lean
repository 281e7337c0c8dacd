/-
Portfolio Manager — 7-axiom diagnostic over specialist legs
(`decision/pm.py`), and the working set and bundle it reads
(`messaging/payloads.py`).

Axioms are scored from the bundle's legs alone, a function each; the fifth
has no engine and is never computed. The headline counts scores, breaches
before warnings before gaps. Where a score has thresholds, they are
settings.
-/
import Warehouse.Config
import Warehouse.Decision.Attribution
import Warehouse.Decision.Monitor
import Warehouse.Decision.OptimizerModels
import Warehouse.Decision.Qp
import Warehouse.Decision.TaxScenarios
import Warehouse.Research.Service

namespace Warehouse

open Lib

/-- Portfolio-Manager working set — the (P, IPS) artifact, sliced per
op. -/
structure PmAdvisePayload where
  householdId : String
  positions : List LotPositionView
  ips : InvestmentPolicyStatement
  manifest : AssetPortfolio
  request : RiskRequest
  taxOverlays : TaxScenarioOverlays := {}
  cohortId : Option String := none
  asOfDate : Option Date := none

/-- How one axiom scores, `notComputed` where its inputs are missing. -/
inductive AxiomScore where
  | pass
  | warn
  | breach
  | notComputed
  deriving DecidableEq, Repr

/-- 7-axiom diagnostic — audit snapshot. -/
structure PmNarrative where
  correlationId : String
  axiomsScored : Dict String AxiomScore
  headline : String
  specialistStatus : Dict String String

/-- Portfolio-Manager advisory output — mutates nothing. -/
structure AdviceBundle where
  risk : RiskResult
  proposal : OptimizationResult
  tax : TaxScenarioResult
  drift : IpsDriftReport
  attribution : Option AttributionReport := none
  narrative : Option PmNarrative := none

/-- Which specialists are live. -/
def specialistStatus : Dict String String :=
  Dict.ofPairs [("risk", "live"), ("analyst", "live"), ("optimizer", "live"),
    ("tax", "stub")]

-- ============================================================== the axioms

/-- Risk was measured: the volatility is positive. -/
def scoreAxiom1 (bundle : AdviceBundle) : AxiomScore :=
  if bundle.risk.report.level1Portfolio.annualizedVolatility.value > 0 then
    .pass
  else .notComputed

/-- Effective bets: the inverse of the shares' sum of squares. -/
def scoreAxiom2 (bundle : AdviceBundle) (settings : Settings) : AxiomScore :=
  let contribs := bundle.risk.report.level2Contributions.byClass
  if contribs.isEmpty then .notComputed
  else
    let shares := contribs.map (·.pctVarianceContribution)
    let hhi := (shares.map fun s => s * s).sum
    if hhi ≤ 0 then .notComputed
    else
      let effectiveBets := 1 / hhi
      if effectiveBets ≥ settings.pmEffectiveBetsPass then .pass
      else if effectiveBets ≥ settings.pmEffectiveBetsWarn then .warn
      else .breach

/-- Concentration: any alert is a breach. -/
def scoreAxiom3 (bundle : AdviceBundle) : AxiomScore :=
  if bundle.drift.concentrationAlerts.isEmpty then .pass else .breach

/-- Stress: the worst scenario against the two thresholds. -/
def scoreAxiom4 (bundle : AdviceBundle) (settings : Settings) : AxiomScore :=
  let scenarios := bundle.risk.report.level4Stress.scenarios
  if scenarios.isEmpty then .notComputed
  else
    let worst := minOf (scenarios.map (·.portfolioReturn.value))
    if worst ≤ settings.pmStressBreach then .breach
    else if worst ≤ settings.pmStressWarn then .warn
    else .pass

/-- Rebalancing: more binding constraints than the limit warn. -/
def scoreAxiom6 (bundle : AdviceBundle) (settings : Settings) : AxiomScore :=
  if bundle.proposal.bindingConstraints.length
      > settings.pmBindingConstraintWarn then .warn
  else .pass

/-- Policy: any alert is a breach, a large drift inside the bands warns. -/
def scoreAxiom7 (bundle : AdviceBundle) (settings : Settings) : AxiomScore :=
  if !bundle.drift.alerts.isEmpty then .breach
  else if bundle.drift.rows.isEmpty then .notComputed
  else
    let maxDrift := maxOf (bundle.drift.rows.map fun row => |row.drift|)
    if maxDrift > settings.pmDriftWarn then .warn else .pass

/-- The headline: breaches before warnings before gaps. -/
def buildHeadline (scores : Dict String AxiomScore) : String :=
  let breaches := scores.values.count .breach
  let warns := scores.values.count .warn
  let notComputed := scores.values.count .notComputed
  if breaches > 0 then
    toString breaches ++ " axiom breach(es) — whole-book review required"
  else if warns > 0 then
    toString warns ++ " axiom warn(s) — monitor limits and drift"
  else if notComputed > 0 then
    "book within measured tolerance; margin-of-safety not yet scored"
  else "whole-book diagnostic within tolerance"

/-- Score the checklist from the specialist legs' outputs. -/
def scorePmAxioms (bundle : AdviceBundle) (settings : Settings)
    (correlationId : String) : PmNarrative :=
  let scores := Dict.ofPairs
    [("axiom_1", scoreAxiom1 bundle),
     ("axiom_2", scoreAxiom2 bundle settings),
     ("axiom_3", scoreAxiom3 bundle),
     ("axiom_4", scoreAxiom4 bundle settings),
     ("axiom_5", .notComputed),
     ("axiom_6", scoreAxiom6 bundle settings),
     ("axiom_7", scoreAxiom7 bundle settings)]
  { correlationId := correlationId
    axiomsScored := scores
    headline := buildHeadline scores
    specialistStatus := specialistStatus }

end Warehouse
