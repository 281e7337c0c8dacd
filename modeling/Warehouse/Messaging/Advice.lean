/-
The EVALUATE ops and the composite over them (`messaging/handlers.py`,
`messaging/payloads.py`).

The handlers are pure and ignore their context but for its correlation
id. A nested dispatch is a call of the handler its op is registered
with. `clockToday` is what `date.today()` answers during the dispatch.
-/
import Warehouse.Decision.Heuristics
import Warehouse.Decision.Pm
import Warehouse.Decision.Rebalance

namespace Warehouse

/-- What the risk specialist is asked with. -/
structure RiskEvaluatePayload where
  request : RiskRequest
  manifest : AssetPortfolio

/-- What the policy specialist is asked with. -/
structure PolicyCheckPayload where
  householdId : String
  positions : List LotPositionView
  ips : InvestmentPolicyStatement

/-- What the optimizer is asked with. -/
structure OptimizePayload where
  householdId : String
  positions : List LotPositionView
  ips : InvestmentPolicyStatement

/-- What the tax specialist is asked with. -/
structure TaxScenarioPayload where
  positions : List LotPositionView
  overlays : TaxScenarioOverlays := {}

/-- Portfolio-Analyst attribution leg — per-position decomposition. -/
structure AttributionEvaluatePayload where
  householdId : String
  positions : List LotPositionView
  asOfDate : Option Date := none

-- ================================================================ the legs

/-- The risk of the manifest the payload brings. -/
def riskEvaluate (rt : RiskRuntime) (p : RiskEvaluatePayload) :
    Except Exc RiskResult :=
  evaluateRisk rt p.request p.manifest

/-- The drift report of the positions the payload brings. -/
def policyCheck (p : PolicyCheckPayload) : IpsDriftReport :=
  buildIpsDriftReportFromViews p.householdId p.positions p.ips

/-- Both engines behind the one op. The payload has no date of its own, and
the harvester is not given one. -/
def optimizerPropose (settings : Settings) (clockToday : Date)
    (p : OptimizePayload) : Except Exc OptimizationResult := do
  let result ← runTaxAwareOptimizer p.householdId p.positions p.ips settings
    none clockToday
  let rebalance ← runMvRebalance p.positions p.ips none settings none true none
  return { result with rebalance := some rebalance }

/-- The scenario under the payload's overlays; the positions are not read. -/
def taxScenario (p : TaxScenarioPayload) : TaxScenarioResult :=
  evaluateTaxScenario (some p.overlays)

/-- Attribution against the base priors' expected returns. -/
def attributionEvaluate (ctx : DecimalContext) (settings : Settings)
    (clockToday : Date) (p : AttributionEvaluatePayload) :
    Except Exc AttributionReport := do
  let assumptions ← assumptionsFor "base"
  evaluateAttribution ctx p.positions
    (fun c => some (assumptions.classExpectedReturn c)) p.householdId
    (p.asOfDate.getD clockToday) settings.analystConfigVersion
    settings.analystMinHoldingYears

-- =========================================================== the composite

/-- The bundle of the legs' results, with the narrative scored over it. -/
def adviceBundle (settings : Settings) (correlationId : String)
    (risk : RiskResult) (drift : IpsDriftReport) (proposal : OptimizationResult)
    (attribution : AttributionReport) (tax : TaxScenarioResult) :
    AdviceBundle :=
  let bundle : AdviceBundle :=
    { risk := risk
      proposal := proposal
      tax := tax
      drift := drift
      attribution := some attribution }
  { bundle with
    narrative := some (scorePmAxioms bundle settings correlationId) }

/-- Pure advisory fan-out: each leg in turn, under one correlation id. -/
def pmAdvise (rt : RiskRuntime) (settings : Settings) (correlationId : String)
    (clockToday : Date) (p : PmAdvisePayload) : Except Exc AdviceBundle := do
  let risk ← riskEvaluate rt { request := p.request, manifest := p.manifest }
  let drift := policyCheck
    { householdId := p.householdId, positions := p.positions, ips := p.ips }
  let proposal ← optimizerPropose settings clockToday
    { householdId := p.householdId, positions := p.positions, ips := p.ips }
  let attribution ← attributionEvaluate rt.decimal settings clockToday
    { householdId := p.householdId
      positions := p.positions
      asOfDate := p.asOfDate }
  let tax := taxScenario
    { positions := p.positions, overlays := p.taxOverlays }
  return adviceBundle settings correlationId risk drift proposal attribution tax

end Warehouse
