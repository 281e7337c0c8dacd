/-
Risk API service — pure `evaluate_risk` entry point
(`research/risk/service.py`, and the positive-semidefiniteness check of
`scenarios.py` it runs).

A request asks for a base report, for the regimes of a scenario set beside
it, and for the deltas an overlay causes. An overlay's stress pack selects
scenarios in the proposed report only. A caller's own priors are tested for
positive semidefiniteness unless they go by a name of the catalog.
-/
import Warehouse.Research.Engine
import Warehouse.Research.Overlay

namespace Warehouse

open Lib

/-- What the risk plane takes from outside: the decimal context, the
fingerprint's digest, and numpy's least eigenvalue of a symmetric
matrix. -/
structure RiskRuntime where
  decimal : DecimalContext
  digest : FingerprintPayload → String
  minEigenvalue : List (List ℚ) → ℚ

/-- `ScenarioSet`: the regimes a request asks for. -/
inductive ScenarioSet where
  | none
  | highRisk
  | lowRisk
  | all
  deriving DecidableEq, Repr

/-- What a risk evaluation is asked with, the manifest aside. -/
structure RiskRequest where
  horizon : RiskHorizon
  notionalUsd : Option ℚ := none
  runScenarios : ScenarioSet := .none
  overlay : Option ManifestOverlay := none

/-- `RiskResult`: the base report, the scenarios' and the deltas an overlay
causes. -/
structure RiskResult where
  report : PortfolioRiskReport
  scenarios : Dict String PortfolioRiskReport := Dict.empty
  deltas : Option RiskDeltas := none

-- ============================================================= the priors

/-- `list(AssetClass)`. -/
def RiskClass.all : List RiskClass :=
  [equity, fixedIncome, commodities, fx, alternatives, cash]

/-- `_correlation_matrix`: every class against every class. -/
def correlationMatrix (assumptions : RiskAssumptions) : List (List ℚ) :=
  RiskClass.all.map fun left => RiskClass.all.map fun right =>
    assumptions.pairwiseCorrelation left right

/-- The eigenvalue below which a matrix fails. -/
def psdTolerance : ℚ := 1 / 10 ^ 8

/-- `validate_correlation_psd`: the smallest eigenvalue, with the tolerance
below zero. -/
def validateCorrelationPsd (rt : RiskRuntime) (assumptions : RiskAssumptions) :
    Except Exc Unit :=
  let minEval := rt.minEigenvalue (correlationMatrix assumptions)
  if minEval < -psdTolerance then
    .error (.valueError (assumptions.regime
      ++ " correlation matrix not PSD: min eigenvalue "
      ++ formatFixed 6 minEval))
  else .ok ()

/-- A set under one of the catalog's names is taken as it is. -/
def resolveAssumptions (rt : RiskRuntime)
    (assumptions : Option RiskAssumptions) : Except Exc RiskAssumptions :=
  match assumptions with
  | none => assumptionsFor "base"
  | some assumptions => do
      if assumptions.regime ∉ ["base", "high_risk", "low_risk"] then
        validateCorrelationPsd rt assumptions
      return assumptions

/-- The regimes a scenario set asks for, in the order they are run. -/
def scenarioRegimes : ScenarioSet → List String
  | .none => []
  | .highRisk => ["high_risk"]
  | .lowRisk => ["low_risk"]
  | .all => ["high_risk", "low_risk"]

-- ============================================================ the service

/-- `_evaluate_report`: one manifest under one set of priors. -/
def evaluateReport (rt : RiskRuntime) (manifest : AssetPortfolio)
    (request : RiskRequest) (assumptions : RiskAssumptions)
    (stressFilter : Option String := none) : Except Exc PortfolioRiskReport :=
  evaluatePortfolioRisk rt.decimal rt.digest manifest request.horizon
    request.notionalUsd (some assumptions) stressFilter

/-- `_evaluate_deltas`: the overlaid manifest's report against the baseline. -/
def evaluateDeltas (rt : RiskRuntime) (baseline : PortfolioRiskReport)
    (request : RiskRequest) (overlay : ManifestOverlay)
    (manifest : AssetPortfolio) (assumptions : RiskAssumptions) :
    Except Exc RiskDeltas := do
  let derived ← applyOverlay rt.decimal manifest overlay
  let proposed ← evaluateReport rt derived request assumptions
    overlay.stressPack
  return diffReports baseline proposed overlay.label

/-- One regime of the scenario loop. -/
def scenarioReport (rt : RiskRuntime) (manifest : AssetPortfolio)
    (request : RiskRequest) (regime : String) :
    Except Exc (String × PortfolioRiskReport) := do
  let alt ← assumptionsFor regime
  let report ← evaluateReport rt manifest request alt
  return (regime, report)

/-- Evaluate portfolio risk; optional overlay produces `RiskDeltas`. -/
def evaluateRisk (rt : RiskRuntime) (request : RiskRequest)
    (manifest : AssetPortfolio)
    (assumptions : Option RiskAssumptions := none) :
    Except Exc RiskResult := do
  let priors ← resolveAssumptions rt assumptions
  let report ← evaluateReport rt manifest request priors
  let scenarios ← (scenarioRegimes request.runScenarios).mapM
    (scenarioReport rt manifest request)
  let deltas ← match request.overlay with
    | none => Except.ok none
    | some overlay =>
        (evaluateDeltas rt report request overlay manifest priors).map some
  return {
    report := report
    scenarios := Dict.ofPairs scenarios
    deltas := deltas }

end Warehouse
