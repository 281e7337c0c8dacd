/-
In-process workflow smokes (`research/synthetic/workflow_smoke.py`): each
check drives one leg of the live stack on a generated household and says
how it went. With it the scenario card the research leg builds
(`scenario_card.py`) and the working set the PM leg advises on
(`decision/pm.py`, `build_working_set_from_bundle`).

A leg the source runs inside `try` reports its exception as a failed check
(`surfaced`); the others raise out of the smoke.

# A smoke

The checks run in the source's order on one bundle, and a smoke is fine when
all of them are. The matrix runs one for every combination of cohort, rung
and seed it is given, or for the default ones, and counts. Where no day is
given it is a fixed one, so the ages of marks and lots do not depend on when
a smoke is run.
-/
import Warehouse.Decision.Heuristics
import Warehouse.Messaging.Advice
import Warehouse.Research.FixtureViews
import Warehouse.Research.WalkForward

namespace Warehouse

open Lib

/-- One check of one workflow, with what it saw. -/
structure WorkflowSmokeCheck where
  workflow : String
  ok : Bool
  detail : String
  deriving DecidableEq

/-- The checks of one household. -/
structure WorkflowSmokeResult where
  cohortId : String
  seed : Int
  rung : Int
  checks : List WorkflowSmokeCheck := []
  deriving DecidableEq

/-- Every check passed; so a household without checks passes too. -/
def WorkflowSmokeResult.ok (result : WorkflowSmokeResult) : Bool :=
  result.checks.all (·.ok)

/-- What a smoke takes from outside: the generator's draws, the risk
plane's runtime, the settings and the day it is run. -/
structure SmokeSite where
  synthetic : SyntheticRuntime
  risk : RiskRuntime
  settings : AppSettings
  clockToday : Date

-- ========================================================== the working set

/-- `RiskHorizon(years=…)`, with its validation. -/
def RiskHorizon.create (years : ℚ) : Except Exc RiskHorizon :=
  if h : 0 < years ∧ years ≤ 50 then .ok ⟨years, h⟩
  else .error (.validationError "RiskHorizon" "years")

/-- Fixed as-of for deterministic, walk-forward-safe workflow smokes. -/
def smokeAsOfDate (_fixture : HouseholdFixture) : Date := dateOf 2026 6 27

/-- The household's lots as positions, restricted by its own statement. -/
def bundlePositions (bundle : SyntheticHouseholdBundle) :
    Except Exc (List LotPositionView) :=
  lotPositionsFromFixture bundle.fixture
    (some bundle.ips.restrictedSecurities)

/-- In-process HNW path — reuses the fixture's views (no DB). -/
def buildWorkingSetFromBundle (settings : AppSettings)
    (bundle : SyntheticHouseholdBundle) (asOfDate : Option Date := none) :
    Except Exc PmAdvisePayload := do
  let fixture := bundle.fixture
  let positions ← bundlePositions bundle
  match fixture.assetPortfolio with
  | none => throw (.valueError ("fixture " ++ fixture.householdId
      ++ " missing asset_portfolio"))
  | some manifest =>
      let horizon ← RiskHorizon.create settings.riskDashboardHorizonYears
      return {
        householdId := fixture.householdId
        positions := positions
        ips := bundle.ips
        manifest := manifest
        request :=
          { horizon := horizon, notionalUsd := some fixture.totalNavUsd }
        cohortId := some fixture.provenance.cohortId
        asOfDate := asOfDate }

-- ============================================================ scenario cards

/-- `_DEFAULT_NAV`. -/
def defaultNav : ℚ := 10000000

/-- Shape C provenance for historic replay. -/
structure ScenarioCard where
  scenarioId : String
  cohortId : String
  seed : Int
  rung : Int
  generatorVersion : String
  horizonYears : String := "5"
  runScenarios : String := "none"
  riskFingerprint : String
  ipsId : Option String := none
  bindingConstraintsCount : Nat := 0
  tensionTags : List String := []
  deriving DecidableEq

/-- The scenario set as requests spell it. -/
def ScenarioSet.value : ScenarioSet → String
  | none => "none"
  | highRisk => "high_risk"
  | lowRisk => "low_risk"
  | all => "all"

/-- `_RUNG_COHORT`. -/
def defaultCohortForRung (rung : Int) : Except Exc String :=
  if rung = 3 then .ok "general_hnw"
  else if rung = 4 then .ok "concentrated_stress"
  else .error (.valueError ("no default cohort for rung " ++ toString rung))

/-- The card of one emitted household: its manifest and its risk under the asked
scenarios. -/
def buildScenarioCard (site : SmokeSite) (rungLevel seed : Int)
    (cohortId : Option String) (runScenarios : ScenarioSet := .none) :
    Except Exc ScenarioCard := do
  let cohort ← if truthy cohortId then pure (cohortId.getD "")
    else defaultCohortForRung rungLevel
  let bundle ← emitSyntheticHousehold site.synthetic cohort seed rungLevel none
    defaultNav true none
  match bundle.fixture.assetPortfolio with
  | none => throw (.runtimeError
      "synthetic household missing Shape A projection")
  | some portfolio =>
      let horizon ← RiskHorizon.create 5
      let result ← evaluateRisk site.risk
        { horizon := horizon, runScenarios := runScenarios } portfolio
      return {
        scenarioId := portfolio.cohortId.getD "None" ++ "-r"
          ++ toString rungLevel ++ "-s" ++ toString seed
        cohortId := if truthy portfolio.cohortId then
          portfolio.cohortId.getD "" else "unknown"
        seed := seed
        rung := rungLevel
        generatorVersion := if truthy portfolio.generatorVersion then
          portfolio.generatorVersion.getD "" else "unknown"
        runScenarios := runScenarios.value
        riskFingerprint := result.report.inputFingerprint
        ipsId := some bundle.ips.ipsId
        bindingConstraintsCount := bundle.validation.bindingConstraints.length
        tensionTags := portfolio.tensionTags }

-- ================================================================ the checks

/-- A leg under `try`: its verdict and detail, or its exception as a failed
check. -/
def surfaced (workflow : String) (leg : Except Exc (Bool × String)) :
    WorkflowSmokeCheck :=
  match leg with
  | .ok (ok, detail) => { workflow := workflow, ok := ok, detail := detail }
  | .error err =>
      { workflow := workflow
        ok := false
        detail := "raised " ++ err.typeName ++ ": " ++ err.str }

/-- Reject future lots before downstream legs run. -/
def walkForwardGuardCheck (bundle : SyntheticHouseholdBundle) (asOf : Date) :
    Except Exc WorkflowSmokeCheck := do
  let positions ← bundlePositions bundle
  return surfaced "walk_forward_guard" do
    assertLotsNotAfter positions asOf
    return (true, "lots=" ++ toString positions.length ++ "; as_of="
      ++ isoformat asOf)

/-- The drift report exists, and its alerts are counted. -/
def policyMonitoringCheck (bundle : SyntheticHouseholdBundle) :
    Except Exc WorkflowSmokeCheck := do
  let positions ← bundlePositions bundle
  let drift := buildIpsDriftReportFromViews bundle.fixture.householdId
    positions bundle.ips
  let alertCount := drift.alerts.length + drift.concentrationAlerts.length
  if bundle.fixture.provenance.cohortId = "concentrated_stress" then
    return {
      workflow := "policy_monitoring"
      ok := alertCount ≥ 1
      detail := "alerts=" ++ toString alertCount
        ++ " (drift + concentration required)" }
  else
    return {
      workflow := "policy_monitoring"
      ok := true
      detail := "drift report ok; alerts=" ++ toString alertCount }

/-- The tax-aware optimizer runs on the household's own book. -/
def rebalanceTaxOverlayCheck (site : SmokeSite)
    (bundle : SyntheticHouseholdBundle) (asOf : Date) :
    Except Exc WorkflowSmokeCheck := do
  let positions ← bundlePositions bundle
  let result ← runTaxAwareOptimizer bundle.fixture.householdId positions
    bundle.ips site.settings.toSettings (some asOf) site.clockToday
  let tradeCount := result.trades.length
  let bindingCount := result.bindingConstraints.length
  return {
    workflow := "rebalance_tax_overlay"
    ok := tradeCount ≥ 0 ∧ bindingCount ≥ 0
    detail := "trades=" ++ toString tradeCount ++ "; binding_constraints="
      ++ toString bindingCount ++ "; tax_delta="
      ++ site.risk.decimal.str result.estimatedTaxDelta }

/-- The card is built twice, from the household's seed alone. -/
def researchScenarioCheck (site : SmokeSite)
    (bundle : SyntheticHouseholdBundle) : Except Exc WorkflowSmokeCheck := do
  let provenance := bundle.fixture.provenance
  let first ← buildScenarioCard site provenance.rung provenance.seed
    (some provenance.cohortId)
  let second ← buildScenarioCard site provenance.rung provenance.seed
    (some provenance.cohortId)
  return {
    workflow := "research_scenario"
    ok := first.riskFingerprint = second.riskFingerprint
    detail := "fingerprint="
      ++ String.ofList (first.riskFingerprint.toList.take 12) ++ "…; ips_id="
      ++ first.ipsId.getD "None" ++ "; bindings="
      ++ toString first.bindingConstraintsCount }

/-- `_SUM_TOL`. -/
def smokeSumTolerance : ℚ := 1 / 10 ^ 4

/-- The invariants of the proposal the smoke asserts. A proposal has no
trades to carry, so that one holds of the type. -/
def qpInvariants (proposal : RebalanceProposal) : Bool :=
  let total := proposal.targetWeights.values.sum
  let sumOk : Bool := |total - 1| ≤ smokeSumTolerance
  let boxOk := proposal.targetWeights.values.all fun w => 0 ≤ w ∧ w ≤ 1
  let stressOk := proposal.stressRegime.isSome
  let muOk : Bool := proposal.muSource = "ex_ante_class_assumption"
  sumOk && boxOk && stressOk && muOk

/-- Constrained MV targets and their stress overlay. -/
def mvRebalanceQpCheck (site : SmokeSite) (bundle : SyntheticHouseholdBundle) :
    WorkflowSmokeCheck :=
  surfaced "mv_rebalance_qp" do
    let positions ← bundlePositions bundle
    let proposal ← runMvRebalance positions bundle.ips none
      site.settings.toSettings none true none
    return (qpInvariants proposal,
      "Σw*=" ++ formatFixed 4 proposal.targetWeights.values.sum
        ++ "; turnover=" ++ site.risk.decimal.str proposal.turnoverL1
        ++ "; stress=" ++ proposal.stressRegime.getD "None"
        ++ "; regime_gap=" ++ site.risk.decimal.str proposal.regimeGapL1
        ++ "; binding=" ++ toString proposal.bindingBounds.length)

/-- `f"{flag}"`. -/
def boolText (flag : Bool) : String := if flag then "True" else "False"

/-- Whole-book advice, without a session. A result of the risk and tax legs
always carries its report. -/
def pmAdviseCheck (site : SmokeSite) (bundle : SyntheticHouseholdBundle) :
    WorkflowSmokeCheck :=
  surfaced "pm_advise" do
    let payload ← buildWorkingSetFromBundle site.settings bundle
    let out ← pmAdvise site.risk site.settings.toSettings
      ("e2e-" ++ bundle.fixture.householdId) site.clockToday payload
    let legsOk := out.proposal.rebalance.isSome && out.narrative.isSome
    let taxZero : Bool := out.tax.taxDelta = 0
    return (legsOk && taxZero,
      "risk=" ++ boolText true ++ "; rebalance="
        ++ boolText out.proposal.rebalance.isSome ++ "; tax_delta="
        ++ site.risk.decimal.str out.tax.taxDelta ++ "; narrative="
        ++ boolText out.narrative.isSome)

-- ================================================================= the smoke

/-- Run the full in-process smoke. -/
def runWorkflowSmoke (site : SmokeSite) (bundle : SyntheticHouseholdBundle)
    (asOf : Option Date := none) : Except Exc WorkflowSmokeResult := do
  let evalDate := asOf.getD (smokeAsOfDate bundle.fixture)
  let guard ← walkForwardGuardCheck bundle evalDate
  let policy ← policyMonitoringCheck bundle
  let overlay ← rebalanceTaxOverlayCheck site bundle evalDate
  let qp := mvRebalanceQpCheck site bundle
  let scenario ← researchScenarioCheck site bundle
  let advice := pmAdviseCheck site bundle
  return {
    cohortId := bundle.fixture.provenance.cohortId
    seed := bundle.fixture.provenance.seed
    rung := bundle.fixture.provenance.rung
    checks := [guard, policy, overlay, qp, scenario, advice] }

/-- `_DEFAULT_E2E_COMBOS`: cohort, rung and seed. -/
def defaultE2eCombos : List (String × Int × Int) :=
  [("general_hnw", 3, 42),
   ("uhnw_inherited", 3, 42),
   ("founder_executive", 3, 42),
   ("concentrated_stress", 4, 42)]

/-- The results of a grid of households. -/
structure E2eMatrixResult where
  results : List WorkflowSmokeResult := []
  deriving DecidableEq

/-- Every household of the grid passed. -/
def E2eMatrixResult.ok (matrix : E2eMatrixResult) : Bool :=
  matrix.results.all (·.ok)

/-- How many households, and how many of them passed. -/
def E2eMatrixResult.summary (matrix : E2eMatrixResult) : Dict String Nat :=
  Dict.ofPairs [("households", matrix.results.length),
    ("passed", matrix.results.countP (·.ok))]

/-- Emit each combination and run the full smoke on it; no combinations ask
for the default ones. -/
def runE2eMatrix (site : SmokeSite)
    (combos : Option (List (String × Int × Int))) (validate : Bool := false) :
    Except Exc E2eMatrixResult := do
  let asked := combos.getD []
  let chosen := if asked = [] then defaultE2eCombos else asked
  let results ← chosen.mapM fun (cohort, rung, seed) => do
    let bundle ← emitSyntheticHousehold site.synthetic cohort seed rung none
      defaultNav validate none
    runWorkflowSmoke site bundle
  return { results := results }

end Warehouse
