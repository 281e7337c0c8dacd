/-
Portfolio risk engine — unit hierarchy Levels 1–4
(`research/risk/engine.py`, and the evaluators it calls).

A row names its class where the source spells the class's value. A
digest of the fingerprint's payload is a parameter: what the payload
holds is here, how it is hashed is not.

# The levels

The slots' states feed everything: the covariance, the contributions by
class and by duration, and the tails. Shocks, sensitivities and liquidity
are computed from the slots themselves. A table keyed by class keeps the
last of two slots of one class, as the source's dictionaries do, while the
rows of level 2 are one a slot.

# Errors

Only two things can raise: a tail whose multiplier is not in its table, and
a stress pack nobody pinned.
-/
import Warehouse.Research.Covariance
import Warehouse.Research.RiskReport

namespace Warehouse

open Lib

-- ============================================================ by class

/-- `resolve_measurement`: an explicit mode stands; under `auto` alternatives
and every slot past tier 1 are Fermi estimates. -/
def resolveMeasurement (slot : AllocationSlot) : MeasurementMode :=
  if slot.measurement ≠ .auto then slot.measurement
  else if slot.assetClass = .alternatives ∨ slot.liquidityTier ≥ 3 then .fermi
  else if slot.liquidityTier ≥ 2 then .fermi
  else .measurable

/-- `sleeve_annual_volatility`: the class prior, scaled up where the measurement
is a Fermi estimate. -/
def sleeveAnnualVolatility (slot : AllocationSlot)
    (assumptions : RiskAssumptions) : ℚ :=
  let annualVol := assumptions.classAnnualVol slot.assetClass
  if resolveMeasurement slot = .fermi then
    annualVol * assumptions.fermiVolMultiplier
  else annualVol

/-- The state of one slot: its volatility and how it is measured. -/
def buildSleeveState (assumptions : RiskAssumptions) (slot : AllocationSlot) :
    SleeveRiskState where
  slot := slot
  annualVolatility := sleeveAnnualVolatility slot assumptions
  measurement := (resolveMeasurement slot).value

/-- `build_sleeve_states`: one state a slot, in slot order. -/
def buildSleeveStates (slots : List AllocationSlot)
    (assumptions : RiskAssumptions) : List SleeveRiskState :=
  slots.map (buildSleeveState assumptions)

/-- One row of level 2. The share of the expected shortfall is the share of the
variance: the model is Gaussian. -/
def classContribution (assumptions : RiskAssumptions)
    (state : SleeveRiskState) (pctVar : ℚ) : ClassRiskContribution where
  assetClass := state.slot.assetClass
  weight := state.slot.weight
  annualVolatility := state.annualVolatility
  pctVarianceContribution := pctVar
  pctEsContribution := pctVar
  expectedReturn :=
    state.slot.weight * assumptions.classExpectedReturn state.slot.assetClass
  measurement := .ofValue state.measurement
  liquidityTier := state.slot.liquidityTier

/-- `evaluate_class_contributions`: the states zipped with the shares the
covariance gave them. -/
def evaluateClassContributions (states : List SleeveRiskState)
    (covResult : CovarianceResult) (assumptions : RiskAssumptions) :
    List ClassRiskContribution :=
  List.zipWith (classContribution assumptions) states
    covResult.pctVarianceContributions

/-- `portfolio_expected_return`: the weighted class priors. -/
def portfolioExpectedReturn (states : List SleeveRiskState)
    (assumptions : RiskAssumptions) : ℚ :=
  (states.map fun s =>
    s.slot.weight * assumptions.classExpectedReturn s.slot.assetClass).sum

-- ========================================================= by duration

/-- `_duration_bucket`: short below three years, medium to seven. -/
def durationBucket : Option ℚ → String
  | none => "undefined"
  | some years =>
      if years < 3 then "short" else if years ≤ 7 then "medium" else "long"

/-- One bucket's row: its weight, its mean duration and the shares of the
classes its members belong to. -/
def durationBucketRisk (horizon : RiskHorizon)
    (pctByClass : Dict RiskClass ℚ) (bucket : String)
    (members : List AllocationSlot) : DurationBucketRisk :=
  let durations := members.filterMap (·.durationYears)
  let avgDuration :=
    if durations.isEmpty then none else some (durations.sum / durations.length)
  { bucket := bucket
    weight := (members.map (·.weight)).sum
    avgDurationYears := avgDuration
    horizonMismatch :=
      match avgDuration with
      | none => 0
      | some avg => |avg - horizon.years| / horizon.years
    pctVarianceContribution :=
      (members.map fun m => (pctByClass.get? m.assetClass).getD 0).sum }

/-- `evaluate_duration_risk`: slots grouped by bucket, the shares looked up by
class, so a class in two buckets is counted in both. -/
def evaluateDurationRisk (slots : List AllocationSlot) (horizon : RiskHorizon)
    (classContributions : List ClassRiskContribution) :
    List DurationBucketRisk :=
  let buckets := Dict.groupBy (fun slot => durationBucket slot.durationYears)
    slots
  let pctByClass := Dict.ofPairs (classContributions.map fun c =>
    (c.assetClass, c.pctVarianceContribution))
  (buckets.entries.mergeSort fun a b => a.1 ≤ b.1).map fun (name, members) =>
    durationBucketRisk horizon pctByClass name members

-- =========================================================== VaR and ES

/-- `_alpha_key`: three decimals, trailing zeros and the bare point stripped. -/
def alphaKey (alpha : ℚ) : String := rstrip '.' (rstrip '0' (formatFixed 3 alpha))

/-- `horizon_scale`: volatility grows with the root of the horizon. -/
def horizonScale (ctx : DecimalContext) (annualVol horizonYears : ℚ) : ℚ :=
  annualVol * ctx.sqrt horizonYears

/-- The parametric tail at a table's multiplier: VaR and ES differ in the
table and in what they call the approximation. -/
def parametricTail (ctx : DecimalContext) (multipliers : Dict String ℚ)
    (approximation : String) (annualVol annualReturn horizonYears alpha : ℚ)
    (assumptions : RiskAssumptions) (markSource : String) :
    Except Exc RiskMetric :=
  match multipliers.get? (alphaKey alpha) with
  | none => .error (.keyError (alphaKey alpha))
  | some multiplier => .ok
      { value := multiplier * horizonScale ctx annualVol horizonYears
          - annualReturn * horizonYears
        unitType := .returnFraction
        horizonYears := some horizonYears
        confidence := some alpha
        windowDays := some assumptions.volWindowDays
        method := some "parametric"
        markSource := markSource
        approximation := some approximation }

/-- `parametric_var`: the tail figure from the z-scores. -/
def parametricVar (ctx : DecimalContext) (annualVol annualReturn horizonYears
    alpha : ℚ) (assumptions : RiskAssumptions) (markSource : String) :
    Except Exc RiskMetric :=
  parametricTail ctx assumptions.zScores
    "multivariate_normal_via_portfolio_sigma" annualVol annualReturn
    horizonYears alpha assumptions markSource

/-- `parametric_es`: the tail figure from the expected-shortfall multipliers. -/
def parametricEs (ctx : DecimalContext) (annualVol annualReturn horizonYears
    alpha : ℚ) (assumptions : RiskAssumptions) (markSource : String) :
    Except Exc RiskMetric :=
  parametricTail ctx assumptions.esMultipliers "normal_es_from_portfolio_sigma"
    annualVol annualReturn horizonYears alpha assumptions markSource

/-- A tail figure in dollars of the notional. -/
def dollarTail (metric : RiskMetric) (notionalUsd : ℚ) : RiskMetric :=
  { metric with
    value := metric.value * notionalUsd
    unitType := .usd
    currency := some "USD" }

-- ========================================================= sensitivities

/-- `_native_unit`: the unit a class's sensitivity is quoted in. -/
def nativeUnit : RiskClass → RiskUnitType
  | .equity => .beta
  | .fixedIncome => .durationYears
  | .commodities | .fx => .beta
  | .alternatives => .fermiEstimate
  | .cash => .durationYears

/-- The slot's own beta or duration, else the class default; cash and the
remaining classes always take the default. -/
def nativeSensitivityValue (slot : AllocationSlot) : ℚ :=
  match slot.assetClass with
  | .equity => slot.beta.getD (defaultBeta .equity)
  | .fixedIncome => slot.durationYears.getD (defaultDurationYears .fixedIncome)
  | .cash => defaultDurationYears .cash
  | c => defaultBeta c

/-- `if d:` on an optional decimal: neither `None` nor zero. -/
def truthyDecimal (d : Option ℚ) : Bool := d.getD 0 ≠ 0

/-- `evaluate_sleeve_sensitivity`: the mark source is the position where the
slot has a non-zero beta or duration of its own, whichever of the two is
reported. -/
def evaluateSleeveSensitivity (slot : AllocationSlot) : SleeveSensitivity :=
  let measurement := resolveMeasurement slot
  let unit := nativeUnit slot.assetClass
  { assetClass := slot.assetClass
    weight := slot.weight
    nativeUnit := unit
    value :=
      { value := nativeSensitivityValue slot
        unitType := unit
        method := some (if measurement = .measurable then "observed"
          else "fermi")
        markSource :=
          if truthyDecimal slot.beta || truthyDecimal slot.durationYears then
            "position" else "model_prior"
        approximation :=
          if measurement = .measurable then none else some "fermi_prior" }
    measurement := measurement }

/-- `evaluate_sensitivities`: one row a slot. -/
def evaluateSensitivities (slots : List AllocationSlot) :
    List SleeveSensitivity :=
  slots.map evaluateSleeveSensitivity

-- ================================================================ stress

/-- What a shock costs one slot. -/
def shockContribution (shocks : Dict RiskClass ℚ) (slot : AllocationSlot) : ℚ :=
  slot.weight * (shocks.get? slot.assetClass).getD 0

/-- The return of one scenario and its part by class. `by_class` is a dict, so
of two slots of one class the later one's part is kept. -/
def scenarioReturn (slots : List AllocationSlot) (shocks : Dict RiskClass ℚ) :
    ℚ × Dict RiskClass ℚ :=
  ((slots.map (shockContribution shocks)).sum,
   Dict.ofPairs (slots.map fun slot =>
     (slot.assetClass, shockContribution shocks slot)))

/-- One scenario's result, with the dollar figure where there is a notional. -/
def stressScenario (slots : List AllocationSlot) (notionalUsd : Option ℚ)
    (markSource name : String) (shocks : Dict RiskClass ℚ) :
    StressScenarioResult :=
  let (portfolioReturn, byClass) := scenarioReturn slots shocks
  { name := name
    portfolioReturn :=
      { value := portfolioReturn
        unitType := .returnFraction
        method := some "named_stress_replay"
        markSource := markSource
        approximation := some "linear_sleeve_shock_sum_no_cross_gamma" }
    dollarPnl := notionalUsd.map fun notional =>
      { value := portfolioReturn * notional
        unitType := .usd
        method := some "named_stress_replay"
        markSource := markSource
        currency := some "USD"
        approximation := some "linear_notional_scaling" }
    byClass := byClass }

/-- The packs a filter leaves: all of them, or the one it names. -/
def stressPacks (packs : Dict String (Dict RiskClass ℚ))
    (stressFilter : Option String) :
    Except Exc (List (String × Dict RiskClass ℚ)) :=
  match stressFilter with
  | none => .ok packs.entries
  | some name =>
      match packs.get? name with
      | none => .error (.valueError ("unknown stress_pack: " ++ name))
      | some shocks => .ok [(name, shocks)]

/-- `evaluate_stress`: every pack, or the one the filter names. -/
def evaluateStress (slots : List AllocationSlot) (notionalUsd : Option ℚ)
    (markSource : String) (assumptions : RiskAssumptions)
    (stressFilter : Option String) : Except Exc Level4Stress := do
  let packs ← stressPacks assumptions.stressScenarios stressFilter
  return { scenarios := packs.map fun (name, shocks) =>
    stressScenario slots notionalUsd markSource name shocks }

-- ============================================================= liquidity

/-- One tier's row, with the days the tier prior gives it. -/
def liquidityTierRisk (tier : Nat) (weight : ℚ) : LiquidityTierRisk where
  tier := tier
  weight := weight
  daysToLiquidate :=
    { value := liquidityDaysByTier tier
      unitType := .liquidityDays
      method := some "tier_prior"
      markSource := "model_prior"
      approximation := some "days_at_10pct_adv" }

/-- `evaluate_liquidity`: weights tallied by tier, rows in tier order. -/
def evaluateLiquidity (slots : List AllocationSlot) : LiquidityRisk :=
  let tierWeights := Dict.tally (·.liquidityTier) (·.weight) slots
  let byTier := (tierWeights.keys.mergeSort fun a b => a ≤ b).map fun tier =>
    liquidityTierRisk tier ((tierWeights.get? tier).getD 0)
  { weightedDays :=
      { value := (byTier.map fun row =>
          row.weight * row.daysToLiquidate.value).sum
        unitType := .liquidityDays
        method := some "weight_weighted_tier_prior"
        markSource := "model_prior"
        approximation := some "portfolio_weighted_liquidity_days" }
    byTier := byTier }

-- =========================================================== fingerprint

/-- One slot of the fingerprinted payload. -/
structure AllocationEntry where
  assetClass : String
  weight : ℚ
  durationYears : Option ℚ
  beta : Option ℚ
  liquidityTier : Nat
  measurement : String
  deriving DecidableEq

/-- What `portfolio_fingerprint` hashes. A decimal is hashed as its text,
which spells its value. -/
structure FingerprintPayload where
  portfolioId : Option String
  horizonYears : ℚ
  notionalUsd : Option ℚ
  assumptionRegime : String
  modelVersion : String
  source : String
  complexity : Option Int
  cohortId : Option String
  generatorVersion : Option String
  seed : Option Int
  tensionTags : List String
  allocations : List AllocationEntry
  deriving DecidableEq

/-- A slot as the payload writes it. -/
def allocationEntry (s : AllocationSlot) : AllocationEntry where
  assetClass := s.assetClass.value
  weight := s.weight
  durationYears := s.durationYears
  beta := s.beta
  liquidityTier := s.liquidityTier
  measurement := s.measurement.value

/-- `sorted(slots, key=lambda x: x.asset_class.value)`. -/
def sortedByClass (slots : List AllocationSlot) : List AllocationSlot :=
  slots.mergeSort fun s s' => s.assetClass.value ≤ s'.assetClass.value

/-- What `portfolio_fingerprint` digests. The stress filter is not part of it. -/
def fingerprintPayload (portfolio : AssetPortfolio) (horizon : RiskHorizon)
    (notionalUsd : Option ℚ) (assumptionRegime modelVersion : String) :
    FingerprintPayload where
  portfolioId := portfolio.portfolioId
  horizonYears := horizon.years
  notionalUsd := notionalUsd
  assumptionRegime := assumptionRegime
  modelVersion := modelVersion
  source := portfolio.source
  complexity := portfolio.complexity
  cohortId := portfolio.cohortId
  generatorVersion := portfolio.generatorVersion
  seed := portfolio.seed
  tensionTags := portfolio.tensionTags.mergeSort (· ≤ ·)
  allocations := (sortedByClass portfolio.allocations).map allocationEntry

-- ================================================================ engine

/-- Weights by measurement mode, with the share of the variance that rests on
Fermi estimates. -/
def measurementSummary (byClass : List ClassRiskContribution) :
    MeasurementSummary :=
  let measurable := ((byClass.filter (·.measurement = .measurable)).map
    (·.weight)).sum
  let fermiRisk := ((byClass.filter (·.measurement = .fermi)).map
    (·.pctVarianceContribution)).sum
  { measurableWeight := measurable
    fermiWeight := 1 - measurable
    fermiRiskShare := min fermiRisk 1 }

/-- The note every report closes with. -/
def aggregationNote : String :=
  "Level 1 uses covariance-matrix portfolio sigma with "
    ++ "version-pinned correlations; "
    ++ "Level 2 reports Euler variance shares; Level 4 is linear "
    ++ "sleeve shock replay "
    ++ "(2008/2020/2022) — no cross-gamma or regime correlation shock. "
    ++ "Do not collapse levels without documenting approximation."

/-- Level 1, from the portfolio's vol, return and tails. -/
def level1Portfolio (ctx : DecimalContext) (horizon : RiskHorizon)
    (notionalUsd : Option ℚ) (priors : RiskAssumptions) (markSource : String)
    (annualVol annualReturn fermiShare : ℚ) (varMetric esMetric : RiskMetric) :
    Level1PortfolioRisk :=
  let horizonVol := horizonScale ctx annualVol horizon.years
  let dollar (metric : RiskMetric) : Option RiskMetric :=
    if truthyDecimal notionalUsd then notionalUsd.map (dollarTail metric)
    else none
  let confidence (value : ℚ) : RiskMetric :=
    { value := value
      unitType := .sigmaHorizon
      horizonYears := some horizon.years
      method := some "fermi_band"
      markSource := markSource
      approximation := some "widens_with_fermi_risk_share" }
  { annualizedVolatility :=
      { value := annualVol
        unitType := .sigmaAnnualized
        windowDays := some priors.volWindowDays
        method := some "covariance_matrix"
        markSource := markSource }
    horizonVolatility :=
      { value := horizonVol
        unitType := .sigmaHorizon
        horizonYears := some horizon.years
        windowDays := some priors.volWindowDays
        method := some "covariance_matrix"
        markSource := markSource
        approximation := some "sigma_annualized_times_sqrt_h" }
    expectedReturn :=
      { value := annualReturn * horizon.years
        unitType := .returnFraction
        horizonYears := some horizon.years
        method := some "weighted_prior"
        markSource := markSource }
    parametricVar := varMetric
    parametricEs := esMetric
    dollarVar := dollar varMetric
    dollarEs := dollar esMetric
    confidenceLow := confidence
      (max (horizonVol * (1 - priors.fermiConfidenceWidth * fermiShare)) 0)
    confidenceHigh := confidence
      (horizonVol * (1 + priors.fermiConfidenceWidth * fermiShare)) }

/-- `evaluate_portfolio_risk`: the five levels of one portfolio under one set of
assumptions. -/
def evaluatePortfolioRisk (ctx : DecimalContext)
    (digest : FingerprintPayload → String) (portfolio : AssetPortfolio)
    (horizon : RiskHorizon) (notionalUsd : Option ℚ)
    (assumptions : Option RiskAssumptions := none)
    (stressFilter : Option String := none) :
    Except Exc PortfolioRiskReport := do
  let priors := assumptions.getD baseAssumptions
  let markSource := "model_prior"
  let states := buildSleeveStates portfolio.allocations priors
  let cov := portfolioCovariance states priors
  let annualReturn := portfolioExpectedReturn states priors
  let annualVol := cov.portfolioVolatility ctx
  let varMetric ← parametricVar ctx annualVol annualReturn horizon.years
    priors.varAlpha priors markSource
  let esMetric ← parametricEs ctx annualVol annualReturn horizon.years
    priors.esAlpha priors markSource
  let byClass := evaluateClassContributions states cov priors
  let byDuration := evaluateDurationRisk portfolio.allocations horizon byClass
  let summary := measurementSummary byClass
  let stress ← evaluateStress portfolio.allocations notionalUsd markSource
    priors stressFilter
  return {
    portfolioId := portfolio.portfolioId
    horizonYears := horizon.years
    modelVersion := priors.modelVersion
    inputFingerprint := digest (fingerprintPayload portfolio horizon
      notionalUsd priors.regime priors.modelVersion)
    manifest :=
      { volWindowDays := priors.volWindowDays
        stressPackVersion := priors.stressPackVersion
        assumptionRegime := priors.regime }
    level1Portfolio := level1Portfolio ctx horizon notionalUsd priors
      markSource annualVol annualReturn summary.fermiRiskShare varMetric
      esMetric
    level2Contributions :=
      { byClass := byClass
        byDuration := byDuration }
    level3Sensitivities := evaluateSensitivities portfolio.allocations
    level4Stress := stress
    liquidity := evaluateLiquidity portfolio.allocations
    measurementSummary := summary
    aggregationNote := aggregationNote }

end Warehouse
