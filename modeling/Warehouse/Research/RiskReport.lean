/-
Risk reports — the unit hierarchy (`research/risk/models.py`).

Every figure is a `RiskMetric`, which says in what unit it is and, where
they apply, its horizon, confidence and method. The levels go from the whole
to its parts: the portfolio, what contributes to its risk, the native
sensitivity of each slot, and the replayed scenarios beside them.
-/
import Warehouse.Lib.Dict
import Warehouse.Research.RiskModels

namespace Warehouse

open Lib

/-- `RiskUnitType`: what a figure is measured in. -/
inductive RiskUnitType where
  | sigmaAnnualized
  | sigmaHorizon
  | returnFraction
  | usd
  | pctVariance
  | beta
  | durationYears
  | liquidityDays
  | fermiEstimate
  deriving DecidableEq, Repr

/-- Minimum disclosure: unit, α, h, window, mark_source on every metric. -/
structure RiskMetric where
  value : ℚ
  unitType : RiskUnitType
  horizonYears : Option ℚ := none
  confidence : Option ℚ := none
  windowDays : Option Int := none
  method : Option String := none
  markSource : String := "model_prior"
  currency : Option String := none
  approximation : Option String := none
  deriving DecidableEq

/-- Where a report's figures come from: the mark source and the versions of its
priors. -/
structure RiskManifestMeta where
  currency : String := "USD"
  markSource : String := "model_prior"
  volWindowDays : Int
  stressPackVersion : String
  assumptionRegime : String := "base"
  deriving DecidableEq

/-- Level 1: the portfolio's own figures. -/
structure Level1PortfolioRisk where
  annualizedVolatility : RiskMetric
  horizonVolatility : RiskMetric
  expectedReturn : RiskMetric
  parametricVar : RiskMetric
  parametricEs : RiskMetric
  dollarVar : Option RiskMetric := none
  dollarEs : Option RiskMetric := none
  confidenceLow : RiskMetric
  confidenceHigh : RiskMetric
  deriving DecidableEq

/-- One class's share of the risk. -/
structure ClassRiskContribution where
  assetClass : RiskClass
  weight : ℚ
  annualVolatility : ℚ
  pctVarianceContribution : ℚ
  pctEsContribution : ℚ
  expectedReturn : ℚ
  measurement : MeasurementMode
  liquidityTier : Nat
  deriving DecidableEq

/-- One duration bucket's share of it. -/
structure DurationBucketRisk where
  bucket : String
  weight : ℚ
  avgDurationYears : Option ℚ
  horizonMismatch : ℚ
  pctVarianceContribution : ℚ
  deriving DecidableEq

/-- Level 2: where the risk comes from, by class and by duration. -/
structure Level2Contributions where
  unitType : RiskUnitType := .pctVariance
  byClass : List ClassRiskContribution
  byDuration : List DurationBucketRisk
  deriving DecidableEq

/-- Level 3: one slot's native sensitivity. -/
structure SleeveSensitivity where
  assetClass : RiskClass
  weight : ℚ
  nativeUnit : RiskUnitType
  value : RiskMetric
  measurement : MeasurementMode
  deriving DecidableEq

/-- One replayed scenario. -/
structure StressScenarioResult where
  name : String
  portfolioReturn : RiskMetric
  dollarPnl : Option RiskMetric := none
  byClass : Dict RiskClass ℚ

/-- Level 4: the replayed scenarios. -/
structure Level4Stress where
  method : String := "named_stress_replay"
  scenarios : List StressScenarioResult

/-- One tier's weight and the days it takes to sell. -/
structure LiquidityTierRisk where
  tier : Nat
  weight : ℚ
  daysToLiquidate : RiskMetric
  deriving DecidableEq

/-- The weighted days, with the tiers they come from. -/
structure LiquidityRisk where
  unitType : RiskUnitType := .liquidityDays
  weightedDays : RiskMetric
  byTier : List LiquidityTierRisk
  deriving DecidableEq

/-- How much of the book, and of its risk, rests on estimates. -/
structure MeasurementSummary where
  measurableWeight : ℚ
  fermiWeight : ℚ
  fermiRiskShare : ℚ
  deriving DecidableEq

/-- Level 3 is its one field `by_sleeve`. -/
structure PortfolioRiskReport where
  portfolioId : Option String
  horizonYears : ℚ
  modelVersion : String
  inputFingerprint : String
  manifest : RiskManifestMeta
  level1Portfolio : Level1PortfolioRisk
  level2Contributions : Level2Contributions
  level3Sensitivities : List SleeveSensitivity
  level4Stress : Level4Stress
  liquidity : LiquidityRisk
  measurementSummary : MeasurementSummary
  aggregationNote : String

end Warehouse
