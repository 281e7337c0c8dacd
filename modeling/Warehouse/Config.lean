/-
The application settings the modelled functions read (`config.py`), with
the defaults pinned there. Rates and tolerances are the rationals their
decimal spellings denote.
-/
import Mathlib.Data.Rat.Defs

namespace Warehouse

/-- The tax and optimizer settings the planes read. -/
structure Settings where
  taxConfigVersion : String := "2026.01"
  fedStcgRate : ℚ := 37 / 100
  fedLtcgRate : ℚ := 20 / 100
  niitRate : ℚ := 38 / 1000
  optimizerConfigVersion : String := "2026.06"
  riskAversionLambda : ℚ := 6
  qpTolerance : ℚ := 1 / 10 ^ 9
  qpMaxIters : Nat := 5000
  optimizerStressRegime : String := "high_risk"
  pmEffectiveBetsPass : ℚ := 3
  pmEffectiveBetsWarn : ℚ := 2
  pmStressBreach : ℚ := -35 / 100
  pmStressWarn : ℚ := -25 / 100
  pmDriftWarn : ℚ := 3 / 100
  pmBindingConstraintWarn : Nat := 3
  analystConfigVersion : String := "2026.06"
  analystMinHoldingYears : ℚ := 1 / 2
  analystResidualWarn : ℚ := 25 / 1000
  analystResidualBreach : ℚ := 6 / 100
  mipMaxTrades : Int := 3
  beliefConfigVersion : String := "2026.07"
  blackLittermanTau : ℚ := 5 / 100
  fiijConfigVersion : String := "2026.07"
  fiijExportPath : String := ""
  fiijValueExcessScale : ℚ := 4 / 100
  fiijConfidenceFloor : ℚ := 20 / 100
  fiijBrierPassMax : ℚ := 25 / 100
  statsConfigVersion : String := "2026.07"
  statsZscoreSignificantThreshold : ℚ := 2
  statsEwmaWindow : Int := 20

/-- The settings, with what the generators and guards beside the desk
read. -/
structure AppSettings extends Settings where
  walkForwardPurgeDays : Int := 5
  riskDashboardHorizonYears : ℚ := 5
  analystKillDrawdownPct : ℚ := -30 / 100
  analystKillConcentratedDrawdownPct : ℚ := -10 / 100
  analystKillResidualCap : ℚ := 10 / 100
  analystKillMinLiquidityTier : Int := 4
  analystStaleMarkDays : Int := 180
  analystNpaDrawdownPct : ℚ := -10 / 100
  analystNpaSustainedYears : ℚ := 1

end Warehouse
