/-
Tax scenario overlays (`decision/tax/scenarios.py`).

The overlays carry the fractions they are validated with. The evaluation is
the source's stub: whatever the book, a scenario owes nothing over a
baseline of nothing. The scenarios a pack shows are computed on the
reporting side (`Reporting.Tax`).
-/
import Warehouse.Python

namespace Warehouse

/-- `TaxScenarioOverlays`, its fractions as fields. -/
structure TaxScenarioOverlays where
  applyNiit : Bool := true
  applyAmt : Bool := false
  qsbsExclusionPct : ℚ := 0
  trustDniRate : ℚ := 0
  qsbsFraction : IsFraction qsbsExclusionPct := by
    first | exact isFraction_zero | norm_num [IsFraction]
  dniFraction : IsFraction trustDniRate := by
    first | exact isFraction_zero | norm_num [IsFraction]
  deriving DecidableEq

/-- What one scenario owes against the baseline. -/
structure TaxScenarioResult where
  overlays : TaxScenarioOverlays
  baselineTax : ℚ
  scenarioTax : ℚ
  taxDelta : ℚ
  deriving DecidableEq

/-- Stubbed to zero pending real estimates: the positions are not read. -/
def evaluateTaxScenario (overlays : Option TaxScenarioOverlays := none) :
    TaxScenarioResult where
  overlays := overlays.getD {}
  baselineTax := 0
  scenarioTax := 0
  taxDelta := 0

end Warehouse
