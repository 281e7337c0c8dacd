/-
Non-performing-asset panel data (`dashboard/npa_data.py`): the flags of a
synthetic household, on the day of the smokes.

Household, positions and rules are computed in one go, under the cohort,
seed and rung the panel pins. Whatever raises on the way is shown by its
text, on a panel without flags.
-/
import Warehouse.Decision.Npa
import Warehouse.Research.WorkflowSmoke

namespace Warehouse

/-- What the panel shows. -/
structure NpaPanelData where
  householdId : String
  cohortId : String
  asOfDate : Date
  configVersion : String
  positionCount : Nat
  altCount : Nat
  flags : List NpaFlag
  panelStatus : String := "live"
  error : Option String := none

/-- A synthetic holding satisfies what the rules read. -/
def SyntheticAltHolding.like (alt : SyntheticAltHolding) : AltHoldingLike where
  holdingId := alt.holdingId
  name := alt.name
  unfundedCapital := alt.unfundedCapital
  lastMarkDate := alt.lastMarkDate
  scheduledCalls := alt.scheduledCalls.map fun call => ⟨call.eventDate⟩

/-- The limits pinned in the settings. -/
def AppSettings.npaLimits (settings : AppSettings) : NpaLimits where
  staleMarkDays := settings.analystStaleMarkDays
  drawdownPct := settings.analystNpaDrawdownPct
  sustainedYears := settings.analystNpaSustainedYears

/-- The panel of a household; what raises is given by its text. -/
def npaPanel (site : SmokeSite) (cohortId : String)
    (bundle : SyntheticHouseholdBundle) : Except String NpaPanelData := do
  let fixture := bundle.fixture
  let asOf := smokeAsOfDate fixture
  let positions ← (lotPositionsFromFixture fixture none).mapError Exc.str
  let alts := fixture.alternativeHoldings
  let result ← (flagNonPerforming site.risk.decimal site.settings.npaLimits asOf
    positions (alts.map (·.like)) (some bundle.ips) fixture.householdId
    site.settings.analystConfigVersion).mapError NpaError.msg
  return {
    householdId := fixture.householdId
    cohortId := cohortId
    asOfDate := asOf
    configVersion := result.configVersion
    positionCount := positions.length
    altCount := alts.length
    flags := result.flags }

/-- The cohort the panel emits. -/
def npaCohort : String := "founder_executive"

/-- The seed it emits it under. -/
def npaSeed : Int := 11

/-- The rung it emits it at. -/
def npaRung : Int := 4

/-- The panel when a leg raised. -/
def unavailableNpa (today : Date) (error : String) : NpaPanelData where
  householdId := "(unavailable)"
  cohortId := npaCohort
  asOfDate := today
  configVersion := "(unavailable)"
  positionCount := 0
  altCount := 0
  flags := []
  panelStatus := "error"
  error := some error

/-- The panel's data; a failure is shown as one instead of being raised. -/
def loadNpaDashboard (site : SmokeSite) : NpaPanelData :=
  let loaded := do
    let bundle ← (emitSyntheticHousehold site.synthetic npaCohort npaSeed
      npaRung none defaultNav false none).mapError Exc.str
    npaPanel site npaCohort bundle
  match loaded with
  | .ok data => data
  | .error err => unavailableNpa site.clockToday err

end Warehouse
