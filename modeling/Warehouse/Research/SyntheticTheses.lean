/-
Theses emitted with a household (`research/synthetic/thesis_emit.py`), and
the kill-criteria watch that reads them (`dashboard/analyst_data.py`).

Every instrument of an account gets one thesis, effective when its first
lot was acquired. The watch attributes a generated household, monitors
every lot under its thesis and scores checkpoint 1; whatever a leg raises
ends up in the panel.
-/
import Warehouse.Decision.Review
import Warehouse.Research.WorkflowSmoke
import Mathlib.Data.Prod.Lex
import Mathlib.Data.String.Basic

namespace Warehouse

open Lib

-- ================================================================== theses

/-- The one sentence a thesis claims. -/
def mechanismFor (ticker : String) (concentrated : Bool) : String :=
  if concentrated then
    ticker ++ " — concentrated single-issuer equity; thesis: franchise "
      ++ "compounding, monitored against drawdown + residual kill criteria"
  else if ticker = "CASH" then
    "CASH — liquidity reserve; held, not a return thesis"
  else ticker ++ " — diversified beta sleeve; thesis: hold to class return"

/-- The criteria a thesis is committed with: none on cash, the tighter ones on a
concentrated issuer. -/
def killCriteriaFor (settings : AppSettings) (ticker : String)
    (concentrated : Bool) : KillCriteria :=
  if ticker = "CASH" then {}
  else if concentrated then
    { maxDrawdownVsCost := some settings.analystKillConcentratedDrawdownPct
      maxActiveResidual := some settings.analystKillResidualCap
      minLiquidityTier := some settings.analystKillMinLiquidityTier }
  else
    { maxDrawdownVsCost := some settings.analystKillDrawdownPct
      minLiquidityTier := some settings.analystKillMinLiquidityTier }

/-- `(lot.account_id, lot.ticker)`. -/
def thesisKey (lot : SyntheticLot) : String × String :=
  (lot.accountId, lot.ticker)

/-- The thesis of a group of lots; a group has a lot. -/
def groupThesis (settings : AppSettings) (version : String) :
    (String × String) × List SyntheticLot → Option PositionThesis
  | (_, []) => none
  | ((accountId, ticker), first :: rest) =>
      let lots := first :: rest
      let earliest := (rest.map (·.acquisitionDate)).foldl min
        first.acquisitionDate
      let concentrated := lots.any fun lot => truthy lot.concentrationIssuer
      some
        { accountId := accountId
          instrument := ticker
          mechanism := mechanismFor ticker concentrated
          effectiveDate := earliest
          killCriteria := killCriteriaFor settings ticker concentrated
          configVersion := version }

/-- One pre-committed thesis per `(account, ticker)` in the fixture. -/
def emitSyntheticTheses (settings : AppSettings) (fixture : HouseholdFixture)
    (configVersion : Option String) : List PositionThesis :=
  let version := if truthy configVersion then configVersion.getD ""
    else settings.analystConfigVersion
  let groups := (Dict.groupBy thesisKey fixture.lots).entries.insertionSort
    fun g h => (toLex g.1 : String ×ₗ String) ≤ toLex h.1
  groups.filterMap (groupThesis settings version)

/-- Deterministic as-of of the thesis flows. -/
def syntheticThesisAsOf (_fixture : HouseholdFixture) : Date :=
  dateOf 2026 6 27

-- =================================================================== watch

/-- The score as the dashboard spells it. -/
def AnalystCheckpointScore.value : AnalystCheckpointScore → String
  | pass => "pass"
  | warn => "warn"
  | breach => "breach"
  | notComputed => "not_computed"
  | notDocumented => "not_documented"

/-- What the dashboard shows. -/
structure KillCriteriaWatchData where
  householdId : String
  cohortId : String
  asOfDate : Date
  thesisCount : Nat
  documentedPositions : Nat
  breaches : List KillBreach
  checkpoint1 : String
  panelStatus : String := "live"
  error : Option String := none

/-- One turn of the watch's loop: a lot under a thesis is documented, and
monitored. -/
def watchLot (ctx : DecimalContext) (store : ThesisStore) (asOf : Date)
    (activeByKey : Dict (String × Option String) ℚ)
    (acc : List KillBreach × Finset (String × String))
    (pos : LotPositionView) :
    Except Exc (List KillBreach × Finset (String × String)) :=
  let key := instrumentKey pos
  match store.get pos.accountId key with
  | none => .ok acc
  | some thesis => do
      let breaches ← evaluateKillCriteria ctx pos thesis asOf
        (activeByKey.get? (pos.accountId, pos.ticker))
      return (acc.1 ++ breaches, insert (pos.accountId, key) acc.2)

/-- Active returns by account and ticker; of lots that share them, the last
row's. -/
def activeByKey (report : AttributionReport) :
    Dict (String × Option String) ℚ :=
  Dict.ofPairs (report.positions.map fun pa =>
    ((pa.accountId, pa.ticker), pa.activeReturn))

/-- The watch on a fixture, for the panel of a cohort. -/
def watchFixture (site : SmokeSite) (cohortId : String)
    (fixture : HouseholdFixture) : Except Exc KillCriteriaWatchData := do
  let asOf := syntheticThesisAsOf fixture
  let positions ← lotPositionsFromFixture fixture none
  let theses := emitSyntheticTheses site.settings fixture none
  let store := ThesisStore.fromTheses theses
  let assumptions ← assumptionsFor "base"
  let report ← evaluateAttribution site.risk.decimal positions
    (fun c => some (assumptions.classExpectedReturn c)) fixture.householdId
    asOf site.settings.analystConfigVersion
    site.settings.analystMinHoldingYears
  let (breaches, documented) ← positions.foldlM
    (watchLot site.risk.decimal store asOf (activeByKey report)) ([], ∅)
  let review := scoreAnalystCheckpoints site.risk.decimal
    site.settings.toSettings report (some (.store store))
  match review.checkpoints.get? "checkpoint_1" with
  | none => throw (.keyError "checkpoint_1")
  | some checkpoint1 =>
      return {
        householdId := fixture.householdId
        cohortId := cohortId
        asOfDate := asOf
        thesisCount := store.length
        documentedPositions := documented.card
        breaches := breaches
        checkpoint1 := checkpoint1.value }

/-- The cohort the dashboard emits. -/
def watchCohort : String := "concentrated_stress"

/-- The seed it emits it under. -/
def watchSeed : Int := 42

/-- The rung it emits it at. -/
def watchRung : Int := 4

/-- The panel when a leg raised. -/
def unavailableWatch (today : Date) (err : Exc) : KillCriteriaWatchData where
  householdId := "(unavailable)"
  cohortId := watchCohort
  asOfDate := today
  thesisCount := 0
  documentedPositions := 0
  breaches := []
  checkpoint1 := "not_documented"
  panelStatus := "error"
  error := some err.str

/-- The dashboard's data; a failure is shown as one instead of being raised. -/
def loadKillCriteriaDashboard (site : SmokeSite) : KillCriteriaWatchData :=
  let watched := do
    let bundle ← emitSyntheticHousehold site.synthetic watchCohort watchSeed
      watchRung none defaultNav false none
    watchFixture site watchCohort bundle.fixture
  match watched with
  | .ok data => data
  | .error err => unavailableWatch site.clockToday err

end Warehouse
