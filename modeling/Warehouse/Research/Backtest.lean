/-
The backtest harness (`research/backtest/harness.py`, its row of
`infra/db/models.py`, and the mark query of `walk_forward.py`).

A backtest reads the household's positions unbounded, and has the guards
refuse what is dated after its end. Nothing is written before the last of
its refusals. The stores of the planes are extended by the table of runs.
-/
import Warehouse.Config
import Warehouse.Data.Views
import Warehouse.Research.WalkForward

namespace Warehouse

/-- `BacktestRunRow`, whose columns a `BacktestRunView` has too. -/
structure BacktestRunRow where
  runId : String
  householdId : String
  startDate : Date
  endDate : Date
  afterTaxReturn : ℚ
  baselineAfterTaxReturn : ℚ
  taxDelta : ℚ
  configHash : String
  inputSnapshotId : String
  createdAt : DateTime
  deriving DecidableEq

/-- The store with the backtest runs beside it. -/
structure BacktestStore extends Store where
  backtestRuns : List BacktestRunRow := []

/-- What a hash of the configuration takes from outside. -/
structure HashRuntime where
  sha256 : String → String
  floatText : ℚ → String
  jsonText : String → String

/-- The order of the rows where a query has none. -/
structure BacktestOrder where
  lots : List Lot → List Lot
  marks : List MarketPriceRow → List MarketPriceRow
  runs : List BacktestRunRow → List BacktestRunRow
  lotsPerm : ∀ rows, (lots rows).Perm rows
  marksPerm : ∀ rows, (marks rows).Perm rows
  runsPerm : ∀ rows, (runs rows).Perm rows

/-- `_config_hash`: the keys of the payload are sorted. -/
def configHash (rt : HashRuntime) (settings : AppSettings) : String :=
  let payload := "\x7b\"fed_ltcg_rate\": " ++ rt.floatText settings.fedLtcgRate
    ++ ", \"fed_stcg_rate\": " ++ rt.floatText settings.fedStcgRate
    ++ ", \"purge_days\": " ++ toString settings.walkForwardPurgeDays
    ++ ", \"tax_config_version\": " ++ rt.jsonText settings.taxConfigVersion
    ++ "\x7d"
  String.ofList ((rt.sha256 payload).toList.take 16)

-- ================================================================== guards

/-- The marks of every held security, empty without positions. -/
def markDatesForPositions (order : BacktestOrder) (store : Store)
    (positions : List LotPositionView) : List Date :=
  let securityIds := positions.map (·.securityId)
  if securityIds.isEmpty then []
  else
    ((order.marks store.marketPrices).filter fun row =>
      row.securityId ∈ securityIds).map (·.asOfDate)

/-- Run all walk-forward guards before a backtest computes returns. -/
def validateBacktestWalkForward (order : BacktestOrder) (store : Store)
    (_householdId : String) (positions : List LotPositionView)
    (startDate endDate : Date) (purgeDays : Int) : Except Exc Unit := do
  assertMinBacktestWindow startDate endDate purgeDays
  assertLotsNotAfter positions endDate
  assertMarkDatesNotAfter (markDatesForPositions order store positions) endDate

-- ================================================================= outcome

/-- The two after-tax returns and what the tax makes between them. -/
structure BacktestOutcome where
  afterTaxReturn : ℚ
  baselineAfterTaxReturn : ℚ
  taxDelta : ℚ
  deriving DecidableEq

/-- The returns over what the positions cost. -/
def backtestOutcome (settings : AppSettings)
    (positions : List LotPositionView) : Except Exc BacktestOutcome :=
  let startValue := (positions.map (·.totalCostBasis)).sum
  let endValue := (positions.map fun p => p.marketValue.getD 0).sum
  if startValue ≤ 0 then
    .error (.valueError "Backtest start value must be positive")
  else
    let grossReturn := (endValue - startValue) / startValue
    let netGain := endValue - startValue
    let taxable := max netGain 0
    let ltcg := settings.fedLtcgRate
    let taxDrag := taxable * ltcg / startValue
    let afterTaxReturn := grossReturn - taxDrag
    -- the baseline is the same figure until harvest replay lowers the gains
    let baselineAfterTaxReturn := grossReturn - taxDrag
    .ok
      { afterTaxReturn := afterTaxReturn
        baselineAfterTaxReturn := baselineAfterTaxReturn
        taxDelta := afterTaxReturn - baselineAfterTaxReturn }

-- ===================================================================== run

/-- `run_backtest`: the walk-forward guards, then one row; a household without
positions is refused. -/
def runBacktest (env : Env) (rt : HashRuntime) (order : BacktestOrder)
    (store : BacktestStore) (householdId : String) (startDate endDate : Date)
    (inputSnapshotId : Option String) (settings : AppSettings) :
    Except Exc (BacktestRunRow × BacktestStore) := do
  let purgeDays := settings.walkForwardPurgeDays
  let positions := listLotPositions order.lots store.toStore
    (some householdId)
  validateBacktestWalkForward order store.toStore householdId positions
    startDate endDate purgeDays
  if positions.isEmpty then
    throw (.valueError ("No positions for household " ++ householdId))
  else
    let outcome ← backtestOutcome settings positions
    let (snapshot, drawn) :=
      if truthy inputSnapshotId then
        (inputSnapshotId.getD "", store.toStore)
      else (env.freshId "snap" store.toStore, store.toStore.drawn)
    let row : BacktestRunRow :=
      { runId := env.freshId "bt" drawn
        householdId := householdId
        startDate := startDate
        endDate := endDate
        afterTaxReturn := outcome.afterTaxReturn
        baselineAfterTaxReturn := outcome.baselineAfterTaxReturn
        taxDelta := outcome.taxDelta
        configHash := configHash rt settings
        inputSnapshotId := snapshot
        createdAt := env.clock drawn }
    return (row,
      { toStore := drawn.drawn.ticked
        backtestRuns := store.backtestRuns ++ [row] })

-- ================================================================== listing

/-- What the columns of the listed tables hand back of a figure they were
given. -/
structure HistoryColumns where
  /-- `Numeric(18, 6)`, of amounts and quantities. -/
  amount : ℚ → ℚ
  /-- `str` of what such a column hands back. -/
  amountText : ℚ → String
  /-- `Numeric(18, 8)`, of returns. -/
  rate : ℚ → ℚ
  /-- `Numeric(18, 2)`, of taxes. -/
  money : ℚ → ℚ

/-- Which rows a session still holds as they were written, by their ids. It
reads the others from their tables. -/
structure HistorySession where
  holds : String → Bool

/-- A view that is listed, and whether its time still has a zone: a
`DateTime` column drops it. -/
structure Listed (α : Type) where
  view : α
  zoned : Bool
  deriving DecidableEq

/-- The view of a row that is held, or of what its columns kept. -/
def HistorySession.listed {α : Type} (session : HistorySession) (id : String)
    (written kept : α) : Listed α :=
  if session.holds id then ⟨written, true⟩ else ⟨kept, false⟩

/-- A backtest as its columns keep it. -/
def BacktestRunRow.kept (columns : HistoryColumns) (row : BacktestRunRow) :
    BacktestRunRow :=
  { row with
    afterTaxReturn := columns.rate row.afterTaxReturn
    baselineAfterTaxReturn := columns.rate row.baselineAfterTaxReturn
    taxDelta := columns.rate row.taxDelta }

/-- A run as a later listing shows it. -/
def BacktestRunRow.listed (columns : HistoryColumns)
    (session : HistorySession) (row : BacktestRunRow) :
    Listed BacktestRunRow :=
  session.listed row.runId row (row.kept columns)

/-- Newest first. -/
def listBacktestRuns (columns : HistoryColumns) (session : HistorySession)
    (order : BacktestOrder) (store : BacktestStore) (householdId : String)
    (limit : Nat := 5) : List (Listed BacktestRunRow) :=
  let rows := store.backtestRuns.filter fun row =>
    row.householdId = householdId
  let newest := ((order.runs rows).insertionSort fun a b =>
    b.createdAt ≤ a.createdAt).take limit
  newest.map (·.listed columns session)

end Warehouse
