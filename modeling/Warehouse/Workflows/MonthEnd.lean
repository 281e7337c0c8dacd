/-
Month-end reporting — fan-out `report.build` per household
(`workflows/month_end.py`).

A nested dispatch of `report.build` is the writer's call with the
message's actor. The batch catches every exception of a household and
goes on in the same session.
-/
import Warehouse.Reporting.Writer

namespace Warehouse

open Lib

/-- How one household's turn ended. -/
inductive OutcomeStatus where
  | completed
  | failed
  deriving DecidableEq, Repr

/-- Per-household month-end report build outcome. -/
structure MonthEndHouseholdOutcome where
  householdId : String
  status : OutcomeStatus
  written : Option WrittenHouseholdReport := none
  error : Option String := none
  deriving DecidableEq

/-- What a batch answers with. -/
structure MonthEndReportingResult where
  asOfDate : Date
  correlationId : String
  startedAt : DateTime
  finishedAt : DateTime
  outcomes : List MonthEndHouseholdOutcome
  deriving DecidableEq

/-- All household entity ids from the graph. -/
def listHouseholdIds (store : Store) : List String :=
  ((store.entities.filter (·.entityType = .household)).map
    (·.entityId)).insertionSort (· ≤ ·)

variable {A R : Type}

/-- Build month-end report packs for one household via `report.build`. -/
def runMonthEndReporting (cfg : ReportSetting A R) (asOf : Date)
    (householdId : String) (periodLabel : Option String)
    (correlationId actorId : String) : SiteWork A R WrittenHouseholdReport :=
  tryCatch
    (buildAndWriteHouseholdReports cfg asOf householdId periodLabel (some asOf)
      actorId)
    fun err => throw (.runtimeError ("month-end reporting failed for "
      ++ householdId ++ " (as_of=" ++ isoformat asOf ++ ", correlation_id="
      ++ correlationId ++ "): " ++ err.str))

/-- One household of the batch: its outcome, whatever happens. -/
def monthEndOutcome (cfg : ReportSetting A R) (asOf : Date)
    (periodLabel : Option String) (correlationId actorId householdId : String) :
    SiteWork A R MonthEndHouseholdOutcome :=
  tryCatch
    (do
      let written ← runMonthEndReporting cfg asOf householdId periodLabel
        correlationId actorId
      return { householdId := householdId
               status := .completed
               written := some written })
    fun err => return { householdId := householdId
                        status := .failed
                        error := some err.str }

/-- Fan out month-end `report.build` with isolated failures. -/
def runMonthEndReportingBatch (cfg : ReportSetting A R) (today : Date)
    (asOfDate : Option Date := none) (periodLabel : Option String := none)
    (householdIds : Option (List String) := none)
    (actorId : String := "system:month_end_reporting") :
    SiteWork A R MonthEndReportingResult := do
  let store := (← get).store
  let asOf := resolveReportAsOf store today asOfDate
  let correlationId ← onStore (Session.freshId cfg.env "month_end_batch")
  let startedAt ← onStore (Session.clock cfg.env)
  let hhIds := householdIds.getD (listHouseholdIds store)
  let outcomes ← hhIds.mapM
    (monthEndOutcome cfg asOf periodLabel correlationId actorId)
  let finishedAt ← onStore (Session.clock cfg.env)
  return {
    asOfDate := asOf
    correlationId := correlationId
    startedAt := startedAt
    finishedAt := finishedAt
    outcomes := outcomes }

end Warehouse
