/-
Walk-forward guards (`research/backtest/walk_forward.py`): those of the
daily loop's time series, and those a backtest runs before it computes a
return.

A guard answers with nothing or raises; a guard over a list names the first
entry it does not admit.
-/
import Warehouse.Data.Ledger
import Warehouse.Python

namespace Warehouse

/-- Reject dated scenario rows that peek past the cutoff: the first one is
named. -/
def assertScenarioObservationsNotAfter (observations : List (Date × String))
    (asOf : Date) : Except Exc PUnit :=
  match observations.find? fun row => row.1 > asOf with
  | none => .ok ⟨⟩
  | some (obsDate, label) => .error (.walkForward (label ++ " observation "
      ++ isoformat obsDate ++ " after as_of " ++ isoformat asOf))

/-- Reject path slices beyond the allowed index. -/
def assertSeriesCutoff (endIndex cutoffIndex : Int) (label : String) :
    Except Exc PUnit :=
  if endIndex > cutoffIndex then
    .error (.walkForward (label ++ " end_index " ++ toString endIndex
      ++ " exceeds walk-forward cutoff " ++ toString cutoffIndex))
  else .ok ⟨⟩

/-- Require a window of at least the configured purge days. -/
def assertMinBacktestWindow (startDate endDate : Date) (purgeDays : Int) :
    Except Exc Unit :=
  let windowDays := endDate - startDate
  if windowDays < purgeDays then
    .error (.walkForward (toString windowDays ++ "d < " ++ toString purgeDays
      ++ "d purge min"))
  else .ok ⟨⟩

/-- Reject lots acquired after the cutoff: the first one is named. -/
def assertLotsNotAfter (positions : List LotPositionView) (asOf : Date) :
    Except Exc Unit :=
  match positions.find? fun pos => pos.acquisitionDate > asOf with
  | none => .ok ⟨⟩
  | some pos => .error (.walkForward ("lot " ++ pos.lotId ++ " acquired "
      ++ isoformat pos.acquisitionDate ++ " after as_of " ++ isoformat asOf))

/-- Reject price marks dated after the cutoff. -/
def assertMarkDatesNotAfter (markDates : List Date) (asOf : Date) :
    Except Exc Unit :=
  match markDates.find? fun markDate => markDate > asOf with
  | none => .ok ⟨⟩
  | some markDate => .error (.walkForward ("mark as_of_date "
      ++ isoformat markDate ++ " after evaluation end " ++ isoformat asOf))

end Warehouse
