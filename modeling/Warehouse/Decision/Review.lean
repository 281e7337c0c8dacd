/-
Portfolio Analyst — 7-checkpoint diagnostic (`decision/analyst/review.py`,
and its records of `models.py`).

Checkpoint 1 is scored on the rows of the attribution report; checkpoints
3, 4 and 6 have no engine.

Those without an engine are not computed and say so, each in a detail text
of its own. The theses come as a store or as any iterable, of which a store
is made.
-/
import Warehouse.Config
import Warehouse.Decision.Thesis

namespace Warehouse

open Lib

/-- `AnalystCheckpointScore`: the last two say why nothing was scored. -/
inductive AnalystCheckpointScore where
  | pass
  | warn
  | breach
  | notComputed
  | notDocumented
  deriving DecidableEq, Repr

/-- 7-checkpoint diagnostic — audit snapshot. -/
structure AnalystReview where
  configVersion : String
  checkpoints : Dict String AnalystCheckpointScore
  details : Dict String String
  headline : String

/-- `theses: Any | None`: a store, or any iterable of theses. -/
inductive Theses where
  | store (theses : ThesisStore)
  | iterable (theses : List PositionThesis)

/-- Either form of the argument as a store. -/
def Theses.asStore : Theses → ThesisStore
  | store theses => theses
  | iterable theses => ThesisStore.fromTheses theses

/-- What the review calls an active return. -/
def activeReturnLabel : String := "active return vs ex-ante class assumption"

-- The score of checkpoint 1 is one of three; for any other there is no text.

/-- The sentence of the first checkpoint, by score. -/
def checkpoint1Detail : AnalystCheckpointScore → String
  | .pass =>
      "Thesis + kill criteria — documented positions carry pre-committed "
        ++ "kill criteria and none are breached."
  | .breach =>
      "Thesis + kill criteria — a pre-committed kill criterion is breached; "
        ++ "advisor alert raised (no trade staged)."
  | _ =>
      "Thesis + kill criteria — no thesis covers a reported position; "
        ++ "not_documented, not a faked pass."

/-- `_DETAILS`, with checkpoint 1 under the text of its score. -/
def checkpointDetails (checkpoint1 : AnalystCheckpointScore) :
    Dict String String :=
  Dict.ofPairs
    [("checkpoint_1", checkpoint1Detail checkpoint1),
     ("checkpoint_2", "Attribution reconciliation — scored on |"
       ++ activeReturnLabel ++ "| "
       ++ "(annualized where the window clears the floor, cumulative "
       ++ "otherwise). Beta-stripped idiosyncratic isolation is not_computed."),
     ("checkpoint_3", "Valuation scenario range — no valuation engine."),
     ("checkpoint_4", "Out-of-sample validation — no signal/screen pipeline."),
     ("checkpoint_5",
       "Mechanism — the class assumption is one causal hop, but the gap is "
       ++ "not beta-stripped; partial pass."),
     ("checkpoint_6",
       "Goodhart audit — no fundamentals feed for reported-vs-economic "
       ++ "divergence."),
     ("checkpoint_7",
       "Composite decomposition — expected_cumulative + active_return are "
       ++ "always present; satisfied by construction.")]

/-- Holding-period-aware score for one lot. -/
def positionActiveScore (pa : PositionAttribution) (warn breach : ℚ) :
    AnalystCheckpointScore :=
  let metric := pa.activeAnnualized.getD pa.activeReturn
  if |metric| ≥ breach then .breach
  else if |metric| ≥ warn then .warn
  else .pass

-- ========================================================== the checkpoints

/-- One row: a documented one is counted, and any breach is kept. -/
def documentRow (ctx : DecimalContext) (store : ThesisStore)
    (acc : Nat × Bool) (pa : PositionAttribution) : Nat × Bool :=
  match store.get pa.accountId (pa.ticker.getD "") with
  | none => acc
  | some thesis =>
      (acc.1 + 1, acc.2 || !(breachesForAttribution ctx pa thesis).isEmpty)

/-- Kill criteria: a breach on any documented position; without a documented
position nothing is scored. -/
def scoreCheckpoint1 (ctx : DecimalContext) (report : AttributionReport)
    (theses : Option Theses) : AnalystCheckpointScore :=
  match theses with
  | none => .notDocumented
  | some theses =>
      let store := theses.asStore
      if store.length = 0 then .notDocumented
      else
        let rows := report.positions.foldl (documentRow ctx store) (0, false)
        if rows.1 = 0 then .notDocumented
        else if rows.2 then .breach else .pass

/-- The worse of two scores, the first one on a tie. -/
def worseScore (worst score : AnalystCheckpointScore) :
    AnalystCheckpointScore :=
  let rank : AnalystCheckpointScore → Nat
    | .warn => 1
    | .breach => 2
    | _ => 0
  if rank score > rank worst then score else worst

/-- Active return: the worst position of the book. -/
def scoreCheckpoint2 (report : AttributionReport) (warn breach : ℚ) :
    AnalystCheckpointScore :=
  if report.positions.isEmpty then .notComputed
  else
    report.positions.foldl
      (fun worst pa => worseScore worst (positionActiveScore pa warn breach))
      .pass

/-- Attribution exists for the book, or it was not computed. -/
def scoreCheckpoint7 (report : AttributionReport) : AnalystCheckpointScore :=
  if report.positions.isEmpty then .notComputed else .pass

/-- The headline: breaches before warnings. -/
def analystHeadline (scores : Dict String AnalystCheckpointScore) : String :=
  let breaches := scores.values.count .breach
  let warns := scores.values.count .warn
  if breaches > 0 then
    toString breaches ++ " checkpoint breach(es) — unexplained active return "
      ++ "needs review"
  else if warns > 0 then
    toString warns ++ " checkpoint warn(s) — monitor active return"
  else
    "attribution within tolerance; valuation/factor gaps not_computed"

/-- Score the checkpoints from the report. -/
def scoreAnalystCheckpoints (ctx : DecimalContext) (settings : Settings)
    (report : AttributionReport) (theses : Option Theses := none) :
    AnalystReview :=
  let warn := settings.analystResidualWarn
  let breach := settings.analystResidualBreach
  let checkpoint1 := scoreCheckpoint1 ctx report theses
  let checkpoints := Dict.ofPairs
    [("checkpoint_1", checkpoint1),
     ("checkpoint_2", scoreCheckpoint2 report warn breach),
     ("checkpoint_3", .notComputed),
     ("checkpoint_4", .notComputed),
     ("checkpoint_5",
       if report.positions.isEmpty then .notComputed else .pass),
     ("checkpoint_6", .notComputed),
     ("checkpoint_7", scoreCheckpoint7 report)]
  { configVersion := report.configVersion
    checkpoints := checkpoints
    details := checkpointDetails checkpoint1
    headline := analystHeadline checkpoints }

end Warehouse
