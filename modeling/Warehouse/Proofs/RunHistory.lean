/-
What the desk lists is what it answered.

Every call of the desk appends to its tables (`Appends`): at most rows of
its own, stamped while it runs, whose trades are under ids drawn while it
runs. So each table is a log, of which the views list the last rows
(`Log.newest`), and the trades of a run that has been written never grow
(`tradesUnder_written`): counted again, they are as many as they were.

# Answered and listed

The tables hold what was computed, so they hold the answers
(`DeskInv`). A listing goes through what the session still holds and what
the columns keep of the rest, one row at a time, whatever the columns do to
a figure: it is the answers, newest first, each read that way.

# Columns and sessions

Two things stand between an answer and a listing of it: rows the session
still holds are shown as they were written, others as their columns keep
them, amounts rounded to the column's scale and times without their zone.
Both are parameters (`HistoryColumns`, `DeskSession`), so the statement
holds for any scale and for any choice of which rows are still held, and
rounds nothing where nothing is read back.
-/
import Warehouse.Execution.Desk
import Warehouse.Lib.Newest
import Warehouse.Proofs.Backtest
import Warehouse.Proofs.IpsStore
import Warehouse.Proofs.Oms.Refinement

namespace Warehouse

open Lib

variable {env : Env}

-- ================================================================= answers

/-- Subscribers leave the tax scenarios alone and do not turn back the
clock. -/
def Unobtrusive (env : Env) : Prop :=
  ∀ op, ∀ subscriber ∈ env.subscribers op, ∀ s e,
    (subscriber.react s e).taxScenarioRuns = s.taxScenarioRuns
      ∧ s.ticks ≤ (subscriber.react s e).ticks

/-- Every reading of the clock is later than the one before. -/
def Advancing (env : Env) : Prop :=
  ∀ ⦃m n⦄, m < n → env.now m < env.now n

/-- A clock that advances tick by tick never goes back. -/
theorem Advancing.mono (h : Advancing env) {m n : Nat} (hle : m ≤ n) :
    env.now m ≤ env.now n := by
  rcases hle.lt_or_eq with hlt | rfl
  · exact le_of_lt (h hlt)
  · exact le_refl _

/-- The optimizer run a reply answers with, if it does. -/
def DeskReply.optimization? : DeskReply → Option OptimizationRunView
  | optimization view => some view
  | _ => none

/-- The solver comparison a reply answers with, if it does. -/
def DeskReply.comparison? : DeskReply → Option SolverComparisonView
  | comparison view => some view
  | _ => none

/-- The tax scenario a reply answers with, if it does. -/
def DeskReply.taxScenario? : DeskReply → Option TaxScenarioRunRow
  | taxScenario view => some view
  | _ => none

/-- The backtest a reply answers with, if it does. -/
def DeskReply.backtest? : DeskReply → Option BacktestRunRow
  | backtest view => some view
  | _ => none

/-- The runs an answer names, each with its household: the one that was
asked for, or the two that were compared. -/
def DeskReply.runs : DeskReply → List (String × String)
  | optimization view => [(view.householdId, view.runId)]
  | comparison view => [(view.householdId, view.heuristicRunId),
      (view.householdId, view.mipRunId)]
  | _ => []

/-- The trades of a run, as they were proposed. -/
def tradesUnder (trades : List OptimizationTradeRow) (runId : String) :
    List OptimizationTradeRow := trades.filter (·.runId = runId)

-- ================================================================ appending

/-- What a call appends. -/
structure NewRows where
  runs : List OptimizationRunRow := []
  trades : List OptimizationTradeRow := []
  comparisons : List SolverComparisonRow := []
  taxRuns : List TaxScenarioRunRow := []
  backtests : List BacktestRunRow := []

/-- A call appended `new`, and answered `reply`. -/
structure Appends (env : Env) (store store' : DeskStore) (reply : DeskReply)
    (new : NewRows) : Prop where
  runs : store'.optimizationRuns = store.optimizationRuns ++ new.runs
  trades : store'.optimizationTrades = store.optimizationTrades ++ new.trades
  comparisons : store'.solverComparisons
    = store.solverComparisons ++ new.comparisons
  taxRuns : store'.taxScenarioRuns = store.taxScenarioRuns ++ new.taxRuns
  backtests : store'.backtestRuns = store.backtestRuns ++ new.backtests
  draws : store.draws ≤ store'.draws
  ticks : store.ticks ≤ store'.ticks
  runsStamped : Log (·.createdAt) (env.now store.ticks) (env.now store'.ticks)
    new.runs
  comparisonsStamped : Log (·.createdAt) (env.now store.ticks)
    (env.now store'.ticks) new.comparisons
  taxRunsStamped : Log (·.createdAt) (env.now store.ticks)
    (env.now store'.ticks) new.taxRuns
  backtestsStamped : Log (·.createdAt) (env.now store.ticks)
    (env.now store'.ticks) new.backtests
  tradesFresh : ∀ trade ∈ new.trades,
    Drawn env "opt" store.draws store'.draws trade.runId
  runsFresh : ∀ run ∈ new.runs,
    Drawn env "opt" store.draws store'.draws run.runId
  comparisonsFresh : ∀ row ∈ new.comparisons,
    Drawn env "opt" store.draws store'.draws row.heuristicRunId
      ∧ Drawn env "opt" store.draws store'.draws row.mipRunId
  named : reply.runs = new.runs.map fun run => (run.householdId, run.runId)
  taxReply : reply.taxScenario?.toList = new.taxRuns
  backtestReply : reply.backtest?.toList = new.backtests
  comparisonReply : reply.comparison?.toList = new.comparisons.map fun row =>
    row.view (tradesUnder new.trades row.heuristicRunId).length
      (tradesUnder new.trades row.mipRunId).length
  optimizationReply : ∀ view ∈ reply.optimization?, ∃ run ∈ new.runs,
    view = run.view env ((tradesUnder new.trades run.runId).map (·.proposal))

/-- A call that appends nothing. -/
theorem Appends.quiet {store store' : DeskStore} {reply : DeskReply}
    (hruns : store'.optimizationRuns = store.optimizationRuns)
    (htrades : store'.optimizationTrades = store.optimizationTrades)
    (hcomparisons : store'.solverComparisons = store.solverComparisons)
    (htax : store'.taxScenarioRuns = store.taxScenarioRuns)
    (hbacktests : store'.backtestRuns = store.backtestRuns)
    (hdraws : store.draws ≤ store'.draws) (hticks : store.ticks ≤ store'.ticks)
    (hreply : reply = .done ∨ ∃ err, reply = .refused err) :
    Appends env store store' reply {} := by
  have hsilent : reply.runs = [] ∧ reply.taxScenario? = none
      ∧ reply.backtest? = none ∧ reply.comparison? = none
      ∧ reply.optimization? = none := by
    rcases hreply with rfl | ⟨err, rfl⟩
    · exact ⟨rfl, rfl, rfl, rfl, rfl⟩
    · exact ⟨rfl, rfl, rfl, rfl, rfl⟩
  obtain ⟨hnamed, htaxed, htested, hcompared, hoptimized⟩ := hsilent
  refine ⟨?_, ?_, ?_, ?_, ?_, hdraws, hticks, .nil, .nil, .nil, .nil,
    List.forall_mem_nil _, List.forall_mem_nil _, List.forall_mem_nil _,
    hnamed, ?_, ?_, ?_, ?_⟩
  · rw [hruns, List.append_nil]
  · rw [htrades, List.append_nil]
  · rw [hcomparisons, List.append_nil]
  · rw [htax, List.append_nil]
  · rw [hbacktests, List.append_nil]
  · rw [htaxed]; rfl
  · rw [htested]; rfl
  · rw [hcompared]; rfl
  · rw [hoptimized]
    exact fun _ h => (nomatch h)

/-- The run a call opens a gate on by name. -/
def DeskOp.opens? : DeskOp → Option String
  | call (.createApproval runId _) => some runId
  | _ => none

/-- What a call does that is not refused: it moves the book by book steps,
it writes the runs it names, and it opens no gate but on a run it answers
with or is given by name. Under a clock that runs and subscribers that do
not meddle, it appends to the tables. -/
structure Effect (env : Env) (store store' : DeskStore) (op : DeskOp)
    (reply : DeskReply) : Prop where
  steps : BookSteps env store.book store'.book
  named : store'.optimizationRuns.map (·.runId)
    = store.optimizationRuns.map (·.runId) ++ reply.runs.map (·.2)
  gates : ∀ row ∈ store'.approvalRequests, ∀ runId ∈ row.optimizationRunId,
    (∃ old ∈ store.approvalRequests, old.optimizationRunId = some runId)
      ∨ (∃ view ∈ reply.optimization?, view.runId = runId)
      ∨ runId ∈ op.opens?
  appends : Advancing env → Unobtrusive env →
    ∃ new, Appends env store store' reply new

-- ============================================================== persisting

/-- What persisting a result writes. -/
structure Persisted (env : Env) (store store' : Store)
    (result : OptimizationResult) (run : OptimizationRunRow) : Prop where
  runs : store'.optimizationRuns = store.optimizationRuns ++ [run]
  trades : store'.optimizationTrades = store.optimizationTrades
    ++ result.trades.map (tradeRow run.runId)
  taxRuns : store'.taxScenarioRuns = store.taxScenarioRuns
  draws : store.draws < store'.draws
  ticks : store.ticks < store'.ticks
  runId : run.runId = env.freshId "opt" store
  createdAt : run.createdAt = env.now store.ticks
  householdId : run.householdId = result.householdId
  steps : BookSteps env store.book store'.book
  gates : ∀ row ∈ store'.approvalRequests,
    row ∈ store.approvalRequests ∨ row.optimizationRunId = some run.runId

/-- Without a gate: two ids, two readings, one run with its trades. -/
theorem persistOptimization_ungated (env : Env) (store : Store)
    (result : OptimizationResult) (snapshot actorId solverType : String)
    (runtimeMs : Option Int) :
    Persisted env store (persistOptimization env store result snapshot actorId
        solverType runtimeMs false).2 result
      (persistOptimization env store result snapshot actorId solverType
        runtimeMs false).1 := by
  have hsteps : BookSteps env store.book (persistOptimization env store result
      snapshot actorId solverType runtimeMs false).2.book :=
    steps_persistOptimization store result snapshot actorId solverType runtimeMs
      false
  unfold persistOptimization at hsteps ⊢
  refine ⟨rfl, rfl, rfl, ?_, ?_, rfl, rfl, rfl, hsteps, fun _ h => .inl h⟩
  · exact Nat.lt_succ_of_lt (Nat.lt_succ_self _)
  · exact Nat.lt_succ_of_lt (Nat.lt_succ_self _)

/-- Persisting without the gate queues no approval. -/
theorem approvals_ungated (env : Env) (store : Store)
    (result : OptimizationResult) (snapshot actorId solverType : String)
    (runtimeMs : Option Int) :
    (persistOptimization env store result snapshot actorId solverType runtimeMs
      false).2.approvalRequests = store.approvalRequests := by
  unfold persistOptimization
  rfl

/-- The gate is opened on the run, beside the tables of runs. -/
theorem Persisted.gated {store store' : Store} {result : OptimizationResult}
    {run : OptimizationRunRow} (h : Persisted env store store' result run)
    (householdId : String)
    (hsteps : BookSteps env store'.book
      (createApprovalRequest env store' run.runId householdId).2.book) :
    Persisted env store
      (createApprovalRequest env store' run.runId householdId).2 result run := by
  refine ⟨h.runs, h.trades, h.taxRuns, ?_, ?_, h.runId, h.createdAt,
    h.householdId, h.steps.trans hsteps, ?_⟩
  · exact h.draws.trans (Nat.lt_succ_of_lt (Nat.lt_succ_self _))
  · exact h.ticks.trans (Nat.lt_succ_of_lt (Nat.lt_succ_self _))
  · intro row hrow
    rcases List.mem_append.mp hrow with hrow | hrow
    · exact h.gates row hrow
    · rw [List.mem_singleton.mp hrow]
      exact .inr rfl

/-- What persisting a result adds: one run, its trades, and the request if it
was asked for. -/
theorem persistOptimization_persisted (env : Env) (store : Store)
    (result : OptimizationResult) (snapshot actorId solverType : String)
    (runtimeMs : Option Int) (queueApproval : Bool) :
    Persisted env store (persistOptimization env store result snapshot actorId
        solverType runtimeMs queueApproval).2 result
      (persistOptimization env store result snapshot actorId solverType
        runtimeMs queueApproval).1 := by
  have hungated := persistOptimization_ungated env store result snapshot actorId
    solverType runtimeMs
  cases queueApproval with
  | false => exact hungated
  | true =>
    exact hungated.gated result.householdId
      (steps_createApproval _ result.householdId .optimization _ _ (by simp))

-- ============================================================ the appenders

section Appenders

variable {store : DeskStore} {order : DeskOrder}

/-- A run's trades in two tables, one after the other. -/
theorem tradesUnder_append (trades trades' : List OptimizationTradeRow)
    (runId : String) : tradesUnder (trades ++ trades') runId
      = tradesUnder trades runId ++ tradesUnder trades' runId := by
  unfold tradesUnder
  rw [List.filter_append]

/-- Where every trade is another run's, a run has none. -/
theorem tradesUnder_eq_nil {trades : List OptimizationTradeRow}
    {runId : String} (h : ∀ trade ∈ trades, trade.runId ≠ runId) :
    tradesUnder trades runId = [] := by
  unfold tradesUnder
  rw [List.filter_eq_nil_iff]
  intro trade htrade
  rw [decide_eq_true_eq]
  exact h trade htrade

/-- The trades stored under a drawn id are under a drawn id. -/
theorem drawn_tradeRow {lo hi : Nat} {runId : String}
    (hid : Drawn env "opt" lo hi runId) (trades : List TradeProposal) :
    ∀ trade ∈ trades.map (tradeRow runId), Drawn env "opt" lo hi trade.runId := by
  intro trade htrade
  obtain ⟨proposed, -, rfl⟩ := List.mem_map.mp htrade
  exact hid

/-- The trades stored under a run are found under it. -/
theorem tradesUnder_persisted (runId : String) (trades : List TradeProposal) :
    tradesUnder (trades.map (tradeRow runId)) runId
      = trades.map (tradeRow runId) := by
  unfold tradesUnder
  rw [List.filter_eq_self]
  intro row hrow
  obtain ⟨trade, -, rfl⟩ := List.mem_map.mp hrow
  exact decide_eq_true rfl

/-- Trades under one id are none of another's. -/
theorem tradesUnder_other {runId other : String} (hne : other ≠ runId)
    (trades : List TradeProposal) :
    tradesUnder (trades.map (tradeRow other)) runId = [] := by
  apply tradesUnder_eq_nil
  intro row hrow
  obtain ⟨trade, -, rfl⟩ := List.mem_map.mp hrow
  exact hne

/-- A stored trade is listed as the proposal it was. -/
theorem map_proposal_tradeRow (runId : String) (trades : List TradeProposal) :
    (trades.map (tradeRow runId)).map (·.proposal) = trades := by
  rw [List.map_map]
  exact List.map_id trades

/-- A run that was persisted, on planes that have drawn at most an id. -/
theorem Appends.optimized (hclock : Advancing env)
    {planes planes' : Store} {result : OptimizationResult}
    {run : OptimizationRunRow}
    (hplanes : planes = store.toStore ∨ planes = store.toStore.drawn)
    (h : Persisted env planes planes' result run) :
    Appends env store (store.withPlanes planes')
      (.optimization (run.view env result.trades))
      { runs := [run], trades := result.trades.map (tradeRow run.runId) } := by
  have hsame : planes.optimizationRuns = store.optimizationRuns
      ∧ planes.optimizationTrades = store.optimizationTrades
      ∧ planes.taxScenarioRuns = store.taxScenarioRuns
      ∧ planes.ticks = store.ticks ∧ store.draws ≤ planes.draws := by
    rcases hplanes with rfl | rfl
    · exact ⟨rfl, rfl, rfl, rfl, le_refl _⟩
    · exact ⟨rfl, rfl, rfl, rfl, Nat.le_succ _⟩
  obtain ⟨hruns, htrades, htax, hticks, hdraws⟩ := hsame
  have hlater : env.now store.ticks < env.now planes'.ticks := by
    have := h.ticks
    exact hclock (by omega)
  have hid : Drawn env "opt" store.draws planes'.draws run.runId := by
    rw [h.runId]
    exact ⟨planes.draws, hdraws, h.draws, rfl⟩
  refine
    { runs := ?_, trades := ?_, comparisons := (List.append_nil _).symm
      taxRuns := ?_, backtests := (List.append_nil _).symm
      draws := hdraws.trans h.draws.le
      ticks := ?_, runsStamped := .single ?_ ?_, comparisonsStamped := .nil
      taxRunsStamped := .nil, backtestsStamped := .nil, tradesFresh := ?_
      runsFresh := ?_, comparisonsFresh := List.forall_mem_nil _
      named := rfl, taxReply := rfl, backtestReply := rfl
      comparisonReply := rfl, optimizationReply := ?_ }
  · rw [← hruns]
    exact h.runs
  · rw [← htrades]
    exact h.trades
  · rw [List.append_nil, ← htax]
    exact h.taxRuns
  · have := h.ticks
    rw [hticks] at this
    exact this.le
  · rw [h.createdAt, hticks]
  · rw [h.createdAt, hticks]
    exact hlater
  · exact drawn_tradeRow hid _
  · intro other hother
    rw [List.mem_singleton.mp hother]
    exact hid
  · intro view hview
    obtain rfl := Option.some.inj hview
    refine ⟨run, List.mem_singleton_self _, ?_⟩
    rw [tradesUnder_persisted, map_proposal_tradeRow]

/-- A run that was persisted, on planes that have drawn at most an id. -/
theorem Effect.optimized {planes planes' : Store} {result : OptimizationResult}
    {run : OptimizationRunRow} {op : DeskOp}
    (hplanes : planes = store.toStore ∨ planes = store.toStore.drawn)
    (h : Persisted env planes planes' result run) :
    Effect env store (store.withPlanes planes') op
      (.optimization (run.view env result.trades)) := by
  have hsame : planes.optimizationRuns = store.optimizationRuns
      ∧ planes.approvalRequests = store.approvalRequests
      ∧ BookSteps env store.book planes.book := by
    rcases hplanes with rfl | rfl
    · exact ⟨rfl, rfl, Relation.ReflTransGen.refl⟩
    · exact ⟨rfl, rfl,
        Relation.ReflTransGen.single (BookStep.drew _ (Nat.le_succ _))⟩
  obtain ⟨hruns, happrovals, hsteps⟩ := hsame
  refine ⟨hsteps.trans h.steps, ?_, ?_, fun hclock _ =>
    ⟨_, .optimized hclock hplanes h⟩⟩
  · show planes'.optimizationRuns.map (·.runId) = _
    rw [h.runs, hruns, List.map_append]
    rfl
  · intro row hrow runId hid
    rcases h.gates row hrow with hold | hown
    · rw [happrovals] at hold
      exact .inl ⟨row, hold, hid⟩
    · rw [hown] at hid
      exact .inr (.inl ⟨_, rfl, Option.some.inj hid⟩)

/-- The optimizer call adds one run and answers with it. -/
theorem runAndPersistOptimizer_effect {op : DeskOp}
    {settings : Settings} {clockToday : Date} {householdId : String}
    {snapshot : Option String} {view : OptimizationRunView}
    {store' : DeskStore}
    (h : runAndPersistOptimizer env order settings clockToday store householdId
      snapshot = .ok (view, store')) :
    Effect env store store' op (.optimization view) := by
  unfold runAndPersistOptimizer at h
  obtain ⟨ips, -, h⟩ := bind_ok_iff.mp h
  dsimp only at h
  by_cases hgiven : truthy snapshot = true
  · rw [if_pos hgiven] at h
    obtain ⟨result, -, h⟩ := bind_ok_iff.mp h
    obtain ⟨rfl, rfl⟩ := Prod.mk.inj (Except.ok.inj h)
    exact .optimized (.inl rfl) (persistOptimization_persisted env
      store.toStore result (snapshot.getD "") "system:optimizer" "heuristic"
      none true)
  · rw [if_neg hgiven] at h
    obtain ⟨result, -, h⟩ := bind_ok_iff.mp h
    obtain ⟨rfl, rfl⟩ := Prod.mk.inj (Except.ok.inj h)
    exact .optimized (.inr rfl) (persistOptimization_persisted env
      store.toStore.drawn result (env.freshId "snap" store.toStore)
      "system:optimizer" "heuristic" none true)

/-- Two runs persisted one after the other, on planes that have drawn an
id, and the row that compares them. -/
theorem Appends.compared (hclock : Advancing env)
    {planes planes' : Store} {heuristic mip : OptimizationResult}
    {run run' : OptimizationRunRow} {row : SolverComparisonRow}
    (h : Persisted env store.toStore.drawn planes heuristic run)
    (h' : Persisted env planes planes' mip run')
    (hhousehold : run.householdId = row.householdId
      ∧ run'.householdId = row.householdId)
    (hids : row.heuristicRunId = run.runId ∧ row.mipRunId = run'.runId)
    (hcreated : row.createdAt = env.clock planes') :
    Appends env store
      { store.withPlanes planes'.drawn.ticked with
        solverComparisons := store.solverComparisons ++ [row] }
      (.comparison (row.view heuristic.trades.length mip.trades.length))
      { runs := [run, run']
        trades := heuristic.trades.map (tradeRow run.runId)
          ++ mip.trades.map (tradeRow run'.runId)
        comparisons := [row] } := by
  have hdraws : store.draws + 1 < planes.draws := h.draws
  have hdraws' := h'.draws
  have hticks : store.ticks < planes.ticks := h.ticks
  have hticks' := h'.ticks
  have hid : Drawn env "opt" store.draws planes.draws run.runId := by
    rw [h.runId]
    exact ⟨store.draws + 1, Nat.le_succ _, hdraws, rfl⟩
  have hid' : Drawn env "opt" planes.draws planes'.draws run'.runId := by
    rw [h'.runId]
    exact ⟨planes.draws, le_refl _, hdraws', rfl⟩
  have hne : run.runId ≠ run'.runId := hid.ne hid'
  have hfirst : Drawn env "opt" store.draws (planes'.draws + 1) run.runId :=
    hid.mono (by omega)
  have hsecond : Drawn env "opt" store.draws (planes'.draws + 1)
      run'.runId := by
    obtain ⟨k, hlo, hhi, hk⟩ := hid'
    exact ⟨k, by omega, by omega, hk⟩
  refine
    { runs := ?_, trades := ?_, comparisons := rfl, taxRuns := ?_
      backtests := (List.append_nil _).symm, draws := ?_, ticks := ?_
      runsStamped := ?_, comparisonsStamped := .single ?_ ?_
      taxRunsStamped := .nil, backtestsStamped := .nil, tradesFresh := ?_
      runsFresh := ?_, comparisonsFresh := ?_, named := ?_, taxReply := rfl
      backtestReply := rfl, comparisonReply := ?_
      optimizationReply := fun _ hview => nomatch hview }
  · show planes'.optimizationRuns = _
    rw [h'.runs, h.runs, List.append_assoc]
    rfl
  · show planes'.optimizationTrades = _
    rw [h'.trades, h.trades, List.append_assoc]
    rfl
  · show planes'.taxScenarioRuns = _
    rw [h'.taxRuns, h.taxRuns, List.append_nil]
    rfl
  · show store.draws ≤ planes'.draws + 1
    omega
  · show store.ticks ≤ planes'.ticks + 1
    omega
  · have hone : Log (·.createdAt) (env.now store.ticks) (env.now planes.ticks)
        [run] := .single (by rw [h.createdAt]; exact le_refl _)
          (by rw [h.createdAt]; exact hclock hticks)
    have htwo : Log (·.createdAt) (env.now planes.ticks)
        (env.now (planes'.ticks + 1)) [run'] := .single
          (by rw [h'.createdAt]) (by rw [h'.createdAt]; exact hclock (by omega))
    have hend : planes.ticks ≤ planes'.ticks + 1 := by omega
    exact hone.append htwo (hclock.mono hticks.le) (hclock.mono hend)
  · rw [hcreated]
    exact hclock.mono (by omega)
  · rw [hcreated]
    exact hclock (Nat.lt_succ_self _)
  · intro trade htrade
    rcases List.mem_append.mp htrade with htrade | htrade
    · exact drawn_tradeRow hfirst _ trade htrade
    · exact drawn_tradeRow hsecond _ trade htrade
  · intro other hother
    rcases List.mem_cons.mp hother with rfl | hother
    · exact hfirst
    · rw [List.mem_singleton.mp hother]
      exact hsecond
  · intro other hother
    rw [List.mem_singleton.mp hother, hids.1, hids.2]
    exact ⟨hfirst, hsecond⟩
  · show [(row.householdId, row.heuristicRunId), (row.householdId, row.mipRunId)]
      = _
    rw [hids.1, hids.2, ← hhousehold.1]
    show _ = [(run.householdId, run.runId), (run'.householdId, run'.runId)]
    rw [hhousehold.2, ← hhousehold.1]
  · show [row.view heuristic.trades.length mip.trades.length] = _
    rw [List.map_singleton, hids.1, hids.2, tradesUnder_append,
      tradesUnder_append, tradesUnder_persisted, tradesUnder_persisted,
      tradesUnder_other hne.symm, tradesUnder_other hne, List.append_nil,
      List.nil_append, List.length_map, List.length_map]

/-- The result is about the household it was asked for. -/
theorem runTaxAwareOptimizer_household {householdId : String}
    {positions : List LotPositionView} {ips : InvestmentPolicyStatement}
    {settings : Settings} {asOf : Option Date} {today : Date}
    {result : OptimizationResult}
    (h : runTaxAwareOptimizer householdId positions ips settings asOf today
      = .ok result) : result.householdId = householdId := by
  unfold runTaxAwareOptimizer at h
  dsimp only at h
  split at h
  · cases h
  · obtain rfl := Except.ok.inj h
    rfl

theorem runMipOptimizer_household {householdId : String}
    {positions : List LotPositionView} {ips : InvestmentPolicyStatement}
    {settings : Settings} {asOf : Option Date} {today : Date}
    {result : OptimizationResult}
    (h : runMipOptimizer householdId positions ips settings asOf today
      = .ok result) : result.householdId = householdId := by
  unfold runMipOptimizer at h
  dsimp only at h
  split at h
  · cases h
  · obtain rfl := Except.ok.inj h
    rfl

/-- The comparison call adds two runs and one comparison, and answers with the
latter. -/
theorem runSolverComparison_effect {op : DeskOp}
    {settings : Settings} {clockToday : Date} {heuristicMs mipMs : Int}
    {householdId : String} {view : SolverComparisonView} {store' : DeskStore}
    (h : runSolverComparison env order settings clockToday heuristicMs mipMs
      store householdId = .ok (view, store')) :
    Effect env store store' op (.comparison view) := by
  unfold runSolverComparison at h
  obtain ⟨ips, -, h⟩ := bind_ok_iff.mp h
  dsimp only at h
  obtain ⟨heuristic, hheuristic, h⟩ := bind_ok_iff.mp h
  obtain ⟨mip, hmip, h⟩ := bind_ok_iff.mp h
  obtain ⟨rfl, rfl⟩ := Prod.mk.inj (Except.ok.inj h)
  have hone := persistOptimization_ungated env store.toStore.drawn heuristic
    (env.freshId "snap" store.toStore) "system:compare" "heuristic"
    (some heuristicMs)
  have htwo := persistOptimization_ungated env
    (persistOptimization env store.toStore.drawn heuristic
      (env.freshId "snap" store.toStore) "system:compare" "heuristic"
      (some heuristicMs) false).2 mip
    (env.freshId "snap" store.toStore) "system:compare" "mip" (some mipMs)
  refine ⟨?_, ?_, ?_, fun hclock _ => ⟨_, .compared hclock hone htwo ⟨?_, ?_⟩
    ⟨rfl, rfl⟩ rfl⟩⟩
  · refine ((Relation.ReflTransGen.single (BookStep.drew _
      (Nat.le_succ _))).trans hone.steps).trans (htwo.steps.trans ?_)
    exact Relation.ReflTransGen.single (BookStep.drew _ (Nat.le_succ _))
  · have hruns := htwo.runs
    rw [hone.runs, List.append_assoc] at hruns
    have hnamed := congrArg (List.map (·.runId)) hruns
    rw [List.map_append] at hnamed
    exact hnamed
  · intro row hrow runId hid
    have hkept : row ∈ (persistOptimization env _ mip _ _ _ _
        _).2.approvalRequests := hrow
    rw [approvals_ungated, approvals_ungated] at hkept
    exact .inl ⟨row, hkept, hid⟩
  · exact hone.householdId.trans (runTaxAwareOptimizer_household hheuristic)
  · exact htwo.householdId.trans (runMipOptimizer_household hmip)

/-- The tax call adds one run and answers with it. -/
theorem runTaxScenario_effect {op : DeskOp}
    {householdId scenarioName : String}
    {overlays : Option TaxScenarioOverlays} {view : TaxScenarioRunRow}
    {store' : DeskStore}
    (h : runTaxScenario env order store householdId scenarioName overlays
      = .ok (view, store')) :
    Effect env store store' op (.taxScenario view) := by
  unfold runTaxScenario at h
  dsimp only at h
  split at h
  · cases h
  · obtain ⟨rfl, rfl⟩ := Prod.mk.inj (Except.ok.inj h)
    refine ⟨Relation.ReflTransGen.single (BookStep.drew _ (Nat.le_succ _)),
      (List.append_nil _).symm, fun row hrow runId hid => .inl ⟨row, hrow, hid⟩,
      fun hclock _ => ⟨{ taxRuns := [_] },
      { runs := (List.append_nil _).symm, trades := (List.append_nil _).symm
        comparisons := (List.append_nil _).symm, taxRuns := rfl
        backtests := (List.append_nil _).symm, draws := Nat.le_succ _
        ticks := Nat.le_succ _, runsStamped := .nil
        comparisonsStamped := .nil
        taxRunsStamped := .single (le_refl _) (hclock (Nat.lt_succ_self _))
        backtestsStamped := .nil, tradesFresh := List.forall_mem_nil _
        runsFresh := List.forall_mem_nil _
        comparisonsFresh := List.forall_mem_nil _, named := rfl
        taxReply := rfl, backtestReply := rfl, comparisonReply := rfl
        optimizationReply := fun _ hview => nomatch hview }⟩⟩

/-- The backtest call adds one run and answers with it. -/
theorem runBacktest_effect {op : DeskOp} {rt : HashRuntime}
    {runsOrder : BacktestOrder} {householdId : String} {startDate endDate : Date}
    {snapshot : Option String} {settings : AppSettings} {view : BacktestRunRow}
    {runs : BacktestStore}
    (h : runBacktest env rt runsOrder store.toBacktestStore householdId
      startDate endDate snapshot settings = .ok (view, runs)) :
    Effect env store { store with toBacktestStore := runs } op
      (.backtest view) := by
  obtain ⟨-, hrun, -⟩ := runBacktest_ok h
  have hdraws := hrun.drawn.1
  have hticks := hrun.drawn.2
  have hbook : runs.book = { store.book with draws := runs.draws } := by
    have hkept := congrArg Store.book hrun.planes
    unfold Store.book at hkept ⊢
    simp only [Book.mk.injEq] at hkept ⊢
    exact ⟨hkept.1, hkept.2.1, hkept.2.2.1, hkept.2.2.2.1, trivial⟩
  have hruns : runs.optimizationRuns = store.optimizationRuns :=
    congrArg Book.runs hbook
  have htrades : runs.optimizationTrades = store.optimizationTrades :=
    congrArg Book.trades hbook
  have happrovals : runs.approvalRequests = store.approvalRequests :=
    congrArg Book.approvals hbook
  have htax : runs.taxScenarioRuns = store.taxScenarioRuns := by
    have hkept := congrArg Store.taxScenarioRuns hrun.planes
    exact hkept
  refine ⟨?_, ?_, ?_, fun hclock _ => ⟨{ backtests := [view] },
    { runs := ?_, trades := ?_, comparisons := (List.append_nil _).symm
      taxRuns := ?_, backtests := hrun.runs, draws := hdraws.le
      ticks := ?_, runsStamped := .nil, comparisonsStamped := .nil
      taxRunsStamped := .nil
      backtestsStamped := .single ?_ ?_
      tradesFresh := List.forall_mem_nil _
      runsFresh := List.forall_mem_nil _
      comparisonsFresh := List.forall_mem_nil _, named := rfl
      taxReply := rfl, backtestReply := rfl, comparisonReply := rfl
      optimizationReply := fun _ hview => nomatch hview }⟩⟩
  · show BookSteps env store.book runs.book
    rw [hbook]
    exact Relation.ReflTransGen.single (BookStep.drew _ hdraws.le)
  · show runs.optimizationRuns.map (·.runId) = _
    rw [hruns]
    exact (List.append_nil _).symm
  · intro row hrow runId hid
    have hold : row ∈ runs.approvalRequests := hrow
    rw [happrovals] at hold
    exact .inl ⟨row, hold, hid⟩
  · rw [List.append_nil]
    exact hruns
  · rw [List.append_nil]
    exact htrades
  · rw [List.append_nil]
    exact htax
  · show store.ticks ≤ runs.ticks
    rw [hticks]
    exact Nat.le_succ _
  · exact hrun.createdAt.ge
  · rw [hrun.createdAt]
    show env.now store.ticks < env.now runs.ticks
    rw [hticks]
    exact hclock (Nat.lt_succ_self _)

end Appenders

-- ============================================================= quiet calls

/-- The planes' part of a call that appends nothing. -/
structure RunsKept (store store' : Store) : Prop where
  runs : store'.optimizationRuns = store.optimizationRuns
  trades : store'.optimizationTrades = store.optimizationTrades
  taxRuns : store'.taxScenarioRuns = store.taxScenarioRuns
  draws : store.draws ≤ store'.draws
  ticks : store.ticks ≤ store'.ticks

theorem RunsKept.refl (store : Store) : RunsKept store store :=
  ⟨rfl, rfl, rfl, le_refl _, le_refl _⟩

theorem RunsKept.trans {store store' store'' : Store} (h : RunsKept store store')
    (h' : RunsKept store' store'') : RunsKept store store'' :=
  ⟨h'.runs.trans h.runs, h'.trades.trans h.trades, h'.taxRuns.trans h.taxRuns,
    h.draws.trans h'.draws, h.ticks.trans h'.ticks⟩

theorem runsKept_createApproval (store : Store) (householdId : String)
    (subjectType : ApprovalSubject) (subjectId : String)
    (runId : Option String) :
    RunsKept store (createApproval env store householdId subjectType subjectId
      runId).2 := by
  refine ⟨rfl, rfl, rfl, ?_, ?_⟩
  · exact (Nat.le_succ _).trans (Nat.le_succ _)
  · exact (Nat.le_succ _).trans (Nat.le_succ _)

theorem runsKept_decide {store store' : Store} {requestId reviewerId : String}
    {status : ApprovalStatus} {view : ApprovalRequestRow}
    (h : updateApprovalStatus env store requestId status reviewerId
      = .ok (view, store')) : RunsKept store store' := by
  obtain ⟨row, -, -, -, -, rfl⟩ := decide_cases h
  refine ⟨rfl, rfl, rfl, Nat.le_succ _, ?_⟩
  exact (Nat.le_succ _).trans (Nat.le_succ _)

theorem runsKept_stage {store store' : Store} (inv : BookInv env store.book)
    {order : RowOrder} {requestId actorId : String}
    {views : List StagedOrderRow}
    (h : stageOrdersFromApproval env order store requestId actorId
      = .ok (views, store')) : RunsKept store store' := by
  obtain ⟨approval, -, -, -, hcase⟩ := stage_cases inv h
  rcases hcase with ⟨-, rfl, -⟩ | ⟨-, runId, -, -, rfl⟩
  · exact RunsKept.refl _
  · refine ⟨rfl, rfl, rfl, ?_, ?_⟩
    · exact (Nat.le_add_right _ _).trans (Nat.le_succ _)
    · exact (Nat.le_succ _).trans (Nat.le_succ _)

/-- Emitting is as quiet as the subscribers are. -/
theorem runsKept_emitEvent (hsubs : Unobtrusive env) (store : Store)
    (event : Event) : RunsKept store (emitEvent env store event) := by
  have hreactions : ∀ subscribers : List Subscriber,
      (∀ subscriber ∈ subscribers, subscriber ∈ env.subscribers event.op) →
      ∀ s : Store, RunsKept s (subscribers.foldl
        (fun store subscriber => subscriber.react store event) s) := by
    intro subscribers
    induction subscribers with
    | nil => exact fun _ s => RunsKept.refl s
    | cons subscriber rest ih =>
      intro hmem s
      obtain ⟨htax, hticks⟩ := hsubs event.op subscriber
        (hmem _ (List.mem_cons_self ..)) s event
      have hreact : RunsKept s (subscriber.react s event) :=
        ⟨subscriber.runs s event, subscriber.trades s event, htax,
          subscriber.draws s event, hticks⟩
      exact hreact.trans (ih (fun other hother =>
        hmem other (List.mem_cons_of_mem _ hother)) _)
  have hrecorded : RunsKept store
      { store with events := store.events ++ [event] } :=
    ⟨rfl, rfl, rfl, le_refl _, le_refl _⟩
  exact hrecorded.trans (hreactions _ (fun _ h => h) _)

theorem runsKept_updateOrder (hsubs : Unobtrusive env) (store : Store)
    (orderId : String) (status : OrderStatus) (actorId : String) :
    RunsKept store (updateOrderStatus env store orderId status actorId).2 := by
  rcases updateOrder_cases env store orderId status actorId with
    ⟨e, hcall⟩ | ⟨row, -, -, -, hcall⟩ | ⟨row, -, -, -, -, -, hcall⟩
  · rw [hcall]
    exact RunsKept.refl _
  · rw [hcall]
    exact RunsKept.refl _
  · rw [hcall]
    have hmoved : RunsKept store (orderMoved env store row status actorId) :=
      ⟨rfl, rfl, rfl, Nat.le_succ _, (Nat.le_succ _).trans (Nat.le_succ _)⟩
    show RunsKept store (afterMove env store row status actorId)
    unfold afterMove
    split
    · exact hmoved.trans (runsKept_emitEvent hsubs _ _)
    · exact hmoved

/-- A call that leaves the runs alone adds nothing to the histories. -/
theorem RunsKept.appends {store : DeskStore} {planes : Store}
    (h : RunsKept store.toStore planes) {reply : DeskReply}
    (hreply : reply = .done ∨ ∃ err, reply = .refused err) :
    Appends env store (store.withPlanes planes) reply {} :=
  .quiet h.runs h.trades rfl h.taxRuns rfl h.draws h.ticks hreply

/-- A call that leaves the runs alone and opens no gate but by name. -/
theorem Effect.quiet {store : DeskStore} {planes : Store} {op : DeskOp}
    (hsteps : BookSteps env store.book planes.book)
    (hruns : planes.optimizationRuns = store.optimizationRuns)
    (hgates : ∀ row ∈ planes.approvalRequests,
      (∃ old ∈ store.approvalRequests,
        old.optimizationRunId = row.optimizationRunId)
      ∨ row.optimizationRunId = op.opens?)
    (hquiet : Unobtrusive env → RunsKept store.toStore planes) :
    Effect env store (store.withPlanes planes) op .done := by
  refine ⟨hsteps, ?_, ?_, fun _ hsubs =>
    ⟨{}, (hquiet hsubs).appends (.inl rfl)⟩⟩
  · show planes.optimizationRuns.map (·.runId) = _
    rw [hruns]
    exact (List.append_nil _).symm
  · intro row hrow runId hid
    rcases hgates row hrow with ⟨old, hold, hsame⟩ | hopened
    · exact .inl ⟨old, hold, hsame.trans hid⟩
    · rw [hopened] at hid
      exact .inr (.inr hid)

-- =============================================================== the calls

/-- A decision rewrites a gate, and leaves it on its run. -/
theorem decided_gates {store store' : Store} {requestId reviewerId : String}
    {status : ApprovalStatus} {view : ApprovalRequestRow}
    (h : updateApprovalStatus env store requestId status reviewerId
      = .ok (view, store')) :
    ∀ row ∈ store'.approvalRequests, ∃ old ∈ store.approvalRequests,
      old.optimizationRunId = row.optimizationRunId := by
  obtain ⟨found, hfound, -, -, rfl, rfl⟩ := decide_cases h
  intro row hrow
  obtain ⟨old, hold, rfl⟩ := List.mem_map.mp hrow
  by_cases hsame : old.requestId
      = (decidedApproval env store found status reviewerId).requestId
  · rw [if_pos hsame]
    exact ⟨found, hfound, rfl⟩
  · rw [if_neg hsame]
    exact ⟨old, hold, rfl⟩

/-- What an order service call adds. -/
theorem call_effect {store : DeskStore} (inv : BookInv env store.book) {op : Op}
    {reply : DeskReply} {store' : DeskStore}
    (h : (DeskOp.call op).exec env store = .ok (reply, store')) :
    Effect env store store' (.call op) reply := by
  have hsteps : BookSteps env store.book (exec env store.toStore op).book :=
    exec_refines store.toStore op inv
  cases op with
  | persist result snapshot actorId solverType runtimeMs queueApproval =>
    obtain ⟨rfl, rfl⟩ := Prod.mk.inj (Except.ok.inj h)
    exact .optimized (.inl rfl) (persistOptimization_persisted env store.toStore
      result snapshot actorId solverType runtimeMs queueApproval)
  | createApproval runId householdId =>
    obtain ⟨rfl, rfl⟩ := Prod.mk.inj (Except.ok.inj h)
    refine .quiet hsteps rfl (fun row hrow => ?_) fun _ =>
      runsKept_createApproval store.toStore householdId .optimization runId
        (some runId)
    rcases List.mem_append.mp hrow with hrow | hrow
    · exact .inl ⟨row, hrow, rfl⟩
    · rw [List.mem_singleton.mp hrow]
      exact .inr rfl
  | createReportApproval snapshotId householdId =>
    obtain ⟨rfl, rfl⟩ := Prod.mk.inj (Except.ok.inj h)
    refine .quiet hsteps rfl (fun row hrow => ?_) fun _ =>
      runsKept_createApproval store.toStore householdId .report snapshotId none
    rcases List.mem_append.mp hrow with hrow | hrow
    · exact .inl ⟨row, hrow, rfl⟩
    · rw [List.mem_singleton.mp hrow]
      exact .inr rfl
  | decide requestId status reviewerId =>
    obtain ⟨planes, hcall, hdone⟩ := map_ok_iff.mp h
    obtain ⟨rfl, rfl⟩ := Prod.mk.inj hdone
    obtain ⟨view, hok⟩ := ok_of_map_snd hcall
    have hquiet := runsKept_decide hok
    exact .quiet (steps_updateApprovalStatus hok) hquiet.runs
      (fun row hrow => .inl (decided_gates hok row hrow)) fun _ => hquiet
  | stage order requestId actorId =>
    obtain ⟨planes, hcall, hdone⟩ := map_ok_iff.mp h
    obtain ⟨rfl, rfl⟩ := Prod.mk.inj hdone
    obtain ⟨views, hok⟩ := ok_of_map_snd hcall
    have hquiet := runsKept_stage inv hok
    have hkept : planes.approvalRequests = store.approvalRequests := by
      obtain ⟨approval, -, -, -, hcase⟩ := stage_cases inv hok
      rcases hcase with ⟨-, rfl, -⟩ | ⟨-, runId, -, -, rfl⟩
      · rfl
      · rfl
    refine .quiet (steps_stage inv hok) hquiet.runs (fun row hrow => ?_)
      fun _ => hquiet
    rw [hkept] at hrow
    exact .inl ⟨row, hrow, rfl⟩
  | updateOrder orderId status actorId =>
    obtain ⟨planes, hcall, hdone⟩ := map_ok_iff.mp h
    obtain ⟨rfl, rfl⟩ := Prod.mk.inj hdone
    obtain ⟨draws, hle, hbook⟩ := book_updateOrder inv orderId status actorId
    rw [ok_of_updateOrder hcall] at hbook
    have hkept : planes.approvalRequests = store.approvalRequests :=
      congrArg Book.approvals hbook
    refine .quiet ?_ (congrArg Book.runs hbook) (fun row hrow => ?_)
      fun hsubs => ?_
    · rw [hbook]
      exact Relation.ReflTransGen.single (BookStep.drew draws hle)
    · rw [hkept] at hrow
      exact .inl ⟨row, hrow, rfl⟩
    · have hquiet := runsKept_updateOrder hsubs store.toStore orderId status
        actorId
      rw [ok_of_updateOrder hcall] at hquiet
      exact hquiet

/-- What every call does that is not refused. -/
theorem exec_effect {store store' : DeskStore} (inv : BookInv env store.book)
    {op : DeskOp} {reply : DeskReply}
    (h : op.exec env store = .ok (reply, store')) :
    Effect env store store' op reply := by
  cases op with
  | ledger tables =>
    obtain ⟨rfl, rfl⟩ := Prod.mk.inj (Except.ok.inj h)
    exact .quiet Relation.ReflTransGen.refl rfl
      (fun row hrow => .inl ⟨row, hrow, rfl⟩)
      fun _ => ⟨rfl, rfl, rfl, le_refl _, le_refl _⟩
  | call op => exact call_effect inv h
  | saveIps ips =>
    obtain ⟨rfl, rfl⟩ := Prod.mk.inj (Except.ok.inj h)
    exact ⟨Relation.ReflTransGen.refl, (List.append_nil _).symm,
      fun row hrow runId hid => .inl ⟨row, hrow, hid⟩, fun _ _ =>
        ⟨{}, .quiet rfl rfl rfl rfl rfl (le_refl _) (le_refl _) (.inl rfl)⟩⟩
  | optimize order settings clockToday householdId snapshot =>
    obtain ⟨⟨view, after⟩, hcall, hdone⟩ := map_ok_iff.mp h
    obtain ⟨rfl, rfl⟩ := Prod.mk.inj hdone
    exact runAndPersistOptimizer_effect hcall
  | compare order settings clockToday heuristicMs mipMs householdId =>
    obtain ⟨⟨view, after⟩, hcall, hdone⟩ := map_ok_iff.mp h
    obtain ⟨rfl, rfl⟩ := Prod.mk.inj hdone
    exact runSolverComparison_effect hcall
  | taxScenario order householdId scenarioName overlays =>
    obtain ⟨⟨view, after⟩, hcall, hdone⟩ := map_ok_iff.mp h
    obtain ⟨rfl, rfl⟩ := Prod.mk.inj hdone
    exact runTaxScenario_effect hcall
  | backtest rt order householdId startDate endDate snapshot settings =>
    obtain ⟨⟨view, after⟩, hcall, hdone⟩ := map_ok_iff.mp h
    obtain ⟨rfl, rfl⟩ := Prod.mk.inj hdone
    exact runBacktest_effect hcall

-- =========================================================== the invariant

/-- The tables hold what was answered. -/
structure DeskInv (env : Env) (desk : Desk) : Prop where
  book : BookInv env desk.store.book
  runsLog : Log (·.createdAt) (env.now 0) (env.now desk.store.ticks)
    desk.store.optimizationRuns
  comparisonsLog : Log (·.createdAt) (env.now 0) (env.now desk.store.ticks)
    desk.store.solverComparisons
  taxRunsLog : Log (·.createdAt) (env.now 0) (env.now desk.store.ticks)
    desk.store.taxScenarioRuns
  backtestsLog : Log (·.createdAt) (env.now 0) (env.now desk.store.ticks)
    desk.store.backtestRuns
  comparedIds : ∀ row ∈ desk.store.solverComparisons,
    Drawn env "opt" 0 desk.store.draws row.heuristicRunId
      ∧ Drawn env "opt" 0 desk.store.draws row.mipRunId
  named : desk.replies.flatMap (·.runs)
    = desk.store.optimizationRuns.map fun run => (run.householdId, run.runId)
  taxReplies : desk.replies.filterMap (·.taxScenario?)
    = desk.store.taxScenarioRuns
  backtestReplies : desk.replies.filterMap (·.backtest?)
    = desk.store.backtestRuns
  comparisonReplies : desk.replies.filterMap (·.comparison?)
    = desk.store.solverComparisons.map fun row => row.view
      (tradesUnder desk.store.optimizationTrades row.heuristicRunId).length
      (tradesUnder desk.store.optimizationTrades row.mipRunId).length
  optimizationReplies : ∀ view ∈ desk.replies.filterMap (·.optimization?),
    ∃ run ∈ desk.store.optimizationRuns, view = run.view env
      ((tradesUnder desk.store.optimizationTrades run.runId).map (·.proposal))

/-- A new desk. -/
theorem deskInv_new : DeskInv env {} where
  book := bookInv_empty
  runsLog := .nil
  comparisonsLog := .nil
  taxRunsLog := .nil
  backtestsLog := .nil
  comparedIds := List.forall_mem_nil _
  named := rfl
  taxReplies := rfl
  backtestReplies := rfl
  comparisonReplies := rfl
  optimizationReplies := List.forall_mem_nil _

section Appended

variable {trades new : List OptimizationTradeRow} {lo hi : Nat}
  {runId : String}

/-- A run that has been written gains no trade. -/
theorem tradesUnder_written (hrun : Drawn env "opt" 0 lo runId)
    (hnew : ∀ trade ∈ new, Drawn env "opt" lo hi trade.runId) :
    tradesUnder (trades ++ new) runId = tradesUnder trades runId := by
  rw [tradesUnder_append, tradesUnder_eq_nil fun trade htrade =>
    (hrun.ne (hnew trade htrade)).symm, List.append_nil]

/-- A run that is being written has no trade yet. -/
theorem tradesUnder_fresh (hrun : Drawn env "opt" lo hi runId)
    (hold : ∀ trade ∈ trades, Drawn env "opt" 0 lo trade.runId) :
    tradesUnder (trades ++ new) runId = tradesUnder new runId := by
  rw [tradesUnder_append, tradesUnder_eq_nil fun trade htrade =>
    (hold trade htrade).ne hrun, List.nil_append]

end Appended

theorem filterMap_append_single {α β : Type*} (f : α → Option β) (xs : List α)
    (x : α) : (xs ++ [x]).filterMap f = xs.filterMap f ++ (f x).toList := by
  rw [List.filterMap_append]
  cases h : f x <;> simp [h]

/-- The invariant survives every call that adds what its reply says it adds. -/
theorem DeskInv.appended (hclock : Advancing env) {desk : Desk}
    (inv : DeskInv env desk) {store' : DeskStore} {reply : DeskReply}
    {new : NewRows} (h : Appends env desk.store store' reply new)
    (hsteps : BookSteps env desk.store.book store'.book) :
    DeskInv env { store := store', replies := desk.replies ++ [reply] } := by
  have hzero := hclock.mono (Nat.zero_le desk.store.ticks)
  have hlater := hclock.mono h.ticks
  have hold : ∀ trade ∈ desk.store.optimizationTrades,
      Drawn env "opt" 0 desk.store.draws trade.runId := inv.book.tradeRuns
  refine
    { book := inv.book.steps hsteps, runsLog := ?_, comparisonsLog := ?_
      taxRunsLog := ?_, backtestsLog := ?_, comparedIds := ?_, named := ?_
      taxReplies := ?_, backtestReplies := ?_, comparisonReplies := ?_
      optimizationReplies := ?_ }
  · rw [h.runs]
    exact inv.runsLog.append h.runsStamped hzero hlater
  · rw [h.comparisons]
    exact inv.comparisonsLog.append h.comparisonsStamped hzero hlater
  · rw [h.taxRuns]
    exact inv.taxRunsLog.append h.taxRunsStamped hzero hlater
  · rw [h.backtests]
    exact inv.backtestsLog.append h.backtestsStamped hzero hlater
  · intro row hrow
    rw [h.comparisons] at hrow
    rcases List.mem_append.mp hrow with hrow | hrow
    · obtain ⟨hheuristic, hmip⟩ := inv.comparedIds row hrow
      exact ⟨hheuristic.mono h.draws, hmip.mono h.draws⟩
    · obtain ⟨hheuristic, hmip⟩ := h.comparisonsFresh row hrow
      exact ⟨hheuristic.from_zero, hmip.from_zero⟩
  · rw [List.flatMap_append, List.flatMap_singleton, inv.named, h.named, h.runs,
      List.map_append]
  · rw [filterMap_append_single, inv.taxReplies, h.taxReply, h.taxRuns]
  · rw [filterMap_append_single, inv.backtestReplies, h.backtestReply,
      h.backtests]
  · rw [filterMap_append_single, inv.comparisonReplies, h.comparisonReply,
      h.comparisons, h.trades, List.map_append]
    congr 1
    · refine List.map_congr_left fun row hrow => ?_
      obtain ⟨hheuristic, hmip⟩ := inv.comparedIds row hrow
      rw [tradesUnder_written hheuristic h.tradesFresh,
        tradesUnder_written hmip h.tradesFresh]
    · refine List.map_congr_left fun row hrow => ?_
      obtain ⟨hheuristic, hmip⟩ := h.comparisonsFresh row hrow
      rw [tradesUnder_fresh hheuristic hold, tradesUnder_fresh hmip hold]
  · intro view hview
    rw [filterMap_append_single] at hview
    rw [h.runs, h.trades]
    rcases List.mem_append.mp hview with hview | hview
    · obtain ⟨run, hrun, rfl⟩ := inv.optimizationReplies view hview
      have hid := inv.book.runIds run hrun
      refine ⟨run, List.mem_append_left _ hrun, ?_⟩
      rw [tradesUnder_written hid h.tradesFresh]
    · obtain ⟨run, hrun, rfl⟩ := h.optimizationReply view
        (Option.mem_toList.mp hview)
      refine ⟨run, List.mem_append_right _ hrun, ?_⟩
      rw [tradesUnder_fresh (h.runsFresh run hrun) hold]

/-- One op, raising or not, keeps the invariant. -/
theorem deskInv_step (hclock : Advancing env) (hsubs : Unobtrusive env)
    (desk : Desk) (op : DeskOp) (inv : DeskInv env desk) :
    DeskInv env (desk.step env op) := by
  unfold Desk.step
  cases hcall : op.exec env desk.store with
  | ok out =>
    obtain ⟨reply, store'⟩ := out
    have heffect := exec_effect inv.book hcall
    obtain ⟨new, happends⟩ := heffect.appends hclock hsubs
    exact inv.appended hclock happends heffect.steps
  | error err =>
    have hquiet : Appends env desk.store desk.store (.refused err) {} :=
      (RunsKept.refl desk.store.toStore).appends (.inr ⟨err, rfl⟩)
    exact inv.appended hclock hquiet Relation.ReflTransGen.refl

/-- Every desk a sequence of calls reaches. -/
theorem deskInv_after (hclock : Advancing env) (hsubs : Unobtrusive env)
    (ops : List DeskOp) : DeskInv env (deskAfter env ops) :=
  Runs.run_invariant (deskInv_step hclock hsubs) ops {} deskInv_new

-- ================================================================ the views

/-- A listed run is the one that was answered, as the session reads its row
and its trades, these in any order. -/
structure OptimizationRunView.ListedAs (env : Env) (columns : HistoryColumns)
    (session : DeskSession) (answered : OptimizationRunView)
    (listed : Listed OptimizationRunView) : Prop where
  zoned : listed.zoned = session.holds answered.runId
  same : listed.view = { answered with
    estimatedTaxDelta := listed.view.estimatedTaxDelta
    trades := listed.view.trades }
  taxDelta : ∃ delta, answered.estimatedTaxDelta = env.str delta
    ∧ listed.view.estimatedTaxDelta
      = if session.holds answered.runId then env.str delta
        else columns.amountText delta
  trades : listed.view.trades.Perm
    (answered.trades.map (·.read columns session answered.runId))

section Views

variable {desk : Desk} {columns : HistoryColumns} {session : DeskSession}
  {order : DeskOrder} {householdId : String} {limit : Nat}

/-- Held or read, a run has its id. -/
theorem listed_runId (run : OptimizationRunRow)
    (trades : List TradeProposal) :
    (run.listed env columns session trades).view.runId = run.runId := by
  unfold OptimizationRunRow.listed HistorySession.listed
  split <;> rfl

/-- The listed runs are the newest the replies named, each household's apart. -/
theorem listed_runIds (inv : DeskInv env desk) :
    (listOptimizationRuns env columns session order desk.store householdId
        limit).map (·.view.runId)
      = (((desk.replies.flatMap (·.runs)).filter
          (·.1 = householdId)).map (·.2)).reverse.take limit := by
  have hnewest := (inv.runsLog.filter (·.householdId = householdId)).newest
    (order.optimizationsPerm _) limit
  unfold listOptimizationRuns
  dsimp only
  rewrite [hnewest, inv.named, List.filter_map, List.map_map, List.map_map,
    ← List.map_reverse, ← List.map_take]
  exact List.map_congr_left fun run _ => listed_runId run _

/-- The listed tax scenarios are the newest of the replies, read back. -/
theorem listed_taxScenarios (inv : DeskInv env desk) :
    listTaxScenarios columns session order desk.store householdId limit
      = (((desk.replies.filterMap (·.taxScenario?)).filter
          (·.householdId = householdId)).reverse.take limit).map
            (·.listed columns session) := by
  rw [inv.taxReplies]
  exact congrArg (List.map _)
    ((inv.taxRunsLog.filter (·.householdId = householdId)).newest
      (order.taxRunsPerm _) limit)

/-- The listed backtests are the newest of the replies, read back. -/
theorem listed_backtests (inv : DeskInv env desk) :
    listBacktestRuns columns session.toHistorySession order.toBacktestOrder
        desk.store.toBacktestStore householdId limit
      = (((desk.replies.filterMap (·.backtest?)).filter
          (·.householdId = householdId)).reverse.take limit).map
            (·.listed columns session.toHistorySession) := by
  rw [inv.backtestReplies]
  exact congrArg (List.map _)
    ((inv.backtestsLog.filter (·.householdId = householdId)).newest
      (order.runsPerm _) limit)

/-- Counted again, in whatever order they are found. -/
theorem recounted (order : DeskOrder) (trades : List OptimizationTradeRow)
    (runId : String) :
    ((order.trades trades).filter (·.runId = runId)).length
      = (tradesUnder trades runId).length :=
  ((order.tradesPerm trades).filter _).length_eq

/-- The listed comparisons are the newest of the replies, read back. -/
theorem listed_comparisons (inv : DeskInv env desk) :
    listSolverComparisons columns session order desk.store householdId limit
      = (((desk.replies.filterMap (·.comparison?)).filter
          (·.householdId = householdId)).reverse.take limit).map
            (·.listed columns session) := by
  have hnewest := (inv.comparisonsLog.filter
    (·.householdId = householdId)).newest (order.comparisonsPerm _) limit
  unfold listSolverComparisons
  dsimp only
  rewrite [hnewest, inv.comparisonReplies, List.filter_map, ← List.map_reverse,
    ← List.map_take, List.map_map]
  refine List.map_congr_left fun row _ => ?_
  show SolverComparisonView.listed columns session _ = _
  rw [recounted, recounted]
  rfl

/-- A listed run is its reply up to the rounding of its columns. -/
theorem listed_agrees (inv : DeskInv env desk) {view : OptimizationRunView}
    {listed : Listed OptimizationRunView}
    (hview : view ∈ desk.replies.filterMap (·.optimization?))
    (hlisted : listed ∈ listOptimizationRuns env columns session order
      desk.store householdId limit)
    (hid : listed.view.runId = view.runId) :
    view.ListedAs env columns session listed := by
  obtain ⟨run, hrun, rfl⟩ := inv.optimizationReplies view hview
  unfold listOptimizationRuns at hlisted
  dsimp only at hlisted
  obtain ⟨found, hfound, rfl⟩ := List.mem_map.mp hlisted
  have hstored : found ∈ desk.store.optimizationRuns := by
    have htaken := List.mem_of_mem_take hfound
    have hsorted := (List.perm_insertionSort _ _).mem_iff.mp htaken
    have hrow := (order.optimizationsPerm _).mem_iff.mp hsorted
    exact (List.mem_filter.mp hrow).1
  rw [listed_runId] at hid
  obtain rfl : found = run :=
    List.inj_on_of_nodup_map inv.book.runsDistinct hstored hrun hid
  have htrades := (((order.tradesPerm desk.store.optimizationTrades).filter
    (·.runId = found.runId)).map (·.proposal)).map
      (·.read columns session found.runId)
  unfold OptimizationRunRow.listed HistorySession.listed
  by_cases hheld : session.holds found.runId
  · rw [if_pos hheld]
    exact ⟨hheld.symm, rfl, ⟨_, rfl, (if_pos hheld).symm⟩, htrades⟩
  · rw [if_neg hheld]
    refine ⟨?_, rfl, ⟨_, rfl, (if_neg hheld).symm⟩, htrades⟩
    exact (Bool.eq_false_iff.mpr hheld).symm

end Views

/-- Rows as they come. -/
def DeskOrder.insertion : DeskOrder where
  toBacktestOrder := .insertion
  trades rows := rows
  optimizations rows := rows
  comparisons rows := rows
  taxRuns rows := rows
  tradesPerm _ := List.Perm.refl _
  optimizationsPerm _ := List.Perm.refl _
  comparisonsPerm _ := List.Perm.refl _
  taxRunsPerm _ := List.Perm.refl _
  ips := .insertion

/-- A policy and a fund, two tax scenarios about a backtest, a comparison
and an optimization. -/
def fundDay : List DeskOp :=
  [.ledger
    { entities := fundRuns.entities
      securities := fundRuns.securities
      lots := fundRuns.lots
      marketPrices := fundRuns.marketPrices },
   .saveIps (policyVersion "hh_1" 1),
   .taxScenario .insertion "hh_1" "base" none,
   .backtest .plain .insertion "hh_1" 739100 739410 none {},
   .taxScenario .insertion "hh_1" "again" none,
   .compare .insertion {} 739410 5 70 "hh_1",
   .optimize .insertion {} 739410 "hh_1" none]

/-- Figures rounded to the places of their columns. -/
def HistoryColumns.rounded : HistoryColumns where
  amount := quantize 6
  amountText := formatFixed 6
  rate := quantize 8
  money := quantize 2

/-- Another session than the one that wrote the rows. -/
def DeskSession.another : DeskSession where
  holds _ := false
  holdsTrade _ _ := false

end Warehouse
