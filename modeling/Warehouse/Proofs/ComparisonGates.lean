/-
A comparison stages nothing.

The runs a comparison writes are not runs anyone asked for
(`compared_not_asked`: no two answers name one run), and a call opens no gate
but on the run it was asked for or one it is given by name
(`exec_effect`). So a gate on a compared run was asked for by its name, and
an order staged from one went through such a gate.
-/
import Warehouse.Proofs.Oms.Gate
import Warehouse.Proofs.RunHistory
import Mathlib.Data.List.Pairwise

namespace Warehouse

open Lib

variable {env : Env} {ops : List DeskOp} {desk : Desk}

-- =========================================================== the invariant

/-- The gates of a desk after `ops`: each is on a run that was asked for, or
that one of `ops` names. -/
structure GateInv (env : Env) (ops : List DeskOp) (desk : Desk) : Prop where
  book : BookInv env desk.store.book
  named : (desk.replies.flatMap (·.runs)).map (·.2)
    = desk.store.optimizationRuns.map (·.runId)
  gates : ∀ row ∈ desk.store.approvalRequests,
    ∀ runId ∈ row.optimizationRunId,
      (∃ view ∈ desk.replies.filterMap (·.optimization?), view.runId = runId)
        ∨ ∃ op ∈ ops, runId ∈ op.opens?

theorem gateInv_new : GateInv env [] {} where
  book := bookInv_empty
  named := rfl
  gates := List.forall_mem_nil _

/-- What is true of the answers so far stays true of more of them. -/
theorem GateInv.refused (inv : GateInv env ops desk) (op : DeskOp) (err : Exc) :
    GateInv env (ops ++ [op])
      { desk with replies := desk.replies ++ [.refused err] } := by
  refine ⟨inv.book, ?_, fun row hrow runId hid => ?_⟩
  · rw [List.flatMap_append, List.map_append, inv.named]
    exact List.append_nil _
  · rcases inv.gates row hrow runId hid with ⟨view, hview, hrun⟩
      | ⟨op', hop, hopens⟩
    · rw [List.filterMap_append]
      exact .inl ⟨view, List.mem_append_left _ hview, hrun⟩
    · exact .inr ⟨op', List.mem_append_left _ hop, hopens⟩

/-- The invariant survives every answered call. -/
theorem GateInv.answered (inv : GateInv env ops desk) {store' : DeskStore}
    {op : DeskOp} {reply : DeskReply}
    (h : Effect env desk.store store' op reply) :
    GateInv env (ops ++ [op])
      { store := store', replies := desk.replies ++ [reply] } := by
  refine ⟨inv.book.steps h.steps, ?_, fun row hrow runId hid => ?_⟩
  · rw [List.flatMap_append, List.map_append, inv.named, List.flatMap_singleton,
      h.named]
  · rcases h.gates row hrow runId hid with ⟨old, hold, hsame⟩ | hasked | hopens
    · rcases inv.gates old hold runId hsame with ⟨view, hview, hrun⟩
        | ⟨op', hop, hopens⟩
      · rw [List.filterMap_append]
        exact .inl ⟨view, List.mem_append_left _ hview, hrun⟩
      · exact .inr ⟨op', List.mem_append_left _ hop, hopens⟩
    · obtain ⟨view, hview, hrun⟩ := hasked
      rw [filterMap_append_single]
      exact .inl ⟨view, List.mem_append_right _ (Option.mem_toList.mpr hview),
        hrun⟩
    · exact .inr ⟨op, List.mem_append_right _ (List.mem_singleton_self op),
        hopens⟩

theorem GateInv.step (inv : GateInv env ops desk) (op : DeskOp) :
    GateInv env (ops ++ [op]) (desk.step env op) := by
  unfold Desk.step
  cases hcall : op.exec env desk.store with
  | ok out => exact inv.answered (exec_effect inv.book hcall)
  | error err => exact inv.refused op err

theorem gateInv_after (env : Env) (ops : List DeskOp) :
    GateInv env ops (deskAfter env ops) := by
  induction ops using List.reverseRecOn with
  | nil => exact gateInv_new
  | append_singleton ops op ih =>
    unfold deskAfter at ih ⊢
    rw [Runs.run_append, Runs.run_cons, Runs.run_nil]
    exact ih.step op

-- =========================================================== compared runs

/-- No two answers name one run. -/
theorem GateInv.replies_disjoint (inv : GateInv env ops desk)
    {reply reply' : DeskReply} (hreply : reply ∈ desk.replies)
    (hreply' : reply' ∈ desk.replies) (hne : reply ≠ reply') {runId : String}
    (hnamed : runId ∈ reply.runs.map (·.2)) :
    runId ∉ reply'.runs.map (·.2) := by
  have hdistinct := inv.book.runsDistinct
  have hruns : (desk.store.book.runs.map (·.runId))
      = (desk.replies.flatMap (·.runs)).map (·.2) := inv.named.symm
  rw [hruns, List.map_flatMap, List.nodup_flatMap] at hdistinct
  have : Std.Symm (Function.onFun List.Disjoint
      fun reply : DeskReply => reply.runs.map (·.2)) := ⟨fun _ _ h => h.symm⟩
  exact fun hnamed' => hdistinct.2.forall hreply hreply' hne hnamed hnamed'

/-- A run of a comparison is none that was asked for. -/
theorem compared_not_asked (inv : GateInv env ops desk)
    {view : SolverComparisonView} {asked : OptimizationRunView}
    (hview : view ∈ desk.replies.filterMap (·.comparison?))
    (hasked : asked ∈ desk.replies.filterMap (·.optimization?)) :
    asked.runId ≠ view.heuristicRunId ∧ asked.runId ≠ view.mipRunId := by
  obtain ⟨reply, hreply, hcompared⟩ := List.mem_filterMap.mp hview
  obtain ⟨reply', hreply', hoptimized⟩ := List.mem_filterMap.mp hasked
  cases reply with
  | comparison view' =>
    obtain rfl := Option.some.inj hcompared
    cases reply' with
    | optimization asked' =>
      obtain rfl := Option.some.inj hoptimized
      have hfresh := inv.replies_disjoint hreply' hreply (fun h => nomatch h)
        (List.mem_singleton_self _)
      constructor
      · intro hsame
        exact hfresh (hsame ▸ List.mem_cons_self ..)
      · intro hsame
        exact hfresh (hsame ▸ List.mem_cons_of_mem _ (List.mem_cons_self ..))
    | _ => cases hoptimized
  | _ => cases hcompared

/-- Whatever the desk is asked to do, in whatever order, a gate on a run of a
comparison was opened by a call that names the run, and so was the gate any
order of that run was staged through. -/
theorem compared_runs_gated_by_name (env : Env) (ops : List DeskOp)
    (view : SolverComparisonView) (runId : String)
    (hview : view ∈ (deskAfter env ops).replies.filterMap (·.comparison?))
    (hrun : runId = view.heuristicRunId ∨ runId = view.mipRunId) :
    (∀ gate ∈ (deskAfter env ops).store.approvalRequests,
      gate.optimizationRunId = some runId →
        ∃ householdId, .call (.createApproval runId householdId) ∈ ops)
    ∧ ∀ order ∈ (deskAfter env ops).store.stagedOrders,
      order.optimizationRunId = runId →
        (∃ gate ∈ (deskAfter env ops).store.approvalRequests,
          gate.requestId = order.approvalRequestId
            ∧ gate.optimizationRunId = some runId ∧ gate.status = .approved)
        ∧ ∃ householdId, .call (.createApproval runId householdId) ∈ ops := by
  have inv := gateInv_after env ops
  have hgates : ∀ gate ∈ (deskAfter env ops).store.approvalRequests,
      gate.optimizationRunId = some runId →
        ∃ householdId, .call (.createApproval runId householdId) ∈ ops := by
    intro gate hgate hon
    rcases inv.gates gate hgate runId hon with ⟨asked, hasked, hsame⟩
      | ⟨op, hop, hopens⟩
    · obtain ⟨hheuristic, hmip⟩ := compared_not_asked inv hview hasked
      rcases hrun with rfl | rfl
      · exact absurd hsame hheuristic
      · exact absurd hsame hmip
    · unfold DeskOp.opens? at hopens
      split at hopens
      · next named householdId =>
        obtain rfl := Option.some.inj hopens
        exact ⟨householdId, hop⟩
      · cases hopens
  refine ⟨hgates, fun order horder hon => ?_⟩
  obtain ⟨gate, hgate, hid, hown⟩ := approval_of_order inv.book horder
  obtain ⟨happroved, staged, hstaged, howned, -⟩ :=
    staged_in_full inv.book hgate (List.ne_nil_of_mem hown)
  have hsame : gate.optimizationRunId = some runId := by
    rw [hstaged, ← (howned order hown).1, hon]
  exact ⟨⟨gate, hgate, hid, hsame, happroved⟩, hgates gate hgate hsame⟩

/-- A lot at a loss, compared; then a gate on the heuristic's run by its
name, approved and staged. -/
def comparedDay : List DeskOp :=
  [.ledger
    { entities := fundRuns.entities
      securities := fundRuns.securities
      lots := [{ fundLot 739000 with costBasisPerShare := 150 }]
      marketPrices := fundRuns.marketPrices },
   .saveIps (policyVersion "hh_1" 1),
   .compare .insertion {} 739410 5 70 "hh_1",
   .call (.createApproval "opt_1" "hh_1"),
   .call (.decide "appr_111111" .approved "reviewer"),
   .call (.stage .insertion "appr_111111" "ops")]

/-- A day with a comparison and a request that names its run. -/
theorem compared_runs_gated_by_name_comparedDay :
    ∃ order ∈ (deskAfter .counting comparedDay).store.stagedOrders,
      order.optimizationRunId = "opt_1"
        ∧ ∃ householdId,
          .call (.createApproval "opt_1" householdId) ∈ comparedDay := by
  have hview : ((deskAfter .counting comparedDay).replies.filterMap
      (·.comparison?)).any (·.heuristicRunId = "opt_1") = true := by
    decide +kernel
  have horder : (deskAfter .counting comparedDay).store.stagedOrders.any
      (·.optimizationRunId = "opt_1") = true := by
    decide +kernel
  obtain ⟨view, hview, hrun⟩ := List.any_eq_true.mp hview
  obtain ⟨order, horder, hon⟩ := List.any_eq_true.mp horder
  have hgated := (compared_runs_gated_by_name .counting comparedDay view "opt_1"
    hview (.inl (of_decide_eq_true hrun).symm)).2 order horder
    (of_decide_eq_true hon)
  exact ⟨order, horder, of_decide_eq_true hon, hgated.2⟩

end Warehouse
