/-
Staging again.

A second staging call on an approval that has orders writes nothing
(`restage_eq`), and the orders it finds there are the ones the first
staging call wrote (`first_staging`). What it returns is another matter:
not the approval's orders but the newest fifty of the household's.

# The condition

`OwnOrdersListed` says when those are the same: the approval's orders are
all the listing has to choose from and no more than fifty, or they are
fifty and strictly newer than everything else. It is exact, because the
engine breaks ties of `createdAt` as it likes: a foreign order as new as
one of the approval's can always take its place.
-/
import Warehouse.Proofs.Oms.Gate
import Warehouse.Lib.Sorting
import Mathlib.Data.List.TakeWhile

namespace Warehouse

open Lib

variable {env : Env}

-- ================================================================ listings

/-- The orders a listing for the approval's household chooses from. -/
def Store.listingPool (store : Store) (householdId : String) :
    List StagedOrderRow :=
  store.stagedOrders.filter fun row =>
    !truthy (some householdId) || decide (householdId = row.householdId)

/-- The listing sorts a pool of orders and cuts it. -/
theorem listStagedOrders_eq (order : RowOrder) (store : Store)
    (householdId : String) :
    listStagedOrders order store (some householdId)
      = ((order.orders (store.listingPool householdId)).insertionSort
          fun a b => b.createdAt ≤ a.createdAt).take 50 := by
  unfold listStagedOrders Store.listingPool
  simp

/-- What precedes the last row of a kind is of that kind: the kind comes
first. -/
private theorem eq_filter_append {α : Type} {kind : α → Bool} {rows : List α}
    (h : rows.Pairwise fun x y => kind y = true → kind x = true) :
    rows = rows.filter kind ++ rows.filter (fun x => !kind x) := by
  induction rows with
  | nil => rfl
  | cons row rest ih =>
      obtain ⟨hrow, hrest⟩ := List.pairwise_cons.mp h
      cases hkind : kind row with
      | true =>
          rw [List.filter_cons_of_pos hkind,
            List.filter_cons_of_neg (by simp [hkind]), List.cons_append,
            ← ih hrest]
      | false =>
          -- nothing after the row can be of the kind
          have hnone : rest.filter kind = [] := by
            rw [List.filter_eq_nil_iff]
            intro other ho hother
            rw [hrow other ho hother] at hkind
            cases hkind
          have hall := ih hrest
          rw [hnone, List.nil_append] at hall
          rw [List.filter_cons_of_neg (by simp [hkind]),
            List.filter_cons_of_pos (by simp [hkind]), hnone,
            List.nil_append, ← hall]

/-- Newest first, as a total preorder. -/
private theorem newestFirst_pairwise (rows : List StagedOrderRow) :
    (rows.insertionSort fun a b => b.createdAt ≤ a.createdAt).Pairwise
      fun a b => b.createdAt ≤ a.createdAt := by
  exact pairwise_sortDescending (fun a => a.createdAt) rows

/-- The approval's own orders are the listing's, or crowd out the rest. -/
def OwnOrdersListed (store : Store) (approval : ApprovalRequestRow) : Prop :=
  ((∀ order ∈ store.listingPool approval.householdId,
      order.approvalRequestId = approval.requestId)
    ∧ (store.listingPool approval.householdId).length ≤ 50)
  ∨ ((store.ordersOf approval.requestId).length = 50
    ∧ ∀ order ∈ store.listingPool approval.householdId,
        order.approvalRequestId ≠ approval.requestId →
        ∀ own ∈ store.ordersOf approval.requestId,
          order.createdAt < own.createdAt)

/-- An approval's orders are in its household's listing. -/
theorem listingPool_own {store : Store} (inv : BookInv env store.book)
    {approval : ApprovalRequestRow} (hmem : approval ∈ store.approvalRequests)
    (hsome : store.ordersOf approval.requestId ≠ []) :
    (store.listingPool approval.householdId).filter
        (·.approvalRequestId = approval.requestId)
      = store.ordersOf approval.requestId := by
  obtain ⟨-, runId, -, howned, -⟩ := staged_in_full inv hmem hsome
  unfold Store.listingPool Store.ordersOf
  rw [List.filter_filter]
  refine List.filter_congr fun order ho => ?_
  by_cases hid : order.approvalRequestId = approval.requestId
  · have hown : order ∈ store.ordersOf approval.requestId :=
      List.mem_filter.mpr ⟨ho, by simpa using hid⟩
    simp [hid, (howned order hown).2]
  · simp [hid]

/-- An engine that returns one order before all others. -/
def RowOrder.startingWith (first : StagedOrderRow) : RowOrder where
  trades rows := rows
  orders rows := if first ∈ rows then first :: rows.erase first else rows
  tradesPerm _ := List.Perm.refl _
  ordersPerm rows := by
    split
    · next h => exact (List.perm_cons_erase h).symm
    · exact List.Perm.refl _

/-- Returned first, an order is listed before every order no newer. -/
theorem listed_before {store : Store} {householdId : String}
    {order other : StagedOrderRow}
    (ho : order ∈ store.listingPool householdId)
    (hle : other.createdAt ≤ order.createdAt)
    (hother : other ∈ listStagedOrders (.startingWith order) store
      (some householdId)) :
    order ∈ listStagedOrders (.startingWith order) store
      (some householdId) := by
  rw [listStagedOrders_eq] at hother ⊢
  have hrows : (RowOrder.startingWith order).orders
        (store.listingPool householdId)
      = order :: (store.listingPool householdId).erase order := if_pos ho
  rw [hrows, List.insertionSort_cons_eq_take_drop] at hother ⊢
  generalize hnewer : ((((store.listingPool householdId).erase
    order).insertionSort fun a b => b.createdAt ≤ a.createdAt).takeWhile
      fun b => decide ¬ b.createdAt ≤ order.createdAt) = newer at hother ⊢
  have hnotNewer : other ∉ newer := by
    intro hmem
    rw [← hnewer] at hmem
    have := List.mem_takeWhile_imp hmem
    simp only [decide_eq_true_eq] at this
    exact this hle
  -- the listing reached `other`, so it reached past `newer`
  by_cases hlen : 50 ≤ newer.length
  · rw [List.take_append_of_le_length hlen] at hother
    exact absurd (List.mem_of_mem_take hother) hnotNewer
  · rw [List.take_append]
    refine List.mem_append_right _ ?_
    have hpos : 50 - newer.length = (50 - newer.length - 1) + 1 := by omega
    rw [hpos, List.take_succ_cons]
    exact List.mem_cons_self ..

/-- The engine's rows, sorted, are the pool. -/
private theorem sorted_perm_pool (order : RowOrder) (store : Store)
    (householdId : String) :
    ((order.orders (store.listingPool householdId)).insertionSort
      fun a b => b.createdAt ≤ a.createdAt).Perm
      (store.listingPool householdId) :=
  (List.perm_insertionSort _ _).trans (order.ordersPerm _)

/-- A pool within the limit is listed whole. -/
theorem listing_of_short (order : RowOrder) {store : Store}
    {householdId : String}
    (hlen : (store.listingPool householdId).length ≤ 50) :
    (listStagedOrders order store (some householdId)).Perm
      (store.listingPool householdId) := by
  have hsort := sorted_perm_pool order store householdId
  rw [listStagedOrders_eq, List.take_of_length_le
    (hsort.length_eq.trans_le hlen)]
  exact hsort

/-- Fifty orders newer than the rest of the pool are what is listed. -/
theorem listing_of_fifty (order : RowOrder) {store : Store}
    {householdId : String} {kind : StagedOrderRow → Bool}
    (hfifty : ((store.listingPool householdId).filter kind).length = 50)
    (hnewer : ∀ x ∈ store.listingPool householdId, kind x = false →
      ∀ y ∈ store.listingPool householdId, kind y = true →
        x.createdAt < y.createdAt) :
    (listStagedOrders order store (some householdId)).Perm
      ((store.listingPool householdId).filter kind) := by
  have hperm := sorted_perm_pool order store householdId
  have hsorted := newestFirst_pairwise
    (order.orders (store.listingPool householdId))
  rw [listStagedOrders_eq]
  generalize ((order.orders (store.listingPool householdId)).insertionSort
    fun a b => b.createdAt ≤ a.createdAt) = listing at hperm hsorted ⊢
  have hkind : listing.Pairwise fun x y => kind y = true → kind x = true := by
    refine hsorted.imp_of_mem fun {x y} hx hy hle hyown => ?_
    by_contra hx'
    have hlt := hnewer x (hperm.mem_iff.mp hx) (by simpa using hx') y
      (hperm.mem_iff.mp hy) hyown
    exact absurd hlt (not_lt.mpr hle)
  have hfilter : (listing.filter kind).Perm
      ((store.listingPool householdId).filter kind) := hperm.filter kind
  rw [eq_filter_append hkind, List.take_left'
    (hfilter.length_eq.trans hfifty)]
  exact hfilter

/-- The listing is the approval's orders, whatever order the engine
returns rows in, exactly under the condition. -/
theorem listing_iff {store : Store} (inv : BookInv env store.book)
    {approval : ApprovalRequestRow} (hmem : approval ∈ store.approvalRequests)
    (hsome : store.ordersOf approval.requestId ≠ []) :
    (∀ order : RowOrder,
        (listStagedOrders order store (some approval.householdId)).Perm
          (store.ordersOf approval.requestId))
      ↔ OwnOrdersListed store approval := by
  have hown := listingPool_own inv hmem hsome
  refine ⟨fun hlisted => ?_, fun hcond order => ?_⟩
  · by_cases hlen : (store.listingPool approval.householdId).length ≤ 50
    · -- everything is listed, so everything is the approval's
      refine Or.inl ⟨fun order ho => ?_, hlen⟩
      have hperm := (listing_of_short .insertion hlen).symm.trans
        (hlisted .insertion)
      simpa using (List.mem_filter.mp (hperm.mem_iff.mp ho)).2
    · right
      have hlength := (hlisted .insertion).length_eq
      rw [listStagedOrders_eq, List.length_take,
        (sorted_perm_pool .insertion store _).length_eq] at hlength
      refine ⟨by omega, fun order ho hforeign own howned => ?_⟩
      by_contra hnew
      rw [not_lt] at hnew
      -- the engine may return the foreign order first, and then it is listed
      have hperm := hlisted (.startingWith order)
      have hin := listed_before ho hnew (hperm.mem_iff.mpr howned)
      have := (List.mem_filter.mp (hperm.mem_iff.mp hin)).2
      simp only [decide_eq_true_eq] at this
      exact hforeign this
  · rcases hcond with ⟨hall, hlen⟩ | ⟨hfifty, hnewer⟩
    · have hself : (store.listingPool approval.householdId).filter
          (·.approvalRequestId = approval.requestId)
          = store.listingPool approval.householdId := by
        rw [List.filter_eq_self]
        intro row hr
        simpa using hall row hr
      rw [← hown, hself]
      exact listing_of_short order hlen
    · rw [← hown] at hfifty ⊢
      refine listing_of_fifty order hfifty fun x hx hforeign y hy hyown => ?_
      apply hnewer x hx (by simpa using hforeign)
      rw [← hown]
      exact List.mem_filter.mpr ⟨hy, hyown⟩

-- ========================================================== the second call

/-- A call on an approval that has orders writes nothing and lists. -/
theorem restage_eq {store : Store} (inv : BookInv env store.book)
    {approval : ApprovalRequestRow} (hmem : approval ∈ store.approvalRequests)
    (hsome : store.ordersOf approval.requestId ≠ []) (order : RowOrder)
    (actorId : String) :
    stageOrdersFromApproval env order store approval.requestId actorId
      = .ok (listStagedOrders order store (some approval.householdId),
          store) := by
  obtain ⟨happroved, runId, hrun, -⟩ := staged_in_full inv hmem hsome
  have hget : store.approval? approval.requestId = some approval := by
    rw [approval?_eq_get]
    exact Keyed.get_of_mem inv.requestsDistinct hmem
  have hexisting := (truthy_existing_iff inv order approval.requestId).mpr hsome
  unfold stageOrdersFromApproval
  rw [hget]
  dsimp only
  rw [if_neg (not_not.mpr happroved), hrun]
  dsimp only
  rw [if_pos hexisting]

-- =========================================================== the first call

theorem createApproval_orders (store : Store) (householdId : String)
    (subjectType : ApprovalSubject) (subjectId : String)
    (optimizationRunId : Option String) :
    (createApproval env store householdId subjectType subjectId
      optimizationRunId).2.stagedOrders = store.stagedOrders := rfl

/-- Persisting a run writes no order, nor does the gate it opens. -/
theorem persistOptimization_orders (store : Store)
    (result : OptimizationResult) (inputSnapshotId actorId : String)
    (solverType : String) (runtimeMs : Option Int) (queueApproval : Bool) :
    (persistOptimization env store result inputSnapshotId actorId solverType
      runtimeMs queueApproval).2.stagedOrders = store.stagedOrders := by
  cases queueApproval with
  | false => rfl
  | true =>
      exact createApproval_orders (persistOptimization env store result
        inputSnapshotId actorId solverType runtimeMs false).2 _ _ _ _

/-- A row the staging loop writes is as staged. -/
theorem asStaged_of_mem_stagedRows {approval : ApprovalRequestRow}
    {runId : String} {now : DateTime} {draws : Nat}
    {trades : List OptimizationTradeRow} {view : StagedOrderRow}
    (hv : view ∈ stagedRows env approval runId now draws trades) :
    view.asStaged = view := by
  obtain ⟨-, -, hstatus, hcreated, hupdated⟩ := mem_stagedRows _ _ hv
  cases view
  dsimp only at hstatus hcreated hupdated
  rw [StagedOrderRow.asStaged, hstatus, hcreated, hupdated]

/-- The one call that writes orders: a first staging. -/
theorem exec_orders {store : Store} (inv : BookInv env store.book) (op : Op) :
    (exec env store op).book.orders = store.book.orders
    ∨ ∃ order requestId actorId views,
        op = .stage order requestId actorId
        ∧ stageOrdersFromApproval env order store requestId actorId
          = .ok (views, exec env store op)
        ∧ store.ordersOf requestId = []
        ∧ (∀ view ∈ views, view.approvalRequestId = requestId
            ∧ view.asStaged = view)
        ∧ (exec env store op).book.orders = store.book.orders ++ views := by
  cases hcall : op.call env store with
  | error e =>
      left
      unfold exec
      rw [hcall]
  | ok store' =>
      have hexec : exec env store op = store' := by
        unfold exec
        rw [hcall]
      rw [hexec]
      cases op with
      | persist result snapshot actorId solverType runtimeMs queueApproval =>
          left
          cases hcall
          exact congrArg (List.map StagedOrderRow.asStaged)
            (persistOptimization_orders store result snapshot actorId
              solverType runtimeMs queueApproval)
      | createApproval runId householdId =>
          cases hcall
          exact Or.inl rfl
      | createReportApproval snapshotId householdId =>
          cases hcall
          exact Or.inl rfl
      | decide requestId status reviewerId =>
          left
          obtain ⟨view, hok⟩ := ok_of_map_snd hcall
          obtain ⟨row, -, -, -, rfl, rfl⟩ := decide_cases hok
          rfl
      | stage order requestId actorId =>
          obtain ⟨views, hok⟩ := ok_of_map_snd hcall
          obtain ⟨approval, -, hid, -, hcase⟩ := stage_cases inv hok
          rcases hcase with ⟨-, rfl, -⟩ | ⟨hnone, runId, -, hviews, hstore⟩
          · exact Or.inl rfl
          · right
            have hfresh : ∀ view ∈ views, view.approvalRequestId = requestId
                ∧ view.asStaged = view := by
              intro view hv
              rw [hviews] at hv
              obtain ⟨⟨hreq, -⟩, -⟩ := mem_stagedRows _ _ hv
              exact ⟨hreq.trans hid, asStaged_of_mem_stagedRows hv⟩
            refine ⟨order, requestId, actorId, views, rfl, hok, hnone, hfresh,
              ?_⟩
            rw [hstore]
            show (store.stagedOrders ++ views).map _ = _
            rw [List.map_append, List.map_congr_left
              (fun view hv => (hfresh view hv).2), List.map_id']
            rfl
      | updateOrder orderId status actorId =>
          left
          obtain ⟨draws, -, hbook⟩ := book_updateOrder inv orderId status actorId
          rw [ok_of_updateOrder hcall] at hbook
          rw [hbook]

/-- The orders of an approval are the ones its first staging call wrote
and returned. -/
theorem first_staging (env : Env) (requestId : String) (ops : List Op)
    (hsome : (storeAfter env ops).ordersOf requestId ≠ []) :
    ∃ before order actorId after views store',
      ops = before ++ .stage order requestId actorId :: after
      ∧ (storeAfter env before).ordersOf requestId = []
      ∧ stageOrdersFromApproval env order (storeAfter env before) requestId
          actorId = .ok (views, store')
      ∧ ((storeAfter env ops).ordersOf requestId).map (·.asStaged) = views := by
  induction ops using List.reverseRecOn with
  | nil => exact absurd rfl hsome
  | append_singleton ops op ih =>
      have inv := bookInv_storeAfter env ops
      have hrun : storeAfter env (ops ++ [op])
          = exec env (storeAfter env ops) op := by
        rw [storeAfter, Runs.run_append]
        rfl
      have hkeep : (exec env (storeAfter env ops) op).book.ordersOf requestId
          = (storeAfter env ops).book.ordersOf requestId →
          ∃ before order actorId after views store',
            ops ++ [op] = before ++ .stage order requestId actorId :: after
            ∧ (storeAfter env before).ordersOf requestId = []
            ∧ stageOrdersFromApproval env order (storeAfter env before)
                requestId actorId = .ok (views, store')
            ∧ ((storeAfter env (ops ++ [op])).ordersOf requestId).map
                (·.asStaged) = views := by
        intro hsame
        have hsome' : (storeAfter env ops).ordersOf requestId ≠ [] := by
          intro hnil
          apply hsome
          rw [← ordersOf_eq_nil_iff, hrun, hsame, ordersOf_eq_nil_iff]
          exact hnil
        obtain ⟨before, order, actorId, after, views, store', hsplit, hnone,
          hok, hviews⟩ := ih hsome'
        refine ⟨before, order, actorId, after ++ [op], views, store', ?_,
          hnone, hok, ?_⟩
        · rw [hsplit, List.append_assoc]
          rfl
        · rw [← book_ordersOf, hrun, hsame, book_ordersOf]
          exact hviews
      rcases exec_orders inv op with horders
        | ⟨order, requestId', actorId, views, rfl, hok, hnone, hfresh, horders⟩
      · apply hkeep
        unfold Book.ordersOf
        rw [horders]
      · have hbucket := Keyed.filter_append_owned
          (storeAfter env ops).book.orders
          (fun view hv => (hfresh view hv).1) requestId
        rw [← horders] at hbucket
        by_cases hid : requestId = requestId'
        · -- this is the call
          subst hid
          have hnil : (storeAfter env ops).book.orders.filter
              (·.approvalRequestId = requestId) = [] :=
            ordersOf_eq_nil_iff.mpr hnone
          rw [if_pos rfl, hnil, List.nil_append] at hbucket
          refine ⟨ops, order, actorId, [], views, _, rfl, hnone, hok, ?_⟩
          rw [← book_ordersOf, hrun]
          exact hbucket
        · apply hkeep
          rw [if_neg hid, List.append_nil] at hbucket
          exact hbucket

-- ============================================================== the theorem

/-- When staging again returns the approval's orders.

For an approval that has orders after any sequence of calls: the orders
are those its first staging call wrote; and a further staging call
changes nothing and returns exactly them, whatever order the engine
returns rows in, exactly when `OwnOrdersListed`. -/
theorem restaging_returns_own_iff (env : Env) (ops : List Op)
    (approval : ApprovalRequestRow)
    (hmem : approval ∈ (storeAfter env ops).approvalRequests)
    (hsome : (storeAfter env ops).ordersOf approval.requestId ≠ []) :
    (∃ before order actorId after views store',
      ops = before ++ .stage order approval.requestId actorId :: after
      ∧ stageOrdersFromApproval env order (storeAfter env before)
          approval.requestId actorId = .ok (views, store')
      ∧ ((storeAfter env ops).ordersOf approval.requestId).map (·.asStaged)
        = views)
    ∧ ((∀ (order : RowOrder) (actorId : String), ∃ views,
          stageOrdersFromApproval env order (storeAfter env ops)
              approval.requestId actorId = .ok (views, storeAfter env ops)
          ∧ views.Perm ((storeAfter env ops).ordersOf approval.requestId))
        ↔ OwnOrdersListed (storeAfter env ops) approval) := by
  have inv := bookInv_storeAfter env ops
  refine ⟨?_, ?_⟩
  · obtain ⟨before, order, actorId, after, views, store', hsplit, -, hok,
      hviews⟩ := first_staging env approval.requestId ops hsome
    exact ⟨before, order, actorId, after, views, store', hsplit, hok, hviews⟩
  · rw [← listing_iff inv hmem hsome]
    refine ⟨fun hcalls order => ?_, fun hlisted order actorId => ?_⟩
    · obtain ⟨views, hok, hperm⟩ := hcalls order ""
      rw [restage_eq inv hmem hsome] at hok
      cases hok
      exact hperm
    · exact ⟨_, restage_eq inv hmem hsome order actorId, hlisted order⟩

/-- A persisted run of one trade, its gate approved and staged. -/
def stagedRun (requestId : String) : List Op :=
  [.persist
      { householdId := "h", configVersion := "2026.01", estimatedTaxDelta := 0,
        trades :=
          [{ lotId := some "lot_1", securityId := "sec_vti",
             accountId := "acct_a", side := "sell", quantity := 1,
             rationale := "" }] }
      "snapshot_local" "system:optimizer" "heuristic" none true,
   .decide requestId .approved "reviewer",
   .stage .insertion requestId "system:oms"]

/-- The household's only run, staged twice. -/
theorem restaging_returns_own_iff_only :
    ∃ approval ∈ (storeAfter Env.counting (stagedRun "appr_11")).approvalRequests,
      ∃ views, stageOrdersFromApproval Env.counting .insertion
            (storeAfter Env.counting (stagedRun "appr_11")) approval.requestId
            "system:oms"
          = .ok (views, storeAfter Env.counting (stagedRun "appr_11"))
        ∧ views.Perm ((storeAfter Env.counting (stagedRun "appr_11")).ordersOf
            approval.requestId) := by
  have hone : ∃ approval,
      (storeAfter Env.counting (stagedRun "appr_11")).approvalRequests
        = [approval] ∧ approval.requestId = "appr_11" := ⟨_, rfl, rfl⟩
  obtain ⟨approval, happs, hid⟩ := hone
  have hmem : approval
      ∈ (storeAfter Env.counting (stagedRun "appr_11")).approvalRequests := by
    rw [happs]
    exact List.mem_singleton_self _
  have hsome : (storeAfter Env.counting (stagedRun "appr_11")).ordersOf
      approval.requestId ≠ [] := by
    rw [hid]
    decide
  obtain ⟨-, hiff⟩ := restaging_returns_own_iff Env.counting
    (stagedRun "appr_11") approval hmem hsome
  refine ⟨approval, hmem, hiff.mpr (Or.inl ⟨?_, ?_⟩) .insertion "system:oms"⟩
  · intro order ho
    have hall : ∀ order ∈ (storeAfter Env.counting
        (stagedRun "appr_11")).stagedOrders,
        order.approvalRequestId = "appr_11" := by decide
    rw [hid]
    exact hall order (List.mem_filter.mp ho).1
  · exact (List.length_filter_le ..).trans (by decide)

/-- Two staged runs of one household: staging the first again returns the
orders of both. -/
theorem restage_returns_both :
    ((storeAfter Env.counting
        (stagedRun "appr_11" ++ stagedRun "appr_111111111")).ordersOf
      "appr_11").length = 1
    ∧ ∃ views, stageOrdersFromApproval Env.counting .insertion
          (storeAfter Env.counting
            (stagedRun "appr_11" ++ stagedRun "appr_111111111"))
          "appr_11" "system:oms"
        = .ok (views, storeAfter Env.counting
            (stagedRun "appr_11" ++ stagedRun "appr_111111111"))
      ∧ views.length = 2 := by
  refine ⟨by decide, _, rfl, by decide⟩

end Warehouse
