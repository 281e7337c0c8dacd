/-
A backtest does not look ahead.

Its positions are read without a cut-off, but where its guards let them
through (`Backtestable`) nothing it read is dated after its end: the
positions are those of the store cut off there (`Store.upTo`), up to the
order of the rows, and the outcome is a matter of sums. So what comes later
can refuse a backtest and cannot change it.

# The guards

Each guard is an equivalence of its own: the length of the window, the
acquisition dates of the positions, the dates of their marks
(`validateBacktestWalkForward_ok_iff`). Under all three the newest mark of
every security that is read is the newest one up to the end
(`latestMark_upTo`).

# Two stores

Two stores with one past (`SamePast`) show the same positions, in some
order, so a run that both of them let through answers alike in both but for
ids and the clock. The three figures are quotients of sums over the
positions, which is why the order is forgotten.
-/
import Warehouse.Proofs.WalkForward
import Warehouse.Research.Backtest

namespace Warehouse

open Lib

variable {env : Env} {rt : HashRuntime} {order : BacktestOrder}
  {store : BacktestStore} {householdId : String} {startDate endDate : Date}
  {snapshot : Option String} {settings : AppSettings}

-- ================================================================== guards

/-- The window guard. -/
theorem assertMinBacktestWindow_ok_iff {purgeDays : Int} :
    assertMinBacktestWindow startDate endDate purgeDays = .ok ⟨⟩
      ↔ purgeDays ≤ endDate - startDate := by
  unfold assertMinBacktestWindow
  dsimp only
  by_cases hshort : endDate - startDate < purgeDays
  · rw [if_pos hshort]
    constructor
    · intro h; cases h
    · intro h; exact absurd hshort (not_lt.mpr h)
  · rw [if_neg hshort]
    exact ⟨fun _ => not_lt.mp hshort, fun _ => rfl⟩

/-- The guard on acquisitions. -/
theorem assertLotsNotAfter_ok_iff {positions : List LotPositionView} :
    assertLotsNotAfter positions endDate = .ok ⟨⟩
      ↔ ∀ pos ∈ positions, pos.acquisitionDate ≤ endDate := by
  unfold assertLotsNotAfter
  cases hfind : positions.find? fun pos => pos.acquisitionDate > endDate with
  | none =>
    rw [List.find?_eq_none] at hfind
    refine ⟨fun _ pos hpos => ?_, fun _ => rfl⟩
    have hin := hfind pos hpos
    rw [decide_eq_true_eq] at hin
    exact not_lt.mp hin
  | some late =>
    constructor
    · intro h; cases h
    · intro h
      have hin := h late (List.mem_of_find?_eq_some hfind)
      have hlate := List.find?_some hfind
      rw [decide_eq_true_eq] at hlate
      exact absurd hlate (not_lt.mpr hin)

/-- The guard on mark dates. -/
theorem assertMarkDatesNotAfter_ok_iff {dates : List Date} :
    assertMarkDatesNotAfter dates endDate = .ok ⟨⟩
      ↔ ∀ d ∈ dates, d ≤ endDate := by
  unfold assertMarkDatesNotAfter
  cases hfind : dates.find? fun d => d > endDate with
  | none =>
    rw [List.find?_eq_none] at hfind
    refine ⟨fun _ d hd => ?_, fun _ => rfl⟩
    have hin := hfind d hd
    rw [decide_eq_true_eq] at hin
    exact not_lt.mp hin
  | some late =>
    constructor
    · intro h; cases h
    · intro h
      have hin := h late (List.mem_of_find?_eq_some hfind)
      have hlate := List.find?_some hfind
      rw [decide_eq_true_eq] at hlate
      exact absurd hlate (not_lt.mpr hin)

/-- The dates looked at are those of the positions' marks. -/
theorem mem_markDatesForPositions {positions : List LotPositionView}
    {store : Store} {d : Date} :
    d ∈ markDatesForPositions order store positions
      ↔ ∃ row ∈ store.marketPrices,
        row.securityId ∈ positions.map (·.securityId) ∧ row.asOfDate = d := by
  unfold markDatesForPositions
  dsimp only
  by_cases hnone : (positions.map (·.securityId)).isEmpty = true
  · rw [if_pos hnone, List.isEmpty_iff.mp hnone]
    simp
  · rw [if_neg hnone]
    simp only [List.mem_map, List.mem_filter, decide_eq_true_eq,
      (order.marksPerm _).mem_iff, and_assoc]

/-- The positions a backtest reads. -/
def heldPositions (order : BacktestOrder) (store : Store)
    (householdId : String) (asOf : Option Date) : List LotPositionView :=
  listLotPositions order.lots store (some householdId) asOf

/-- No guard refuses the backtest: the window is long enough, nothing the
household holds is dated after its end, and something was paid for. -/
structure Backtestable (order : BacktestOrder) (settings : AppSettings)
    (store : Store) (householdId : String) (startDate endDate : Date) :
    Prop where
  window : settings.walkForwardPurgeDays ≤ endDate - startDate
  lots : ∀ pos ∈ heldPositions order store householdId none,
    pos.acquisitionDate ≤ endDate
  marks : ∀ row ∈ store.marketPrices,
    row.securityId ∈ (heldPositions order store householdId none).map
      (·.securityId) → row.asOfDate ≤ endDate
  value : 0 < ((heldPositions order store householdId none).map
    (·.totalCostBasis)).sum

/-- The three guards together. -/
theorem validateBacktestWalkForward_ok_iff {store : Store}
    {positions : List LotPositionView} {purgeDays : Int} :
    validateBacktestWalkForward order store householdId positions startDate
        endDate purgeDays = .ok ⟨⟩
      ↔ purgeDays ≤ endDate - startDate
        ∧ (∀ pos ∈ positions, pos.acquisitionDate ≤ endDate)
        ∧ ∀ row ∈ store.marketPrices,
          row.securityId ∈ positions.map (·.securityId) →
            row.asOfDate ≤ endDate := by
  have hmarks : (∀ d ∈ markDatesForPositions order store positions,
      d ≤ endDate) ↔ ∀ row ∈ store.marketPrices,
        row.securityId ∈ positions.map (·.securityId) →
          row.asOfDate ≤ endDate := by
    constructor
    · intro h row hrow hsec
      exact h _ (mem_markDatesForPositions.mpr ⟨row, hrow, hsec, rfl⟩)
    · intro h d hd
      obtain ⟨row, hrow, hsec, rfl⟩ := mem_markDatesForPositions.mp hd
      exact h row hrow hsec
  unfold validateBacktestWalkForward
  rw [← hmarks, ← assertMinBacktestWindow_ok_iff,
    ← assertLotsNotAfter_ok_iff, ← assertMarkDatesNotAfter_ok_iff]
  constructor
  · intro h
    obtain ⟨⟨⟩, hwindow, h⟩ := bind_ok_iff.mp h
    obtain ⟨⟨⟩, hlots, h⟩ := bind_ok_iff.mp h
    exact ⟨hwindow, hlots, h⟩
  · rintro ⟨hwindow, hlots, hdates⟩
    rw [hwindow, ok_bind, hlots, ok_bind, hdates]

/-- There is an outcome where something was paid for the positions. -/
theorem backtestOutcome_ok_iff {positions : List LotPositionView} :
    (∃ outcome, backtestOutcome settings positions = .ok outcome)
      ↔ 0 < (positions.map (·.totalCostBasis)).sum := by
  unfold backtestOutcome
  dsimp only
  split
  · next hfree =>
    exact ⟨fun ⟨_, h⟩ => (nomatch h), fun h => absurd h (not_lt.mpr hfree)⟩
  · next hpaid => exact ⟨fun _ => not_le.mp hpaid, fun _ => ⟨_, rfl⟩⟩

/-- What a run that is not refused writes. -/
structure BacktestRun (env : Env) (settings : AppSettings)
    (positions : List LotPositionView) (store : BacktestStore)
    (out : BacktestRunRow × BacktestStore) : Prop where
  outcome : backtestOutcome settings positions
    = .ok ⟨out.1.afterTaxReturn, out.1.baselineAfterTaxReturn,
      out.1.taxDelta⟩
  runs : out.2.backtestRuns = store.backtestRuns ++ [out.1]
  planes : { out.2.toStore with
      draws := store.toStore.draws, ticks := store.toStore.ticks }
    = store.toStore
  drawn : store.toStore.draws < out.2.toStore.draws
    ∧ out.2.toStore.ticks = store.toStore.ticks + 1
  runId : ∃ n, store.toStore.draws ≤ n ∧ n < out.2.toStore.draws
    ∧ out.1.runId = "bt_" ++ env.hex n
  createdAt : out.1.createdAt = env.now store.toStore.ticks

/-- A run that answers was backtestable, and recorded its outcome. -/
theorem runBacktest_ok {out : BacktestRunRow × BacktestStore}
    (h : runBacktest env rt order store householdId startDate endDate snapshot
      settings = .ok out) :
    Backtestable order settings store.toStore householdId startDate endDate
      ∧ BacktestRun env settings
        (heldPositions order store.toStore householdId none) store out
      ∧ out.1.householdId = householdId ∧ out.1.startDate = startDate
      ∧ out.1.endDate = endDate := by
  unfold runBacktest at h
  dsimp only at h
  obtain ⟨⟨⟩, hguards, h⟩ := bind_ok_iff.mp h
  obtain ⟨hwindow, hlots, hmarks⟩ :=
    validateBacktestWalkForward_ok_iff.mp hguards
  split at h
  · cases h
  · obtain ⟨outcome, houtcome, h⟩ := bind_ok_iff.mp h
    have hvalue := backtestOutcome_ok_iff.mp ⟨outcome, houtcome⟩
    refine ⟨⟨hwindow, hlots, hmarks, hvalue⟩, ?_⟩
    by_cases hgiven : truthy snapshot = true
    · rw [if_pos hgiven] at h
      cases h
      refine ⟨⟨houtcome, rfl, rfl, ⟨?_, rfl⟩, ?_, rfl⟩, rfl, rfl, rfl⟩
      · exact Nat.lt_succ_self _
      · exact ⟨_, le_refl _, Nat.lt_succ_self _, rfl⟩
    · rw [if_neg hgiven] at h
      cases h
      refine ⟨⟨houtcome, rfl, rfl, ⟨?_, rfl⟩, ?_, rfl⟩, rfl, rfl, rfl⟩
      · exact Nat.lt_succ_of_lt (Nat.lt_succ_self _)
      · exact ⟨_, Nat.le_succ _, Nat.lt_succ_self _, rfl⟩

/-- A run answers exactly when the household is backtestable. -/
theorem runBacktest_ok_iff :
    (∃ out, runBacktest env rt order store householdId startDate endDate
      snapshot settings = .ok out)
      ↔ Backtestable order settings store.toStore householdId startDate
        endDate := by
  constructor
  · rintro ⟨out, h⟩
    exact (runBacktest_ok h).1
  · intro h
    obtain ⟨outcome, houtcome⟩ : ∃ outcome, backtestOutcome settings
        (heldPositions order store.toStore householdId none) = .ok outcome :=
      backtestOutcome_ok_iff.mpr h.value
    have hguards : validateBacktestWalkForward order store.toStore householdId
        (heldPositions order store.toStore householdId none) startDate endDate
        settings.walkForwardPurgeDays = .ok ⟨⟩ :=
      validateBacktestWalkForward_ok_iff.mpr ⟨h.window, h.lots, h.marks⟩
    have hheld : ¬ (heldPositions order store.toStore householdId
        none).isEmpty = true := by
      intro hnone
      have hvalue := h.value
      rw [List.isEmpty_iff.mp hnone] at hvalue
      exact lt_irrefl _ hvalue
    unfold heldPositions at hguards houtcome hheld
    unfold runBacktest
    dsimp only
    rw [hguards, ok_bind, if_neg hheld, houtcome, ok_bind]
    exact ⟨_, rfl⟩

-- ================================================================ the past

/-- The store as it stood at the end of a day: later lots and marks are
not in it yet. -/
def Store.upTo (store : Store) (asOf : Date) : Store :=
  { store with
    lots := store.lots.filter (·.acquisitionDate ≤ asOf)
    marketPrices := store.marketPrices.filter (·.asOfDate ≤ asOf) }

section Past

variable {store store' : Store} {asOf : Date}

/-- Dropping later marks is asking for the latest mark up to the day. -/
theorem latestMark_upTo (store : Store) (asOf : Date) (securityId : String) :
    latestMark (store.upTo asOf) none securityId
      = latestMark store (some asOf) securityId := by
  have hmarks : (store.upTo asOf).marketPrices.filter (fun row =>
      row.securityId = securityId ∧ ∀ d ∈ none, row.asOfDate ≤ d)
      = store.marketPrices.filter fun row =>
        row.securityId = securityId ∧ ∀ d ∈ some asOf, row.asOfDate ≤ d := by
    unfold Store.upTo
    dsimp only
    rw [List.filter_filter]
    refine List.filter_congr fun row _ => ?_
    simp
  unfold latestMark
  rewrite [hmarks]
  rfl

/-- A security without a later mark has the mark it had then. -/
theorem latestMark_within {securityId : String}
    (h : ∀ row ∈ store.marketPrices, row.securityId = securityId →
      row.asOfDate ≤ asOf) :
    latestMark store none securityId
      = latestMark store (some asOf) securityId := by
  have hmarks : store.marketPrices.filter (fun row =>
      row.securityId = securityId ∧ ∀ d ∈ none, row.asOfDate ≤ d)
      = store.marketPrices.filter fun row =>
        row.securityId = securityId ∧ ∀ d ∈ some asOf, row.asOfDate ≤ d := by
    refine List.filter_congr fun row hrow => ?_
    by_cases hsec : row.securityId = securityId
    · have hdate := h row hrow hsec
      simp [hsec, hdate]
    · simp [hsec]
  unfold latestMark
  rewrite [hmarks]
  rfl

theorem joinLot_upTo (store : Store) (asOf : Date) :
    joinLot (store.upTo asOf) = joinLot store := rfl

theorem joinLot_lot {lot : Lot} {row : JoinedLot}
    (h : joinLot store lot = some row) : row.lot = lot := by
  unfold joinLot at h
  split at h
  · obtain rfl := Option.some.inj h
    rfl
  · cases h

variable (store) in
/-- The joined lots in whatever order they are scanned. -/
theorem joinedLots_perm {scan scan' : List Lot → List Lot}
    (hscan : ∀ rows, (scan rows).Perm rows)
    (hscan' : ∀ rows, (scan' rows).Perm rows) (household : Option String) :
    (joinedLots scan store household).Perm
      (joinedLots scan' store household) := by
  have hrows := ((hscan store.lots).trans (hscan' store.lots).symm).filterMap
    (joinLot store)
  unfold joinedLots
  dsimp only
  by_cases hhousehold : truthy household = true
  · rw [if_pos hhousehold, if_pos hhousehold]
    exact hrows.filter _
  · rw [if_neg hhousehold, if_neg hhousehold]
    exact hrows

/-- Where no joined lot is later than the day, the joined lots are those of
the store at its end. -/
theorem joinedLots_upTo {household : Option String}
    (h : ∀ row ∈ joinedLots id store household,
      row.lot.acquisitionDate ≤ asOf) :
    joinedLots id (store.upTo asOf) household
      = joinedLots id store household := by
  have hjoined : ∀ lots : List Lot,
      (lots.filter (·.acquisitionDate ≤ asOf)).filterMap (joinLot store)
        = (lots.filterMap (joinLot store)).filter
          (·.lot.acquisitionDate ≤ asOf) := by
    intro lots
    rw [List.filter_filterMap, List.filterMap_filter]
    refine List.filterMap_congr fun lot _ => ?_
    cases hjoin : joinLot store lot with
    | none => simp
    | some row =>
      rw [← joinLot_lot hjoin]
      by_cases hdate : row.lot.acquisitionDate ≤ asOf
      · simp [hdate, Option.filter]
      · simp [hdate, Option.filter]
  unfold joinedLots at h ⊢
  dsimp only [id_eq] at h ⊢
  rw [joinLot_upTo]
  show (if truthy household = true then ((store.lots.filter _).filterMap
    (joinLot store)).filter _ else (store.lots.filter _).filterMap
      (joinLot store)) = _
  rw [hjoined]
  by_cases hhousehold : truthy household = true
  · rw [if_pos hhousehold] at h
    rw [if_pos hhousehold, if_pos hhousehold, List.filter_comm]
    exact List.filter_eq_self.mpr fun row hrow => decide_eq_true (h row hrow)
  · rw [if_neg hhousehold] at h
    rw [if_neg hhousehold, if_neg hhousehold]
    exact List.filter_eq_self.mpr fun row hrow => decide_eq_true (h row hrow)

end Past

-- =============================================================== positions

/-- The outcome is a matter of sums. -/
theorem backtestOutcome_perm {positions positions' : List LotPositionView}
    (h : positions.Perm positions') :
    backtestOutcome settings positions
      = backtestOutcome settings positions' := by
  unfold backtestOutcome
  dsimp only
  rw [(h.map (·.totalCostBasis)).sum_eq,
    (h.map fun p => p.marketValue.getD 0).sum_eq]

/-- What a household held at the end of a day, as it was known then. -/
def pastPositions (store : Store) (householdId : String) (asOf : Date) :
    List LotPositionView :=
  listLotPositions id (store.upTo asOf) (some householdId)

/-- The two stores differ in lots and marks dated after `asOf`, and in
what positions are not made of. -/
structure SamePast (asOf : Date) (store store' : Store) : Prop where
  entities : store'.entities = store.entities
  securities : store'.securities = store.securities
  lots : store'.lots.filter (·.acquisitionDate ≤ asOf)
    = store.lots.filter (·.acquisitionDate ≤ asOf)
  marks : store'.marketPrices.filter (·.asOfDate ≤ asOf)
    = store.marketPrices.filter (·.asOfDate ≤ asOf)

theorem SamePast.pastPositions {asOf : Date} {planes planes' : Store}
    (h : SamePast asOf planes planes') (householdId : String) :
    pastPositions planes' householdId asOf
      = Warehouse.pastPositions planes householdId asOf := by
  have hjoin : joinLot (planes'.upTo asOf) = joinLot (planes.upTo asOf) := by
    funext lot
    rw [joinLot_upTo, joinLot_upTo]
    unfold joinLot
    rw [h.securities, h.entities]
  have hlots : (planes'.upTo asOf).lots = (planes.upTo asOf).lots := h.lots
  have hmarks : (planes'.upTo asOf).marketPrices
      = (planes.upTo asOf).marketPrices := h.marks
  unfold Warehouse.pastPositions listLotPositions joinedLots latestMark
  rw [hjoin, hlots, hmarks]

namespace Backtestable

variable {planes planes' : Store}

/-- A backtestable book was all bought and marked by the end of its window. -/
theorem joined
    (h : Backtestable order settings planes householdId startDate endDate) :
    ∀ row ∈ joinedLots order.lots planes (some householdId),
      row.lot.acquisitionDate ≤ endDate
        ∧ latestMark planes none row.lot.securityId
          = latestMark planes (some endDate) row.lot.securityId := by
  intro row hrow
  have hview : lotPositionView (latestMark planes none row.lot.securityId) row
      ∈ heldPositions order planes householdId none :=
    List.mem_map_of_mem (f := fun row : JoinedLot => lotPositionView
      (latestMark planes none row.lot.securityId) row) hrow
  refine ⟨h.lots _ hview, latestMark_within fun mark hmark hsec => ?_⟩
  refine h.marks mark hmark ?_
  rw [hsec]
  exact List.mem_map_of_mem (f := (·.securityId)) hview

/-- The unbounded read is the bounded one. -/
theorem heldPositions_asOf
    (h : Backtestable order settings planes householdId startDate endDate) :
    heldPositions order planes householdId none
      = heldPositions order planes householdId (some endDate) := by
  unfold heldPositions listLotPositions
  refine List.map_congr_left fun row hrow => ?_
  rw [(h.joined row hrow).2]

/-- It is the past's, up to the order of the rows. -/
theorem heldPositions_perm
    (h : Backtestable order settings planes householdId startDate endDate) :
    (heldPositions order planes householdId none).Perm
      (pastPositions planes householdId endDate) := by
  have hperm := joinedLots_perm planes order.lotsPerm
    (fun rows => List.Perm.refl (id rows)) (some householdId)
  have hdates : ∀ row ∈ joinedLots id planes (some householdId),
      row.lot.acquisitionDate ≤ endDate := fun row hrow =>
    (h.joined row (hperm.mem_iff.mpr hrow)).1
  have hpast : pastPositions planes householdId endDate
      = (joinedLots id planes (some householdId)).map fun row =>
        lotPositionView (latestMark planes (some endDate) row.lot.securityId)
          row := by
    unfold pastPositions listLotPositions
    rw [joinedLots_upTo hdates]
    refine List.map_congr_left fun row _ => ?_
    rw [latestMark_upTo]
  rw [h.heldPositions_asOf, hpast]
  exact hperm.map _

/-- What can be backtested can be backtested without what came later. -/
theorem upTo
    (h : Backtestable order settings planes householdId startDate endDate)
    (order' : BacktestOrder) :
    Backtestable order' settings (planes.upTo endDate) householdId startDate
      endDate := by
  have hperm : (heldPositions order' (planes.upTo endDate) householdId
      none).Perm (heldPositions order planes householdId none) := by
    refine List.Perm.trans ?_ h.heldPositions_perm.symm
    exact (joinedLots_perm _ order'.lotsPerm (fun rows => List.Perm.refl (id rows))
      (some householdId)).map _
  refine ⟨h.window, fun pos hpos => h.lots pos (hperm.mem_iff.mp hpos),
    fun row hrow _ => ?_, ?_⟩
  · exact of_decide_eq_true (List.mem_filter.mp hrow).2
  · rw [(hperm.map (·.totalCostBasis)).sum_eq]
    exact h.value

end Backtestable

-- ============================================================ the theorems

/-- A backtest that is not refused is read as of its end.

It is refused exactly when the window is short, something the household
holds is dated after its end, or nothing was paid for. Otherwise its figures
are those of the bounded read, the run is appended, and the tables of the
planes are left as they are. -/
theorem backtest_walk_forward (env : Env) (rt : HashRuntime)
    (order : BacktestOrder) (store : BacktestStore) (householdId : String)
    (startDate endDate : Date) (snapshot : Option String)
    (settings : AppSettings) :
    ((∃ out, runBacktest env rt order store householdId startDate endDate
        snapshot settings = .ok out)
      ↔ Backtestable order settings store.toStore householdId startDate
        endDate)
    ∧ ∀ row store', runBacktest env rt order store householdId startDate
        endDate snapshot settings = .ok (row, store') →
      backtestOutcome settings (listLotPositions order.lots store.toStore
          (some householdId) (some endDate))
        = .ok ⟨row.afterTaxReturn, row.baselineAfterTaxReturn, row.taxDelta⟩
      ∧ row.taxDelta = 0
      ∧ store'.backtestRuns = store.backtestRuns ++ [row]
      ∧ { store'.toStore with
          draws := store.toStore.draws, ticks := store.toStore.ticks }
        = store.toStore := by
  refine ⟨runBacktest_ok_iff, fun row store' h => ?_⟩
  obtain ⟨hable, hrun, -⟩ := runBacktest_ok h
  have houtcome := hrun.outcome
  rw [hable.heldPositions_asOf] at houtcome
  refine ⟨houtcome, ?_, hrun.runs, hrun.planes⟩
  unfold backtestOutcome at houtcome
  dsimp only at houtcome
  split at houtcome
  · cases houtcome
  · obtain ⟨hafter, hbaseline, hdelta⟩ :=
      BacktestOutcome.mk.inj (Except.ok.inj houtcome)
    rw [← hdelta, sub_self]

/-- What is dated after a backtest's end can refuse it and cannot change it.

A run that goes through also goes through on the store of its end, and two
runs on stores of one past, with whatever else outside, have the same
returns. -/
theorem backtest_reads_past_only (env env' : Env) (rt rt' : HashRuntime)
    (order order' : BacktestOrder) (store store' : BacktestStore)
    (householdId : String) (startDate endDate : Date)
    (snapshot snapshot' : Option String) (settings : AppSettings)
    (row : BacktestRunRow) (after : BacktestStore)
    (hrun : runBacktest env rt order store householdId startDate endDate
      snapshot settings = .ok (row, after))
    (hpast : SamePast endDate store.toStore store'.toStore) :
    (∃ out, runBacktest env' rt' order'
        { store with toStore := store.toStore.upTo endDate } householdId
        startDate endDate snapshot' settings = .ok out)
    ∧ ∀ row' after', runBacktest env' rt' order' store' householdId startDate
        endDate snapshot' settings = .ok (row', after') →
      row'.afterTaxReturn = row.afterTaxReturn
        ∧ row'.baselineAfterTaxReturn = row.baselineAfterTaxReturn
        ∧ row'.taxDelta = row.taxDelta := by
  obtain ⟨hable, hdone, -⟩ := runBacktest_ok hrun
  refine ⟨runBacktest_ok_iff.mpr (hable.upTo order'), fun row' after' h => ?_⟩
  obtain ⟨hable', hdone', -⟩ := runBacktest_ok h
  have houtcome := hdone.outcome
  have houtcome' := hdone'.outcome
  rw [backtestOutcome_perm hable.heldPositions_perm] at houtcome
  rw [backtestOutcome_perm hable'.heldPositions_perm] at houtcome'
  rw [hpast.pastPositions, houtcome] at houtcome'
  obtain ⟨hafter, hbaseline, hdelta⟩ :=
    BacktestOutcome.mk.inj (Except.ok.inj houtcome')
  exact ⟨hafter.symm, hbaseline.symm, hdelta.symm⟩

/-- Ten shares of the fund, backtested to ten days after their mark. -/
def fundRuns : BacktestStore where
  toStore := fundBook [fundLot 739000]

/-- The same, and a lot bought by another account three months later. -/
def fundRunsLater : BacktestStore where
  toStore := fundBook [fundLot 739000,
    { lotId := "lot_2"
      accountId := "acct_2"
      securityId := "sec_vti"
      quantity := 5
      costBasisPerShare := 90
      acquisitionDate := 739500 }]

/-- Rows as they come. -/
def BacktestOrder.insertion : BacktestOrder where
  lots rows := rows
  marks rows := rows
  runs rows := rows
  lotsPerm _ := List.Perm.refl _
  marksPerm _ := List.Perm.refl _
  runsPerm _ := List.Perm.refl _

/-- Hashes that keep everything. -/
def HashRuntime.plain : HashRuntime where
  sha256 text := text
  floatText := formatFixed 2
  jsonText := reprText

theorem exists_of_isSome_toOption {α : Type} {outcome : Except Exc α}
    (h : outcome.toOption.isSome = true) : ∃ a, outcome = .ok a := by
  cases outcome with
  | error e => cases h
  | ok a => exact ⟨a, rfl⟩

/-- A mark after the window changes nothing in the run. -/
theorem backtest_reads_past_only_fund :
    ∃ row after row' after',
      runBacktest .counting .plain .insertion fundRuns "hh_1" 739100 739410
          (some "snap") {} = .ok (row, after)
        ∧ runBacktest .counting .plain .insertion fundRunsLater "hh_1" 739100
          739410 none {} = .ok (row', after')
        ∧ row'.afterTaxReturn = row.afterTaxReturn := by
  obtain ⟨⟨row, after⟩, hrun⟩ := exists_of_isSome_toOption
    (by decide +kernel : (runBacktest .counting .plain .insertion fundRuns
      "hh_1" 739100 739410 (some "snap") {}).toOption.isSome = true)
  obtain ⟨⟨row', after'⟩, hrun'⟩ := exists_of_isSome_toOption
    (by decide +kernel : (runBacktest .counting .plain .insertion
      fundRunsLater "hh_1" 739100 739410 none {}).toOption.isSome = true)
  exact ⟨row, after, row', after', hrun, hrun',
    ((backtest_reads_past_only .counting .counting .plain .plain .insertion
      .insertion fundRuns fundRunsLater "hh_1" 739100 739410 (some "snap")
      none {} row after hrun ⟨rfl, rfl, rfl, rfl⟩).2 row' after' hrun').1⟩

end Warehouse
