/-
Walk-forward noninterference of the performance report.

The report reads each security's latest mark overall, so a mark dated
after `asOf` can reach it. When it does is decided by the lots alone: the
aggregation stops at the first lot acquired after `asOf`, so what it has
read by then (`reached`) must be marked by `asOf` already, and if it
stops at none the later marks show in the total of every security whose
lots do not net to zero.

# Quantifying over the future

The statement compares two stores that agree up to the day, so one direction
of the equivalence builds one: the marks after the day are replaced by one
chosen mark a security (`withLater`), with which the report would differ. A
security whose lots cancel is worth nothing at any price and shows no
difference; that is why the condition speaks of net quantities.

# Errors

A report that raises is an answer too: a lot acquired after the day ends the
aggregation with its own error in both stores, provided that every lot read
before it was marked in both.
-/
import Mathlib.Algebra.BigOperators.Ring.List
import Mathlib.Algebra.Order.BigOperators.Group.List
import Mathlib.Data.List.Dedup
import Warehouse.Lib.Dict
import Warehouse.Reporting.Performance

namespace Warehouse

open Lib

variable {scan : List Lot → List Lot} {settings : Settings}
  {store store' : Store} {householdId : String} {asOf : Date}

-- ============================================================== agreement

/-- `market_prices` is keyed by security and date. -/
def MarksKeyed (store : Store) : Prop :=
  (store.marketPrices.map fun row => (row.securityId, row.asOfDate)).Nodup

/-- The two stores differ in market marks and realized gains dated after
`asOf` only. -/
structure AgreeThrough (asOf : Date) (store store' : Store) : Prop where
  marks : ∀ row, row.asOfDate ≤ asOf →
    (row ∈ store.marketPrices ↔ row ∈ store'.marketPrices)
  gains : store.realizedGainEvents.filter (·.eventDate ≤ asOf)
    = store'.realizedGainEvents.filter (·.eventDate ≤ asOf)
  rest : { store with marketPrices := [], realizedGainEvents := [] }
    = { store' with marketPrices := [], realizedGainEvents := [] }

/-- No store that agrees through `asOf` gives another report, or another
error. -/
def WalkForward (scan : List Lot → List Lot) (settings : Settings)
    (store : Store) (householdId : String) (asOf : Date) : Prop :=
  ∀ store', MarksKeyed store' → AgreeThrough asOf store store' →
    buildHouseholdPerformanceReport scan settings store' householdId asOf
      = buildHouseholdPerformanceReport scan settings store householdId asOf

/-- The lots the aggregation reads before the first one acquired after
`asOf`. -/
def reached (asOf : Date) (rows : List JoinedLot) : List JoinedLot :=
  rows.takeWhile fun row => row.lot.acquisitionDate ≤ asOf

/-- The security has a mark dated on or before `asOf`. -/
def MarkedBy (store : Store) (asOf : Date) (securityId : String) : Prop :=
  ∃ row ∈ store.marketPrices, row.securityId = securityId
    ∧ row.asOfDate ≤ asOf

/-- What the lots of a security add up to. -/
def netQuantity (rows : List JoinedLot) (securityId : String) : ℚ :=
  ((rows.filter (·.lot.securityId = securityId)).map (·.lot.quantity)).sum

-- ============================================================ the last mark

/-- A security's marks, of whatever date. -/
def marksOf (store : Store) (securityId : String) : List MarketPriceRow :=
  store.marketPrices.filter (·.securityId = securityId)

theorem mem_marksOf {row : MarketPriceRow} {securityId : String} :
    row ∈ marksOf store securityId
      ↔ row ∈ store.marketPrices ∧ row.securityId = securityId := by
  unfold marksOf
  rw [List.mem_filter, decide_eq_true_eq]

/-- Without a cut-off the mark is read off all of them. -/
theorem latestMark_none (store : Store) (securityId : String) :
    latestMark store none securityId
      = match ((marksOf store securityId).map (·.asOfDate)).max? with
        | none => none
        | some latest => ((marksOf store securityId).find?
            (·.asOfDate = latest)).map (·.price) := by
  have hall : store.marketPrices.filter (fun row =>
      row.securityId = securityId ∧ ∀ d ∈ none, row.asOfDate ≤ d)
        = marksOf store securityId := by
    simp [marksOf]
  unfold latestMark
  rewrite [hall]
  rfl

/-- A security has a mark when some row is its. -/
theorem latestMark_isSome (store : Store) (securityId : String) :
    (latestMark store none securityId).isSome
      ↔ ∃ row ∈ store.marketPrices, row.securityId = securityId := by
  rw [latestMark_none]
  cases hmax : ((marksOf store securityId).map (·.asOfDate)).max? with
  | none =>
    rw [List.max?_eq_none_iff, List.map_eq_nil_iff] at hmax
    constructor
    · intro hsome
      cases hsome
    · rintro ⟨row, hmem, hsec⟩
      have hrow := mem_marksOf.mpr ⟨hmem, hsec⟩
      rw [hmax] at hrow
      cases hrow
  | some latest =>
    obtain ⟨best, hbest, hdate⟩ := List.mem_map.mp (List.max?_mem hmax)
    constructor
    · intro _
      exact ⟨best, (mem_marksOf.mp hbest).1, (mem_marksOf.mp hbest).2⟩
    · intro _
      show (((marksOf store securityId).find? _).map _).isSome
      rw [Option.isSome_map, List.find?_isSome]
      exact ⟨best, hbest, decide_eq_true hdate⟩

/-- In a keyed table the row with the latest date is the mark. -/
theorem latestMark_eq (hkeyed : MarksKeyed store) {row : MarketPriceRow}
    (hmem : row ∈ store.marketPrices)
    (hlatest : ∀ other ∈ store.marketPrices,
      other.securityId = row.securityId → other.asOfDate ≤ row.asOfDate) :
    latestMark store none row.securityId = some row.price := by
  have hrow : row ∈ marksOf store row.securityId := mem_marksOf.mpr ⟨hmem, rfl⟩
  have hmax : ((marksOf store row.securityId).map (·.asOfDate)).max?
      = some row.asOfDate := by
    rw [List.max?_eq_some_iff]
    refine ⟨List.mem_map_of_mem hrow, ?_⟩
    intro date hdate
    obtain ⟨other, hother, rfl⟩ := List.mem_map.mp hdate
    exact hlatest other (mem_marksOf.mp hother).1 (mem_marksOf.mp hother).2
  rw [latestMark_none, hmax]
  dsimp only
  cases hfind : (marksOf store row.securityId).find?
      fun other => decide (other.asOfDate = row.asOfDate) with
  | none =>
    rw [List.find?_eq_none] at hfind
    exact absurd (decide_eq_true rfl) (hfind row hrow)
  | some found =>
    obtain ⟨hin, hsec⟩ := mem_marksOf.mp (List.mem_of_find?_eq_some hfind)
    have hdate : found.asOfDate = row.asOfDate := by
      simpa using List.find?_some hfind
    -- one row a key
    have hsame : found = row :=
      List.inj_on_of_nodup_map hkeyed hin hmem (Prod.ext hsec hdate)
    rw [hsame, Option.map_some]

-- ========================================================== the aggregation

/-- What a row's view says under a price for each security. -/
def viewsUnder (price : String → Option ℚ) (rows : List JoinedLot) :
    List LotPositionView :=
  rows.map fun row => lotPositionView (price row.lot.securityId) row

theorem viewsUnder_cons (price : String → Option ℚ) (row : JoinedLot)
    (rest : List JoinedLot) : viewsUnder price (row :: rest)
      = lotPositionView (price row.lot.securityId) row
        :: viewsUnder price rest := rfl

/-- The value and the cost of rows, each security at its price. -/
def totalsUnder (price : String → Option ℚ) (rows : List JoinedLot) : ℚ × ℚ :=
  ((rows.map fun row =>
      row.lot.quantity * (price row.lot.securityId).getD 0).sum,
   (rows.map fun row => row.lot.quantity * row.lot.costBasisPerShare).sum)

/-- The error of the first lot acquired after `asOf`. -/
def lotError (asOf : Date) (row : JoinedLot) : Exc :=
  .performanceError ("as_of " ++ isoformat asOf ++ " before lot "
    ++ row.lot.lotId ++ " acquisition " ++ isoformat row.lot.acquisitionDate)

/-- Is this the error of a missing mark? -/
def IsMissingMark : Exc → Prop
  | .performanceError msg => ∃ rest, msg = "missing market mark for " ++ rest
  | _ => False

/-- A lot bought too late is no missing mark. -/
theorem not_isMissingMark_lotError (asOf : Date) (row : JoinedLot) :
    ¬ IsMissingMark (lotError asOf row) := by
  rintro ⟨rest, hmsg⟩
  have hchars := congrArg String.toList hmsg
  simp [String.toList_append] at hchars

/-- The loop stops at the first lot bought too late. -/
theorem reached_cons (asOf : Date) (row : JoinedLot) (rest : List JoinedLot) :
    reached asOf (row :: rest)
      = if row.lot.acquisitionDate ≤ asOf then row :: reached asOf rest
        else [] := by
  unfold reached
  rw [List.takeWhile_cons]
  simp

/-- A row acquired and marked is added in. -/
theorem aggregatePosition_marked {price : String → Option ℚ}
    {row : JoinedLot} (hacq : row.lot.acquisitionDate ≤ asOf) {value : ℚ}
    (hprice : price row.lot.securityId = some value) (totals : ℚ × ℚ) :
    aggregatePosition asOf totals
        (lotPositionView (price row.lot.securityId) row)
      = .ok (totals.1 + row.lot.quantity * value,
          totals.2 + row.lot.quantity * row.lot.costBasisPerShare) := by
  have hnot : ¬ asOf < (lotPositionView (price row.lot.securityId)
      row).acquisitionDate := not_lt.mpr hacq
  unfold aggregatePosition
  rw [if_neg hnot, hprice]
  rfl

/-- A row acquired later stops the aggregation. -/
theorem aggregatePosition_later {price : Option ℚ} {row : JoinedLot}
    (hacq : ¬ row.lot.acquisitionDate ≤ asOf) (totals : ℚ × ℚ) :
    aggregatePosition asOf totals (lotPositionView price row)
      = .error (lotError asOf row) := by
  have hlater : asOf < (lotPositionView price row).acquisitionDate :=
    not_le.mp hacq
  unfold aggregatePosition
  rw [if_pos hlater]
  rfl

/-- A row acquired and not marked is reported missing. -/
theorem aggregatePosition_missing {row : JoinedLot}
    (hacq : row.lot.acquisitionDate ≤ asOf) (totals : ℚ × ℚ) :
    ∃ e, aggregatePosition asOf totals (lotPositionView none row) = .error e
      ∧ IsMissingMark e := by
  have hnot : ¬ asOf < (lotPositionView none row).acquisitionDate :=
    not_lt.mpr hacq
  unfold aggregatePosition
  rw [if_neg hnot]
  refine ⟨_, rfl, (if truthy row.security.ticker then
    row.security.ticker.getD "" else row.lot.securityId)
      ++ (" (lot " ++ (row.lot.lotId ++ ")")), ?_⟩
  simp only [String.append_assoc]
  rfl

variable {price : String → Option ℚ}

/-- Every lot reached and marked: the aggregation sums up. -/
theorem aggregate_whole (rows : List JoinedLot) : ∀ totals : ℚ × ℚ,
    reached asOf rows = rows →
    (∀ row ∈ rows, (price row.lot.securityId).isSome) →
    (viewsUnder price rows).foldlM (aggregatePosition asOf) totals
      = .ok (totals.1 + (totalsUnder price rows).1,
          totals.2 + (totalsUnder price rows).2) := by
  induction rows with
  | nil =>
      intro totals _ _
      simp only [viewsUnder, totalsUnder, List.map_nil, List.foldlM_nil,
        List.sum_nil, add_zero]
      rfl
  | cons row rest ih =>
      intro totals hwhole hmarked
      rw [reached_cons] at hwhole
      by_cases hacq : row.lot.acquisitionDate ≤ asOf
      · rw [if_pos hacq, List.cons.injEq] at hwhole
        obtain ⟨value, hvalue⟩ := Option.isSome_iff_exists.mp
          (hmarked row (List.mem_cons_self ..))
        have hrest := ih (totals.1 + row.lot.quantity * value,
          totals.2 + row.lot.quantity * row.lot.costBasisPerShare) hwhole.2
          fun r hr => hmarked r (List.mem_cons_of_mem _ hr)
        rw [viewsUnder_cons, List.foldlM_cons, aggregatePosition_marked hacq hvalue]
        refine hrest.trans ?_
        simp only [totalsUnder, List.map_cons, List.sum_cons, hvalue,
          Option.getD_some, add_assoc]
      · rw [if_neg hacq] at hwhole
        cases hwhole

/-- A lot acquired after `asOf`, and all before it marked: its error, at
any prices. -/
theorem aggregate_stops (rows : List JoinedLot)
    (hstops : reached asOf rows ≠ rows) :
    ∃ stop, ∀ price : String → Option ℚ,
      (∀ row ∈ reached asOf rows, (price row.lot.securityId).isSome) →
      ∀ totals, (viewsUnder price rows).foldlM (aggregatePosition asOf) totals
        = .error (lotError asOf stop) := by
  induction rows with
  | nil => exact absurd rfl hstops
  | cons row rest ih =>
      by_cases hacq : row.lot.acquisitionDate ≤ asOf
      · have hrest : reached asOf rest ≠ rest := by
          intro heq
          rw [reached_cons, if_pos hacq, heq] at hstops
          exact hstops rfl
        obtain ⟨stop, hstop⟩ := ih hrest
        refine ⟨stop, fun price hmarked totals => ?_⟩
        rw [reached_cons, if_pos hacq] at hmarked
        obtain ⟨value, hvalue⟩ := Option.isSome_iff_exists.mp
          (hmarked row (List.mem_cons_self ..))
        rw [viewsUnder_cons, List.foldlM_cons, aggregatePosition_marked hacq hvalue]
        exact hstop price (fun r hr => hmarked r (List.mem_cons_of_mem _ hr)) _
      · refine ⟨row, fun price _ totals => ?_⟩
        rw [viewsUnder_cons, List.foldlM_cons, aggregatePosition_later hacq]
        rfl

/-- A lot reached without a mark: reported missing. -/
theorem aggregate_missing (rows : List JoinedLot) : ∀ totals : ℚ × ℚ,
    (∃ row ∈ reached asOf rows, price row.lot.securityId = none) →
    ∃ e, (viewsUnder price rows).foldlM (aggregatePosition asOf) totals
        = .error e
      ∧ IsMissingMark e := by
  induction rows with
  | nil =>
      rintro totals ⟨row, hrow, -⟩
      cases hrow
  | cons row rest ih =>
      rintro totals ⟨bare, hbare, hnone⟩
      rw [reached_cons] at hbare
      rw [viewsUnder_cons, List.foldlM_cons]
      by_cases hacq : row.lot.acquisitionDate ≤ asOf
      · rw [if_pos hacq] at hbare
        cases hprice : price row.lot.securityId with
        | none =>
          obtain ⟨e, he, hmissing⟩ := aggregatePosition_missing hacq totals
          exact ⟨e, by rw [he]; rfl, hmissing⟩
        | some value =>
          have hrest : bare ∈ reached asOf rest := by
            rcases List.mem_cons.mp hbare with rfl | hrest
            · rw [hnone] at hprice
              cases hprice
            · exact hrest
          have hstep := aggregatePosition_marked hacq hprice totals
          rw [hprice] at hstep
          rw [hstep]
          exact ih _ ⟨bare, hrest, hnone⟩
      · rw [if_neg hacq] at hbare
        cases hbare

-- =============================================================== the report

/-- What is left to do once the positions are aggregated. -/
def finishReport (settings : Settings) (householdId : String) (asOf : Date)
    (realizedYtd : ℚ) (outcome : Except Exc (ℚ × ℚ)) :
    Except Exc HouseholdPerformanceReport := do
  let (totalMv, totalCost) ← outcome
  let afterTaxYtd ←
    if totalCost > 0 then
      (computeAfterTaxReturnYtd totalMv totalCost realizedYtd
        settings.fedLtcgRate).map some
    else .ok none
  return {
    householdId := householdId
    asOfDate := isoformat asOf
    totalMarketValue := totalMv
    unrealizedGain := totalMv - totalCost
    realizedGainYtd := realizedYtd
    afterTaxReturnYtd := afterTaxYtd }

/-- The report is a function of the joined rows and their marks. -/
theorem build_eq (scan : List Lot → List Lot) (settings : Settings)
    (store : Store) (householdId : String) (asOf : Date) :
    buildHouseholdPerformanceReport scan settings store householdId asOf
      = finishReport settings householdId asOf
          (realizedGainYtd (fetchRealizedEvents store householdId asOf) asOf)
          ((viewsUnder (latestMark store none)
            (joinedLots scan store (some householdId))).foldlM
              (aggregatePosition asOf) (0, 0)) := rfl

/-- The report's value is the aggregate's. -/
theorem finishReport_ok (settings : Settings) (householdId : String)
    (asOf : Date) (realizedYtd : ℚ) (totals : ℚ × ℚ) :
    ∃ report, finishReport settings householdId asOf realizedYtd (.ok totals)
        = .ok report
      ∧ report.totalMarketValue = totals.1 := by
  unfold finishReport
  simp only [bind, Except.bind]
  by_cases hcost : totals.2 > 0
  · unfold computeAfterTaxReturnYtd
    rw [if_pos hcost, if_neg (not_le.mpr hcost)]
    exact ⟨_, rfl, rfl⟩
  · rw [if_neg hcost]
    exact ⟨_, rfl, rfl⟩

/-- Stores that agree through `asOf` hold the same lots. -/
theorem AgreeThrough.joinedLots_eq (h : AgreeThrough asOf store store')
    (scan : List Lot → List Lot) (household : Option String) :
    joinedLots scan store' household = joinedLots scan store household := by
  have hrest := h.rest
  rw [Store.mk.injEq] at hrest
  obtain ⟨hentities, -, hsecurities, hlots, -⟩ := hrest
  have hjoin : joinLot store' = joinLot store := by
    funext lot
    unfold joinLot
    rw [hsecurities, hentities]
  unfold joinedLots
  rw [hjoin, hlots]

/-- They realized the same by then. -/
theorem AgreeThrough.realized_eq (h : AgreeThrough asOf store store')
    (householdId : String) :
    fetchRealizedEvents store' householdId asOf
      = fetchRealizedEvents store householdId asOf := by
  have hsplit : ∀ events : List RealizedGainEventRow,
      (events.filter fun row =>
        row.householdId = householdId ∧ row.eventDate ≤ asOf)
      = (events.filter (·.eventDate ≤ asOf)).filter
          (·.householdId = householdId) := by
    intro events
    rw [List.filter_filter]
    refine List.filter_congr fun row _ => ?_
    rw [Bool.decide_and]
  unfold fetchRealizedEvents
  rw [hsplit, hsplit, h.gains]

/-- A security marked by the day is marked in either store. -/
theorem AgreeThrough.marked (h : AgreeThrough asOf store store')
    {securityId : String} (hmarked : MarkedBy store asOf securityId) :
    (latestMark store' none securityId).isSome := by
  obtain ⟨row, hrow, hsec, hdate⟩ := hmarked
  rw [latestMark_isSome]
  exact ⟨row, (h.marks row hdate).mp hrow, hsec⟩

theorem AgreeThrough.refl (asOf : Date) (store : Store) :
    AgreeThrough asOf store store :=
  ⟨fun _ _ => Iff.rfl, rfl, rfl⟩

-- ================================================================ the total

/-- Lots that net to zero in every security are worth nothing at any
prices. -/
theorem totalsUnder_netted {rows : List JoinedLot}
    (hnet : ∀ securityId, netQuantity rows securityId = 0) :
    (totalsUnder price rows).1 = 0 := by
  have htally := Dict.sum_values_tally (fun row : JoinedLot =>
    row.lot.securityId) (fun row => row.lot.quantity
      * (price row.lot.securityId).getD 0) rows
  rw [totalsUnder, ← htally, Dict.values_eq]
  apply List.sum_eq_zero
  intro value hvalue
  obtain ⟨securityId, -, rfl⟩ := List.mem_map.mp hvalue
  rw [Dict.getD_tally]
  have hsame : ((rows.filter fun row => row.lot.securityId = securityId).map
      fun row => row.lot.quantity * (price row.lot.securityId).getD 0)
      = (rows.filter fun row => row.lot.securityId = securityId).map
        fun row => row.lot.quantity * (price securityId).getD 0 := by
    refine List.map_congr_left fun row hrow => ?_
    rw [of_decide_eq_true (List.mem_filter.mp hrow).2]
  rw [hsame, List.sum_map_mul_right]
  show netQuantity rows securityId * _ = 0
  rw [hnet, zero_mul]

/-- One security's price moves the total by its net quantity. -/
theorem totalsUnder_repriced {price' : String → Option ℚ}
    {securityId : String} (rows : List JoinedLot)
    (hother : ∀ s, s ≠ securityId → price' s = price s) :
    (totalsUnder price' rows).1 - (totalsUnder price rows).1
      = netQuantity rows securityId
        * ((price' securityId).getD 0 - (price securityId).getD 0) := by
  unfold totalsUnder netQuantity
  induction rows with
  | nil => simp
  | cons row rest ih =>
      by_cases hsec : row.lot.securityId = securityId
      · simp only [List.map_cons, List.sum_cons, List.filter_cons, hsec,
          decide_true, if_true]
        linarith
      · simp only [List.map_cons, List.sum_cons, List.filter_cons, hsec,
          decide_false, hother _ hsec, Bool.false_eq_true, if_false]
        linarith

-- ========================================================== later marks

/-- The store with the marks after `asOf` replaced by one for each of
`securities`, the day after. -/
def Store.withLater (store : Store) (asOf : Date) (securities : List String)
    (later : String → ℚ) : Store :=
  { store with
    marketPrices := store.marketPrices.filter (·.asOfDate ≤ asOf)
      ++ securities.map fun securityId =>
        { securityId := securityId, asOfDate := asOf + 1,
          price := later securityId } }

variable {securities : List String} {later : String → ℚ}

theorem mem_withLater {row : MarketPriceRow} :
    row ∈ (store.withLater asOf securities later).marketPrices
      ↔ row ∈ store.marketPrices ∧ row.asOfDate ≤ asOf
        ∨ ∃ securityId ∈ securities,
          { securityId := securityId, asOfDate := asOf + 1,
            price := later securityId } = row := by
  simp only [Store.withLater, List.mem_append, List.mem_filter,
    decide_eq_true_eq, List.mem_map]

/-- Changed later marks leave the past. -/
theorem agree_withLater (asOf : Date) (store : Store)
    (securities : List String) (later : String → ℚ) :
    AgreeThrough asOf store (store.withLater asOf securities later) where
  marks := by
    intro row hdate
    rw [mem_withLater]
    constructor
    · intro hrow
      exact Or.inl ⟨hrow, hdate⟩
    · rintro (⟨hrow, -⟩ | ⟨securityId, -, rfl⟩)
      · exact hrow
      · exact absurd (Int.lt_add_one_of_le (le_refl asOf)) (not_lt.mpr hdate)
  gains := rfl
  rest := rfl

theorem marksKeyed_withLater (hkeyed : MarksKeyed store)
    (hnodup : securities.Nodup) :
    MarksKeyed (store.withLater asOf securities later) := by
  unfold MarksKeyed Store.withLater
  rw [List.map_append, List.map_map]
  apply List.Nodup.append
  · exact hkeyed.sublist (List.filter_sublist.map _)
  · exact hnodup.map fun s s' heq => (Prod.mk.inj heq).1
  · -- the old keys are dated by `asOf`, the new ones the day after
    intro key hold hnew
    obtain ⟨row, hrow, rfl⟩ := List.mem_map.mp hold
    obtain ⟨securityId, -, heq⟩ := List.mem_map.mp hnew
    have hdate : asOf + 1 = row.asOfDate := (Prod.mk.inj heq).2
    have hle : row.asOfDate ≤ asOf :=
      of_decide_eq_true (List.mem_filter.mp hrow).2
    exact absurd (hdate ▸ hle) (not_le.mpr (Int.lt_succ asOf))

/-- The later mark is the one read. -/
theorem latestMark_withLater (hkeyed : MarksKeyed store)
    (hnodup : securities.Nodup) {securityId : String}
    (hsec : securityId ∈ securities) :
    latestMark (store.withLater asOf securities later) none securityId
      = some (later securityId) := by
  refine latestMark_eq (marksKeyed_withLater hkeyed hnodup)
    (mem_withLater.mpr (Or.inr ⟨securityId, hsec, rfl⟩)) ?_
  intro other hother _
  rcases mem_withLater.mp hother with ⟨-, hdate⟩ | ⟨_, -, rfl⟩
  · exact le_trans hdate (Int.le_of_lt (Int.lt_succ asOf))
  · exact le_refl _

/-- Without later marks an unmarked security has none. -/
theorem latestMark_withLater_nil {securityId : String}
    (hunmarked : ¬ MarkedBy store asOf securityId) :
    latestMark (store.withLater asOf [] later) none securityId = none := by
  rw [← Option.not_isSome_iff_eq_none, latestMark_isSome]
  rintro ⟨row, hrow, hsec⟩
  rcases mem_withLater.mp hrow with ⟨hmem, hdate⟩ | ⟨_, hnil, -⟩
  · exact hunmarked ⟨row, hmem, hsec, hdate⟩
  · cases hnil

-- ============================================================ interference

/-- A report no later mark reaches can be read off any later marks. -/
theorem walkForward_later (hkeyed : MarksKeyed store)
    (hforward : WalkForward scan settings store householdId asOf)
    (later : String → ℚ) :
    buildHouseholdPerformanceReport scan settings store householdId asOf
      = finishReport settings householdId asOf
          (realizedGainYtd (fetchRealizedEvents store householdId asOf) asOf)
          ((viewsUnder (fun s => some (later s))
            (joinedLots scan store (some householdId))).foldlM
              (aggregatePosition asOf) (0, 0)) := by
  let held := ((joinedLots scan store (some householdId)).map
    (·.lot.securityId)).dedup
  have hagree := agree_withLater asOf store held later
  rw [← hforward _ (marksKeyed_withLater hkeyed (List.nodup_dedup _)) hagree,
    build_eq, hagree.joinedLots_eq, hagree.realized_eq]
  congr 2
  refine List.map_congr_left fun row hrow => ?_
  have hheld : row.lot.securityId ∈ held :=
    List.mem_dedup.mpr (List.mem_map_of_mem hrow)
  rw [latestMark_withLater hkeyed (List.nodup_dedup _) hheld]

/-- A lot reached and not marked by `asOf`: later marks decide whether its
mark is missing. -/
theorem walkForward_marked (hkeyed : MarksKeyed store)
    (hforward : WalkForward scan settings store householdId asOf) :
    ∀ row ∈ reached asOf (joinedLots scan store (some householdId)),
      MarkedBy store asOf row.lot.securityId := by
  intro row hrow
  by_contra hunmarked
  have hbare := agree_withLater asOf store [] fun _ => 0
  have hmissing := hforward _ (marksKeyed_withLater hkeyed List.nodup_nil) hbare
  rw [build_eq, hbare.joinedLots_eq] at hmissing
  have hnone : latestMark (store.withLater asOf [] fun _ => 0) none
      row.lot.securityId = none := latestMark_withLater_nil hunmarked
  obtain ⟨e, he, hisMissing⟩ := aggregate_missing
    (joinedLots scan store (some householdId)) (0, 0) ⟨row, hrow, hnone⟩
  rw [he] at hmissing
  have hcovered := walkForward_later hkeyed hforward fun _ => 0
  rw [← hmissing] at hcovered
  by_cases hwhole : reached asOf (joinedLots scan store (some householdId))
      = joinedLots scan store (some householdId)
  · rw [aggregate_whole _ _ hwhole fun _ _ => rfl] at hcovered
    obtain ⟨report, hreport, -⟩ := finishReport_ok settings householdId asOf
      (realizedGainYtd (fetchRealizedEvents store householdId asOf) asOf) _
    rw [hreport] at hcovered
    cases hcovered
  · obtain ⟨stop, hstop⟩ := aggregate_stops _ hwhole
    rw [hstop _ fun _ _ => rfl] at hcovered
    have heq : e = lotError asOf stop := Except.error.inj hcovered
    rw [heq] at hisMissing
    exact not_isMissingMark_lotError asOf stop hisMissing

/-- No lot stops the aggregation: a later mark shows in the total of every
security held on balance. -/
theorem walkForward_netted (hkeyed : MarksKeyed store)
    (hforward : WalkForward scan settings store householdId asOf)
    (hwhole : reached asOf (joinedLots scan store (some householdId))
      = joinedLots scan store (some householdId)) (securityId : String) :
    netQuantity (joinedLots scan store (some householdId)) securityId = 0 := by
  have htotal : ∀ later : String → ℚ, ∃ report,
      buildHouseholdPerformanceReport scan settings store householdId asOf
        = .ok report
      ∧ report.totalMarketValue = (totalsUnder (fun s => some (later s))
        (joinedLots scan store (some householdId))).1 := by
    intro later
    have hcovered := walkForward_later hkeyed hforward later
    rw [aggregate_whole _ _ hwhole fun _ _ => rfl] at hcovered
    obtain ⟨report, hreport, hvalue⟩ := finishReport_ok settings householdId
      asOf (realizedGainYtd (fetchRealizedEvents store householdId asOf) asOf)
      (0 + (totalsUnder (fun s => some (later s))
          (joinedLots scan store (some householdId))).1,
        0 + (totalsUnder (fun s => some (later s))
          (joinedLots scan store (some householdId))).2)
    refine ⟨report, hcovered.trans hreport, ?_⟩
    rw [hvalue, zero_add]
  obtain ⟨report, hreport, hvalue⟩ := htotal fun _ => 0
  obtain ⟨report', hreport', hvalue'⟩ :=
    htotal fun s => if s = securityId then 1 else 0
  have hsame : report = report' :=
    Except.ok.inj (hreport.symm.trans hreport')
  have hother : ∀ s, s ≠ securityId →
      (fun s => some (if s = securityId then (1 : ℚ) else 0)) s
        = (fun _ => some 0) s := fun s hs => by simp only [if_neg hs]
  have hmoved := totalsUnder_repriced
    (joinedLots scan store (some householdId)) hother
  rw [← hvalue, ← hvalue', hsame, sub_self] at hmoved
  simpa using hmoved.symm

/-- No later mark reaches the report exactly when every lot read is marked
by `asOf` and, unless a later lot stops the aggregation, no security is
held on balance. -/
theorem walk_forward_iff (scan : List Lot → List Lot) (settings : Settings)
    (store : Store) (householdId : String) (asOf : Date)
    (hkeyed : MarksKeyed store) :
    WalkForward scan settings store householdId asOf
      ↔ (∀ row ∈ reached asOf (joinedLots scan store (some householdId)),
          MarkedBy store asOf row.lot.securityId)
        ∧ (reached asOf (joinedLots scan store (some householdId))
            = joinedLots scan store (some householdId) →
          ∀ securityId, netQuantity
            (joinedLots scan store (some householdId)) securityId = 0) := by
  constructor
  · intro hforward
    exact ⟨walkForward_marked hkeyed hforward,
      fun hwhole => walkForward_netted hkeyed hforward hwhole⟩
  · rintro ⟨hmarked, hnetted⟩ store' _ hagree
    have hsome : ∀ row ∈ reached asOf (joinedLots scan store
        (some householdId)),
        (latestMark store none row.lot.securityId).isSome :=
      fun row hrow => (AgreeThrough.refl asOf store).marked (hmarked row hrow)
    have hsome' : ∀ row ∈ reached asOf (joinedLots scan store
        (some householdId)),
        (latestMark store' none row.lot.securityId).isSome :=
      fun row hrow => hagree.marked (hmarked row hrow)
    rw [build_eq, build_eq, hagree.joinedLots_eq, hagree.realized_eq]
    by_cases hwhole : reached asOf (joinedLots scan store (some householdId))
        = joinedLots scan store (some householdId)
    · rw [hwhole] at hsome hsome'
      rw [aggregate_whole _ _ hwhole hsome, aggregate_whole _ _ hwhole hsome',
        totalsUnder_netted (hnetted hwhole),
        totalsUnder_netted (hnetted hwhole)]
      rfl
    · obtain ⟨stop, hstop⟩ := aggregate_stops _ hwhole
      rw [hstop _ hsome, hstop _ hsome']

-- ============================================================ concrete books

/-- One household holding `lots` of the fund marked at 100 on day
739400. -/
def fundBook (lots : List Lot) : Store where
  entities := [
    { entityId := "acct_1", name := "Taxable", householdId := some "hh_1" }]
  securities := [{ securityId := "sec_vti", ticker := some "VTI" }]
  lots := lots
  marketPrices := [
    { securityId := "sec_vti", asOfDate := 739400, price := 100 }]

/-- Ten shares of the fund, bought on the day given. -/
def fundLot (acquisitionDate : Date) : Lot where
  lotId := "lot_1"
  accountId := "acct_1"
  securityId := "sec_vti"
  quantity := 10
  costBasisPerShare := 80
  acquisitionDate := acquisitionDate

/-- A lot acquired after the date: its error, whatever is marked later. -/
theorem walk_forward_iff_lateLot :
    MarksKeyed (fundBook [fundLot 739450])
      ∧ WalkForward id {} (fundBook [fundLot 739450]) "hh_1" 739430 := by
  have hkeyed : MarksKeyed (fundBook [fundLot 739450]) := by
    unfold MarksKeyed
    decide
  refine ⟨hkeyed, (walk_forward_iff id {} _ "hh_1" 739430 hkeyed).mpr
    ⟨?_, ?_⟩⟩
  · intro row hrow
    have hnone : reached 739430 (joinedLots id (fundBook [fundLot 739450])
        (some "hh_1")) = [] := rfl
    rw [hnone] at hrow
    cases hrow
  · intro hwhole
    exact absurd (congrArg List.length hwhole) (by decide)

/-- Ten shares marked at 100, and at 150 ten days after the report's
date: 1000 without the later mark, 1500 with it. -/
theorem fundBook_report_leaks :
    let before := fundBook [fundLot 739000]
    let after := before.withLater 739430 ["sec_vti"] fun _ => 150
    AgreeThrough 739430 before after ∧ MarksKeyed before ∧ MarksKeyed after
      ∧ (buildHouseholdPerformanceReport id {} before "hh_1"
          739430).toOption.map (·.totalMarketValue) = some 1000
      ∧ (buildHouseholdPerformanceReport id {} after "hh_1"
          739430).toOption.map (·.totalMarketValue) = some 1500 := by
  have hkeyed : MarksKeyed (fundBook [fundLot 739000]) := by
    unfold MarksKeyed
    decide
  refine ⟨agree_withLater .., hkeyed,
    marksKeyed_withLater hkeyed (List.nodup_singleton _), ?_, ?_⟩
  · decide +kernel
  · decide +kernel

end Warehouse
