/-
The household summary against the per-lot view.

The summary subtracts two totals, of the market values there are and of
every lot's cost. Each row's gain is its own difference, where it has a
mark (`gainOfMark_lotPositionView`), so the summary falls short of the
rows by the cost of the lots without one (`pnlTotals_gap`): it charges
them as if they were worth nothing.
-/
import Warehouse.Data.Views
import Mathlib.Algebra.BigOperators.Group.List.Basic

namespace Warehouse

/-- The gains the rows report; a row without a mark reports none. -/
def reportedGains (positions : List LotPositionView) : ℚ :=
  (positions.filterMap (·.unrealizedGain)).sum

/-- What a household's lots without a mark cost. -/
def unmarkedLotCost (scan : List Lot → List Lot) (store : Store)
    (householdId : String) : ℚ :=
  (((joinedLots scan store (some householdId)).filter fun row =>
    (latestMark store none row.lot.securityId).isNone).map fun row =>
      row.lot.quantity * row.lot.costBasisPerShare).sum

-- ================================================================ the rows

/-- A row's gain is its market value less its cost, where it has one. -/
def GainOfMark (pos : LotPositionView) : Prop :=
  pos.unrealizedGain = pos.marketValue.map fun value =>
    value - pos.totalCostBasis

theorem gainOfMark_lotPositionView (markPrice : Option ℚ) (row : JoinedLot) :
    GainOfMark (lotPositionView markPrice row) := rfl

theorem gainOfMark_listLotPositions (scan : List Lot → List Lot)
    (store : Store) (householdId : Option String) (asOf : Option Date) :
    ∀ pos ∈ listLotPositions scan store householdId asOf, GainOfMark pos := by
  intro pos hpos
  obtain ⟨row, -, rfl⟩ := List.mem_map.mp hpos
  exact gainOfMark_lotPositionView _ row

/-- The cost of the rows without a mark is that of the lots without one. -/
theorem sum_unmarked_listLotPositions (scan : List Lot → List Lot)
    (store : Store) (householdId : String) :
    (((listLotPositions scan store (some householdId)).filter
        (·.marketValue.isNone)).map (·.totalCostBasis)).sum
      = unmarkedLotCost scan store householdId := by
  have hnone : ((·.marketValue.isNone) ∘ fun row : JoinedLot =>
        lotPositionView (latestMark store none row.lot.securityId) row)
      = fun row => (latestMark store none row.lot.securityId).isNone :=
    funext fun row => Option.isNone_map
  unfold listLotPositions unmarkedLotCost
  rw [List.filter_map, List.map_map, hnone]
  rfl

-- ================================================================ the totals

/-- The summary's totals, from any totals on. -/
theorem foldl_pnlTotals (positions : List LotPositionView) (totals : ℚ × ℚ) :
    positions.foldl pnlTotals totals
      = (totals.1 + (positions.map fun p => p.marketValue.getD 0).sum,
        totals.2 + (positions.map (·.totalCostBasis)).sum) := by
  induction positions generalizing totals with
  | nil => simp
  | cons pos rest ih =>
      rw [List.foldl_cons, ih, List.map_cons, List.sum_cons, List.map_cons,
        List.sum_cons]
      unfold pnlTotals
      cases pos.marketValue with
      | none =>
          show (totals.1 + _, totals.2 + pos.totalCostBasis + _) = _
          rw [Option.getD_none, zero_add, add_assoc]
      | some value =>
          show (totals.1 + value + _, totals.2 + pos.totalCostBasis + _) = _
          rw [Option.getD_some, add_assoc, add_assoc]

/-- The two totals differ by the reported gains, less the cost of what has
no mark. -/
theorem pnlTotals_gap {positions : List LotPositionView}
    (h : ∀ pos ∈ positions, GainOfMark pos) :
    (positions.map fun p => p.marketValue.getD 0).sum
        - (positions.map (·.totalCostBasis)).sum
      = reportedGains positions
        - ((positions.filter (·.marketValue.isNone)).map
            (·.totalCostBasis)).sum := by
  unfold reportedGains
  induction positions with
  | nil => rfl
  | cons pos rest ih =>
      rw [List.forall_mem_cons] at h
      have hrest := ih h.2
      have hgain : pos.unrealizedGain = _ := h.1
      rw [List.map_cons, List.sum_cons, List.map_cons, List.sum_cons]
      cases hvalue : pos.marketValue with
      | none =>
          rw [hvalue, Option.map_none] at hgain
          rw [List.filterMap_cons_none hgain,
            List.filter_cons_of_pos (by simp [hvalue]), List.map_cons,
            List.sum_cons, Option.getD_none]
          linarith
      | some value =>
          rw [hvalue, Option.map_some] at hgain
          rw [List.filterMap_cons_some hgain,
            List.filter_cons_of_neg (by simp [hvalue]), List.sum_cons,
            Option.getD_some]
          linarith

/-- The summary's gain is that of the positions less what the unmarked ones
cost. -/
theorem unrealizedGain_summary (scan : List Lot → List Lot) (store : Store)
    (householdId : String) :
    (householdPnlSummary scan store householdId).unrealizedGain
      = reportedGains (listLotPositions scan store (some householdId))
        - unmarkedLotCost scan store householdId := by
  have hfold := foldl_pnlTotals
    (listLotPositions scan store (some householdId)) (0, 0)
  have hgap := pnlTotals_gap
    (gainOfMark_listLotPositions scan store (some householdId) none)
  rw [sum_unmarked_listLotPositions] at hgap
  rw [zero_add, zero_add] at hfold
  unfold householdPnlSummary
  dsimp only
  rw [hfold, hgap]

/-- The summary agrees with the rows exactly where the lots without a mark
cost nothing together. -/
theorem pnl_summary_agrees_iff (scan : List Lot → List Lot) (store : Store)
    (householdId : String) :
    (householdPnlSummary scan store householdId).unrealizedGain
        = reportedGains (listLotPositions scan store (some householdId))
      ↔ unmarkedLotCost scan store householdId = 0 := by
  rw [unrealizedGain_summary, sub_eq_self]

/-- A marked lot that gained a hundred beside one that cost a thousand and
has no mark. -/
def halfMarked : Store where
  entities := [{ entityId := "acct_a", name := "Brokerage", householdId := some "hh_1" }]
  securities := [{ securityId := "sec_vti" }, { securityId := "sec_new" }]
  lots :=
    [{ lotId := "lot_1"
       accountId := "acct_a"
       securityId := "sec_vti"
       quantity := 10
       costBasisPerShare := 200
       acquisitionDate := 738000 },
     { lotId := "lot_2"
       accountId := "acct_a"
       securityId := "sec_new"
       quantity := 20
       costBasisPerShare := 50
       acquisitionDate := 739000 }]
  marketPrices :=
    [{ securityId := "sec_vti", asOfDate := 739700, price := 210 }]

theorem halfMarked_summary_differs :
    (householdPnlSummary id halfMarked "hh_1").unrealizedGain
      ≠ reportedGains (listLotPositions id halfMarked (some "hh_1")) := by
  decide +kernel

end Warehouse
