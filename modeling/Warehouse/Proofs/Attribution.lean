/-
Attribution adds up.

A row is its lot's decomposition rounded in three places
(`attributeOne_rounded`); what the roundings lose together is at most one
quantum (`abs_quantize_sub_add_le`). The portfolio figure is a mean of the
rows' active returns under the rows' shares of market value, so it stays
between any two bounds of theirs (`weightedMean_le`, `le_weightedMean`);
the bounds taken are rows' own figures, which rounding the mean keeps in
place (`quantize_quantize`).

# Rounded parts

Each return is rounded by itself to six places, so the parts of a row add up
to its total within a millionth and not exactly. The portfolio figure is the
mean of the rounded rows, weighted by market value and rounded once more;
rounding is monotone, so it stays between the least and the greatest of
them, which are rounded already.
-/
import Warehouse.Decision.Attribution
import Warehouse.Decision.Ips
import Warehouse.Lib.Sorting
import Mathlib.Algebra.BigOperators.Ring.List
import Mathlib.Algebra.Order.BigOperators.Group.List
import Mathlib.Data.Finset.Max
import Mathlib.Data.Rat.Sqrt

namespace Warehouse

variable {ctx : DecimalContext} {expected : RiskClass → Option ℚ} {asOf : Date}
  {minHoldingYears : ℚ}

-- ================================================================ one row

/-- A row as its lot's decomposition: its figures rounded, its market value
the lot's. -/
structure Decomposes (pos : LotPositionView) (row : PositionAttribution) :
    Prop where
  lotId : row.lotId = pos.lotId
  marketValue : pos.marketValue = some row.marketValue
  rounded : ∃ total cumulative : ℚ,
    row.totalReturn = quantize returnPlaces total
      ∧ row.expectedCumulative = quantize returnPlaces cumulative
      ∧ row.activeReturn = quantize returnPlaces (total - cumulative)

/-- A row decomposes its position's return, each part rounded by itself. -/
theorem attributeOne_rounded {pos : LotPositionView}
    {row : PositionAttribution}
    (h : attributeOne ctx expected asOf minHoldingYears pos = .ok row) :
    Decomposes pos row := by
  unfold attributeOne at h
  split at h
  · cases h
  · split at h
    · next marketValue gain hvalue hgain =>
      split at h
      · cases h
      · dsimp only at h
        split at h
        · cases h
        · next classExpected hexpected =>
          obtain rfl := Except.ok.inj h
          exact ⟨rfl, hvalue, gain / pos.totalCostBasis,
            ctx.pow (1 + classExpected)
              ((max (asOf - pos.acquisitionDate) 0 : Int) / daysPerYear) - 1,
            rfl, rfl, rfl⟩
    · cases h

/-- So the parts miss the total by a millionth at most. -/
theorem Decomposes.abs_total_sub_le {pos : LotPositionView}
    {row : PositionAttribution} (h : Decomposes pos row) :
    |row.totalReturn - (row.expectedCumulative + row.activeReturn)|
      ≤ 1 / 10 ^ 6 := by
  obtain ⟨total, cumulative, htotal, hcumulative, hactive⟩ := h.rounded
  rw [htotal, hcumulative, hactive]
  exact abs_quantize_sub_add_le returnPlaces total cumulative

/-- A row's active return is on the grid of the portfolio figure. -/
theorem Decomposes.quantize_active {pos : LotPositionView}
    {row : PositionAttribution} (h : Decomposes pos row) :
    quantize returnPlaces row.activeReturn = row.activeReturn := by
  obtain ⟨total, cumulative, -, -, hactive⟩ := h.rounded
  rw [hactive, quantize_quantize]

-- ============================================================ the weighted mean

section Mean

variable {α : Type} {rows : List α} {w x : α → ℚ}

theorem sum_shares (hpos : 0 < (rows.map w).sum) :
    (rows.map fun r => w r / (rows.map w).sum).sum = 1 := by
  have hdiv : (rows.map fun r => w r / (rows.map w).sum)
      = rows.map fun r => w r * (rows.map w).sum⁻¹ :=
    List.map_congr_left fun r _ => div_eq_mul_inv _ _
  rw [hdiv, List.sum_map_mul_right]
  exact mul_inv_cancel₀ hpos.ne'

theorem weightedMean_const (hpos : 0 < (rows.map w).sum) (c : ℚ) :
    (rows.map fun r => w r / (rows.map w).sum * c).sum = c := by
  rw [List.sum_map_mul_right, sum_shares hpos, one_mul]

/-- A mean under shares that are not negative keeps the order, -/
theorem weightedMean_mono {y : α → ℚ} (hw : ∀ r ∈ rows, 0 ≤ w r)
    (hpos : 0 < (rows.map w).sum) (hxy : ∀ r ∈ rows, x r ≤ y r) :
    (rows.map fun r => w r / (rows.map w).sum * x r).sum
      ≤ (rows.map fun r => w r / (rows.map w).sum * y r).sum := by
  refine List.sum_le_sum fun r hr => ?_
  exact mul_le_mul_of_nonneg_left (hxy r hr) (div_nonneg (hw r hr) hpos.le)

/-- so it is at most any bound, -/
theorem weightedMean_le {hi : ℚ} (hw : ∀ r ∈ rows, 0 ≤ w r)
    (hpos : 0 < (rows.map w).sum) (hx : ∀ r ∈ rows, x r ≤ hi) :
    (rows.map fun r => w r / (rows.map w).sum * x r).sum ≤ hi := by
  calc (rows.map fun r => w r / (rows.map w).sum * x r).sum
      ≤ (rows.map fun r => w r / (rows.map w).sum * hi).sum :=
        weightedMean_mono hw hpos hx
    _ = hi := weightedMean_const hpos hi

/-- and at least any. -/
theorem le_weightedMean {lo : ℚ} (hw : ∀ r ∈ rows, 0 ≤ w r)
    (hpos : 0 < (rows.map w).sum) (hx : ∀ r ∈ rows, lo ≤ x r) :
    lo ≤ (rows.map fun r => w r / (rows.map w).sum * x r).sum := by
  calc lo = (rows.map fun r => w r / (rows.map w).sum * lo).sum :=
        (weightedMean_const hpos lo).symm
    _ ≤ (rows.map fun r => w r / (rows.map w).sum * x r).sum :=
        weightedMean_mono hw hpos hx

end Mean

/-- The portfolio figure between the least and the greatest of the rows'
active returns. -/
theorem mvWeightedActive_between {rows : List PositionAttribution}
    (hgrid : ∀ row ∈ rows,
      quantize returnPlaces row.activeReturn = row.activeReturn)
    (hw : ∀ row ∈ rows, 0 ≤ row.marketValue)
    (hpos : 0 < (rows.map (·.marketValue)).sum) :
    ∃ low ∈ rows, ∃ high ∈ rows,
      (∀ row ∈ rows, low.activeReturn ≤ row.activeReturn
        ∧ row.activeReturn ≤ high.activeReturn)
      ∧ low.activeReturn ≤ mvWeightedActive rows
      ∧ mvWeightedActive rows ≤ high.activeReturn := by
  have hne : rows.toFinset.Nonempty := by
    rw [List.toFinset_nonempty_iff]
    intro hnil
    subst hnil
    exact absurd hpos (lt_irrefl 0)
  obtain ⟨low, hlow, hleast⟩ :=
    rows.toFinset.exists_min_image (·.activeReturn) hne
  obtain ⟨high, hhigh, hgreatest⟩ :=
    rows.toFinset.exists_max_image (·.activeReturn) hne
  simp only [List.mem_toFinset] at hlow hleast hhigh hgreatest
  have hactive : mvWeightedActive rows = quantize returnPlaces
      (rows.map fun r => r.marketValue / (rows.map (·.marketValue)).sum
        * r.activeReturn).sum := if_neg (not_le.mpr hpos)
  refine ⟨low, hlow, high, hhigh,
    fun row hrow => ⟨hleast row hrow, hgreatest row hrow⟩, ?_, ?_⟩
  · rw [hactive, ← hgrid low hlow]
    exact quantize_mono returnPlaces (le_weightedMean hw hpos hleast)
  · rw [hactive, ← hgrid high hhigh]
    exact quantize_mono returnPlaces (weightedMean_le hw hpos hgreatest)

-- ============================================================== the report

/-- What a report is made of: its rows are the lots' own, sorted, and the
portfolio figure is theirs. -/
theorem evaluateAttribution_rows {positions : List LotPositionView}
    {householdId configVersion : String} {report : AttributionReport}
    (h : evaluateAttribution ctx positions expected householdId asOf
      configVersion minHoldingYears = .ok report) :
    ∃ rows, List.Forall₂ (fun pos row =>
        attributeOne ctx expected asOf minHoldingYears pos = .ok row)
        positions rows
      ∧ report.positions = sortedByActive rows
      ∧ report.portfolioActiveReturn = mvWeightedActive report.positions := by
  unfold evaluateAttribution at h
  obtain ⟨rows, hrows, hreport⟩ := bind_ok_iff.mp h
  obtain rfl := Except.ok.inj hreport
  exact ⟨rows, mapM_eq_ok_iff.mp hrows, rfl, rfl⟩

theorem pairwise_sortedByActive (rows : List PositionAttribution) :
    (sortedByActive rows).Pairwise fun r s =>
      |s.activeReturn| ≤ |r.activeReturn| := by
  have hsorted := Lib.pairwise_sortDescending
    (fun r : PositionAttribution => |r.activeReturn|) rows
  unfold sortedByActive
  exact hsorted

/-- Rows market values add up to the book's. -/
theorem sum_marketValue_rows {positions : List LotPositionView}
    {rows : List PositionAttribution}
    (h : List.Forall₂ Decomposes positions rows) :
    (rows.map (·.marketValue)).sum = totalMarketValue positions := by
  unfold totalMarketValue
  induction h with
  | nil => rfl
  | cons hrow _ ih =>
      rw [List.map_cons, List.sum_cons, List.map_cons, List.sum_cons, ih,
        hrow.marketValue, Option.getD_some]

/-- A report's rows are its lots', largest active return first; each adds
up to a millionth; and the portfolio figure lies between the least and the
greatest of them. -/
theorem attribution_adds_up (ctx : DecimalContext)
    (expected : RiskClass → Option ℚ) (asOf : Date) (minHoldingYears : ℚ)
    (positions : List LotPositionView) (householdId configVersion : String)
    (report : AttributionReport)
    (h : evaluateAttribution ctx positions expected householdId asOf
      configVersion minHoldingYears = .ok report) :
    (∃ rows, List.Forall₂ (fun pos row =>
        attributeOne ctx expected asOf minHoldingYears pos = .ok row
          ∧ row.lotId = pos.lotId
          ∧ pos.marketValue = some row.marketValue) positions rows
      ∧ report.positions.Perm rows)
    ∧ report.positions.Pairwise (fun r s =>
        |s.activeReturn| ≤ |r.activeReturn|)
    ∧ (∀ row ∈ report.positions,
        |row.totalReturn - (row.expectedCumulative + row.activeReturn)|
          ≤ 1 / 10 ^ 6)
    ∧ ((∀ pos ∈ positions, ∀ value ∈ pos.marketValue, 0 ≤ value) →
      0 < totalMarketValue positions →
        ∃ low ∈ report.positions, ∃ high ∈ report.positions,
          (∀ row ∈ report.positions, low.activeReturn ≤ row.activeReturn
            ∧ row.activeReturn ≤ high.activeReturn)
          ∧ low.activeReturn ≤ report.portfolioActiveReturn
          ∧ report.portfolioActiveReturn ≤ high.activeReturn) := by
  obtain ⟨rows, hone, hsorted, hportfolio⟩ := evaluateAttribution_rows h
  have hall : List.Forall₂ Decomposes positions rows :=
    hone.imp fun _ _ hrow => attributeOne_rounded hrow
  have hperm : report.positions.Perm rows := by
    rw [hsorted]
    exact List.perm_insertionSort _ rows
  -- every row of the report is some lot's
  have hrow : ∀ row ∈ report.positions, ∃ pos ∈ positions,
      Decomposes pos row := by
    intro row hmem
    obtain ⟨i, hi, rfl⟩ := List.getElem_of_mem (hperm.mem_iff.mp hmem)
    have hlen : i < positions.length := hall.length_eq ▸ hi
    exact ⟨positions[i], List.getElem_mem hlen,
      (List.forall₂_iff_get.mp hall).2 i hlen hi⟩
  refine ⟨⟨rows, ?_, hperm⟩, ?_, ?_, ?_⟩
  · exact hone.imp fun _ _ hok => ⟨hok, (attributeOne_rounded hok).lotId,
      (attributeOne_rounded hok).marketValue⟩
  · rw [hsorted]
    exact pairwise_sortedByActive rows
  · intro row hmem
    obtain ⟨pos, -, hdecomposes⟩ := hrow row hmem
    exact hdecomposes.abs_total_sub_le
  · intro hvalues htotal
    rw [hportfolio]
    refine mvWeightedActive_between ?_ ?_ ?_
    · intro row hmem
      obtain ⟨pos, -, hdecomposes⟩ := hrow row hmem
      exact hdecomposes.quantize_active
    · intro row hmem
      obtain ⟨pos, hpos, hdecomposes⟩ := hrow row hmem
      exact hvalues pos hpos _ (Option.mem_def.mpr hdecomposes.marketValue)
    · rw [(hperm.map _).sum_eq, sum_marketValue_rows hall]
      exact htotal

/-- Powers as they are at the exponent zero, of a lot bought today. -/
def powersOfToday : DecimalContext where
  sqrt := Rat.sqrt
  pow _ _ := 1
  str := formatFixed 2

/-- A lot bought on 2026-06-24, the day it is looked at. -/
def lotOfToday (ticker : Option String) (cost gain : ℚ) : LotPositionView where
  lotId := "lot_1"
  accountId := "acct_a"
  accountName := "Taxable"
  securityId := "sec_1"
  ticker := ticker
  securityName := "Note"
  securityAssetClass := .fixedIncome
  quantity := 1
  costBasisPerShare := cost
  totalCostBasis := cost
  marketPrice := some (cost + gain)
  marketValue := some (cost + gain)
  unrealizedGain := some gain
  acquisitionDate := 739791
  isRestricted := false
  washSaleSubstituteGroup := none

/-- A lot up a third of what it cost beside one down a fifth. -/
theorem attribution_adds_up_two :
    ∃ report, evaluateAttribution powersOfToday
        [lotOfToday (some "BND") 300 100, lotOfToday (some "NOTE") 500 (-100)]
        (fun _ => some (1 / 25)) "hh_1" 739791 "2026.06" (1 / 2) = .ok report
      ∧ ∃ low ∈ report.positions, ∃ high ∈ report.positions,
        (∀ row ∈ report.positions, low.activeReturn ≤ row.activeReturn
          ∧ row.activeReturn ≤ high.activeReturn)
        ∧ low.activeReturn ≤ report.portfolioActiveReturn
        ∧ report.portfolioActiveReturn ≤ high.activeReturn := by
  refine ⟨_, rfl, (attribution_adds_up powersOfToday (fun _ => some (1 / 25))
    739791 (1 / 2) [lotOfToday (some "BND") 300 100,
      lotOfToday (some "NOTE") 500 (-100)] "hh_1" "2026.06" _ rfl).2.2.2 ?_ ?_⟩
  · decide +kernel
  · decide +kernel

end Warehouse
