/-
The capped-simplex projection.

Whatever multiplier the bisection ends on, the point it returns is a
clipped shift of `v`, so it is the nearest point of the box to `v` among
those with its own sum; how far that sum is from the total is what the
bisection says. A point of the box is its own clip at multiplier nought,
so it moves no further than the sum does.

# Near and nearest

The bisection stops after a fixed number of halvings, so the returned point
meets the budget up to a bound and is near the true projection; the true
projection itself is obtained abstractly, where the clipped sum takes the
budget's value exactly (`exists_exactProjection`). A point already in the
box and on the budget comes back nearly unchanged: its own multiplier is
zero.
-/
import Warehouse.Lib.ProjectedAscent
import Warehouse.Proofs.Qp

namespace Warehouse

open Lib Bisection ProjectedAscent

variable {v w wMin wMax : List ℚ} {total : ℚ}

/-- The module's sum is the finite one. -/
theorem sumRange_eq_finsetSum (n : Nat) (f : Nat → ℚ) :
    sumRange n f = ∑ i ∈ Finset.range n, f i := by
  induction n with
  | zero => rfl
  | succ n ih => rw [sumRange_succ, Finset.sum_range_succ, ih]

theorem sum_eq_sum_item (w : List ℚ) :
    w.sum = ∑ i ∈ Finset.range w.length, item w i := by
  rw [sum_eq_sumRange, sumRange_eq_finsetSum]

theorem item_eq_getElem {i : Nat} (h : i < w.length) : item w i = w[i] := by
  simp [item, List.getD_eq_getElem?_getD, h]

/-- A point within the bounds, coordinate by coordinate. -/
structure InBox (wMin wMax w : List ℚ) : Prop where
  length : w.length = wMin.length
  within : ∀ i < w.length, item wMin i ≤ item w i ∧ item w i ≤ item wMax i

/-- The squared Euclidean distance from `v`. -/
def distSq (v w : List ℚ) : ℚ :=
  sumRange v.length fun i => (item w i - item v i) ^ 2

/-- The squared distance, as a dot product. -/
theorem distSq_eq_dot (v w : List ℚ) :
    distSq v w = dot (Finset.range v.length) (item w - item v)
      (item w - item v) := by
  unfold distSq dot
  rw [sumRange_eq_finsetSum]
  apply Finset.sum_congr rfl
  intro i _
  rw [sq]
  rfl

/-- Vectors of one length at no distance are one vector. -/
theorem eq_of_dot_sub_nonpos {x y : List ℚ} (hlen : x.length = y.length)
    (h : dot (Finset.range x.length) (item y - item x) (item y - item x)
      ≤ 0) : y = x := by
  have hzero := le_antisymm h (dot_self_nonneg _)
  unfold dot at hzero
  rw [Finset.sum_eq_zero_iff_of_nonneg fun _ _ => mul_self_nonneg _] at hzero
  rw [← map_item_range y, ← map_item_range x, ← hlen]
  apply List.map_congr_left
  intro i hi
  have hi' := hzero i (Finset.mem_range.mpr (List.mem_range.mp hi))
  exact sub_eq_zero.mp (mul_self_eq_zero.mp hi')

/-- The bracket has its ends in order where the bounds do. -/
theorem loTau_le_hiTau (hv : v ≠ [])
    (hbox : ∀ i < v.length, item wMin i ≤ item wMax i) :
    loTau v wMax ≤ hiTau v wMin := by
  have hlen : 0 < v.length := List.length_pos_iff.mpr hv
  have hlo := minOf_le (List.mem_map.mpr
    ⟨0, List.mem_range.mpr hlen, rfl⟩ : item v 0 - item wMax 0
      ∈ (List.range v.length).map fun i => item v i - item wMax i)
  have hhi := le_maxOf (List.mem_map.mpr
    ⟨0, List.mem_range.mpr hlen, rfl⟩ : item v 0 - item wMin 0
      ∈ (List.range v.length).map fun i => item v i - item wMin i)
  have h := hbox 0 hlen
  unfold loTau hiTau
  linarith

/-- How far the sum of the projection is from the total. -/
theorem abs_sum_projectCappedSimplex_sub_le (hmin : wMin.length = v.length)
    (hmax : wMax.length = v.length) (hlo : wMin.sum ≤ total)
    (hhi : total ≤ wMax.sum) :
    |(projectCappedSimplex v wMin wMax total).sum - total|
      ≤ max (1 / 10 ^ 12)
        (v.length * |hiTau v wMin - loTau v wMax| / 2 ^ 200) := by
  have hbracket : Bracket (fun tau => (summed v wMin wMax tau).2) total 0
      (loTau v wMax) (hiTau v wMin) := by
    apply bracket_projection hmin hmax
    · rw [sub_zero]
      exact hhi
    · rw [add_zero]
      exact hlo
  have hclose : |(summed v wMin wMax (bisect
      (fun tau => (summed v wMin wMax tau).2) total (1 / 10 ^ 12) (199 + 1)
      (loTau v wMax) (hiTau v wMin) 0)).2 - total|
      ≤ max (1 / 10 ^ 12) (0 + v.length
        * |hiTau v wMin - loTau v wMax| / 2 ^ (199 + 1)) :=
    abs_bisect_sub_le le_rfl abs_summed_sub_le 199 0 hbracket
  rw [projectCappedSimplex_eq]
  rw [zero_add] at hclose
  exact hclose

theorem summed_inBox (hmin : wMin.length = v.length)
    (hbox : ∀ i < v.length, item wMin i ≤ item wMax i) (tau : ℚ) :
    InBox wMin wMax (summed v wMin wMax tau).1 where
  length := by rw [summed_length, hmin]
  within i hi := by
    rw [summed_length] at hi
    rw [item_summed hi]
    exact ⟨le_clip _ (hbox i hi), clip_le _ _ _⟩

/-- A clipped shift is nearest among the points of the box with its sum,
and the only one that near. -/
theorem summed_nearest (hmin : wMin.length = v.length) (tau : ℚ) {y : List ℚ}
    (hy : InBox wMin wMax y)
    (hsum : y.sum = (summed v wMin wMax tau).1.sum) :
    distSq v (summed v wMin wMax tau).1 ≤ distSq v y
      ∧ (distSq v y ≤ distSq v (summed v wMin wMax tau).1 →
        y = (summed v wMin wMax tau).1) := by
  have hlen : y.length = v.length := hy.length.trans hmin
  have hdist : distSq v (summed v wMin wMax tau).1
      + dot (Finset.range v.length)
        (item y - item (summed v wMin wMax tau).1)
        (item y - item (summed v wMin wMax tau).1) ≤ distSq v y := by
    rw [distSq_eq_dot, distSq_eq_dot]
    apply dist_clip_le fun i hi => item_summed (Finset.mem_range.mp hi) tau
    · intro i hi
      rw [← hlen] at hi
      exact (hy.within i (Finset.mem_range.mp hi)).1
    · intro i hi
      rw [← hlen] at hi
      exact (hy.within i (Finset.mem_range.mp hi)).2
    · rw [sum_eq_sum_item, sum_eq_sum_item, hlen, summed_length] at hsum
      exact hsum
  have hnonneg := dot_self_nonneg (s := Finset.range v.length)
    (item y - item (summed v wMin wMax tau).1)
  refine ⟨by linarith, fun hle => ?_⟩
  have hlen' : (summed v wMin wMax tau).1.length = v.length := summed_length _
  apply eq_of_dot_sub_nonpos
  · rw [hlen, hlen']
  · rw [hlen']
    linarith

/-- A point of the box is its own clip. -/
theorem summed_zero_of_inBox (hv : InBox wMin wMax v) : (summed v wMin wMax 0).1 = v := by
  have hitems : (summed v wMin wMax 0).1
      = (List.range v.length).map (item v) := by
    apply List.map_congr_left
    intro i hi
    obtain ⟨hlo, hhi⟩ := hv.within i (List.mem_range.mp hi)
    show clip (item v i - 0) (item wMin i) (item wMax i) = item v i
    rw [sub_zero]
    exact clip_of_mem hlo hhi
  rw [hitems, map_item_range]

/-- What the projection returns over a box that meets the total. -/
structure ProjectionSpec (v wMin wMax : List ℚ) (total : ℚ) (w : List ℚ) :
    Prop where
  inBox : InBox wMin wMax w
  onTotal : |w.sum - total|
    ≤ max (1 / 10 ^ 12) (v.length * (hiTau v wMin - loTau v wMax) / 2 ^ 200)
  nearest : ∀ y, InBox wMin wMax y → y.sum = w.sum →
    distSq v w ≤ distSq v y ∧ (distSq v y ≤ distSq v w → y = w)
  steady : InBox wMin wMax v → ∀ i < v.length,
    |item w i - item v i| ≤ |w.sum - total| + |v.sum - total|

/-- The projection lies in the box, is near the budget, and is near the nearest
point. -/
theorem projectCappedSimplex_spec (v wMin wMax : List ℚ) (total : ℚ)
    (hv : 1 ≤ v.length) (hmin : wMin.length = v.length)
    (hmax : wMax.length = v.length)
    (hbox : ∀ i < v.length, item wMin i ≤ item wMax i)
    (hlo : wMin.sum ≤ total) (hhi : total ≤ wMax.sum) :
    ProjectionSpec v wMin wMax total
      (projectCappedSimplex v wMin wMax total 200) := by
  have hclose := abs_sum_projectCappedSimplex_sub_le hmin hmax hlo hhi
  have hwidth : |hiTau v wMin - loTau v wMax|
      = hiTau v wMin - loTau v wMax := by
    apply abs_of_nonneg
    have hne : v ≠ [] := List.length_pos_iff.mp hv
    exact sub_nonneg.mpr (loTau_le_hiTau hne hbox)
  rw [hwidth] at hclose
  obtain ⟨tau, htau⟩ : ∃ tau, projectCappedSimplex v wMin wMax total 200
      = (summed v wMin wMax tau).1 := ⟨_, projectCappedSimplex_eq ..⟩
  rw [htau] at hclose ⊢
  refine ⟨summed_inBox hmin hbox tau, hclose,
    fun y hy hsum => summed_nearest hmin tau hy hsum, fun hin i hi => ?_⟩
  have hself := summed_zero_of_inBox hin
  calc |item (summed v wMin wMax tau).1 i - item v i|
      = |item (summed v wMin wMax tau).1 i
          - item (summed v wMin wMax 0).1 i| := by rw [hself]
    _ ≤ |(summed v wMin wMax tau).2 - (summed v wMin wMax 0).2| :=
        abs_item_summed_sub_le tau 0 hi
    _ = |(summed v wMin wMax tau).1.sum - v.sum| := by
        show |_ - (summed v wMin wMax 0).1.sum| = _
        rw [hself]
        rfl
    _ ≤ |(summed v wMin wMax tau).1.sum - total| + |total - v.sum| :=
        abs_sub_le _ _ _
    _ = _ := by rw [abs_sub_comm total]

theorem projectCappedSimplex_spec_half :
    ProjectionSpec [1 / 5, 1] [0, 0] [1, 1 / 2] 1
      (projectCappedSimplex [1 / 5, 1] [0, 0] [1, 1 / 2] 1 200) :=
  projectCappedSimplex_spec [1 / 5, 1] [0, 0] [1, 1 / 2] 1 (by decide) rfl rfl
    (by decide +kernel) (by decide +kernel) (by decide +kernel)

end Warehouse
