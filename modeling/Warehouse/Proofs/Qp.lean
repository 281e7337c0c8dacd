/-
What `solveQp` returns.

The projection's loop is `Lib.Bisection.bisect` on the clipped sum
(`bisectTau_eq`), which is Lipschitz in the multiplier and brackets 1 up
to the feasibility slack (`bracket_projection`). Two hundred halvings
leave nothing of any bracket that inputs of bounded size can open, so
every projection is `Projected`: clipped coordinate by coordinate, and
within the slack of the budget. The ascent only ever returns projections
(`ascendLoop_projected`).

A clip satisfies both its bounds exactly when they do not cross, which
the feasibility guard, a test of the two sums, does not check.

# Bounded inputs

The source bisects a fixed number of times, so how near it ends depends on
how wide it starts. Inputs are bounded by a million in every entry
(`QpInput`), which any book and any priors the repository builds are far
below; the bracket is then so narrow after two hundred halvings that nothing
of it is left at the precision of the statement.

# Crossed bounds

Where one lower bound exceeds its upper bound and the sums still admit the
budget, the guard lets the problem through and the clip returns the upper
bound. The returned point then leaves its box, and no error is raised.
-/
import Warehouse.Decision.Qp
import Warehouse.Lib.Bisection
import Mathlib.Algebra.Order.BigOperators.Group.List
import Mathlib.Tactic.NormNum
import Mathlib.Tactic.Positivity

namespace Warehouse

open Lib Bisection

-- ================================================================ vectors

theorem map_item_range (v : List ℚ) :
    (List.range v.length).map (item v) = v := by
  apply List.ext_getElem
  · simp
  · intro i _ hi
    simp [item, List.getD_eq_getElem?_getD, hi]

theorem item_mem {v : List ℚ} {i : Nat} (h : i < v.length) : item v i ∈ v := by
  simp [item, List.getD_eq_getElem?_getD, h]

theorem sum_eq_sumRange (v : List ℚ) : v.sum = sumRange v.length (item v) := by
  rw [sumRange, map_item_range]

theorem sumRange_succ (n : Nat) (f : Nat → ℚ) :
    sumRange (n + 1) f = sumRange n f + f n := by
  simp [sumRange, List.range_succ]

theorem sumRange_le {n : Nat} {f g : Nat → ℚ} (h : ∀ i < n, f i ≤ g i) :
    sumRange n f ≤ sumRange n g := by
  induction n with
  | zero => exact le_refl _
  | succ n ih =>
      have hrest := ih fun i hi => h i (by omega)
      rw [sumRange_succ, sumRange_succ]
      exact add_le_add hrest (h n (by omega))

/-- A term of a sum of non-negative terms is at most the sum. -/
theorem single_le_sumRange {n : Nat} {f : Nat → ℚ} (h : ∀ i < n, 0 ≤ f i)
    {i : Nat} (hi : i < n) : f i ≤ sumRange n f := by
  apply List.single_le_sum
  · intro x hx
    obtain ⟨j, hj, rfl⟩ := List.mem_map.mp hx
    exact h j (List.mem_range.mp hj)
  · exact List.mem_map.mpr ⟨i, List.mem_range.mpr hi, rfl⟩

theorem sumRange_sub (n : Nat) (f g : Nat → ℚ) :
    sumRange n (fun i => f i - g i) = sumRange n f - sumRange n g := by
  induction n with
  | zero => simp [sumRange]
  | succ n ih =>
      rw [sumRange_succ, sumRange_succ, sumRange_succ, ih]
      ring

/-- Sums of terms that differ by at most `c` differ by at most `n * c`. -/
theorem abs_sumRange_sub_le {n : Nat} {f g : Nat → ℚ} {c : ℚ}
    (h : ∀ i < n, |f i - g i| ≤ c) :
    |sumRange n f - sumRange n g| ≤ n * c := by
  induction n with
  | zero => simp [sumRange]
  | succ n ih =>
      have hrest := ih fun i hi => h i (by omega)
      have hlast := h n (by omega)
      have hsplit : sumRange (n + 1) f - sumRange (n + 1) g
          = (sumRange n f - sumRange n g) + (f n - g n) := by
        rw [sumRange_succ, sumRange_succ]
        ring
      rw [hsplit]
      push_cast
      have htri := abs_add_le (sumRange n f - sumRange n g) (f n - g n)
      linarith

theorem abs_sumRange_le {n : Nat} {f : Nat → ℚ} {c : ℚ}
    (h : ∀ i < n, |f i| ≤ c) : |sumRange n f| ≤ n * c := by
  have hzero : sumRange n (fun _ => 0) = 0 := by simp [sumRange]
  have hterm : ∀ i < n, |f i - (fun _ => 0) i| ≤ c := by
    intro i hi
    rw [sub_zero]
    exact h i hi
  have hsub := abs_sumRange_sub_le hterm
  rwa [hzero, sub_zero] at hsub

/-- A fold that keeps one of its two arguments returns one of the list. -/
private theorem foldl_pick_mem {op : ℚ → ℚ → ℚ}
    (hop : ∀ a b, op a b = a ∨ op a b = b) (xs : List ℚ) :
    ∀ a, xs.foldl op a = a ∨ xs.foldl op a ∈ xs := by
  induction xs with
  | nil => exact fun a => Or.inl rfl
  | cons x rest ih =>
      intro a
      rw [List.foldl_cons]
      rcases ih (op a x) with h | h
      · rw [h]
        rcases hop a x with hleft | hright
        · exact Or.inl hleft
        · rw [hright]
          exact Or.inr (List.mem_cons_self ..)
      · exact Or.inr (List.mem_cons_of_mem _ h)

/-- A fold towards one end of an order ends beyond every element. -/
private theorem foldl_pick_rel {op : ℚ → ℚ → ℚ} {r : ℚ → ℚ → Prop}
    (hrefl : ∀ a, r a a) (htrans : ∀ {a b c}, r a b → r b c → r a c)
    (hleft : ∀ a b, r (op a b) a) (hright : ∀ a b, r (op a b) b)
    (xs : List ℚ) :
    ∀ a, r (xs.foldl op a) a ∧ ∀ x ∈ xs, r (xs.foldl op a) x := by
  induction xs with
  | nil => exact fun a => ⟨hrefl a, fun _ h => nomatch h⟩
  | cons x rest ih =>
      intro a
      obtain ⟨hacc, hrest⟩ := ih (op a x)
      refine ⟨htrans hacc (hleft a x), fun y hy => ?_⟩
      rcases List.mem_cons.mp hy with rfl | hy
      · exact htrans hacc (hright a y)
      · exact hrest y hy

theorem minOf_le {xs : List ℚ} {x : ℚ} (h : x ∈ xs) : minOf xs ≤ x :=
  (foldl_pick_rel (r := fun a b => a ≤ b) le_refl le_trans min_le_left
    min_le_right xs _).2 x h

theorem le_maxOf {xs : List ℚ} {x : ℚ} (h : x ∈ xs) : x ≤ maxOf xs :=
  (foldl_pick_rel (r := fun a b => b ≤ a) le_refl (fun h h' => h'.trans h)
    le_max_left le_max_right xs _).2 x h

theorem minOf_mem {xs : List ℚ} (h : xs ≠ []) : minOf xs ∈ xs := by
  cases xs with
  | nil => exact absurd rfl h
  | cons x rest =>
      rcases foldl_pick_mem min_choice (x :: rest) x with heq | hmem
      · unfold minOf
        rw [List.headD_cons, heq]
        exact List.mem_cons_self ..
      · exact hmem

theorem maxOf_mem {xs : List ℚ} (h : xs ≠ []) : maxOf xs ∈ xs := by
  cases xs with
  | nil => exact absurd rfl h
  | cons x rest =>
      rcases foldl_pick_mem max_choice (x :: rest) x with heq | hmem
      · unfold maxOf
        rw [List.headD_cons, heq]
        exact List.mem_cons_self ..
      · exact hmem

-- ============================================================== projection

variable {v wMin wMax : List ℚ} {total δ b : ℚ}

/-- The bisection shifts the vector it was given. -/
theorem summed_length (tau : ℚ) :
    (summed v wMin wMax tau).1.length = v.length := by
  simp [summed]

theorem item_summed {i : Nat} (h : i < v.length) (tau : ℚ) :
    item (summed v wMin wMax tau).1 i
      = clip (item v i - tau) (item wMin i) (item wMax i) :=
  item_map_range _ h

/-- The sum is Lipschitz in the multiplier: no coordinate moves further
than it. -/
theorem abs_summed_sub_le (x y : ℚ) :
    |(summed v wMin wMax x).2 - (summed v wMin wMax y).2|
      ≤ v.length * |x - y| := by
  apply abs_sumRange_sub_le
  intro i _
  have h := abs_clip_sub_clip_le (item v i - x) (item v i - y) (item wMin i)
    (item wMax i)
  have heq : item v i - x - (item v i - y) = -(x - y) := by ring
  rw [heq, abs_neg] at h
  exact h

/-- All coordinates move the same way with the multiplier, so none moves
further than the sum. -/
theorem abs_item_summed_sub_le (x y : ℚ) {i : Nat} (hi : i < v.length) :
    |item (summed v wMin wMax x).1 i - item (summed v wMin wMax y).1 i|
      ≤ |(summed v wMin wMax x).2 - (summed v wMin wMax y).2| := by
  wlog hxy : x ≤ y generalizing x y
  · rw [abs_sub_comm, abs_sub_comm (summed v wMin wMax x).2]
    exact this y x (not_le.mp hxy).le
  have hmove : ∀ j < v.length,
      0 ≤ clip (item v j - x) (item wMin j) (item wMax j)
        - clip (item v j - y) (item wMin j) (item wMax j) := by
    intro j _
    have hmono := clip_mono (sub_le_sub_left hxy (item v j)) (item wMin j)
      (item wMax j)
    linarith
  have hsum : (summed v wMin wMax x).2 - (summed v wMin wMax y).2
      = sumRange v.length fun j =>
          clip (item v j - x) (item wMin j) (item wMax j)
            - clip (item v j - y) (item wMin j) (item wMax j) :=
    (sumRange_sub _ _ _).symm
  have hsingle := single_le_sumRange hmove hi
  rw [hsum, item_summed hi, item_summed hi, abs_of_nonneg (hmove i hi)]
  exact hsingle.trans (le_abs_self _)

/-- The loop is a bisection on the multiplier. -/
theorem bisectTau_eq (iters : Nat) : ∀ loTau hiTau last : ℚ,
    bisectTau v wMin wMax total iters loTau hiTau
        (summed v wMin wMax last).1
      = (summed v wMin wMax (bisect (fun tau => (summed v wMin wMax tau).2)
          total (1 / 10 ^ 12) iters loTau hiTau last)).1 := by
  induction iters with
  | zero => exact fun _ _ _ => rfl
  | succ iters ih =>
      intro loTau hiTau last
      have hmid : 1 / 2 * (loTau + hiTau) = (loTau + hiTau) / 2 := by ring
      unfold bisectTau bisect
      dsimp only
      rw [hmid]
      split
      · rfl
      · split
        · exact ih _ _ _
        · exact ih _ _ _

/-- The multipliers the loop starts from bracket the total, whatever the
bounds: up to the slack of the two sums. -/
theorem bracket_projection (hmin : wMin.length = v.length)
    (hmax : wMax.length = v.length) (habove : total - δ ≤ wMax.sum)
    (hbelow : wMin.sum ≤ total + δ) :
    Bracket (fun tau => (summed v wMin wMax tau).2) total δ (loTau v wMax)
      (hiTau v wMin) := by
  refine ⟨habove.trans ?_, le_trans ?_ hbelow⟩
  · rw [sum_eq_sumRange, hmax]
    apply sumRange_le
    intro i hi
    have hmem : item v i - item wMax i
        ∈ (List.range v.length).map fun i => item v i - item wMax i :=
      List.mem_map.mpr ⟨i, List.mem_range.mpr hi, rfl⟩
    have hlo := minOf_le hmem
    have hup : item wMax i ≤ item v i - loTau v wMax := by
      unfold loTau
      linarith
    exact (clip_of_hi_le hup).ge
  · rw [sum_eq_sumRange wMin, hmin]
    apply sumRange_le
    intro i hi
    have hmem : item v i - item wMin i
        ∈ (List.range v.length).map fun i => item v i - item wMin i :=
      List.mem_map.mpr ⟨i, List.mem_range.mpr hi, rfl⟩
    have hhi := le_maxOf hmem
    have hdown : item v i - hiTau v wMin ≤ item wMin i := by
      unfold hiTau
      linarith
    exact clip_le_of_le_lo hdown

/-- The bracket is no wider than the spread of the inputs. -/
theorem abs_bracket_le (hv : v ≠ []) (hitems : ∀ i < v.length, |item v i| ≤ b)
    (hmin : ∀ i < v.length, |item wMin i| ≤ b)
    (hmax : ∀ i < v.length, |item wMax i| ≤ b) :
    |hiTau v wMin - loTau v wMax| ≤ 4 * b := by
  have hne : ∀ f : Nat → ℚ, (List.range v.length).map f ≠ [] := by
    intro f
    simpa using hv
  obtain ⟨i, hi, hieq⟩ := List.mem_map.mp
    (maxOf_mem (hne fun i => item v i - item wMin i))
  obtain ⟨j, hj, hjeq⟩ := List.mem_map.mp
    (minOf_mem (hne fun i => item v i - item wMax i))
  rw [List.mem_range] at hi hj
  have hvi := abs_le.mp (hitems i hi)
  have hvj := abs_le.mp (hitems j hj)
  have hmini := abs_le.mp (hmin i hi)
  have hmaxj := abs_le.mp (hmax j hj)
  unfold hiTau loTau
  rw [← hieq, ← hjeq, abs_le]
  refine ⟨?_, ?_⟩
  · linarith
  · linarith

/-- A point clipped coordinate by coordinate, on budget up to twice the
feasibility slack. -/
structure Projected (n : Nat) (wMin wMax w : List ℚ) : Prop where
  length : w.length = n
  clipped : ∀ i < n, ∃ x, item w i = clip x (item wMin i) (item wMax i)
  budget : |w.sum - 1| ≤ 2 / 10 ^ 9

/-- The projection is the clipped point at the multiplier the bisection
ends on. -/
theorem projectCappedSimplex_eq (v wMin wMax : List ℚ) (total : ℚ)
    (iters : Nat) :
    projectCappedSimplex v wMin wMax total iters
      = (summed v wMin wMax (bisect (fun tau => (summed v wMin wMax tau).2)
          total (1 / 10 ^ 12) iters (loTau v wMax) (hiTau v wMin) 0)).1 := by
  have hstart : (List.range v.length).map (fun i =>
      min (max (item v i) (item wMin i)) (item wMax i))
        = (summed v wMin wMax 0).1 := by
    simp [summed]
  unfold projectCappedSimplex
  dsimp only
  rw [hstart]
  exact bisectTau_eq iters _ _ 0

/-- Two hundred halvings close any bracket that inputs up to `10^43` open
in up to a million dimensions. -/
theorem projectCappedSimplex_projected (hv : v ≠ [])
    (hsize : v.length ≤ 10 ^ 6) (hmin : wMin.length = v.length)
    (hmax : wMax.length = v.length) (habove : 1 - feasibilitySlack ≤ wMax.sum)
    (hbelow : wMin.sum ≤ 1 + feasibilitySlack)
    (hitems : ∀ i < v.length, |item v i| ≤ 10 ^ 43)
    (hminItems : ∀ i < v.length, |item wMin i| ≤ 10 ^ 43)
    (hmaxItems : ∀ i < v.length, |item wMax i| ≤ 10 ^ 43) :
    Projected v.length wMin wMax (projectCappedSimplex v wMin wMax) := by
  rw [projectCappedSimplex_eq]
  refine ⟨summed_length _, fun i hi => ⟨_, item_summed hi _⟩, ?_⟩
  have hslack : (0 : ℚ) ≤ feasibilitySlack := by norm_num [feasibilitySlack]
  have hclose : |(summed v wMin wMax (bisect
      (fun tau => (summed v wMin wMax tau).2) 1 (1 / 10 ^ 12) (199 + 1)
      (loTau v wMax) (hiTau v wMin) 0)).2 - 1|
      ≤ max (1 / 10 ^ 12) (feasibilitySlack + v.length
        * |hiTau v wMin - loTau v wMax| / 2 ^ (199 + 1)) :=
    abs_bisect_sub_le hslack abs_summed_sub_le 199 0
      (bracket_projection hmin hmax habove hbelow)
  refine hclose.trans (max_le (by norm_num) ?_)
  have hwidth := abs_bracket_le hv hitems hminItems hmaxItems
  have hlen : (v.length : ℚ) ≤ 10 ^ 6 := by exact_mod_cast hsize
  have hreach : (v.length : ℚ) * |hiTau v wMin - loTau v wMax|
      ≤ 10 ^ 6 * (4 * 10 ^ 43) :=
    mul_le_mul hlen hwidth (abs_nonneg _) (by positivity)
  have hleft : (v.length : ℚ) * |hiTau v wMin - loTau v wMax|
      / 2 ^ (199 + 1) ≤ 10 ^ 6 * (4 * 10 ^ 43) / 2 ^ (199 + 1) :=
    div_le_div_of_nonneg_right hreach (by positivity)
  have hsmall : (10 : ℚ) ^ 6 * (4 * 10 ^ 43) / 2 ^ (199 + 1) ≤ 1 / 10 ^ 9 := by
    norm_num
  unfold feasibilitySlack
  linarith

/-- A point near its box and near the budget projects to a point nearby,
in every coordinate. -/
theorem abs_projection_sub_le {ε η : ℚ}
    (hnear : ∀ i < v.length,
      |clip (item v i) (item wMin i) (item wMax i) - item v i| ≤ ε)
    (hsum : |v.sum - 1| ≤ δ)
    (hbudget : |(projectCappedSimplex v wMin wMax).sum - 1| ≤ η) {i : Nat}
    (hi : i < v.length) :
    |item (projectCappedSimplex v wMin wMax) i - item v i|
      ≤ η + δ + v.length * ε + ε := by
  obtain ⟨tau, htau⟩ : ∃ tau, projectCappedSimplex v wMin wMax
      = (summed v wMin wMax tau).1 := ⟨_, projectCappedSimplex_eq ..⟩
  rw [htau] at hbudget ⊢
  have hzero : ∀ j < v.length, item (summed v wMin wMax 0).1 j
      = clip (item v j) (item wMin j) (item wMax j) := by
    intro j hj
    rw [item_summed hj, sub_zero]
  have hclipped : |(summed v wMin wMax 0).2 - v.sum| ≤ v.length * ε := by
    rw [sum_eq_sumRange v]
    apply abs_sumRange_sub_le
    intro j hj
    rw [sub_zero]
    exact hnear j hj
  -- the shift is paid once, by the sum
  have hmove : |item (summed v wMin wMax tau).1 i
      - item (summed v wMin wMax 0).1 i|
      ≤ |(summed v wMin wMax tau).2 - (summed v wMin wMax 0).2| :=
    abs_item_summed_sub_le tau 0 hi
  have hshift : |(summed v wMin wMax tau).2 - (summed v wMin wMax 0).2|
      ≤ η + δ + v.length * ε := by
    have hb : |(summed v wMin wMax tau).2 - 1| ≤ η := hbudget
    rw [abs_le] at hb hsum hclipped ⊢
    constructor
    · linarith [hb.1, hsum.2, hclipped.2]
    · linarith [hb.2, hsum.1, hclipped.1]
  have hlast := hnear i hi
  rw [hzero i hi] at hmove
  have htri := abs_sub_le (item (summed v wMin wMax tau).1 i)
    (clip (item v i) (item wMin i) (item wMax i)) (item v i)
  linarith

-- ================================================================== ascent

/-- Inputs of one dimension, from 1 to a million, with entries up to `m`,
bounds up to a million and a risk aversion up to a million, of either
sign: all the bounds below need. -/
structure QpBounded (m : ℚ) (mu : List ℚ) (sigma : List (List ℚ))
    (wMin wMax : List ℚ) (lam : ℚ) : Prop where
  nonempty : 1 ≤ mu.length
  size : mu.length ≤ 10 ^ 6
  sigmaSize : sigma.length = mu.length
  rowSize : ∀ row ∈ sigma, row.length = mu.length
  minSize : wMin.length = mu.length
  maxSize : wMax.length = mu.length
  muBound : ∀ x ∈ mu, |x| ≤ m
  sigmaBound : ∀ row ∈ sigma, ∀ x ∈ row, |x| ≤ m
  minBound : ∀ x ∈ wMin, |x| ≤ 10 ^ 6
  maxBound : ∀ x ∈ wMax, |x| ≤ 10 ^ 6
  lamBound : |lam| ≤ 10 ^ 6

/-- The same with a risk aversion that is not negative. -/
structure QpInput (m : ℚ) (mu : List ℚ) (sigma : List (List ℚ))
    (wMin wMax : List ℚ) (lam : ℚ) : Prop
    extends QpBounded m mu sigma wMin wMax lam where
  lamNonneg : 0 ≤ lam

variable {mu w : List ℚ} {sigma : List (List ℚ)} {lam m : ℚ}

/-- Both step sizes are positive. -/
theorem stepSize_pos (lam : ℚ) (sigma : List (List ℚ)) :
    0 < stepSize lam sigma := by
  unfold stepSize
  dsimp only
  split
  · next h =>
    have hpos : 0 < lam * spectralBound sigma := lt_trans (by norm_num) h
    positivity
  · exact one_pos

/-- And bounded, whatever the covariance. -/
theorem stepSize_le (lam : ℚ) (sigma : List (List ℚ)) :
    stepSize lam sigma ≤ 10 ^ 12 := by
  unfold stepSize
  dsimp only
  split
  · next h =>
    have hpos : 0 < lam * spectralBound sigma := lt_trans (by norm_num) h
    rw [div_le_iff₀ hpos]
    linarith
  · norm_num

/-- Every weight of a projection is as small as the bounds. -/
theorem Projected.abs_item_le (hw : Projected mu.length wMin wMax w)
    (hin : QpBounded m mu sigma wMin wMax lam) {i : Nat} (hi : i < mu.length) :
    |item w i| ≤ 10 ^ 6 := by
  obtain ⟨x, hx⟩ := hw.clipped i hi
  rw [hx]
  apply abs_clip_le
  · apply hin.minBound
    exact item_mem (by rw [hin.minSize]; exact hi)
  · apply hin.maxBound
    exact item_mem (by rw [hin.maxSize]; exact hi)

/-- A gradient step from a projection stays where the projection's
bisection still closes. -/
theorem abs_ascend_le (hw : Projected mu.length wMin wMax w)
    (hin : QpBounded m mu sigma wMin wMax lam) (hm : m ≤ 10 ^ 12) {i : Nat}
    (hi : i < mu.length) :
    |item (ascend mu sigma lam (stepSize lam sigma) w) i| ≤ 10 ^ 43 := by
  have hrow : ∀ j < mu.length,
      |item (sigma.getD i []) j * item w j| ≤ 10 ^ 12 * 10 ^ 6 := by
    intro j hj
    have hmem : sigma.getD i [] ∈ sigma := by
      have hi' : i < sigma.length := by rw [hin.sigmaSize]; exact hi
      simp [List.getD_eq_getElem?_getD, hi']
    have hentry : item (sigma.getD i []) j ∈ sigma.getD i [] :=
      item_mem (by rw [hin.rowSize _ hmem]; exact hj)
    rw [abs_mul]
    exact mul_le_mul ((hin.sigmaBound _ hmem _ hentry).trans hm)
      (hw.abs_item_le hin hj) (abs_nonneg _) (by norm_num)
  have hsum := abs_sumRange_le hrow
  have hsize : (mu.length : ℚ) ≤ 10 ^ 6 := by exact_mod_cast hin.size
  have hrisk : |lam * sumRange mu.length fun j =>
      item (sigma.getD i []) j * item w j|
      ≤ 10 ^ 6 * (10 ^ 6 * (10 ^ 12 * 10 ^ 6)) := by
    rw [abs_mul]
    refine mul_le_mul hin.lamBound (hsum.trans ?_) (abs_nonneg _) (by norm_num)
    exact mul_le_mul_of_nonneg_right hsize (by norm_num)
  have hmu : |item mu i| ≤ 10 ^ 12 :=
    (hin.muBound _ (item_mem hi)).trans hm
  have hgrad : |item mu i - lam * sumRange mu.length fun j =>
      item (sigma.getD i []) j * item w j|
      ≤ 10 ^ 12 + 10 ^ 6 * (10 ^ 6 * (10 ^ 12 * 10 ^ 6)) :=
    (abs_sub _ _).trans (add_le_add hmu hrisk)
  have hmove : |stepSize lam sigma * (item mu i - lam * sumRange mu.length
      fun j => item (sigma.getD i []) j * item w j)|
      ≤ 10 ^ 12 * (10 ^ 12 + 10 ^ 6 * (10 ^ 6 * (10 ^ 12 * 10 ^ 6))) := by
    rw [abs_mul, abs_of_pos (stepSize_pos lam sigma)]
    exact mul_le_mul (stepSize_le lam sigma) hgrad (abs_nonneg _) (by norm_num)
  have hitem : item (ascend mu sigma lam (stepSize lam sigma) w) i
      = item w i + stepSize lam sigma * (item mu i - lam * sumRange mu.length
          fun j => item (sigma.getD i []) j * item w j) := by
    unfold ascend
    dsimp only
    rw [item_map_range _ hi, item_map_range _ hi]
  rw [hitem]
  refine (abs_add_le _ _).trans ?_
  have hwi := hw.abs_item_le hin hi
  have hnum : (10 : ℚ) ^ 6
      + 10 ^ 12 * (10 ^ 12 + 10 ^ 6 * (10 ^ 6 * (10 ^ 12 * 10 ^ 6)))
      ≤ 10 ^ 43 := by norm_num
  linarith

/-- The feasibility guard: the box sums straddle the budget. -/
def GuardPasses (wMin wMax : List ℚ) : Prop :=
  wMin.sum ≤ 1 + feasibilitySlack ∧ 1 - feasibilitySlack ≤ wMax.sum

/-- Projecting a bounded point of the right dimension. -/
theorem projected_of_bounded (hin : QpBounded m mu sigma wMin wMax lam)
    (hguard : GuardPasses wMin wMax) (hlen : v.length = mu.length)
    (hitems : ∀ i < mu.length, |item v i| ≤ 10 ^ 43) :
    Projected mu.length wMin wMax (projectCappedSimplex v wMin wMax) := by
  rw [← hlen] at hitems ⊢
  have hmillion : (10 : ℚ) ^ 6 ≤ 10 ^ 43 := by norm_num
  apply projectCappedSimplex_projected
  · intro hnil
    have hone := hin.nonempty
    rw [← hlen, hnil] at hone
    exact absurd hone (by decide)
  · rw [hlen]
    exact hin.size
  · rw [hin.minSize, hlen]
  · rw [hin.maxSize, hlen]
  · exact hguard.2
  · exact hguard.1
  · exact hitems
  · intro i hi
    refine (hin.minBound _ (item_mem ?_)).trans hmillion
    rw [hin.minSize, ← hlen]
    exact hi
  · intro i hi
    refine (hin.maxBound _ (item_mem ?_)).trans hmillion
    rw [hin.maxSize, ← hlen]
    exact hi

/-- The starting guess projects. -/
theorem start_projected (hin : QpBounded m mu sigma wMin wMax lam)
    (hguard : GuardPasses wMin wMax) :
    Projected mu.length wMin wMax
      (projectCappedSimplex (uniformGuess mu.length) wMin wMax) := by
  apply projected_of_bounded hin hguard
  · simp [uniformGuess]
  · intro i hi
    have hone : (1 : ℚ) ≤ mu.length := by exact_mod_cast hin.nonempty
    have hitem : item (uniformGuess mu.length) i = 1 / mu.length := by
      simp [item, uniformGuess, List.getD_eq_getElem?_getD, hi]
    have hle : (1 : ℚ) / mu.length ≤ 1 := by
      rw [div_le_one (by linarith)]
      exact hone
    rw [hitem, abs_of_nonneg (by positivity)]
    exact hle.trans (by norm_num)

/-- However many steps it takes, the ascent returns a projection. -/
theorem ascendLoop_projected (hin : QpBounded m mu sigma wMin wMax lam)
    (hm : m ≤ 10 ^ 12) (hguard : GuardPasses wMin wMax) (tol : ℚ)
    (iters : Nat) :
    ∀ w, Projected mu.length wMin wMax w →
      Projected mu.length wMin wMax
        (ascendLoop mu sigma wMin wMax lam (stepSize lam sigma) tol iters w) := by
  induction iters with
  | zero => exact fun _ hw => hw
  | succ iters ih =>
      intro w hw
      have hnext : Projected mu.length wMin wMax (projectCappedSimplex
          (ascend mu sigma lam (stepSize lam sigma) w) wMin wMax) := by
        apply projected_of_bounded hin hguard
        · simp [ascend]
        · exact fun i hi => abs_ascend_le hw hin hm hi
      unfold ascendLoop
      dsimp only
      split
      · exact hnext
      · exact ih _ hnext

/-- What `solveQp` does: raise when a sum misses the budget, and otherwise
return a projection. -/
theorem solveQp_cases (hin : QpBounded m mu sigma wMin wMax lam)
    (hm : m ≤ 10 ^ 12) (tol : ℚ) (maxIters : Nat) :
    (¬ GuardPasses wMin wMax
      ∧ ∃ msg, solveQp mu sigma wMin wMax lam tol maxIters
        = .error (.optimizerInfeasible msg))
    ∨ (GuardPasses wMin wMax
      ∧ ∃ w, solveQp mu sigma wMin wMax lam tol maxIters = .ok w
        ∧ Projected mu.length wMin wMax w) := by
  have hne : ¬ mu.length = 0 := by
    have hone := hin.nonempty
    omega
  unfold solveQp GuardPasses
  dsimp only
  rw [if_neg hne, if_neg (not_not.mpr ⟨hin.sigmaSize, hin.minSize, hin.maxSize⟩)]
  by_cases hmin : wMin.sum > 1 + feasibilitySlack
  · rw [if_pos hmin]
    exact Or.inl ⟨fun h => absurd hmin (not_lt.mpr h.1), _, rfl⟩
  · rw [if_neg hmin]
    by_cases hmax : wMax.sum < 1 - feasibilitySlack
    · rw [if_pos hmax]
      exact Or.inl ⟨fun h => absurd hmax (not_lt.mpr h.2), _, rfl⟩
    · rw [if_neg hmax]
      have hguard : GuardPasses wMin wMax := ⟨not_lt.mp hmin, not_lt.mp hmax⟩
      exact Or.inr ⟨hguard, _, rfl, ascendLoop_projected hin hm hguard tol
        maxIters _ (start_projected hin hguard)⟩

-- ============================================================= the theorem

/-- `solveQp` refuses the problem, or returns weights within every bound
and on budget. -/
def SolvedOrRefused (mu : List ℚ) (sigma : List (List ℚ))
    (wMin wMax : List ℚ) (lam tol : ℚ) (maxIters : Nat) : Prop :=
  (∃ msg, solveQp mu sigma wMin wMax lam tol maxIters
    = .error (.optimizerInfeasible msg))
  ∨ ∃ w, solveQp mu sigma wMin wMax lam tol maxIters = .ok w
    ∧ w.length = mu.length
    ∧ (∀ i < mu.length, item wMin i ≤ item w i ∧ item w i ≤ item wMax i)
    ∧ |w.sum - 1| ≤ 2 / 10 ^ 9

/-- When `solveQp` never returns an infeasible point: exactly when the
sums of the bounds already refuse the problem, or no lower bound exceeds
its upper bound. -/
theorem solveQp_solvedOrRefused_iff {mu : List ℚ} {sigma : List (List ℚ)}
    {wMin wMax : List ℚ} {lam : ℚ}
    (hin : QpInput (10 ^ 6) mu sigma wMin wMax lam) (tol : ℚ)
    (maxIters : Nat) :
    SolvedOrRefused mu sigma wMin wMax lam tol maxIters
      ↔ 1 + 1 / 10 ^ 9 < wMin.sum ∨ wMax.sum < 1 - 1 / 10 ^ 9
        ∨ ∀ i < mu.length, item wMin i ≤ item wMax i := by
  rcases solveQp_cases hin.toQpBounded (by norm_num) tol maxIters with
    ⟨hguard, msg, hcall⟩ | ⟨hguard, w, hcall, hw⟩
  · refine ⟨fun _ => ?_, fun _ => Or.inl ⟨msg, hcall⟩⟩
    by_contra hnone
    rw [not_or, not_or, not_lt, not_lt] at hnone
    exact hguard ⟨hnone.1, hnone.2.1⟩
  · refine ⟨fun hsolved => ?_, fun hcond => ?_⟩
    · right
      right
      intro i hi
      rcases hsolved with ⟨msg, herror⟩ | ⟨w', hok, -, hbounds, -⟩
      · rw [hcall] at herror
        cases herror
      · exact (hbounds i hi).1.trans (hbounds i hi).2
    · rcases hcond with hmin | hmax | hbox
      · exact absurd hguard.1 (not_le.mpr hmin)
      · exact absurd hguard.2 (not_le.mpr hmax)
      · refine Or.inr ⟨w, hcall, hw.length, fun i hi => ?_, hw.budget⟩
        obtain ⟨x, hx⟩ := hw.clipped i hi
        rw [hx]
        exact ⟨le_clip x (hbox i hi), clip_le x _ _⟩

/-- Two sleeves, the second free: solved. -/
theorem solveQp_solvedOrRefused_iff_free :
    SolvedOrRefused [7 / 100, 4 / 100] [[1 / 40, 0], [0, 1 / 250]] [0, 0]
      [1 / 2, 1] 6 (1 / 10 ^ 9) 5000 := by
  have hin : QpInput (10 ^ 6) [7 / 100, 4 / 100] [[1 / 40, 0], [0, 1 / 250]]
      [0, 0] [1 / 2, 1] 6 := by
    refine ⟨⟨?_, ?_, ?_, ?_, ?_, ?_, ?_, ?_, ?_, ?_, ?_⟩, ?_⟩
      <;> decide +kernel
  apply (solveQp_solvedOrRefused_iff hin _ _).mpr
  right
  right
  decide +kernel

/-- A lower bound above its upper bound, between sums that straddle the
budget: the point returned is below its lower bound. -/
theorem solveQp_crossed_bounds :
    ¬ SolvedOrRefused [0, 0] [[0, 0], [0, 0]] [6 / 10, 0] [1 / 2, 1] 6
      (1 / 10 ^ 9) 5000 := by
  have hcall : solveQp [0, 0] [[0, 0], [0, 0]] [6 / 10, 0] [1 / 2, 1] 6
      (1 / 10 ^ 9) 5000 = .ok [1 / 2, 1 / 2] := by decide +kernel
  rintro (⟨msg, herror⟩ | ⟨w, hok, -, hbounds, -⟩)
  · rw [hcall] at herror
    cases herror
  · rw [hcall] at hok
    cases hok
    exact absurd (hbounds 0 (by decide)).1 (by decide +kernel)

end Warehouse
