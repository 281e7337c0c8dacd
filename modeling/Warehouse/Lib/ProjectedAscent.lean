/-
Projections onto boxes and projected ascent of a quadratic, over an
ordered field.

Vectors are functions, read on a finite set of indices. A clipped shift of
a point is the nearest point to it among the points of the box with the
same sum (`dist_clip_le`): the multiplier drops out of the variational
inequality because the sums agree. A nearest point of a convex set obeys
that inequality (`dot_nonpos_of_nearest`), and with the row sums as a
bound on the quadratic form (`abs_form_le`) a step no longer than twice
its inverse never lowers the objective (`objective_le_of_ascent`).
-/
import Warehouse.Lib.Bisection
import Mathlib.Algebra.BigOperators.Field
import Mathlib.Algebra.BigOperators.Ring.Finset
import Mathlib.Algebra.Order.BigOperators.Ring.Finset
import Mathlib.Tactic.Positivity

namespace Warehouse.Lib.ProjectedAscent

open Bisection

variable {ι K : Type*} [Field K] {s : Finset ι}

-- =========================================================== inner products

/-- The inner product over the indices in `s`. -/
def dot (s : Finset ι) (x y : ι → K) : K := ∑ i ∈ s, x i * y i

theorem dot_comm (x y : ι → K) : dot s x y = dot s y x :=
  Finset.sum_congr rfl fun _ _ => mul_comm _ _

theorem dot_add_left (x y z : ι → K) :
    dot s (x + y) z = dot s x z + dot s y z := by
  unfold dot
  rw [← Finset.sum_add_distrib]
  exact Finset.sum_congr rfl fun _ _ => add_mul _ _ _

/-- A vector times a number. -/
def scale (t : K) (x : ι → K) : ι → K := fun i => t * x i

theorem dot_scale_left (t : K) (x y : ι → K) :
    dot s (scale t x) y = t * dot s x y := by
  unfold dot
  rw [Finset.mul_sum]
  exact Finset.sum_congr rfl fun _ _ => mul_assoc _ _ _

theorem dot_sub_left (x y z : ι → K) :
    dot s (x - y) z = dot s x z - dot s y z := by
  unfold dot
  rw [← Finset.sum_sub_distrib]
  exact Finset.sum_congr rfl fun _ _ => sub_mul _ _ _

theorem dot_add_right (x y z : ι → K) :
    dot s x (y + z) = dot s x y + dot s x z := by
  rw [dot_comm, dot_add_left, dot_comm y, dot_comm z]

theorem dot_scale_right (t : K) (x y : ι → K) :
    dot s x (scale t y) = t * dot s x y := by
  rw [dot_comm, dot_scale_left, dot_comm y]

theorem dot_sub_right (x y z : ι → K) :
    dot s x (y - z) = dot s x y - dot s x z := by
  rw [dot_comm, dot_sub_left, dot_comm y, dot_comm z]

/-- The bilinear form of a matrix. -/
def bilinear (s : Finset ι) (a : ι → ι → K) (x y : ι → K) : K :=
  dot s x fun i => dot s (a i) y

/-- A symmetric kernel has a symmetric form. -/
theorem bilinear_comm {a : ι → ι → K}
    (hsymm : ∀ i ∈ s, ∀ j ∈ s, a i j = a j i) (x y : ι → K) :
    bilinear s a x y = bilinear s a y x := by
  unfold bilinear dot
  simp only [Finset.mul_sum]
  rw [Finset.sum_comm]
  apply Finset.sum_congr rfl
  intro j hj
  apply Finset.sum_congr rfl
  intro i hi
  rw [hsymm i hi j hj]
  ring

theorem bilinear_add_left (a : ι → ι → K) (x y z : ι → K) :
    bilinear s a (x + y) z = bilinear s a x z + bilinear s a y z :=
  dot_add_left _ _ _

section Order

variable [LinearOrder K] [IsStrictOrderedRing K]

theorem dot_self_nonneg (x : ι → K) : 0 ≤ dot s x x :=
  Finset.sum_nonneg fun _ _ => mul_self_nonneg _

-- ======================================================== nearest points

/-- A point at least as near to `c` as every other of the segment to `y`
has `y` on the far side. -/
theorem dot_nonpos_of_nearest {c w y : ι → K}
    (hnear : ∀ t : K, 0 < t → t ≤ 1 → dot s (w - c) (w - c)
      ≤ dot s (w + scale t (y - w) - c) (w + scale t (y - w) - c)) :
    dot s (c - w) (y - w) ≤ 0 := by
  have hmove : ∀ t : K, 0 < t → t ≤ 1 → 2 * (t * dot s (c - w) (y - w))
      ≤ t * (t * dot s (y - w) (y - w)) := by
    intro t ht ht'
    have h := hnear t ht ht'
    have hsplit : w + scale t (y - w) - c = (w - c) + scale t (y - w) := by
      rw [add_sub_right_comm]
    have hneg : dot s (w - c) (y - w) = -dot s (c - w) (y - w) := by
      rw [← neg_sub c w]
      simp only [dot, Pi.neg_apply, neg_mul, Finset.sum_neg_distrib]
    rw [hsplit, dot_add_left, dot_add_right, dot_add_right, dot_scale_left,
      dot_scale_left, dot_scale_right, dot_scale_right,
      dot_comm (y - w) (w - c), hneg] at h
    linarith
  by_contra hpos
  rw [not_le] at hpos
  by_cases hsmall : dot s (y - w) (y - w) ≤ dot s (c - w) (y - w)
  · have h := hmove 1 one_pos le_rfl
    linarith
  · rw [not_le] at hsmall
    have hlen := hpos.trans hsmall
    have h := hmove (dot s (c - w) (y - w) / dot s (y - w) (y - w))
      (div_pos hpos hlen) ((div_le_one hlen).mpr hsmall.le)
    rw [div_mul_cancel₀ _ hlen.ne'] at h
    have hsq : 0 < dot s (c - w) (y - w) / dot s (y - w) (y - w)
        * dot s (c - w) (y - w) := mul_pos (div_pos hpos hlen) hpos
    linarith

/-- A clip lies between its argument and the rest of its interval. -/
theorem clip_sub_mul_nonneg {x y lo hi : K} (hlo : lo ≤ y) (hhi : y ≤ hi) :
    0 ≤ (clip x lo hi - x) * (y - clip x lo hi) := by
  rcases le_total x lo with hx | hx
  · have hclip : clip x lo hi = lo :=
      le_antisymm (clip_le_of_le_lo hx) (le_clip x (hlo.trans hhi))
    rw [hclip]
    exact mul_nonneg (sub_nonneg.mpr hx) (sub_nonneg.mpr hlo)
  · rcases le_total hi x with hx' | hx'
    · rw [clip_of_hi_le hx']
      exact mul_nonneg_of_nonpos_of_nonpos (sub_nonpos.mpr hx')
        (sub_nonpos.mpr hhi)
    · rw [clip_of_mem hx hx', sub_self, zero_mul]

/-- A clipped shift of `v` is nearer to it than any other point of the box
with its sum, by the distance between the two. -/
theorem dist_clip_le {v lo hi w y : ι → K} {tau : K}
    (hw : ∀ i ∈ s, w i = clip (v i - tau) (lo i) (hi i))
    (hlo : ∀ i ∈ s, lo i ≤ y i) (hhi : ∀ i ∈ s, y i ≤ hi i)
    (hsum : ∑ i ∈ s, y i = ∑ i ∈ s, w i) :
    dot s (w - v) (w - v) + dot s (y - w) (y - w)
      ≤ dot s (y - v) (y - v) := by
  have hcross : 0 ≤ ∑ i ∈ s, (w i - (v i - tau)) * (y i - w i) := by
    apply Finset.sum_nonneg
    intro i hi'
    rw [hw i hi']
    exact clip_sub_mul_nonneg (hlo i hi') (hhi i hi')
  -- the sums agree, so the multiplier is worth nothing
  have htau : ∑ i ∈ s, tau * (y i - w i) = 0 := by
    rw [← Finset.mul_sum, Finset.sum_sub_distrib, hsum, sub_self, mul_zero]
  have hdot : ∑ i ∈ s, (w i - (v i - tau)) * (y i - w i)
      = dot s (w - v) (y - w) + ∑ i ∈ s, tau * (y i - w i) := by
    unfold dot
    rw [← Finset.sum_add_distrib]
    apply Finset.sum_congr rfl
    intro i _
    simp only [Pi.sub_apply]
    ring
  have hsplit : y - v = (y - w) + (w - v) := (sub_add_sub_cancel y w v).symm
  rw [hsplit, dot_add_left, dot_add_right, dot_add_right,
    dot_comm (y - w) (w - v)]
  linarith

-- ======================================================== the quadratic form

/-- The largest row sum bounds a symmetric form. -/
theorem abs_form_le {a : ι → ι → K} {g : K}
    (hsymm : ∀ i ∈ s, ∀ j ∈ s, a i j = a j i)
    (hrow : ∀ i ∈ s, ∑ j ∈ s, |a i j| ≤ g) (x : ι → K) :
    |bilinear s a x x| ≤ g * dot s x x := by
  -- a product is at most the mean of the squares
  have hterm : ∀ i j, |x i * (a i j * x j)|
      ≤ (x i * x i * |a i j| + x j * x j * |a i j|) / 2 := by
    intro i j
    have hmean : |x i| * |x j| ≤ (x i * x i + x j * x j) / 2 := by
      rw [← abs_mul_abs_self (x i), ← abs_mul_abs_self (x j)]
      linarith [mul_self_nonneg (|x i| - |x j|), mul_comm |x i| |x j|]
    have hprod := mul_le_mul_of_nonneg_left hmean (abs_nonneg (a i j))
    rw [abs_mul, abs_mul]
    linarith
  have hrows : ∑ i ∈ s, ∑ j ∈ s, x i * x i * |a i j| ≤ g * dot s x x := by
    unfold dot
    rw [Finset.mul_sum]
    apply Finset.sum_le_sum
    intro i hi
    rw [← Finset.mul_sum, mul_comm g]
    exact mul_le_mul_of_nonneg_left (hrow i hi) (mul_self_nonneg _)
  -- by symmetry the columns sum to what the rows do
  have hcols : ∑ i ∈ s, ∑ j ∈ s, x j * x j * |a i j|
      = ∑ i ∈ s, ∑ j ∈ s, x i * x i * |a i j| := by
    rw [Finset.sum_comm]
    apply Finset.sum_congr rfl
    intro j hj
    apply Finset.sum_congr rfl
    intro i hi
    rw [hsymm i hi j hj]
  calc |bilinear s a x x|
      = |∑ i ∈ s, ∑ j ∈ s, x i * (a i j * x j)| := by
        unfold bilinear dot
        simp only [Finset.mul_sum]
    _ ≤ ∑ i ∈ s, ∑ j ∈ s, |x i * (a i j * x j)| :=
        (Finset.abs_sum_le_sum_abs _ _).trans
          (Finset.sum_le_sum fun _ _ => Finset.abs_sum_le_sum_abs _ _)
    _ ≤ ∑ i ∈ s, ∑ j ∈ s,
          (x i * x i * |a i j| + x j * x j * |a i j|) / 2 :=
        Finset.sum_le_sum fun i _ => Finset.sum_le_sum fun j _ => hterm i j
    _ = ((∑ i ∈ s, ∑ j ∈ s, x i * x i * |a i j|)
          + ∑ i ∈ s, ∑ j ∈ s, x j * x j * |a i j|) / 2 := by
        simp only [← Finset.sum_div, Finset.sum_add_distrib]
    _ ≤ g * dot s x x := by
        rw [hcols]
        linarith

end Order

-- ================================================================== ascent

/-- The mean-variance objective `x·μ − (λ/2)·x·Ax`. -/
def objective (s : Finset ι) (mu : ι → K) (a : ι → ι → K) (lam : K)
    (x : ι → K) : K := dot s x mu - lam / (1 + 1) * bilinear s a x x

/-- The gradient of the quadratic objective at `x`. -/
def gradient (s : Finset ι) (mu : ι → K) (a : ι → ι → K) (lam : K)
    (x : ι → K) : ι → K := fun i => mu i - lam * dot s (a i) x

/-- The objective along a displacement, to second order exactly. -/
theorem objective_add {mu : ι → K} {a : ι → ι → K} {lam : K} [CharZero K]
    (hsymm : ∀ i ∈ s, ∀ j ∈ s, a i j = a j i) (x d : ι → K) :
    objective s mu a lam (x + d) = objective s mu a lam x
      + dot s d (gradient s mu a lam x) - lam / (1 + 1) * bilinear s a d d := by
  have hgrad : dot s d (gradient s mu a lam x)
      = dot s d mu - lam * bilinear s a d x := by
    have hsub : gradient s mu a lam x
        = mu - scale lam fun i => dot s (a i) x := rfl
    rw [hsub, dot_sub_right, dot_scale_right]
    rfl
  unfold objective
  rw [hgrad, dot_add_left, bilinear_add_left, bilinear_comm hsymm x (x + d),
    bilinear_comm hsymm d (x + d), bilinear_add_left, bilinear_add_left,
    bilinear_comm hsymm d x]
  ring

/-- A projected gradient step of at most twice the inverse of the row-sum
bound never lowers the objective. -/
theorem objective_le_of_ascent [LinearOrder K] [IsStrictOrderedRing K]
    {mu : ι → K} {a : ι → ι → K} {lam g step : K} {x y : ι → K}
    (hsymm : ∀ i ∈ s, ∀ j ∈ s, a i j = a j i)
    (hrow : ∀ i ∈ s, ∑ j ∈ s, |a i j| ≤ g) (hlam : 0 ≤ lam)
    (hstep : 0 < step) (hsmall : lam * g * step ≤ 2)
    (hproj : dot s (x + scale step (gradient s mu a lam x) - y) (x - y) ≤ 0) :
    objective s mu a lam x ≤ objective s mu a lam y := by
  have hform := (le_abs_self _).trans (abs_form_le hsymm hrow (y - x))
  have hy : y = x + (y - x) := (add_sub_cancel x y).symm
  have hgain : dot s (y - x) (y - x)
      ≤ step * dot s (y - x) (gradient s mu a lam x) := by
    have hsplit : x + scale step (gradient s mu a lam x) - y
        = scale step (gradient s mu a lam x) - (y - x) := by
      rw [sub_sub_eq_add_sub, add_comm]
    have hneg : x - y = scale (-1) (y - x) := by
      funext i
      show x i - y i = -1 * (y i - x i)
      ring
    rw [hsplit, hneg, dot_scale_right, dot_sub_left, dot_scale_left,
      dot_comm (gradient s mu a lam x)] at hproj
    linarith
  have hcost : step * (lam / (1 + 1) * bilinear s a (y - x) (y - x))
      ≤ dot s (y - x) (y - x) := by
    have hsquare := dot_self_nonneg (s := s) (y - x)
    calc step * (lam / (1 + 1) * bilinear s a (y - x) (y - x))
        ≤ step * (lam / (1 + 1) * (g * dot s (y - x) (y - x))) := by
          gcongr
      _ = lam * g * step / 2 * dot s (y - x) (y - x) := by ring
      _ ≤ 1 * dot s (y - x) (y - x) := by
          apply mul_le_mul_of_nonneg_right _ hsquare
          linarith
      _ = dot s (y - x) (y - x) := one_mul _
  rw [hy, objective_add hsymm]
  have hnet := le_of_mul_le_mul_left (hcost.trans hgain) hstep
  linarith

end Warehouse.Lib.ProjectedAscent
