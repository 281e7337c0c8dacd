/-
Forms of pairs: the sum of `x i * rho i j * y j` over a finite set of
indices.

A symmetric form that is nowhere negative is a semi-inner product: it
obeys Cauchy and Schwarz (`PairPsd.sq_le`), its root is subadditive
(`PairPsd.sqrt_add_le`), and with ones on the diagonal its entries are
correlations (`PairPsd.abs_le_one`). Mixing it with the constant matrix
and the identity keeps it so (`PairPsd.mix`).
-/
import Mathlib.Analysis.Real.Sqrt
import Mathlib.LinearAlgebra.SesquilinearForm.Basic
import Mathlib.Tactic.Ring

namespace Warehouse.Lib

open Finset

variable {κ R : Type*} [CommRing R] {s : Finset κ} {rho : κ → κ → R}

/-- The bilinear form of a kernel over a finite set. -/
def pairForm (s : Finset κ) (rho : κ → κ → R) (x y : κ → R) : R :=
  ∑ i ∈ s, ∑ j ∈ s, x i * rho i j * y j

-- ============================================================== bilinearity

theorem pairForm_add_left (x x' y : κ → R) :
    pairForm s rho (fun i => x i + x' i) y
      = pairForm s rho x y + pairForm s rho x' y := by
  unfold pairForm
  simp only [add_mul, sum_add_distrib]

theorem pairForm_mul_left (c : R) (x y : κ → R) :
    pairForm s rho (fun i => c * x i) y = c * pairForm s rho x y := by
  unfold pairForm
  simp only [mul_sum, mul_assoc]

theorem pairForm_add_right (x y y' : κ → R) :
    pairForm s rho x (fun j => y j + y' j)
      = pairForm s rho x y + pairForm s rho x y' := by
  unfold pairForm
  simp only [mul_add, sum_add_distrib]

theorem pairForm_mul_right (c : R) (x y : κ → R) :
    pairForm s rho x (fun j => c * y j) = c * pairForm s rho x y := by
  unfold pairForm
  simp only [mul_sum]
  refine sum_congr rfl fun i _ => sum_congr rfl fun j _ => ?_
  ring

/-- A symmetric kernel has a symmetric form. -/
theorem pairForm_comm (hsymm : ∀ i j, rho i j = rho j i) (x y : κ → R) :
    pairForm s rho x y = pairForm s rho y x := by
  unfold pairForm
  rw [sum_comm]
  refine sum_congr rfl fun i _ => sum_congr rfl fun j _ => ?_
  rw [hsymm j i]
  ring

/-- The form of a sum. -/
theorem pairForm_add (hsymm : ∀ i j, rho i j = rho j i) (x y : κ → R) :
    pairForm s rho (fun i => x i + y i) (fun i => x i + y i)
      = pairForm s rho x x + 2 * pairForm s rho x y + pairForm s rho y y := by
  rw [pairForm_add_left, pairForm_add_right, pairForm_add_right,
    pairForm_comm hsymm y x]
  ring

/-- The form of two unit vectors is an entry. -/
theorem pairForm_single [DecidableEq κ] {i j : κ} (hi : i ∈ s) (hj : j ∈ s) :
    pairForm s rho (fun k => if k = i then 1 else 0)
      (fun k => if k = j then 1 else 0) = rho i j := by
  unfold pairForm
  simp [hi, hj]

/-- The form of a mixture with the constant matrix and the identity. -/
theorem pairForm_mix [DecidableEq κ] (a b c : R) (x : κ → R) :
    pairForm s (fun i j => a * rho i j + b + if i = j then c else 0) x x
      = a * pairForm s rho x x + b * (∑ i ∈ s, x i) ^ 2
        + c * ∑ i ∈ s, x i ^ 2 := by
  have hsquare : (∑ i ∈ s, x i) ^ 2 = ∑ i ∈ s, ∑ j ∈ s, x i * x j := by
    rw [sq, sum_mul_sum]
  have hdiag : ∀ i ∈ s, (∑ j ∈ s, x i * (if i = j then c else 0) * x j)
      = c * x i ^ 2 := by
    intro i hi
    simp [hi]
    ring
  unfold pairForm
  simp only [mul_add, add_mul, sum_add_distrib]
  rw [sum_congr rfl hdiag, hsquare]
  simp only [mul_sum]
  congr 2
  · refine sum_congr rfl fun i _ => sum_congr rfl fun j _ => ?_
    ring
  · refine sum_congr rfl fun i _ => sum_congr rfl fun j _ => ?_
    ring

-- =========================================================== semidefiniteness

variable [LinearOrder R] [IsStrictOrderedRing R]

/-- The form is nowhere negative. -/
def PairPsd (s : Finset κ) (rho : κ → κ → R) : Prop :=
  ∀ x, 0 ≤ pairForm s rho x x

/-- Cauchy and Schwarz, for a positive kernel. -/
theorem PairPsd.sq_le (h : PairPsd s rho) (hsymm : ∀ i j, rho i j = rho j i)
    (x y : κ → R) :
    pairForm s rho x y ^ 2 ≤ pairForm s rho x x * pairForm s rho y y := by
  let form : LinearMap.BilinForm R (κ → R) := LinearMap.mk₂ R (pairForm s rho)
    pairForm_add_left pairForm_mul_left pairForm_add_right pairForm_mul_right
  exact form.apply_sq_le_of_symm h ⟨pairForm_comm hsymm⟩ x y

/-- With a unit diagonal every entry is a correlation. -/
theorem PairPsd.abs_le_one [DecidableEq κ] (h : PairPsd s rho)
    (hsymm : ∀ i j, rho i j = rho j i) (hdiag : ∀ i, rho i i = 1) {i j : κ}
    (hi : i ∈ s) (hj : j ∈ s) : |rho i j| ≤ 1 := by
  have hsq := h.sq_le hsymm (fun k => if k = i then 1 else 0)
    fun k => if k = j then 1 else 0
  rw [pairForm_single hi hj, pairForm_single hi hi, pairForm_single hj hj,
    hdiag, hdiag, mul_one] at hsq
  exact (sq_le_one_iff_abs_le_one _).mp hsq

/-- Mixing with the constant kernel and the identity keeps a kernel positive. -/
theorem PairPsd.mix [DecidableEq κ] (h : PairPsd s rho) {a b c : R}
    (ha : 0 ≤ a) (hb : 0 ≤ b) (hc : 0 ≤ c) :
    PairPsd s fun i j => a * rho i j + b + if i = j then c else 0 := by
  intro x
  rw [pairForm_mix]
  have hform := mul_nonneg ha (h x)
  have hconst := mul_nonneg hb (sq_nonneg (∑ i ∈ s, x i))
  have hident := mul_nonneg hc (sum_nonneg fun i (_ : i ∈ s) => sq_nonneg (x i))
  exact add_nonneg (add_nonneg hform hconst) hident

-- ============================================================= standard roots

/-- The root of a sum's form is at most the sum of the roots. -/
theorem PairPsd.sqrt_add_le {rho : κ → κ → ℚ} (h : PairPsd s rho)
    (hsymm : ∀ i j, rho i j = rho j i) (x y : κ → ℚ) :
    Real.sqrt (pairForm s rho (fun i => x i + y i) (fun i => x i + y i) : ℚ)
      ≤ Real.sqrt (pairForm s rho x x : ℚ)
        + Real.sqrt (pairForm s rho y y : ℚ) := by
  rw [pairForm_add hsymm]
  have hx : (0 : ℝ) ≤ (pairForm s rho x x : ℚ) := by exact_mod_cast h x
  have hy : (0 : ℝ) ≤ (pairForm s rho y y : ℚ) := by exact_mod_cast h y
  have hcross : ((pairForm s rho x y : ℚ) : ℝ)
      ≤ Real.sqrt (pairForm s rho x x : ℚ)
        * Real.sqrt (pairForm s rho y y : ℚ) := by
    rw [← Real.sqrt_mul hx]
    have hsq : ((pairForm s rho x y : ℚ) : ℝ) ^ 2
        ≤ (pairForm s rho x x : ℚ) * (pairForm s rho y y : ℚ) := by
      exact_mod_cast h.sq_le hsymm x y
    exact (le_abs_self _).trans (Real.abs_le_sqrt hsq)
  apply Real.sqrt_le_iff.mpr
  constructor
  · positivity
  · push_cast
    rw [add_sq, Real.sq_sqrt hx, Real.sq_sqrt hy]
    linarith

end Warehouse.Lib
