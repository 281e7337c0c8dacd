/-
Gauss–Jordan elimination on an augmented matrix, over a field.

An augmented matrix has `2n` columns: a matrix that is being reduced, and
beside it the record of what was done. Two facts survive an exchange of
rows and the clearing of a column: the columns cleared so far are those of
the identity (`Reduced`), and every row of the left half is its right half
times the matrix one started from (`Records`), a fact of each row by
itself that a combination of rows inherits. Reduced to the end, the right
half is the inverse, on both sides (`Records.inverse`).
-/
import Mathlib.Algebra.BigOperators.Field
import Mathlib.LinearAlgebra.Matrix.NonsingularInverse

namespace Warehouse.Lib.RowReduction

variable {K : Type*} [Field K]

/-- Exchange two rows. -/
def swapRows (p q : ℕ) (m : ℕ → ℕ → K) : ℕ → ℕ → K := fun i =>
  if i = p then m q else if i = q then m p else m i

/-- Divide row `c` by its pivot and clear column `c` of the others. -/
def clearColumn (c : ℕ) (m : ℕ → ℕ → K) : ℕ → ℕ → K := fun i j =>
  if i = c then m c j / m c c else m i j - m i c * (m c j / m c c)

/-- An entry of the identity. -/
def unit (i j : ℕ) : K := if i = j then 1 else 0

/-- The first `c` columns are those of the identity. -/
def Reduced (n c : ℕ) (m : ℕ → ℕ → K) : Prop :=
  ∀ i < n, ∀ j < c, m i j = unit i j

/-- Every row of the left half is its right half times `a`. -/
def Records (n : ℕ) (a m : ℕ → ℕ → K) : Prop :=
  ∀ i < n, ∀ j < n, m i j = ∑ k ∈ Finset.range n, m i (n + k) * a k j

variable {n c p : ℕ} {a m m' : ℕ → ℕ → K}

theorem Reduced.congr (h : Reduced n c m) (hc : c ≤ n)
    (heq : ∀ i < n, ∀ j < n + n, m' i j = m i j) : Reduced n c m' := by
  intro i hi j hj
  rw [heq i hi j (by omega)]
  exact h i hi j hj

theorem Records.congr (h : Records n a m)
    (heq : ∀ i < n, ∀ j < n + n, m' i j = m i j) : Records n a m' := by
  intro i hi j hj
  rw [heq i hi j (by omega), h i hi j hj]
  apply Finset.sum_congr rfl
  intro k hk
  rw [heq i hi (n + k) (by have := Finset.mem_range.mp hk; omega)]

-- ======================================================= exchanges of rows

/-- Rows below the cleared columns may be exchanged. -/
theorem Reduced.swapRows (h : Reduced n c m) (hc : c < n) (hcp : c ≤ p)
    (hp : p < n) : Reduced n c (swapRows c p m) := by
  intro i hi j hj
  unfold RowReduction.swapRows
  by_cases hic : i = c
  · subst hic
    rw [if_pos rfl, h p hp j hj]
    unfold unit
    rw [if_neg (by omega), if_neg (by omega)]
  · rw [if_neg hic]
    by_cases hip : i = p
    · subst hip
      rw [if_pos rfl, h c hc j hj]
      unfold unit
      rw [if_neg (by omega), if_neg (by omega)]
    · rw [if_neg hip]
      exact h i hi j hj

theorem Records.swapRows (h : Records n a m) (hc : c < n) (hp : p < n) :
    Records n a (swapRows c p m) := by
  intro i hi j hj
  unfold RowReduction.swapRows
  by_cases hic : i = c
  · simp only [if_pos hic]
    exact h p hp j hj
  · simp only [if_neg hic]
    by_cases hip : i = p
    · simp only [if_pos hip]
      exact h c hc j hj
    · simp only [if_neg hip]
      exact h i hi j hj

-- ======================================================= clearing a column

/-- One column more is cleared. -/
theorem Reduced.clearColumn (h : Reduced n c m) (hc : c < n)
    (hpivot : m c c ≠ 0) : Reduced n (c + 1) (clearColumn c m) := by
  intro i hi j hj
  unfold RowReduction.clearColumn
  by_cases hjc : j = c
  · subst hjc
    rw [div_self hpivot]
    unfold unit
    by_cases hic : i = j
    · rw [if_pos hic, if_pos hic]
    · rw [if_neg hic, if_neg hic, mul_one, sub_self]
  · -- row `c` has nothing in the columns already cleared
    have hzero : m c j = 0 := by
      rw [h c hc j (by omega)]
      exact if_neg (by omega)
    rw [hzero, zero_div, mul_zero, sub_zero]
    by_cases hic : i = c
    · subst hic
      rw [if_pos rfl]
      exact (if_neg (by omega)).symm
    · rw [if_neg hic]
      exact h i hi j (by omega)

theorem Records.clearColumn (h : Records n a m) (hc : c < n) :
    Records n a (clearColumn c m) := by
  intro i hi j hj
  unfold RowReduction.clearColumn
  have hrow : m c j / m c c
      = ∑ k ∈ Finset.range n, m c (n + k) / m c c * a k j := by
    rw [h c hc j hj, Finset.sum_div]
    apply Finset.sum_congr rfl
    intro k _
    rw [div_mul_eq_mul_div]
  by_cases hic : i = c
  · simp only [if_pos hic]
    exact hrow
  · simp only [if_neg hic]
    rw [hrow, h i hi j hj, Finset.mul_sum, ← Finset.sum_sub_distrib]
    apply Finset.sum_congr rfl
    intro k _
    ring

-- ============================================================= the inverse

/-- Two square matrices are inverse to each other. -/
structure InverseOf (n : ℕ) (a b : ℕ → ℕ → K) : Prop where
  left : ∀ i < n, ∀ j < n,
    ∑ k ∈ Finset.range n, b i k * a k j = unit i j
  right : ∀ i < n, ∀ j < n,
    ∑ k ∈ Finset.range n, a i k * b k j = unit i j

theorem InverseOf.symm {b : ℕ → ℕ → K} (h : InverseOf n a b) :
    InverseOf n b a := ⟨h.right, h.left⟩

/-- A left inverse of a square matrix is a right one. -/
theorem InverseOf.of_left {b : ℕ → ℕ → K}
    (h : ∀ i < n, ∀ j < n,
      ∑ k ∈ Finset.range n, b i k * a k j = unit i j) :
    InverseOf n a b := by
  let matrix (f : ℕ → ℕ → K) : Matrix (Fin n) (Fin n) K := fun i j => f i j
  have hmul : ∀ (f g : ℕ → ℕ → K) (i j : Fin n),
      (matrix f * matrix g) i j = ∑ k ∈ Finset.range n, f i k * g k j := by
    intro f g i j
    rw [Matrix.mul_apply, Finset.sum_range]
  have hone : ∀ i j : Fin n,
      (1 : Matrix (Fin n) (Fin n) K) i j = unit (i : ℕ) j := by
    intro i j
    rw [Matrix.one_apply]
    unfold unit
    by_cases hij : i = j
    · rw [if_pos hij, if_pos (congrArg Fin.val hij)]
    · rw [if_neg hij, if_neg fun h => hij (Fin.ext h)]
  have hba : matrix b * matrix a = 1 := by
    ext i j
    rw [hmul, hone]
    exact h i i.isLt j j.isLt
  have hab : matrix a * matrix b = 1 := mul_eq_one_comm.mp hba
  refine ⟨h, fun i hi j hj => ?_⟩
  rw [← hone ⟨i, hi⟩ ⟨j, hj⟩, ← hab, hmul]

/-- Reduced to the end, the right half is the inverse. -/
theorem Records.inverse (h : Records n a m) (hreduced : Reduced n n m) :
    InverseOf n a fun i j => m i (n + j) := by
  apply InverseOf.of_left
  intro i hi j hj
  rw [← h i hi j hj]
  exact hreduced i hi j hj

/-- What an inverse does to an image. -/
theorem InverseOf.solve {b : ℕ → ℕ → K} (h : InverseOf n a b)
    {x y : ℕ → K}
    (hy : ∀ i < n, y i = ∑ k ∈ Finset.range n, a i k * x k) {i : ℕ}
    (hi : i < n) : ∑ k ∈ Finset.range n, b i k * y k = x i := by
  calc ∑ k ∈ Finset.range n, b i k * y k
      = ∑ k ∈ Finset.range n, ∑ l ∈ Finset.range n,
          b i k * a k l * x l := by
        apply Finset.sum_congr rfl
        intro k hk
        rw [hy k (Finset.mem_range.mp hk), Finset.mul_sum]
        apply Finset.sum_congr rfl
        intro l _
        rw [mul_assoc]
    _ = ∑ l ∈ Finset.range n, ∑ k ∈ Finset.range n,
          b i k * a k l * x l := Finset.sum_comm
    _ = ∑ l ∈ Finset.range n, unit i l * x l := by
        apply Finset.sum_congr rfl
        intro l hl
        rw [← Finset.sum_mul, h.left i hi l (Finset.mem_range.mp hl)]
    _ = x i := by
        unfold unit
        simp only [ite_mul, one_mul, zero_mul]
        rw [Finset.sum_ite_eq, if_pos (Finset.mem_range.mpr hi)]

end Warehouse.Lib.RowReduction
