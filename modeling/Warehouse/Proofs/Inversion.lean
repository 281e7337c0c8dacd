/-
`invert` inverts.

A column's turn is an exchange of rows and the clearing of a column
(`eliminateColumn_ok`), so after `c` turns the first `c` columns are those
of the identity and every row still records what was done to the matrix
(`eliminated_prefix`); after all of them the right half is the inverse. A
row that the loop leaves alone because its factor is nought is the row the
clearing would have made of it. Otherwise a column's turn raises for that
column (`invert_error`).

# The tolerance

The pivot is the entry of largest magnitude, and a pivot within the
tolerance of nought is turned away. So the function raises on every singular
matrix, on some that are not, and never returns a matrix that is not the
inverse. A matrix of one row shows the last kind of refusal.

# Sizes

Nothing here fixes the size. The abstract side is the library's elimination
on functions of two indices (`Lib.RowReduction`); lists enter with the shape
lemmas only, and the theorem is about `Matrix (Fin n) (Fin n) ℚ` for every
`n`.
-/
import Warehouse.Decision.BlackLitterman
import Warehouse.Lib.RowReduction

namespace Warehouse

open Lib RowReduction

variable {aug aug' matrix : List (List ℚ)} {n col : Nat}

-- ================================================================== cells

theorem cell_map_range {f : Nat → List ℚ} {i : Nat} (hi : i < n) (j : Nat) :
    cell ((List.range n).map f) i j = item (f i) j := by
  unfold cell
  rw [getD_map_range _ hi]

/-- A matrix of `n` rows of `w` entries. -/
structure Shaped (n w : Nat) (m : List (List ℚ)) : Prop where
  rows : m.length = n
  row : ∀ i < n, (m.getD i []).length = w

theorem shaped_map_range {w : Nat} {f : Nat → List ℚ}
    (h : ∀ i < n, (f i).length = w) :
    Shaped n w ((List.range n).map f) where
  rows := by rw [List.length_map, List.length_range]
  row i hi := by
    rw [getD_map_range _ hi]
    exact h i hi

/-- Dividing a row divides its entries, those beyond its end too. -/
theorem item_map_div (row : List ℚ) (q : ℚ) (j : Nat) :
    item (row.map (· / q)) j = item row j / q := by
  by_cases hj : j < row.length
  · simp [item, List.getD_eq_getElem?_getD, hj]
  · simp [item, List.getD_eq_getElem?_getD, not_lt.mp hj]

theorem item_drop (row : List ℚ) (n j : Nat) :
    item (row.drop n) j = item row (n + j) := by
  simp [item, List.getD_eq_getElem?_getD]

theorem getD_set (m : List (List ℚ)) {i : Nat} (hi : i < m.length)
    (row : List ℚ) (r : Nat) :
    (m.set i row).getD r [] = if r = i then row else m.getD r [] := by
  by_cases hr : r = i
  · subst hr
    simp [List.getD_eq_getElem?_getD, hi]
  · rw [if_neg hr]
    simp [List.getD_eq_getElem?_getD, List.getElem?_set_ne (Ne.symm hr)]

-- ================================================================ the pivot

/-- The pivot is found at or below the diagonal. -/
theorem pivotRow_mem (aug : List (List ℚ)) (hcol : col < n) :
    col ≤ pivotRow aug n col ∧ pivotRow aug n col < n := by
  unfold pivotRow
  refine List.foldlRecOn (motive := fun best => col ≤ best ∧ best < n) _ _
    ⟨le_rfl, hcol⟩ ?_
  intro best hbest r hr
  rw [List.mem_range'_1] at hr
  split
  · omega
  · exact hbest

-- ============================================================ the exchange

/-- Two rows exchanged, as the loop writes them. -/
def exchanged (aug : List (List ℚ)) (col p : Nat) : List (List ℚ) :=
  (aug.set col (aug.getD p [])).set p (aug.getD col [])

theorem getD_exchanged {w p : Nat} (hshape : Shaped n w aug) (hcol : col < n)
    (hp : p < n) (r : Nat) :
    (exchanged aug col p).getD r []
      = if r = p then aug.getD col [] else
        if r = col then aug.getD p [] else aug.getD r [] := by
  unfold exchanged
  rw [getD_set _ (by rw [List.length_set, hshape.rows]; exact hp),
    getD_set _ (by rw [hshape.rows]; exact hcol)]

theorem cell_exchanged {w p : Nat} (hshape : Shaped n w aug) (hcol : col < n)
    (hp : p < n) (i j : Nat) :
    cell (exchanged aug col p) i j = swapRows col p (cell aug) i j := by
  unfold cell swapRows
  rw [getD_exchanged hshape hcol hp]
  -- where the two rows are one, both ways of exchanging them are none
  by_cases hip : i = p
  · subst hip
    rw [if_pos rfl]
    by_cases hc : i = col
    · subst hc
      rw [if_pos rfl]
    · rw [if_neg hc, if_pos rfl]
  · rw [if_neg hip]
    by_cases hc : i = col
    · rw [if_pos hc, if_pos hc]
    · rw [if_neg hc, if_neg hc, if_neg hip]

theorem length_exchanged {w p : Nat} (hshape : Shaped n w aug)
    (hcol : col < n) (hp : p < n) {i : Nat} (hi : i < n) :
    ((exchanged aug col p).getD i []).length = w := by
  rw [getD_exchanged hshape hcol hp]
  by_cases hip : i = p
  · rw [if_pos hip]
    exact hshape.row col hcol
  · rw [if_neg hip]
    by_cases hc : i = col
    · rw [if_pos hc]
      exact hshape.row p hp
    · rw [if_neg hc]
      exact hshape.row i hi

-- ================================================================ one turn

/-- A row cleared against the pivot's. A factor of nought clears it as it
stands. -/
theorem item_eliminated (pivot row : List ℚ) {j : Nat} (hj : j < n + n) :
    item (eliminated n col pivot row) j
      = item row j - item row col * item pivot j := by
  unfold eliminated
  dsimp only
  by_cases hfactor : item row col = 0
  · rw [if_pos hfactor, hfactor, zero_mul, sub_zero]
  · rw [if_neg hfactor, item_map_range _ (by omega)]

theorem length_eliminated {pivot row : List ℚ} (hlen : row.length = 2 * n) :
    (eliminated n col pivot row).length = 2 * n := by
  unfold eliminated
  dsimp only
  split
  · exact hlen
  · rw [List.length_map, List.length_range]

/-- A turn that does not raise exchanges two rows and clears a column. -/
theorem eliminateColumn_ok (hshape : Shaped n (2 * n) aug) (hcol : col < n)
    (hrun : eliminateColumn n aug col = .ok aug') :
    Shaped n (2 * n) aug' ∧ ∃ p, col ≤ p ∧ p < n
      ∧ swapRows col p (cell aug) col col ≠ 0
      ∧ ∀ i < n, ∀ j < n + n, cell aug' i j
        = clearColumn col (swapRows col p (cell aug)) i j := by
  obtain ⟨hlow, hhigh⟩ := pivotRow_mem aug hcol
  unfold eliminateColumn at hrun
  dsimp only at hrun
  generalize pivotRow aug n col = p at hlow hhigh hrun
  by_cases hsmall : |cell aug p col| < singularEps
  · rw [if_pos hsmall] at hrun
    cases hrun
  rw [if_neg hsmall] at hrun
  have hcells := cell_exchanged hshape hcol hhigh
  have hlen : ∀ {i}, i < n → _ := length_exchanged hshape hcol hhigh
  unfold exchanged at hcells hlen
  generalize (aug.set col (aug.getD p [])).set p (aug.getD col []) = swapped
    at hrun hcells hlen
  have hpivot : swapRows col p (cell aug) col col ≠ 0 := by
    unfold swapRows
    rw [if_pos rfl]
    intro hzero
    apply hsmall
    rw [hzero, abs_zero]
    norm_num [singularEps]
  have hrun' := Except.ok.inj hrun
  subst hrun'
  constructor
  · apply shaped_map_range
    intro r hr
    by_cases hrc : r = col
    · rw [if_pos hrc, List.length_map]
      exact hlen hcol
    · rw [if_neg hrc]
      exact length_eliminated (hlen hr)
  · refine ⟨p, hlow, hhigh, hpivot, fun i hi j hj => ?_⟩
    have hscaled : ∀ k, item ((swapped.getD col []).map
        (· / cell swapped col col)) k
          = swapRows col p (cell aug) col k
            / swapRows col p (cell aug) col col := by
      intro k
      rw [item_map_div, hcells col col]
      exact congrArg (· / _) (hcells col k)
    rw [cell_map_range hi]
    unfold clearColumn
    by_cases hic : i = col
    · rw [if_pos hic, if_pos hic]
      exact hscaled j
    · rw [if_neg hic, if_neg hic, item_eliminated _ _ hj, hscaled]
      show cell swapped i j - cell swapped i col * _ = _
      rw [hcells, hcells]

-- ================================================================= the loop

/-- The augmented matrix is twice as wide. -/
theorem shaped_augmented (matrix : List (List ℚ)) :
    Shaped matrix.length (2 * matrix.length) (augmented matrix) := by
  apply shaped_map_range
  intro i _
  rw [List.length_append, List.length_map, List.length_map, List.length_range]
  omega

/-- On the left the matrix, on the right the identity. -/
theorem cell_augmented {i j : Nat} (hi : i < matrix.length)
    (hj : j < matrix.length) :
    cell (augmented matrix) i j = cell matrix i j
      ∧ cell (augmented matrix) i (matrix.length + j) = unit i j := by
  unfold augmented
  constructor
  · rw [cell_map_range hi]
    simp [item, List.getD_eq_getElem?_getD, List.getElem?_append, hj]
  · rw [cell_map_range hi]
    simp [item, List.getD_eq_getElem?_getD, hj, unit]

/-- Nothing has been done yet. -/
theorem records_augmented (matrix : List (List ℚ)) :
    Records matrix.length (cell matrix) (cell (augmented matrix)) := by
  intro i hi j hj
  rw [(cell_augmented hi hj).1]
  have hterms : ∀ k ∈ Finset.range matrix.length,
      cell (augmented matrix) i (matrix.length + k) * cell matrix k j
        = if i = k then cell matrix k j else 0 := by
    intro k hk
    rw [(cell_augmented hi (Finset.mem_range.mp hk)).2]
    unfold unit
    rw [ite_mul, one_mul, zero_mul]
  rw [Finset.sum_congr rfl hterms, Finset.sum_ite_eq,
    if_pos (Finset.mem_range.mpr hi)]

/-- After the turns of the first `c` columns. -/
theorem eliminated_prefix (matrix : List (List ℚ)) (c : Nat)
    (hc : c ≤ matrix.length) : ∀ aug,
    (List.range c).foldlM (eliminateColumn matrix.length) (augmented matrix)
      = .ok aug →
    Shaped matrix.length (2 * matrix.length) aug
      ∧ Reduced matrix.length c (cell aug)
      ∧ Records matrix.length (cell matrix) (cell aug) := by
  induction c with
  | zero =>
      intro aug hrun
      cases hrun
      exact ⟨shaped_augmented matrix, fun _ _ _ hj => absurd hj (by omega),
        records_augmented matrix⟩
  | succ c ih =>
      intro aug' hrun
      rw [List.range_succ, List.foldlM_append] at hrun
      obtain ⟨aug, hbefore, hrun⟩ := bind_ok_iff.mp hrun
      rw [List.foldlM_cons] at hrun
      obtain ⟨last, hturn, hrun⟩ := bind_ok_iff.mp hrun
      cases hrun
      obtain ⟨hshape, hreduced, hrecords⟩ := ih (by omega) aug hbefore
      obtain ⟨hshape', p, hlow, hhigh, hpivot, hcells⟩ :=
        eliminateColumn_ok hshape (by omega) hturn
      exact ⟨hshape',
        ((hreduced.swapRows (by omega) hlow hhigh).clearColumn (by omega)
          hpivot).congr hc hcells,
        ((hrecords.swapRows (by omega) hhigh).clearColumn
          (by omega)).congr hcells⟩

/-- What `invert` returns is the inverse. -/
theorem invert_ok {inverse : List (List ℚ)}
    (hrun : invert matrix = .ok inverse) :
    Shaped matrix.length matrix.length inverse
      ∧ InverseOf matrix.length (cell matrix) (cell inverse) := by
  unfold invert at hrun
  dsimp only at hrun
  obtain ⟨aug, hfold, hrun⟩ := bind_ok_iff.mp hrun
  cases hrun
  obtain ⟨hshape, hreduced, hrecords⟩ :=
    eliminated_prefix matrix matrix.length le_rfl aug hfold
  have hrow : ∀ i, (aug.map (·.drop matrix.length)).getD i []
      = (aug.getD i []).drop matrix.length := by
    intro i
    rw [List.getD_eq_getElem?_getD, List.getD_eq_getElem?_getD,
      List.getElem?_map]
    cases aug[i]? with
    | none => exact List.drop_nil.symm
    | some row => rfl
  have hcell : cell (aug.map (·.drop matrix.length))
      = fun i j => cell aug i (matrix.length + j) := by
    funext i j
    unfold cell
    rw [hrow, item_drop]
  constructor
  · refine ⟨by rw [List.length_map, hshape.rows], fun i hi => ?_⟩
    rw [hrow, List.length_drop, hshape.row i hi]
    omega
  · rw [hcell]
    exact hrecords.inverse hreduced

-- ==================================================== every square matrix

/-- A turn raises for its own column, and nothing else. -/
theorem eliminateColumn_error {err : Exc}
    (hrun : eliminateColumn n aug col = .error err) :
    err = .singularCovariance (singularMessage col) := by
  unfold eliminateColumn at hrun
  dsimp only at hrun
  split at hrun
  · cases hrun
    rfl
  · cases hrun

/-- An elimination that fails names the column it fails at. -/
theorem foldlM_eliminateColumn_error {err : Exc} (cols : List Nat) :
    ∀ aug, cols.foldlM (eliminateColumn n) aug = .error err →
      ∃ col ∈ cols, err = .singularCovariance (singularMessage col) := by
  induction cols with
  | nil =>
      intro aug hrun
      cases hrun
  | cons col cols ih =>
      intro aug hrun
      rw [List.foldlM_cons] at hrun
      cases hturn : eliminateColumn n aug col with
      | error err' =>
          rw [hturn] at hrun
          cases hrun
          exact ⟨col, List.mem_cons_self, eliminateColumn_error hturn⟩
      | ok aug' =>
          rw [hturn] at hrun
          obtain ⟨c, hc, herr⟩ := ih aug' hrun
          exact ⟨c, List.mem_cons_of_mem col hc, herr⟩

/-- `invert` returns, or raises for one of its columns. -/
theorem invert_error {err : Exc} (hrun : invert matrix = .error err) :
    ∃ c < matrix.length, err = .singularCovariance (singularMessage c) := by
  unfold invert at hrun
  dsimp only at hrun
  cases hfold : (List.range matrix.length).foldlM
      (eliminateColumn matrix.length) (augmented matrix) with
  | error err' =>
      rw [hfold] at hrun
      cases hrun
      obtain ⟨c, hc, herr⟩ := foldlM_eliminateColumn_error _ _ hfold
      exact ⟨c, List.mem_range.mp hc, herr⟩
  | ok aug =>
      rw [hfold] at hrun
      cases hrun

/-- The rows of a square matrix. -/
def rowsOf (a : Matrix (Fin n) (Fin n) ℚ) : List (List ℚ) :=
  List.ofFn fun i => List.ofFn (a i)

theorem length_rowsOf (a : Matrix (Fin n) (Fin n) ℚ) :
    (rowsOf a).length = n := by
  unfold rowsOf
  rw [List.length_ofFn]

theorem cell_rowsOf (a : Matrix (Fin n) (Fin n) ℚ) (i j : Fin n) :
    cell (rowsOf a) i j = a i j := by
  unfold cell item rowsOf
  simp [List.getD_eq_getElem?_getD]

/-- Rows of the right number and length are those of a matrix. -/
theorem rowsOf_cell {m : List (List ℚ)} (hshape : Shaped n n m) :
    rowsOf (fun i j : Fin n => cell m i j) = m := by
  unfold rowsOf
  apply List.ext_getElem
  · rw [List.length_ofFn, hshape.rows]
  intro i hi hi'
  have hrow : m.getD i [] = m[i] := by
    simp [List.getD_eq_getElem?_getD, hi']
  have hlen := hshape.row i (by rw [← hshape.rows]; exact hi')
  rw [hrow] at hlen
  rw [List.getElem_ofFn]
  apply List.ext_getElem
  · rw [List.length_ofFn, hlen]
  intro j hj hj'
  rw [List.getElem_ofFn]
  show (m.getD i []).getD j 0 = m[i][j]
  rw [hrow]
  simp [List.getD_eq_getElem?_getD, hj']

/-- Inverse in its cells, inverse as a matrix. -/
theorem mul_eq_one_of_inverseOf {a b : Matrix (Fin n) (Fin n) ℚ}
    (h : InverseOf n (cell (rowsOf a)) (cell (rowsOf b))) :
    a * b = 1 ∧ b * a = 1 := by
  have hone : a * b = 1 := by
    ext i j
    have hcell := h.right i i.isLt j j.isLt
    rw [Finset.sum_range] at hcell
    simp only [cell_rowsOf] at hcell
    rw [Matrix.mul_apply, hcell, Matrix.one_apply]
    unfold unit
    by_cases hij : i = j
    · rw [if_pos (congrArg Fin.val hij), if_pos hij]
    · rw [if_neg fun hval => hij (Fin.ext hval), if_neg hij]
  exact ⟨hone, mul_eq_one_comm.mp hone⟩

/-- `invert` raises for a column of the matrix or returns the inverse, and
a singular matrix has none to return. The tolerance turns away matrices
that have one. -/
theorem invert_raises_or_inverts :
    (∀ (n : Nat) (a : Matrix (Fin n) (Fin n) ℚ),
      ((∃ c < n, invert (rowsOf a)
          = .error (.singularCovariance (singularMessage c)))
        ∨ ∃ b : Matrix (Fin n) (Fin n) ℚ,
          invert (rowsOf a) = .ok (rowsOf b) ∧ a * b = 1 ∧ b * a = 1)
      ∧ (a.det = 0 → ∃ c < n, invert (rowsOf a)
          = .error (.singularCovariance (singularMessage c))))
    ∧ ∃ a : Matrix (Fin 1) (Fin 1) ℚ, a.det ≠ 0
        ∧ invert (rowsOf a)
          = .error (.singularCovariance (singularMessage 0)) := by
  have hboth : ∀ (n : Nat) (a : Matrix (Fin n) (Fin n) ℚ),
      (∃ c < n, invert (rowsOf a)
          = .error (.singularCovariance (singularMessage c)))
        ∨ ∃ b : Matrix (Fin n) (Fin n) ℚ,
          invert (rowsOf a) = .ok (rowsOf b) ∧ a * b = 1 ∧ b * a = 1 := by
    intro n a
    cases hrun : invert (rowsOf a) with
    | error err =>
        obtain ⟨c, hc, herr⟩ := invert_error hrun
        rw [length_rowsOf] at hc
        exact .inl ⟨c, hc, by rw [herr]⟩
    | ok inverse =>
        obtain ⟨hshape, hinverse⟩ := invert_ok hrun
        rw [length_rowsOf] at hshape hinverse
        have hrows := rowsOf_cell hshape
        rw [← hrows] at hinverse
        exact .inr ⟨fun i j => cell inverse i j, by rw [hrows],
          mul_eq_one_of_inverseOf hinverse⟩
  refine ⟨fun n a => ⟨hboth n a, fun hdet => ?_⟩,
    !![1 / 10 ^ 13], ?_, by decide +kernel⟩
  · rcases hboth n a with hraise | ⟨b, -, hab, -⟩
    · exact hraise
    · -- a matrix with an inverse has a determinant that divides one
      have hone : a.det * b.det = 1 := by
        rw [← Matrix.det_mul, hab, Matrix.det_one]
      rw [hdet, zero_mul] at hone
      exact absurd hone zero_ne_one
  · rw [Matrix.det_fin_one]
    norm_num

end Warehouse
