/-
One view, blended.

A view adds one entry to the precision matrix and one to the right-hand
side (`addView_eq`). The closed form is guessed and checked: with the
displacement of the prior along the covariance's column of the viewed
sleeve it solves the posterior's linear system, and the code multiplies
the right-hand side by the inverse, so it returns that solution.

# The hypotheses

A view is in range (`ViewInRange`) when neither its confidence is clamped
nor its variance lifted to the floor the source puts under it. That a
posterior was returned is a hypothesis, and says that the elimination met no
degenerate column; nothing else is asked of the covariance, and the number
of sleeves is arbitrary.

# What the closed form says

The viewed sleeve moves by the confidence's share of the view, and every
other sleeve moves along with it by the ratio of its covariance to the
viewed sleeve's variance. So the posterior of the viewed sleeve lies between
prior and view, and the surer view carries it further.
-/
import Warehouse.Decision.Beliefs
import Warehouse.Proofs.Inversion
import Warehouse.Proofs.Projection

namespace Warehouse

open Lib RowReduction

variable {σ : Type} [DecidableEq σ] {names : SleeveNames σ}
  {priorMu : Dict σ ℚ} {sigma : List (List ℚ)} {tau : ℚ} {n : Nat}

-- ============================================================ accumulating

theorem item_modify {v : List ℚ} (c : Nat) (w : ℚ) {j : Nat}
    (hj : j < v.length) :
    item (v.modify c (· + w)) j = item v j + if j = c then w else 0 := by
  by_cases hjc : j = c
  · subst hjc
    simp [item, List.getD_eq_getElem?_getD, hj]
  · have hne : ¬c = j := fun h => hjc h.symm
    simp [item, List.getD_eq_getElem?_getD, hjc, hne]

theorem getD_modify {m : List (List ℚ)} (c : Nat)
    (f : List ℚ → List ℚ) {i : Nat} (hi : i < m.length) :
    (m.modify c f).getD i [] = if i = c then f (m.getD i []) else m.getD i []
    := by
  by_cases hic : i = c
  · subst hic
    simp [List.getD_eq_getElem?_getD, hi]
  · have hne : ¬c = i := fun h => hic h.symm
    simp [List.getD_eq_getElem?_getD, hic, hne]

/-- A row of P with its one in column `col`. -/
def oneHot (n col : Nat) : List ℚ :=
  (List.range n).map fun c => if c = col then 1 else 0

theorem find_oneHot {col : Nat} (hcol : col < n) :
    ((List.range n).find? fun c => item (oneHot n col) c ≠ 0) = some col := by
  rw [List.find?_range_eq_some]
  have hitem : ∀ c < n, item (oneHot n col) c = if c = col then 1 else 0 :=
    fun c hc => item_map_range _ hc
  refine ⟨?_, List.mem_range.mpr hcol, fun c hc => ?_⟩
  · rw [hitem col hcol, if_pos rfl]
    exact decide_eq_true one_ne_zero
  · rw [hitem c (by omega), if_neg (by omega)]
    simp

/-- What a view on column `col` adds to the sums. -/
theorem addView_eq {sums : ViewSums} (hshape : Shaped n n sums.precision)
    (hpull : sums.pull.length = n) {row : ViewRow} {col : Nat}
    (hcol : col < n) (hpick : row.pick = oneHot n col) :
    Shaped n n (addView n sums row).precision
      ∧ (addView n sums row).pull.length = n
      ∧ ∀ i < n, item (addView n sums row).pull i = item sums.pull i
          + (if i = col then row.omegaInv * row.target else 0)
        ∧ ∀ j < n, cell (addView n sums row).precision i j
          = cell sums.precision i j
            + if i = col ∧ j = col then row.omegaInv else 0 := by
  have hadd : addView n sums row
      = { precision := sums.precision.modify col fun r =>
            r.modify col (· + row.omegaInv)
          pull := sums.pull.modify col (· + row.omegaInv * row.target) } := by
    unfold addView
    rw [hpick, find_oneHot hcol]
  rw [hadd]
  refine ⟨⟨?_, fun i hi => ?_⟩, ?_, fun i hi => ⟨?_, fun j hj => ?_⟩⟩
  · rw [List.length_modify, hshape.rows]
  · rw [getD_modify _ _ (by rw [hshape.rows]; exact hi)]
    split
    · rw [List.length_modify, hshape.row i hi]
    · exact hshape.row i hi
  · rw [List.length_modify, hpull]
  · exact item_modify _ _ (by rw [hpull]; exact hi)
  · unfold cell
    rw [getD_modify _ _ (by rw [hshape.rows]; exact hi)]
    by_cases hic : i = col
    · rw [if_pos hic, item_modify _ _ (by rw [hshape.row i hi]; exact hj)]
      simp only [hic, true_and]
    · rw [if_neg hic, if_neg fun h => hic h.1, add_zero]

/-- Before the first view every sum is zero. -/
theorem noViews_cells : Shaped n n (noViews n).precision
    ∧ (noViews n).pull.length = n
    ∧ ∀ i < n, item (noViews n).pull i = 0
      ∧ ∀ j < n, cell (noViews n).precision i j = 0 := by
  unfold noViews
  refine ⟨⟨List.length_replicate, fun i hi => ?_⟩, List.length_replicate,
    fun i hi => ⟨?_, fun j hj => ?_⟩⟩
  · simp [List.getD_eq_getElem?_getD, hi]
  · simp [item, List.getD_eq_getElem?_getD, hi]
  · simp [cell, item, List.getD_eq_getElem?_getD, hi, hj]

-- ============================================================== the system

/-- A matrix-vector product, as a finite sum. -/
theorem item_matvec {a : List (List ℚ)} {v : List ℚ} {i : Nat}
    (hi : i < a.length) :
    item (matvec a v) i
      = ∑ k ∈ Finset.range v.length, cell a i k * item v k := by
  unfold matvec
  rw [item_map_range _ hi, sumRange_eq_finsetSum]

/-- The sum of square matrices, entry by entry. -/
theorem matadd_cells {a b : List (List ℚ)} (ha : Shaped n n a) :
    (matadd a b).length = n ∧ ∀ i < n, ∀ j < n,
      cell (matadd a b) i j = cell a i j + cell b i j := by
  unfold matadd
  rw [ha.rows]
  refine ⟨by rw [List.length_map, List.length_range], fun i hi j hj => ?_⟩
  have hhead : (a.headD []).length = n := by
    have hrow := ha.row 0 (by omega)
    cases a with
    | nil => exact hrow
    | cons row rest => exact hrow
  rw [cell_map_range hi, hhead, item_map_range _ hj]

/-- `τΣ`. -/
def tauSigma (n : Nat) (sigma : List (List ℚ)) (tau : ℚ) : List (List ℚ) :=
  (List.range n).map fun i =>
    (List.range n).map fun j => tau * cell sigma i j

theorem length_tauSigma : (tauSigma n sigma tau).length = n := by
  rw [tauSigma, List.length_map, List.length_range]

/-- The scaled covariance, entry by entry. -/
theorem cell_tauSigma {i j : Nat} (hi : i < n) (hj : j < n) :
    cell (tauSigma n sigma tau) i j = tau * cell sigma i j := by
  unfold tauSigma
  rw [cell_map_range hi, item_map_range _ hj]

/-- The sums of a list of views. -/
def viewSums (n : Nat) (rows : List ViewRow) : ViewSums :=
  rows.foldl (addView n) (noViews n)

/-- The right-hand side of the posterior's system. -/
def pulled (n : Nat) (inverse : List (List ℚ)) (pi : List ℚ)
    (sums : ViewSums) : List ℚ :=
  (List.range n).map fun i => item (matvec inverse pi) i + item sums.pull i

/-- The steps of a posterior. -/
theorem posteriorMu_iff {views : List (View σ)} {posterior : List ℚ} :
    posteriorMu names priorMu sigma views tau = .ok posterior
      ↔ ∃ inverse,
        invert (tauSigma priorMu.keys.length sigma tau) = .ok inverse
        ∧ ∃ rows, views.mapM (viewRow names priorMu.keys priorMu.values sigma
          tau) = .ok rows
        ∧ ∃ precisionInv, invert (matadd inverse
          (viewSums priorMu.keys.length rows).precision) = .ok precisionInv
        ∧ matvec precisionInv (pulled priorMu.keys.length inverse
          priorMu.values (viewSums priorMu.keys.length rows)) = posterior := by
  unfold posteriorMu
  dsimp only
  rw [bind_ok_iff]
  apply exists_congr
  intro inverse
  rw [bind_ok_iff]
  apply and_congr Iff.rfl
  apply exists_congr
  intro rows
  rw [bind_ok_iff]
  apply and_congr Iff.rfl
  apply exists_congr
  intro precisionInv
  exact and_congr Iff.rfl ⟨Except.ok.inj, congrArg Except.ok⟩

/-- A vector that solves the system of the views is the posterior. -/
theorem posterior_solves {inverse precisionInv : List (List ℚ)}
    {pi : List ℚ} {sums : ViewSums} (hpi : pi.length = n)
    (hinv : invert (tauSigma n sigma tau) = .ok inverse)
    (hprec : invert (matadd inverse sums.precision) = .ok precisionInv)
    {x : ℕ → ℚ}
    (hx : ∀ i < n,
      ∑ k ∈ Finset.range n, cell inverse i k * item pi k + item sums.pull i
        = ∑ k ∈ Finset.range n,
          (cell inverse i k + cell sums.precision i k) * x k)
    {i : Nat} (hi : i < n) :
    item (matvec precisionInv (pulled n inverse pi sums)) i = x i := by
  obtain ⟨hshape, -⟩ := invert_ok hinv
  rw [length_tauSigma] at hshape
  obtain ⟨hsize, hcells⟩ := matadd_cells (b := sums.precision) hshape
  obtain ⟨hshape', hinverse⟩ := invert_ok hprec
  rw [hsize] at hshape' hinverse
  unfold pulled
  rw [item_matvec (by rw [hshape'.rows]; exact hi), List.length_map,
    List.length_range]
  apply hinverse.solve _ hi
  intro k hk
  rw [item_map_range _ hk, item_matvec (by rw [hshape.rows]; exact hk), hpi]
  refine (hx k hk).trans ?_
  apply Finset.sum_congr rfl
  intro l hl
  rw [hcells k hk l (Finset.mem_range.mp hl)]

-- ================================================================ one view

/-- The view's confidence is within the clamp, and its variance above the
floor. -/
structure ViewInRange (priorMu : Dict σ ℚ) (sigma : List (List ℚ)) (tau : ℚ)
    (view : View σ) : Prop where
  floor : confFloor ≤ view.confidence
  ceil : view.confidence ≤ confCeil
  unfloored : singularEps ≤ tau * cell sigma
      (priorMu.keys.idxOf view.sleeve) (priorMu.keys.idxOf view.sleeve)
    * (1 - view.confidence) / view.confidence

/-- A view in range has a confidence above zero. -/
theorem ViewInRange.confidence_pos {view : View σ}
    (h : ViewInRange priorMu sigma tau view) : 0 < view.confidence :=
  lt_of_lt_of_le (by norm_num [confFloor]) h.floor

theorem ViewInRange.confidence_lt_one {view : View σ}
    (h : ViewInRange priorMu sigma tau view) : view.confidence < 1 :=
  lt_of_le_of_lt h.ceil (by norm_num [confCeil])

/-- Its uncertainty is what the formula says. -/
theorem ViewInRange.viewOmega_eq {view : View σ}
    (h : ViewInRange priorMu sigma tau view) :
    viewOmega sigma tau view.confidence (priorMu.keys.idxOf view.sleeve)
      = tau * cell sigma (priorMu.keys.idxOf view.sleeve)
          (priorMu.keys.idxOf view.sleeve)
        * (1 - view.confidence) / view.confidence := by
  unfold viewOmega
  dsimp only
  rw [max_eq_left h.floor, min_eq_left h.ceil,
    if_neg (not_lt.mpr h.unfloored)]

theorem viewRow_ok {sleeves : List σ} {pi : List ℚ} {view : View σ}
    {row : ViewRow}
    (hrow : viewRow names sleeves pi sigma tau view = .ok row) :
    sleeves.idxOf view.sleeve < sleeves.length
      ∧ row.pick = oneHot sleeves.length (sleeves.idxOf view.sleeve)
      ∧ row.target = item pi (sleeves.idxOf view.sleeve)
        + view.expectedExcess
      ∧ row.omegaInv = 1 / viewOmega sigma tau view.confidence
        (sleeves.idxOf view.sleeve) := by
  unfold viewRow at hrow
  by_cases hin : view.sleeve ∈ sleeves
  · rw [if_neg (not_not.mpr hin)] at hrow
    obtain rfl := Except.ok.inj hrow
    exact ⟨List.idxOf_lt_length_iff.mpr hin, rfl, rfl, rfl⟩
  · rw [if_pos hin] at hrow
    cases hrow

theorem mapM_singleton_ok {α β : Type} {f : α → Except Exc β} {a : α}
    {bs : List β} (h : [a].mapM f = .ok bs) : ∃ b, f a = .ok b ∧ bs = [b] := by
  rw [List.mapM_cons] at h
  obtain ⟨b, hb, h⟩ := bind_ok_iff.mp h
  cases h
  exact ⟨b, hb, rfl⟩

/-- The sums of one view: a spike at its column. -/
theorem viewSums_single {row : ViewRow} {k : Nat} (hk : k < n)
    (hpick : row.pick = oneHot n k) {i : Nat} (hi : i < n) :
    item (viewSums n [row]).pull i
        = (if i = k then row.omegaInv * row.target else 0)
      ∧ ∀ l < n, cell (viewSums n [row]).precision i l
        = if i = k ∧ l = k then row.omegaInv else 0 := by
  obtain ⟨hshape, hpull, hzero⟩ := noViews_cells (n := n)
  obtain ⟨-, -, hsums⟩ := addView_eq hshape hpull hk hpick
  constructor
  · refine (hsums i hi).1.trans ?_
    rw [(hzero i hi).1, zero_add]
  · intro l hl
    refine ((hsums i hi).2 l hl).trans ?_
    rw [(hzero i hi).2 l hl, zero_add]

/-- A spike added to a row meets one entry of a column. -/
theorem sum_add_spike {k : Nat} (hk : k < n) (i : Nat) (a x : ℕ → ℚ) (w : ℚ) :
    ∑ l ∈ Finset.range n, (a l + if i = k ∧ l = k then w else 0) * x l
      = ∑ l ∈ Finset.range n, a l * x l + if i = k then w * x k else 0 := by
  have hsplit : ∀ l ∈ Finset.range n,
      (a l + if i = k ∧ l = k then w else 0) * x l
        = a l * x l + if l = k then (if i = k then w else 0) * x l else 0 := by
    intro l _
    by_cases hlk : l = k
    · simp only [hlk, and_true, if_true]
      ring
    · simp only [hlk, and_false, if_false]
      ring
  rw [Finset.sum_congr rfl hsplit, Finset.sum_add_distrib,
    Finset.sum_ite_eq', if_pos (Finset.mem_range.mpr hk), ite_mul, zero_mul]

/-- The precision of one view, applied to a vector. -/
theorem single_precision_apply {inverse : List (List ℚ)} {row : ViewRow}
    {k : Nat} (hk : k < n) (hpick : row.pick = oneHot n k) {i : Nat}
    (hi : i < n) (x : ℕ → ℚ) :
    ∑ l ∈ Finset.range n,
        (cell inverse i l + cell (viewSums n [row]).precision i l) * x l
      = ∑ l ∈ Finset.range n, cell inverse i l * x l
        + if i = k then row.omegaInv * x k else 0 := by
  obtain ⟨-, hprec⟩ := viewSums_single hk hpick hi
  rw [← sum_add_spike hk]
  apply Finset.sum_congr rfl
  intro l hl
  rw [hprec l (Finset.mem_range.mp hl)]

/-- The inverse undoes the covariance's columns, up to `τ`. -/
theorem inverse_column {inverse : List (List ℚ)} (htau : tau ≠ 0)
    (hinv : invert (tauSigma n sigma tau) = .ok inverse) {i k : Nat}
    (hi : i < n) (hk : k < n) (c : ℚ) :
    ∑ l ∈ Finset.range n, cell inverse i l * (c * cell sigma l k)
      = c / tau * unit i k := by
  obtain ⟨-, hinverse⟩ := invert_ok hinv
  rw [length_tauSigma] at hinverse
  rw [← hinverse.left i hi k hk, Finset.mul_sum]
  apply Finset.sum_congr rfl
  intro l hl
  rw [cell_tauSigma (Finset.mem_range.mp hl) hk]
  field_simp

/-- The posterior of one view moves along the covariance's column of the
viewed sleeve. -/
theorem posteriorMu_single {view : View σ}
    (htau : 0 < tau) (hview : ViewInRange priorMu sigma tau view)
    {posterior : List ℚ}
    (hrun : posteriorMu names priorMu sigma [view] tau = .ok posterior) :
    priorMu.keys.idxOf view.sleeve < priorMu.keys.length
      ∧ cell sigma (priorMu.keys.idxOf view.sleeve)
          (priorMu.keys.idxOf view.sleeve) ≠ 0
      ∧ ∀ i < priorMu.keys.length, item posterior i
        = item priorMu.values i + view.confidence
          * (cell sigma i (priorMu.keys.idxOf view.sleeve)
            / cell sigma (priorMu.keys.idxOf view.sleeve)
              (priorMu.keys.idxOf view.sleeve)) * view.expectedExcess := by
  obtain ⟨inverse, hinv, rows, hrows, precisionInv, hprec, rfl⟩ :=
    posteriorMu_iff.mp hrun
  obtain ⟨row, hrow, rfl⟩ := mapM_singleton_ok hrows
  obtain ⟨hk, hpick, htarget, hweight⟩ := viewRow_ok hrow
  rw [hview.viewOmega_eq] at hweight
  have hpos := hview.confidence_pos
  have hlt := hview.confidence_lt_one
  have hfree := hview.unfloored
  have hpi := priorMu.length_values
  generalize priorMu.keys.length = n at *
  generalize priorMu.keys.idxOf view.sleeve = k at *
  have hvar : cell sigma k k ≠ 0 := by
    intro hzero
    rw [hzero, mul_zero, zero_mul, zero_div] at hfree
    exact absurd hfree (by norm_num [singularEps])
  refine ⟨hk, hvar, ?_⟩
  -- the displacement is a multiple of the column the inverse undoes
  obtain ⟨c, hc⟩ : ∃ c, c = view.confidence * view.expectedExcess
    / cell sigma k k := ⟨_, rfl⟩
  have hmoved : ∀ i, item priorMu.values i + view.confidence
      * (cell sigma i k / cell sigma k k) * view.expectedExcess
        = item priorMu.values i + c * cell sigma i k := by
    intro i
    rw [hc]
    ring
  simp only [hmoved]
  intro i hi
  apply posterior_solves (x := fun i => item priorMu.values i
    + c * cell sigma i k) hpi hinv hprec _ hi
  intro i hi
  rw [(viewSums_single hk hpick hi).1, single_precision_apply hk hpick hi]
  simp only [mul_add]
  rw [Finset.sum_add_distrib, inverse_column htau.ne' hinv hi hk]
  unfold unit
  by_cases hik : i = k
  · simp only [if_pos hik]
    rw [hweight, htarget, hc]
    have hrest : 1 - view.confidence ≠ 0 := by linarith
    field_simp
    ring
  · simp only [if_neg hik]
    ring

-- ============================================================= the theorem

/-- One view, in closed form: every sleeve moves by its covariance with the
viewed one; the viewed sleeve by a share of the excess, so it stays between
prior and view, and the further towards the view the higher the
confidence. -/
theorem single_view_closed_form (names : SleeveNames σ)
    (priorMu : Dict σ ℚ) (sigma : List (List ℚ)) (tau : ℚ) (htau : 0 < tau)
    (view : View σ) (hview : ViewInRange priorMu sigma tau view)
    (posterior : List ℚ)
    (hrun : posteriorMu names priorMu sigma [view] tau = .ok posterior) :
    let k := priorMu.keys.idxOf view.sleeve
    (∀ i < priorMu.keys.length, item posterior i
      = item priorMu.values i + view.confidence
        * (cell sigma i k / cell sigma k k) * view.expectedExcess)
    ∧ item posterior k
      = item priorMu.values k + view.confidence * view.expectedExcess
    ∧ item posterior k ∈ Set.uIcc (item priorMu.values k)
      (item priorMu.values k + view.expectedExcess)
    ∧ ∀ (surer : View σ) (posterior' : List ℚ),
      surer.sleeve = view.sleeve →
      surer.expectedExcess = view.expectedExcess →
      view.confidence ≤ surer.confidence →
      ViewInRange priorMu sigma tau surer →
      posteriorMu names priorMu sigma [surer] tau = .ok posterior' →
      item posterior k ∈ Set.uIcc (item priorMu.values k)
        (item posterior' k) := by
  -- a smaller share of a move lies on the way
  have hshare : ∀ {a c c' e : ℚ}, 0 ≤ c → c ≤ c' →
      a + c * e ∈ Set.uIcc a (a + c' * e) := by
    intro a c c' e hc hle
    rw [Set.mem_uIcc]
    rcases le_total 0 e with he | he
    · exact .inl ⟨le_add_of_nonneg_right (mul_nonneg hc he),
        add_le_add_right (mul_le_mul_of_nonneg_right hle he) a⟩
    · exact .inr ⟨add_le_add_right (mul_le_mul_of_nonpos_right hle he) a,
        add_le_of_nonpos_right (mul_nonpos_of_nonneg_of_nonpos hc he)⟩
  have hviewed : ∀ (view : View σ) (posterior : List ℚ),
      ViewInRange priorMu sigma tau view →
      posteriorMu names priorMu sigma [view] tau = .ok posterior →
      item posterior (priorMu.keys.idxOf view.sleeve)
        = item priorMu.values (priorMu.keys.idxOf view.sleeve)
          + view.confidence * view.expectedExcess := by
    intro view posterior hview hrun
    obtain ⟨hk, hvar, hform⟩ := posteriorMu_single htau hview hrun
    rw [hform _ hk, div_self hvar, mul_one]
  obtain ⟨hk, hvar, hform⟩ := posteriorMu_single htau hview hrun
  have hown := hviewed view posterior hview hrun
  refine ⟨hform, hown, ?_, ?_⟩
  · have hfull := hshare (a := item priorMu.values
      (priorMu.keys.idxOf view.sleeve)) (e := view.expectedExcess)
      hview.confidence_pos.le hview.confidence_lt_one.le
    rw [one_mul] at hfull
    rw [hown]
    exact hfull
  · intro surer posterior' hsleeve hexcess hle hsurer hrun'
    have hother := hviewed surer posterior' hsurer hrun'
    rw [hsleeve, hexcess] at hother
    rw [hown, hother]
    exact hshare hview.confidence_pos.le hle

-- ============================================================= two sleeves

/-- The prior of a book of equity and fixed income. -/
def pairPrior : Dict IpsSleeve ℚ :=
  Dict.tabulate [.equity, .fixedIncome] fun s =>
    baseAssumptions.classExpectedReturn (riskClassFor s)

/-- The covariance of equity and fixed income under the base priors. -/
def pairSigma : List (List ℚ) :=
  covarianceMatrix baseAssumptions [.equity, .fixedIncome]

/-- Equity to beat its prior by two points. -/
def equityView (confidence : ℚ) (fraction : IsFraction confidence) :
    View IpsSleeve where
  sleeve := .equity
  expectedExcess := 2 / 100
  confidence := confidence
  source := .manual
  rationale := "valuation"
  fraction := fraction

theorem isFraction_half : IsFraction (1 / 2) := by norm_num [IsFraction]

theorem isFraction_threeQuarters : IsFraction (3 / 4) := by
  norm_num [IsFraction]

/-- Equity and fixed income, with one view on equity. -/
theorem single_view_closed_form_pair :
    posteriorMu ipsSleeveNames pairPrior pairSigma
        [equityView (1 / 2) isFraction_half] (1 / 20)
      = .ok [2 / 25, 157 / 4000]
    ∧ item [2 / 25, 157 / 4000] 0
      = item pairPrior.values 0 + 1 / 2 * (2 / 100)
    ∧ item [2 / 25, 157 / 4000] 1
      = item pairPrior.values 1
        + 1 / 2 * (cell pairSigma 1 0 / cell pairSigma 0 0) * (2 / 100)
    ∧ item [2 / 25, 157 / 4000] 0 ∈ Set.uIcc (7 / 100 : ℚ) (9 / 100)
    ∧ item [2 / 25, 157 / 4000] 0 ∈ Set.uIcc (7 / 100 : ℚ)
      (item [17 / 200, 311 / 8000] 0) := by
  have hrun : posteriorMu ipsSleeveNames pairPrior pairSigma
      [equityView (1 / 2) isFraction_half] (1 / 20)
      = .ok [2 / 25, 157 / 4000] := by decide +kernel
  have hrun' : posteriorMu ipsSleeveNames pairPrior pairSigma
      [equityView (3 / 4) isFraction_threeQuarters] (1 / 20)
      = .ok [17 / 200, 311 / 8000] := by decide +kernel
  have hview : ViewInRange pairPrior pairSigma (1 / 20)
      (equityView (1 / 2) isFraction_half) :=
    ⟨by decide +kernel, by decide +kernel, by decide +kernel⟩
  have hsurer : ViewInRange pairPrior pairSigma (1 / 20)
      (equityView (3 / 4) isFraction_threeQuarters) :=
    ⟨by decide +kernel, by decide +kernel, by decide +kernel⟩
  obtain ⟨hform, hown, hbetween, hmono⟩ := single_view_closed_form
    ipsSleeveNames pairPrior pairSigma (1 / 20) (by norm_num)
    (equityView (1 / 2) isFraction_half) hview [2 / 25, 157 / 4000] hrun
  have hfurther := hmono (equityView (3 / 4) isFraction_threeQuarters) [17 / 200, 311 / 8000]
    rfl rfl (by decide +kernel) hsurer hrun'
  have hprior : item pairPrior.values 0 = 7 / 100 := by decide +kernel
  have hfar : item pairPrior.values 0 + 2 / 100 = 9 / 100 := by
    rw [hprior]
    norm_num
  refine ⟨hrun, hown, hform 1 (by decide +kernel), ?_, ?_⟩
  · rw [← hprior, ← hfar]
    exact hbetween
  · rw [← hprior]
    exact hfurther

end Warehouse
