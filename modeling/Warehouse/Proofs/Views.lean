/-
Any number of views.

Views add up in any order (`addView_comm`). What they pull towards is the
prior itself, seen through the precision they add, plus their tilts
(`viewSums_pulls`), so a posterior is the prior displaced by the image of
the tilts under the inverse precision (`posterior_displaced`); and the
precision is made of the views' sleeves and confidences alone
(`precision_viewSums`).

# One loop, three facts

The loop adds each view's row to two accumulators. Additions commute, so any
order of the views gives the same sums, and with them the same posterior or
the same error (`viewSums_perm`). With every view's excess at zero, the
right-hand side is the precision times the prior, so the posterior is the
prior. And the right-hand side is linear in the excesses while the precision
does not know them, which makes the displacement linear.
-/
import Warehouse.Proofs.BlackLitterman

namespace Warehouse

open Lib RowReduction

variable {σ : Type} [DecidableEq σ] {names : SleeveNames σ}
  {priorMu : Dict σ ℚ} {sigma : List (List ℚ)} {tau : ℚ} {n : Nat}
  {views : List (View σ)}

-- ================================================================ the rows

/-- What a view is on, and how surely. -/
def View.stance (view : View σ) : σ × ℚ := (view.sleeve, view.confidence)

/-- The weight of a stance. -/
def stanceWeight (priorMu : Dict σ ℚ) (sigma : List (List ℚ)) (tau : ℚ)
    (stance : σ × ℚ) : ℚ :=
  1 / viewOmega sigma tau stance.2 (priorMu.keys.idxOf stance.1)

/-- The row of a view on a sleeve of the universe. -/
def rowOf (priorMu : Dict σ ℚ) (sigma : List (List ℚ)) (tau : ℚ)
    (view : View σ) : ViewRow where
  pick := oneHot priorMu.keys.length (priorMu.keys.idxOf view.sleeve)
  target := item priorMu.values (priorMu.keys.idxOf view.sleeve)
    + view.expectedExcess
  omegaInv := stanceWeight priorMu sigma tau view.stance

/-- A view on a sleeve of the prior has the row of that sleeve. -/
theorem viewRow_eq {view : View σ} (hin : view.sleeve ∈ priorMu.keys) :
    viewRow names priorMu.keys priorMu.values sigma tau view
      = .ok (rowOf priorMu sigma tau view) := by
  unfold viewRow
  rw [if_neg (not_not.mpr hin)]
  rfl

/-- The loop over the views returns when they are all in the universe. -/
theorem viewRows_iff {rows : List ViewRow} :
    views.mapM (viewRow names priorMu.keys priorMu.values sigma tau)
        = .ok rows
      ↔ (∀ view ∈ views, view.sleeve ∈ priorMu.keys)
        ∧ views.map (rowOf priorMu sigma tau) = rows := by
  constructor
  · intro hrows
    have hin : ∀ view ∈ views, view.sleeve ∈ priorMu.keys := by
      intro view hview
      obtain ⟨row, hrow⟩ := (mapM_ok_iff views).mp ⟨rows, hrows⟩ view hview
      exact List.idxOf_lt_length_iff.mp (viewRow_ok hrow).1
    rw [mapM_eq_map views fun view hview => viewRow_eq (hin view hview)]
      at hrows
    exact ⟨hin, Except.ok.inj hrows⟩
  · rintro ⟨hin, rfl⟩
    exact mapM_eq_map views fun view hview => viewRow_eq (hin view hview)

-- =============================================================== any order

/-- Commuting changes commute at any two places. -/
theorem modify_comm {α : Type*} {f g : α → α} (hcomm : ∀ x, g (f x) = f (g x))
    (i j : Nat) (l : List α) :
    (l.modify i f).modify j g = (l.modify j g).modify i f := by
  by_cases hij : i = j
  · subst hij
    rw [List.modify_modify_eq, List.modify_modify_eq]
    congr 1
    funext x
    exact hcomm x
  · exact List.modify_modify_ne f g l hij

/-- Two views add up in either order. -/
theorem addView_comm (sums : ViewSums) (a b : ViewRow) :
    addView n (addView n sums a) b = addView n (addView n sums b) a := by
  unfold addView
  cases (List.range n).find? fun c => item a.pick c ≠ 0 with
  | none => rfl
  | some i =>
  cases (List.range n).find? fun c => item b.pick c ≠ 0 with
  | none => rfl
  | some j =>
      have hadd : ∀ v w x : ℚ,
          (fun y => y + w) ((fun y => y + v) x)
            = (fun y => y + v) ((fun y => y + w) x) :=
        fun v w x => add_right_comm x v w
      apply congrArg₂ ViewSums.mk
      · exact modify_comm (fun r => modify_comm (hadd _ _) i j r) i j _
      · exact modify_comm (hadd _ _) i j _

/-- The sums do not depend on the order of the views. -/
theorem viewSums_perm {rows rows' : List ViewRow} (h : rows.Perm rows') :
    viewSums n rows = viewSums n rows' := by
  apply h.foldl_eq'
  intro a _ b _ sums
  exact addView_comm sums a b

-- ========================================================== what they add

/-- What a stance adds to the precision. -/
def addStance (n : Nat) (precision : List (List ℚ)) (pick : List ℚ)
    (omegaInv : ℚ) : List (List ℚ) :=
  match (List.range n).find? fun c => item pick c ≠ 0 with
  | none => precision
  | some col => precision.modify col fun r => r.modify col (· + omegaInv)

/-- A stance adds to the precision what its view does. -/
theorem precision_addView (sums : ViewSums) (row : ViewRow) :
    addStance n sums.precision row.pick row.omegaInv
      = (addView n sums row).precision := by
  unfold addStance addView
  cases (List.range n).find? fun c => item row.pick c ≠ 0 with
  | none => rfl
  | some col => rfl

/-- The precision is a matter of the stances. -/
theorem precision_viewSums {others : List (View σ)}
    (h : others.map View.stance = views.map View.stance) :
    (viewSums n (others.map (rowOf priorMu sigma tau))).precision
      = (viewSums n (views.map (rowOf priorMu sigma tau))).precision := by
  have hstances : ∀ vs : List (View σ),
      (viewSums n (vs.map (rowOf priorMu sigma tau))).precision
        = (vs.map View.stance).foldl (fun precision stance =>
          addStance n precision
            (oneHot priorMu.keys.length (priorMu.keys.idxOf stance.1))
            (stanceWeight priorMu sigma tau stance)) (noViews n).precision := by
    intro vs
    unfold viewSums
    rw [List.foldl_map, List.foldl_map]
    symm
    apply List.foldl_hom ViewSums.precision
    intro sums view
    exact precision_addView sums (rowOf priorMu sigma tau view)
  rw [hstances, hstances, h]

/-- The views' tilts, column by column. -/
def tilt (priorMu : Dict σ ℚ) (sigma : List (List ℚ)) (tau : ℚ)
    (views : List (View σ)) (j : Nat) : ℚ :=
  (views.map fun view => if j = priorMu.keys.idxOf view.sleeve
    then stanceWeight priorMu sigma tau view.stance * view.expectedExcess
    else 0).sum

/-- One more view tilts its own sleeve. -/
theorem tilt_append (rest : List (View σ)) (view : View σ) (j : Nat) :
    tilt priorMu sigma tau (rest ++ [view]) j
      = tilt priorMu sigma tau rest j
        + if j = priorMu.keys.idxOf view.sleeve
          then stanceWeight priorMu sigma tau view.stance
            * view.expectedExcess
          else 0 := by
  unfold tilt
  rw [List.map_append, List.sum_append, List.map_singleton,
    List.sum_singleton]

/-- One more view is one more turn of the loop. -/
theorem viewSums_append (rest : List (View σ)) (view : View σ) :
    viewSums n ((rest ++ [view]).map (rowOf priorMu sigma tau))
      = addView n (viewSums n (rest.map (rowOf priorMu sigma tau)))
        (rowOf priorMu sigma tau view) := by
  unfold viewSums
  rw [List.map_append, List.foldl_append]
  rfl

/-- The views pull towards the prior, seen through their precision, and
their tilts beyond it. -/
structure Pulls (priorMu : Dict σ ℚ) (n : Nat) (tilt : ℕ → ℚ)
    (sums : ViewSums) : Prop where
  shape : Shaped n n sums.precision
  length : sums.pull.length = n
  pull : ∀ i < n, item sums.pull i
    = ∑ k ∈ Finset.range n, cell sums.precision i k * item priorMu.values k
      + tilt i

omit [DecidableEq σ] in
theorem pulls_noViews : Pulls priorMu n (fun _ => 0) (noViews n) := by
  obtain ⟨hshape, hlength, hzero⟩ := noViews_cells (n := n)
  refine ⟨hshape, hlength, fun i hi => ?_⟩
  have hnone : ∀ k ∈ Finset.range n,
      cell (noViews n).precision i k * item priorMu.values k = 0 := by
    intro k hk
    rw [(hzero i hi).2 k (Finset.mem_range.mp hk), zero_mul]
  rw [(hzero i hi).1, Finset.sum_eq_zero hnone, add_zero]

/-- A view more, and the tilt of its column with it. -/
theorem Pulls.addView {tilt : ℕ → ℚ} {sums : ViewSums}
    (h : Pulls priorMu n tilt sums) (hn : priorMu.keys.length = n)
    {view : View σ} (hin : view.sleeve ∈ priorMu.keys) :
    Pulls priorMu n
      (fun i => tilt i + if i = priorMu.keys.idxOf view.sleeve
        then stanceWeight priorMu sigma tau view.stance * view.expectedExcess
        else 0)
      (addView n sums (rowOf priorMu sigma tau view)) := by
  have hcol : priorMu.keys.idxOf view.sleeve < n := by
    rw [← hn]
    exact List.idxOf_lt_length_iff.mpr hin
  have hpick : (rowOf priorMu sigma tau view).pick
      = oneHot n (priorMu.keys.idxOf view.sleeve) := by
    rw [← hn]
    rfl
  obtain ⟨hshape, hlength, hadd⟩ := addView_eq h.shape h.length hcol hpick
  refine ⟨hshape, hlength, fun i hi => ?_⟩
  obtain ⟨hown, hcells⟩ := hadd i hi
  have hspiked := Finset.sum_congr rfl fun k hk => congrArg
    (· * item priorMu.values k) (hcells k (Finset.mem_range.mp hk))
  have hweight : (rowOf priorMu sigma tau view).omegaInv
      = stanceWeight priorMu sigma tau view.stance := rfl
  have htarget : (rowOf priorMu sigma tau view).target
      = item priorMu.values (priorMu.keys.idxOf view.sleeve)
        + view.expectedExcess := rfl
  rw [hown, h.pull i hi, hspiked, sum_add_spike hcol, hweight, htarget]
  by_cases hik : i = priorMu.keys.idxOf view.sleeve
  · simp only [if_pos hik]
    ring
  · simp only [if_neg hik]
    ring

/-- The sums pull every sleeve by its tilt. -/
theorem viewSums_pulls (sigma : List (List ℚ)) (tau : ℚ)
    (hn : priorMu.keys.length = n)
    (hin : ∀ view ∈ views, view.sleeve ∈ priorMu.keys) :
    Pulls priorMu n (tilt priorMu sigma tau views)
      (viewSums n (views.map (rowOf priorMu sigma tau))) := by
  induction views using List.reverseRecOn with
  | nil => exact pulls_noViews
  | append_singleton rest view ih =>
      have hrest := ih fun v hv => hin v (List.mem_append_left _ hv)
      rw [viewSums_append, funext (tilt_append rest view)]
      exact hrest.addView hn
        (hin view (List.mem_append_right _ (List.mem_singleton_self view)))

/-- A row meets each tilt in the column of its view. -/
theorem sum_mul_tilt (hn : priorMu.keys.length = n)
    (hin : ∀ view ∈ views, view.sleeve ∈ priorMu.keys) (b : ℕ → ℚ) :
    ∑ j ∈ Finset.range n, b j * tilt priorMu sigma tau views j
      = (views.map fun view => b (priorMu.keys.idxOf view.sleeve)
        * stanceWeight priorMu sigma tau view.stance
        * view.expectedExcess).sum := by
  induction views using List.reverseRecOn with
  | nil => exact Finset.sum_eq_zero fun j _ => mul_zero (b j)
  | append_singleton rest view ih =>
      have hcol : priorMu.keys.idxOf view.sleeve ∈ Finset.range n := by
        rw [Finset.mem_range, ← hn]
        exact List.idxOf_lt_length_iff.mpr
          (hin view (List.mem_append_right _ (List.mem_singleton_self view)))
      have hlast : ∀ j, b j * tilt priorMu sigma tau (rest ++ [view]) j
          = b j * tilt priorMu sigma tau rest j
            + if j = priorMu.keys.idxOf view.sleeve
              then b j * stanceWeight priorMu sigma tau view.stance
                * view.expectedExcess
              else 0 := by
        intro j
        rw [tilt_append, mul_add, mul_ite, mul_zero, mul_assoc]
      simp only [hlast]
      rw [Finset.sum_add_distrib, Finset.sum_ite_eq', if_pos hcol,
        ih fun v hv => hin v (List.mem_append_left _ hv), List.map_append,
        List.sum_append, List.map_singleton, List.sum_singleton]

-- ========================================================== the posterior

/-- The posterior is the prior, displaced by the views' tilts. -/
theorem posterior_displaced (hn : priorMu.keys.length = n)
    (hin : ∀ view ∈ views, view.sleeve ∈ priorMu.keys)
    {inverse precisionInv : List (List ℚ)}
    (hinv : invert (tauSigma n sigma tau) = .ok inverse)
    (hprec : invert (matadd inverse
      (viewSums n (views.map (rowOf priorMu sigma tau))).precision)
        = .ok precisionInv) {i : Nat} (hi : i < n) :
    item (matvec precisionInv (pulled n inverse priorMu.values
        (viewSums n (views.map (rowOf priorMu sigma tau))))) i
      = item priorMu.values i
        + (views.map fun view =>
          cell precisionInv i (priorMu.keys.idxOf view.sleeve)
            * stanceWeight priorMu sigma tau view.stance
            * view.expectedExcess).sum := by
  have hpulls := viewSums_pulls sigma tau hn hin
  obtain ⟨hshape, -⟩ := invert_ok hinv
  rw [length_tauSigma] at hshape
  obtain ⟨hsize, hcells⟩ := matadd_cells (b := (viewSums n
    (views.map (rowOf priorMu sigma tau))).precision) hshape
  obtain ⟨-, hinverse⟩ := invert_ok hprec
  rw [hsize] at hinverse
  rw [← sum_mul_tilt hn hin]
  apply posterior_solves (x := fun k => item priorMu.values k
    + ∑ j ∈ Finset.range n, cell precisionInv k j
      * tilt priorMu sigma tau views j)
    (priorMu.length_values.trans hn) hinv hprec _ hi
  intro i hi
  -- the precision undoes the displacement
  have hundone := hinverse.symm.solve
    (x := tilt priorMu sigma tau views) (fun k _ => rfl) hi
  rw [Finset.sum_congr rfl fun k hk => congrArg (· * _)
    (hcells i hi k (Finset.mem_range.mp hk))] at hundone
  simp only [mul_add]
  rw [Finset.sum_add_distrib, hundone, hpulls.pull i hi]
  simp only [add_mul]
  rw [Finset.sum_add_distrib, add_assoc]

theorem length_posteriorMu {posterior : List ℚ}
    (hrun : posteriorMu names priorMu sigma views tau = .ok posterior) :
    posterior.length = priorMu.keys.length := by
  obtain ⟨inverse, hinv, rows, -, precisionInv, hprec, rfl⟩ :=
    posteriorMu_iff.mp hrun
  obtain ⟨hshape, -⟩ := invert_ok hinv
  obtain ⟨hshape', -⟩ := invert_ok hprec
  rw [length_tauSigma] at hshape
  rw [matvec, List.length_map, List.length_range, hshape'.rows,
    (matadd_cells hshape).1]

-- ============================================================ the algebra

/-- Zero excesses leave the prior. -/
theorem posterior_eq_prior {posterior : List ℚ}
    (hrun : posteriorMu names priorMu sigma views tau = .ok posterior)
    (hzero : ∀ view ∈ views, view.expectedExcess = 0) :
    posterior = priorMu.values := by
  have hlength := length_posteriorMu hrun
  obtain ⟨inverse, hinv, rows, hrows, precisionInv, hprec, rfl⟩ :=
    posteriorMu_iff.mp hrun
  obtain ⟨hin, rfl⟩ := viewRows_iff.mp hrows
  apply List.ext_getElem (hlength.trans priorMu.length_values.symm)
  intro i hi hi'
  have hdisplaced := posterior_displaced rfl hin hinv hprec
    (hlength ▸ hi)
  have hnone : ∀ view ∈ views,
      cell precisionInv i (priorMu.keys.idxOf view.sleeve)
        * stanceWeight priorMu sigma tau view.stance
        * view.expectedExcess = 0 := by
    intro view hview
    rw [hzero view hview, mul_zero]
  rw [List.map_congr_left hnone, List.sum_map_zero, add_zero] at hdisplaced
  rw [← item_eq_getElem hi, ← item_eq_getElem hi', hdisplaced]

/-- The order of the views is immaterial. -/
theorem posteriorMu_perm {posterior : List ℚ}
    (hrun : posteriorMu names priorMu sigma views tau = .ok posterior)
    {reordered : List (View σ)} (hperm : reordered.Perm views) :
    posteriorMu names priorMu sigma reordered tau = .ok posterior := by
  obtain ⟨inverse, hinv, rows, hrows, precisionInv, hprec, hposterior⟩ :=
    posteriorMu_iff.mp hrun
  obtain ⟨hin, rfl⟩ := viewRows_iff.mp hrows
  have hin' : ∀ view ∈ reordered, view.sleeve ∈ priorMu.keys :=
    fun view hview => hin view (hperm.mem_iff.mp hview)
  have hsums := viewSums_perm (n := priorMu.keys.length)
    (hperm.map (rowOf priorMu sigma tau))
  refine posteriorMu_iff.mpr ⟨inverse, hinv, _,
    viewRows_iff.mpr ⟨hin', rfl⟩, precisionInv, ?_, ?_⟩
  · rw [hsums]
    exact hprec
  · rw [hsums]
    exact hposterior

omit [DecidableEq σ] in
/-- Being in the universe is a matter of the stances. -/
theorem sleeves_of_stances {others : List (View σ)}
    (hstances : others.map View.stance = views.map View.stance)
    (hin : ∀ view ∈ views, view.sleeve ∈ priorMu.keys) :
    ∀ view ∈ others, view.sleeve ∈ priorMu.keys := by
  intro view hview
  have hstance : view.stance ∈ views.map View.stance := by
    rw [← hstances]
    exact List.mem_map_of_mem hview
  obtain ⟨twin, htwin, hsame⟩ := List.mem_map.mp hstance
  have hsleeve : twin.sleeve = view.sleeve := congrArg Prod.fst hsame
  rw [← hsleeve]
  exact hin twin htwin

/-- Views blend as a linear map of their excesses: in any order; to the
prior when the excesses are zero, which is what the shortcut for no views
answers; and each sleeve moves by a sum, over the views, of what the view
exceeds the prior by times a response to its sleeve and confidence. -/
theorem views_blend_linearly (names : SleeveNames σ) (priorMu : Dict σ ℚ)
    (sigma : List (List ℚ)) (tau : ℚ) (views : List (View σ))
    (posterior : List ℚ)
    (hrun : posteriorMu names priorMu sigma views tau = .ok posterior) :
    (∀ reordered : List (View σ), reordered.Perm views →
      posteriorMu names priorMu sigma reordered tau = .ok posterior)
    ∧ ((∀ view ∈ views, view.expectedExcess = 0) →
      posterior = priorMu.values
      ∧ ∃ belief, blackLitterman names priorMu sigma [] tau = .ok belief
        ∧ belief.mu.values = posterior)
    ∧ ∃ response : ℕ → σ × ℚ → ℚ, ∀ others : List (View σ),
      others.map View.stance = views.map View.stance →
      ∃ moved, posteriorMu names priorMu sigma others tau = .ok moved
        ∧ moved.length = priorMu.keys.length
        ∧ ∀ i < priorMu.keys.length,
          item moved i - item priorMu.values i
            = (others.map fun view =>
              response i view.stance * view.expectedExcess).sum := by
  refine ⟨fun reordered hperm => posteriorMu_perm hrun hperm,
    fun hzero => ?_, ?_⟩
  · have hprior := posterior_eq_prior hrun hzero
    exact ⟨hprior, ⟨{ mu := priorMu, tau := tau }, rfl, hprior.symm⟩⟩
  · obtain ⟨inverse, hinv, rows, hrows, precisionInv, hprec, -⟩ :=
      posteriorMu_iff.mp hrun
    obtain ⟨hin, rfl⟩ := viewRows_iff.mp hrows
    refine ⟨fun i stance => cell precisionInv i
      (priorMu.keys.idxOf stance.1) * stanceWeight priorMu sigma tau stance,
      fun others hstances => ?_⟩
    have hin' := sleeves_of_stances hstances hin
    rw [← precision_viewSums hstances] at hprec
    have hmoved : posteriorMu names priorMu sigma others tau = .ok _ :=
      posteriorMu_iff.mpr ⟨inverse, hinv, _, viewRows_iff.mpr ⟨hin', rfl⟩,
        precisionInv, hprec, rfl⟩
    refine ⟨_, hmoved, length_posteriorMu hmoved, fun i hi => ?_⟩
    rw [posterior_displaced rfl hin' hinv hprec hi, add_sub_cancel_left]
    rfl

/-- Two views on equity. -/
theorem views_blend_linearly_pair :
    posteriorMu ipsSleeveNames pairPrior pairSigma
        [equityView (1 / 2) isFraction_half,
          equityView (3 / 4) isFraction_threeQuarters] (1 / 20)
      = .ok [43 / 500, 97 / 2500]
    ∧ ∃ response : ℕ → IpsSleeve × ℚ → ℚ, ∀ e e' : ℚ, ∃ moved,
      posteriorMu ipsSleeveNames pairPrior pairSigma
        [{ equityView (3 / 4) isFraction_threeQuarters with
            expectedExcess := e },
          { equityView (1 / 2) isFraction_half with
            expectedExcess := e' }] (1 / 20) = .ok moved
      ∧ item moved 0 - 7 / 100
        = response 0 (.equity, 3 / 4) * e
          + response 0 (.equity, 1 / 2) * e' := by
  have hrun : posteriorMu ipsSleeveNames pairPrior pairSigma
      [equityView (3 / 4) isFraction_threeQuarters,
        equityView (1 / 2) isFraction_half] (1 / 20)
      = .ok [43 / 500, 97 / 2500] := by decide +kernel
  obtain ⟨horder, -, response, hlinear⟩ := views_blend_linearly
    ipsSleeveNames pairPrior pairSigma (1 / 20) _ _ hrun
  refine ⟨horder _ (List.Perm.swap _ _ []), response, fun e e' => ?_⟩
  obtain ⟨moved, hmoved, -, hitems⟩ := hlinear
    [{ equityView (3 / 4) isFraction_threeQuarters with expectedExcess := e },
      { equityView (1 / 2) isFraction_half with expectedExcess := e' }] rfl
  refine ⟨moved, hmoved, ?_⟩
  have hprior : item pairPrior.values 0 = 7 / 100 := by decide +kernel
  rw [← hprior, hitems 0 (by decide +kernel)]
  show _ + (_ + (0 : ℚ)) = _
  rw [add_zero]
  rfl

end Warehouse
