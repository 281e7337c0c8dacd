/-
The ascent of `solveQp` under an exact projection.

With the projection as a parameter the solver is one loop (`solveQp_eq`),
and the loop never lowers the objective when the parameter returns nearest
points of the box ∩ simplex: such a point obeys the variational inequality
of a convex set, the Gershgorin row sums bound the quadratic form, and the
step is at most twice the inverse of the bound, also where a bound of next
to nothing leaves it at one. Every feasible box has such a projection
(`exists_exactProjection`).

# Why the projection is a parameter

The source projects by a bisection, which ends near the nearest point and
not on it; an ascent lemma about that point would carry its error through
five thousand steps. So the loop is stated over any projection, and the
solver's is that loop at its own (`ascendLoop_eq`). What is proved is proved
of the loop at an exact projection. The two step sizes of `solveQp`, and its
stopping rule, are the source's in both.

# A step and a run

A step lemma says that the iterate stays in the box ∩ simplex and that its
objective is at least the one before; the run lemma is an induction over the
iterates, stopped early or not.
-/
import Warehouse.Lib.ClippedSum
import Warehouse.Proofs.Projection

namespace Warehouse

open Lib ProjectedAscent

variable {mu w wMin wMax : List ℚ} {sigma : List (List ℚ)}
  {lam step tol : ℚ} {project : List ℚ → List ℚ}

-- ============================================================== the solver

/-- `ascendLoop` with the projection as a parameter. -/
def ascendLoopWith (project : List ℚ → List ℚ) (mu : List ℚ)
    (sigma : List (List ℚ)) (lam step tol : ℚ) : Nat → List ℚ → List ℚ
  | 0, w => w
  | iters + 1, w =>
      let wNext := project (ascend mu sigma lam step w)
      if maxOf ((List.range mu.length).map fun i =>
          |item wNext i - item w i|) < tol then wNext
      else ascendLoopWith project mu sigma lam step tol iters wNext

/-- The point each iteration starts from, and the one returned. -/
def iterates (project : List ℚ → List ℚ) (mu : List ℚ)
    (sigma : List (List ℚ)) (lam step tol : ℚ) :
    Nat → List ℚ → List (List ℚ)
  | 0, w => [w]
  | iters + 1, w =>
      let wNext := project (ascend mu sigma lam step w)
      if maxOf ((List.range mu.length).map fun i =>
          |item wNext i - item w i|) < tol then [w, wNext]
      else w :: iterates project mu sigma lam step tol iters wNext

/-- `solveQp` with the projection as a parameter. -/
def solveQpWith (project : List ℚ → List ℚ) (mu : List ℚ)
    (sigma : List (List ℚ)) (wMin wMax : List ℚ) (lam tol : ℚ)
    (maxIters : Nat) : Except Exc (List ℚ) :=
  let n := mu.length
  if n = 0 then
    .error (.optimizerInfeasible "empty sleeve universe — nothing to solve")
  else if ¬ (sigma.length = n ∧ wMin.length = n ∧ wMax.length = n) then
    .error (.valueError "solve_qp inputs disagree on dimension n")
  else if wMin.sum > 1 + feasibilitySlack then
    .error (.optimizerInfeasible ("infeasible IPS bounds: Σ w_min = "
      ++ formatFixed 6 wMin.sum
      ++ " > 1 (box ∩ simplex empty); not silently clipped"))
  else if wMax.sum < 1 - feasibilitySlack then
    .error (.optimizerInfeasible ("infeasible IPS bounds: Σ w_max = "
      ++ formatFixed 6 wMax.sum
      ++ " < 1 (box ∩ simplex empty); not silently clipped"))
  else
    .ok (ascendLoopWith project mu sigma lam (stepSize lam sigma) tol maxIters
      (project (uniformGuess n)))

/-- The solver's loop is the loop over any projection, at its own. -/
theorem ascendLoop_eq (iters : Nat) : ∀ w,
    ascendLoop mu sigma wMin wMax lam step tol iters w
      = ascendLoopWith (fun v => projectCappedSimplex v wMin wMax) mu sigma
        lam step tol iters w := by
  induction iters with
  | zero => exact fun _ => rfl
  | succ iters ih =>
      intro w
      unfold ascendLoop ascendLoopWith
      dsimp only
      split
      · rfl
      · exact ih _

/-- The solver is the one with its own projection. -/
theorem solveQp_eq (mu : List ℚ) (sigma : List (List ℚ))
    (wMin wMax : List ℚ) (lam tol : ℚ) (maxIters : Nat) :
    solveQp mu sigma wMin wMax lam tol maxIters
      = solveQpWith (fun v => projectCappedSimplex v wMin wMax) mu sigma
        wMin wMax lam tol maxIters := by
  unfold solveQp solveQpWith
  dsimp only
  rw [ascendLoop_eq]

/-- The last iterate is what the loop returns. -/
theorem iterates_getLast? (project : List ℚ → List ℚ) (mu : List ℚ)
    (sigma : List (List ℚ)) (lam step tol : ℚ) (iters : Nat) : ∀ w,
    (iterates project mu sigma lam step tol iters w).getLast?
      = some (ascendLoopWith project mu sigma lam step tol iters w) := by
  induction iters with
  | zero => exact fun _ => rfl
  | succ iters ih =>
      intro w
      unfold iterates ascendLoopWith
      dsimp only
      split
      · rfl
      · rw [List.getLast?_cons, ih]
        rfl

/-- The iterates start at the point given. -/
theorem iterates_head? (project : List ℚ → List ℚ) (mu : List ℚ)
    (sigma : List (List ℚ)) (lam step tol : ℚ) (iters : Nat) (w : List ℚ) :
    (iterates project mu sigma lam step tol iters w).head? = some w := by
  cases iters with
  | zero => rfl
  | succ iters =>
      unfold iterates
      dsimp only
      split
      · rfl
      · rfl

-- ======================================================== exact projections

/-- A point of the box ∩ simplex. -/
structure Feasible (wMin wMax w : List ℚ) : Prop
    extends InBox wMin wMax w where
  budget : w.sum = 1

/-- The Euclidean projection onto the box ∩ simplex. -/
structure ExactProjection (wMin wMax : List ℚ)
    (project : List ℚ → List ℚ) : Prop where
  feasible : ∀ v, v.length = wMin.length → Feasible wMin wMax (project v)
  nearest : ∀ v, v.length = wMin.length → ∀ y, Feasible wMin wMax y →
    distSq v (project v) ≤ distSq v y

/-- A multiplier that meets the budget projects exactly. -/
theorem exactProjection_of_summed {tau : List ℚ → ℚ}
    (hbox : ∀ i < wMin.length, item wMin i ≤ item wMax i)
    (hbudget : ∀ v, v.length = wMin.length →
      (summed v wMin wMax (tau v)).1.sum = 1) :
    ExactProjection wMin wMax fun v => (summed v wMin wMax (tau v)).1 where
  feasible v hv := by
    refine ⟨summed_inBox hv.symm ?_ (tau v), hbudget v hv⟩
    rw [hv]
    exact hbox
  nearest v hv y hy := by
    have hsum : y.sum = (summed v wMin wMax (tau v)).1.sum := by
      rw [hy.budget, hbudget v hv]
    exact (summed_nearest hv.symm (tau v) hy.toInBox hsum).1

/-- A feasible box ∩ simplex has an exact projection. -/
theorem exists_exactProjection (hmax : wMax.length = wMin.length)
    (hbox : ∀ i < wMin.length, item wMin i ≤ item wMax i)
    (hlo : wMin.sum ≤ 1) (hhi : 1 ≤ wMax.sum) :
    ∃ project, ExactProjection wMin wMax project := by
  have htau : ∀ v : List ℚ, ∃ tau, v.length = wMin.length →
      (summed v wMin wMax tau).1.sum = 1 := by
    intro v
    rw [sum_eq_sum_item] at hlo hhi
    rw [hmax] at hhi
    obtain ⟨tau, htau⟩ := ClippedSum.exists_clipSum_eq (v := item v)
      (fun i hi => hbox i (Finset.mem_range.mp hi)) hlo hhi
    refine ⟨tau, fun hv => ?_⟩
    rw [sum_eq_sum_item, summed_length, hv, ← htau]
    apply Finset.sum_congr rfl
    intro i hi
    exact item_summed (by rw [hv]; exact Finset.mem_range.mp hi) tau
  choose tau htau using htau
  exact ⟨_, exactProjection_of_summed hbox htau⟩

theorem dot_congr {s : Finset Nat} {x x' y y' : Nat → ℚ}
    (hx : ∀ i ∈ s, x i = x' i) (hy : ∀ i ∈ s, y i = y' i) :
    dot s x y = dot s x' y' := by
  apply Finset.sum_congr rfl
  intro i hi
  rw [hx i hi, hy i hi]

/-- The point a share `t` of the way from `w` to `y`. -/
def towards (w y : List ℚ) (t : ℚ) : List ℚ :=
  (List.range w.length).map fun i => item w i + t * (item y i - item w i)

/-- A point on the segment, coordinate by coordinate. -/
theorem item_towards {y : List ℚ} {t : ℚ} {i : Nat} (hi : i < w.length) :
    item (towards w y t) i = item w i + t * (item y i - item w i) :=
  item_map_range _ hi

/-- The box ∩ simplex is convex. -/
theorem Feasible.towards {y : List ℚ} (hw : Feasible wMin wMax w)
    (hy : Feasible wMin wMax y) {t : ℚ} (ht : 0 < t) (ht' : t ≤ 1) :
    Feasible wMin wMax (towards w y t) := by
  have hlen : (Warehouse.towards w y t).length = w.length := by
    simp [Warehouse.towards]
  have hsame : y.length = w.length := hy.length.trans hw.length.symm
  refine ⟨⟨hlen.trans hw.length, fun i hi => ?_⟩, ?_⟩
  · rw [hlen] at hi
    rw [item_towards hi]
    obtain ⟨hwlo, hwhi⟩ := hw.within i hi
    obtain ⟨hylo, hyhi⟩ := hy.within i (hsame ▸ hi)
    have ht'' : 0 ≤ 1 - t := by linarith
    have hmix : item w i + t * (item y i - item w i)
        = (1 - t) * item w i + t * item y i := by ring
    rw [hmix]
    constructor
    · linarith [mul_le_mul_of_nonneg_left hwlo ht'',
        mul_le_mul_of_nonneg_left hylo ht.le]
    · linarith [mul_le_mul_of_nonneg_left hwhi ht'',
        mul_le_mul_of_nonneg_left hyhi ht.le]
  · have hwsum := hw.budget
    have hysum := hy.budget
    rw [sum_eq_sum_item] at hwsum hysum ⊢
    rw [hsame] at hysum
    rw [hlen]
    calc ∑ i ∈ Finset.range w.length, item (Warehouse.towards w y t) i
        = ∑ i ∈ Finset.range w.length,
            (item w i + t * (item y i - item w i)) :=
          Finset.sum_congr rfl fun i hi =>
            item_towards (Finset.mem_range.mp hi)
      _ = 1 + t * (1 - 1) := by
          rw [Finset.sum_add_distrib, ← Finset.mul_sum,
            Finset.sum_sub_distrib, hwsum, hysum]
      _ = 1 := by ring

/-- An exact projection obeys the variational inequality. -/
theorem ExactProjection.dot_nonpos (h : ExactProjection wMin wMax project)
    {v y : List ℚ} (hv : v.length = wMin.length)
    (hy : Feasible wMin wMax y) :
    dot (Finset.range wMin.length) (item v - item (project v))
      (item y - item (project v)) ≤ 0 := by
  have hw := h.feasible v hv
  apply dot_nonpos_of_nearest
  intro t ht ht'
  have hnear := h.nearest v hv _ (hw.towards hy ht ht')
  rw [distSq_eq_dot, distSq_eq_dot, hv] at hnear
  refine hnear.trans (le_of_eq ?_)
  have hitem : ∀ i ∈ Finset.range wMin.length,
      (item (towards (project v) y t) - item v) i
        = (item (project v) + scale t (item y - item (project v)) - item v) i := by
    intro i hi
    rw [Finset.mem_range, ← hw.length] at hi
    rw [Pi.sub_apply, item_towards hi]
    rfl
  exact dot_congr hitem hitem

-- ================================================================== a step

/-- `wᵀμ − (λ/2)·wᵀΣw`. -/
def qpObjective (mu : List ℚ) (sigma : List (List ℚ)) (lam : ℚ)
    (w : List ℚ) : ℚ :=
  (sumRange mu.length fun i => item w i * item mu i)
    - lam / 2 * sumRange mu.length fun i =>
      item w i * sumRange mu.length fun j =>
        item (sigma.getD i []) j * item w j

/-- A square and symmetric matrix of one dimension with `mu`. -/
structure SymmetricFor (mu : List ℚ) (sigma : List (List ℚ)) : Prop where
  size : sigma.length = mu.length
  rowSize : ∀ row ∈ sigma, row.length = mu.length
  symm : ∀ i < mu.length, ∀ j < mu.length,
    item (sigma.getD i []) j = item (sigma.getD j []) i

/-- The module's objective is the library's. -/
theorem qpObjective_eq (mu : List ℚ) (sigma : List (List ℚ)) (lam : ℚ)
    (w : List ℚ) :
    qpObjective mu sigma lam w = objective (Finset.range mu.length) (item mu)
      (fun i => item (sigma.getD i [])) lam (item w) := by
  have htwo : (2 : ℚ) = 1 + 1 := by norm_num
  unfold qpObjective
  simp only [sumRange_eq_finsetSum]
  rw [htwo]
  rfl

/-- Before the projection, a step along the gradient. -/
theorem item_ascend {i : Nat} (hi : i < mu.length) :
    item (ascend mu sigma lam step w) i
      = item w i + step * gradient (Finset.range mu.length) (item mu)
        (fun i => item (sigma.getD i [])) lam (item w) i := by
  unfold ascend
  dsimp only
  rw [item_map_range _ hi, item_map_range _ hi, sumRange_eq_finsetSum]
  rfl

/-- The Gershgorin bound is a bound on every row. -/
theorem row_le_spectralBound (h : SymmetricFor mu sigma) {i : Nat}
    (hi : i < mu.length) :
    ∑ j ∈ Finset.range mu.length, |item (sigma.getD i []) j|
      ≤ spectralBound sigma := by
  have hi' : i < sigma.length := by rw [h.size]; exact hi
  have hrow : sigma.getD i [] ∈ sigma := by
    simp [List.getD_eq_getElem?_getD, hi']
  have hne : sigma ≠ [] := List.ne_nil_of_mem hrow
  have habs : ∑ j ∈ Finset.range mu.length, |item (sigma.getD i []) j|
      = ((sigma.getD i []).map fun x => |x|).sum := by
    rw [sum_eq_sum_item, List.length_map, h.rowSize _ hrow]
    apply Finset.sum_congr rfl
    intro j hj
    have hj' : j < (sigma.getD i []).length := by
      rw [h.rowSize _ hrow]
      exact Finset.mem_range.mp hj
    rw [item_map _ hj']
    exact congrArg abs (item_eq_getElem hj')
  rw [habs]
  unfold spectralBound
  rw [if_neg hne]
  exact le_maxOf (List.mem_map.mpr ⟨_, hrow, rfl⟩)

/-- Either step size is at most twice the inverse of the bound. -/
theorem lipschitz_mul_stepSize_le (lam : ℚ) (sigma : List (List ℚ)) :
    lam * spectralBound sigma * stepSize lam sigma ≤ 2 := by
  unfold stepSize
  dsimp only
  split
  · next h =>
    have hpos : 0 < lam * spectralBound sigma := lt_trans (by norm_num) h
    rw [mul_one_div_cancel hpos.ne']
    norm_num
  · next h =>
    rw [not_lt] at h
    linarith

/-- One iteration never lowers the objective. -/
theorem qpObjective_le_step (hsigma : SymmetricFor mu sigma)
    (hmin : wMin.length = mu.length) (hlam : 0 ≤ lam)
    (hproj : ExactProjection wMin wMax project)
    (hw : Feasible wMin wMax w) :
    qpObjective mu sigma lam w ≤ qpObjective mu sigma lam
      (project (ascend mu sigma lam (stepSize lam sigma) w)) := by
  have hlen : (ascend mu sigma lam (stepSize lam sigma) w).length
      = wMin.length := by
    rw [hmin]
    simp [ascend]
  have hvar := hproj.dot_nonpos hlen hw
  rw [qpObjective_eq, qpObjective_eq]
  apply objective_le_of_ascent _ _ hlam (stepSize_pos lam sigma)
    (lipschitz_mul_stepSize_le lam sigma)
  · rw [hmin] at hvar
    refine le_of_eq_of_le (dot_congr ?_ fun _ _ => rfl) hvar
    intro i hi
    rw [Pi.sub_apply, Pi.sub_apply, item_ascend (Finset.mem_range.mp hi)]
    rfl
  · intro i hi j hj
    exact hsigma.symm i (Finset.mem_range.mp hi) j (Finset.mem_range.mp hj)
  · intro i hi
    exact row_le_spectralBound hsigma (Finset.mem_range.mp hi)

-- =================================================================== a run

/-- From a feasible point, no iteration lowers the objective. -/
theorem iterates_ascend (hsigma : SymmetricFor mu sigma)
    (hmin : wMin.length = mu.length) (hlam : 0 ≤ lam)
    (hproj : ExactProjection wMin wMax project) (tol : ℚ) (iters : Nat) :
    ∀ w, Feasible wMin wMax w →
      (iterates project mu sigma lam (stepSize lam sigma) tol iters
        w).Pairwise fun x y =>
          qpObjective mu sigma lam x ≤ qpObjective mu sigma lam y := by
  have htrans : ∀ {xs : List (List ℚ)} {w wNext : List ℚ},
      xs.head? = some wNext →
      qpObjective mu sigma lam w ≤ qpObjective mu sigma lam wNext →
      xs.Pairwise (fun x y =>
        qpObjective mu sigma lam x ≤ qpObjective mu sigma lam y) →
      (w :: xs).Pairwise (fun x y =>
        qpObjective mu sigma lam x ≤ qpObjective mu sigma lam y) := by
    intro xs w wNext hhead hle hxs
    cases xs with
    | nil => cases hhead
    | cons x rest =>
        cases hhead
        refine List.pairwise_cons.mpr ⟨fun y hy => ?_, hxs⟩
        rcases List.mem_cons.mp hy with rfl | hy
        · exact hle
        · exact hle.trans ((List.pairwise_cons.mp hxs).1 y hy)
  induction iters with
  | zero => exact fun w _ => List.pairwise_singleton _ w
  | succ iters ih =>
      intro w hw
      have hstep := qpObjective_le_step hsigma hmin hlam hproj hw
      have hnext : Feasible wMin wMax
          (project (ascend mu sigma lam (stepSize lam sigma) w)) := by
        apply hproj.feasible
        rw [hmin]
        simp [ascend]
      unfold iterates
      dsimp only
      split
      · exact htrans rfl hstep (List.pairwise_singleton _ _)
      · exact htrans (iterates_head? project mu sigma lam _ tol iters _) hstep (ih _ hnext)

/-- The solver returns the last of its iterates, and none of them has a
lower objective than one before it. -/
def Ascends (project : List ℚ → List ℚ) (mu : List ℚ)
    (sigma : List (List ℚ)) (wMin wMax : List ℚ) (lam tol : ℚ)
    (maxIters : Nat) : Prop :=
  ∃ w, solveQpWith project mu sigma wMin wMax lam tol maxIters = .ok w
    ∧ (iterates project mu sigma lam (stepSize lam sigma) tol maxIters
      (project (uniformGuess mu.length))).getLast? = some w
    ∧ (iterates project mu sigma lam (stepSize lam sigma) tol maxIters
      (project (uniformGuess mu.length))).Pairwise (fun x y =>
        qpObjective mu sigma lam x ≤ qpObjective mu sigma lam y)
    ∧ qpObjective mu sigma lam (project (uniformGuess mu.length))
      ≤ qpObjective mu sigma lam w

/-- Under an exact projection `solveQp` ascends, with either step size. -/
theorem solveQpWith_ascends (project : List ℚ → List ℚ) (mu : List ℚ)
    (sigma : List (List ℚ)) (wMin wMax : List ℚ) (lam tol : ℚ)
    (maxIters : Nat) (hsigma : SymmetricFor mu sigma)
    (hmin : wMin.length = mu.length) (hmax : wMax.length = mu.length)
    (hlo : wMin.sum ≤ 1) (hhi : 1 ≤ wMax.sum) (hlam : 0 ≤ lam)
    (hproj : ExactProjection wMin wMax project) :
    Ascends project mu sigma wMin wMax lam tol maxIters := by
  have hne : ¬mu.length = 0 := by
    intro hzero
    rw [hzero] at hmax
    rw [List.length_eq_zero_iff.mp hmax] at hhi
    norm_num at hhi
  have hslack : (0 : ℚ) ≤ feasibilitySlack := by norm_num [feasibilitySlack]
  have hstart : Feasible wMin wMax (project (uniformGuess mu.length)) := by
    apply hproj.feasible
    rw [hmin]
    exact List.length_replicate
  have hchain := iterates_ascend hsigma hmin hlam hproj tol maxIters _ hstart
  have hlast := iterates_getLast? project mu sigma lam (stepSize lam sigma)
    tol maxIters (project (uniformGuess mu.length))
  refine ⟨_, ?_, hlast, hchain, ?_⟩
  · unfold solveQpWith
    dsimp only
    rw [if_neg hne, if_neg (not_not.mpr ⟨hsigma.size, hmin, hmax⟩),
      if_neg (by linarith), if_neg (by linarith)]
  · have hhead := iterates_head? project mu sigma lam (stepSize lam sigma)
      tol maxIters (project (uniformGuess mu.length))
    generalize iterates project mu sigma lam (stepSize lam sigma) tol maxIters
      (project (uniformGuess mu.length)) = points at *
    cases points with
    | nil => cases hhead
    | cons x rest =>
        cases hhead
        rcases List.mem_cons.mp (List.mem_of_getLast? hlast) with hw | hw
        · rw [hw]
        · exact (List.pairwise_cons.mp hchain).1 _ hw

-- ============================================================ two sleeves

/-- The projection of a pair onto the weights of two long-only sleeves. -/
def projectPair (v : List ℚ) : List ℚ :=
  (summed v [0, 0] [1, 1] ((item v 0 + item v 1 - 1) / 2)).1

/-- Clipping to the unit interval commutes with the reflection. -/
theorem clip_one_sub (x : ℚ) :
    Bisection.clip (1 - x) 0 1 = 1 - Bisection.clip x 0 1 := by
  rcases le_total x 0 with hx | hx
  · have hzero : Bisection.clip x 0 1 = 0 :=
      le_antisymm (Bisection.clip_le_of_le_lo hx)
        (Bisection.le_clip x zero_le_one)
    rw [hzero, Bisection.clip_of_hi_le (by linarith), sub_zero]
  · rcases le_total 1 x with hx' | hx'
    · have hzero : Bisection.clip (1 - x) 0 1 = 0 :=
        le_antisymm (Bisection.clip_le_of_le_lo (by linarith))
          (Bisection.le_clip _ zero_le_one)
      rw [hzero, Bisection.clip_of_hi_le hx', sub_self]
    · rw [Bisection.clip_of_mem hx hx',
        Bisection.clip_of_mem (by linarith) (by linarith)]

theorem exactProjection_projectPair :
    ExactProjection [0, 0] [1, 1] projectPair := by
  apply exactProjection_of_summed
  · decide +kernel
  · intro v hv
    obtain ⟨a, b, rfl⟩ := List.length_eq_two.mp hv
    have hsum : (summed [a, b] [0, 0] [1, 1]
        ((item [a, b] 0 + item [a, b] 1 - 1) / 2)).1.sum
        = Bisection.clip (a - (a + b - 1) / 2) 0 1
          + (Bisection.clip (b - (a + b - 1) / 2) 0 1 + 0) := rfl
    have hother : b - (a + b - 1) / 2 = 1 - (a - (a + b - 1) / 2) := by ring
    rw [hsum, hother, clip_one_sub]
    ring

theorem solveQpWith_ascends_pair :
    Ascends projectPair [7 / 100, 4 / 100]
      [[1 / 40, 1 / 100], [1 / 100, 1 / 250]] [0, 0] [1, 1] 6 (1 / 10 ^ 9)
      5000 := by
  have hsigma : SymmetricFor [7 / 100, 4 / 100]
      [[1 / 40, 1 / 100], [1 / 100, 1 / 250]] := by
    refine ⟨rfl, ?_, ?_⟩
    · decide +kernel
    · decide +kernel
  exact solveQpWith_ascends projectPair [7 / 100, 4 / 100]
    [[1 / 40, 1 / 100], [1 / 100, 1 / 250]] [0, 0] [1, 1] 6 (1 / 10 ^ 9) 5000
    hsigma rfl rfl (by decide +kernel) (by decide +kernel) (by decide +kernel)
    exactProjection_projectPair

end Warehouse
