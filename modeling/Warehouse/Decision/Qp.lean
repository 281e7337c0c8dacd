/-
Constrained mean-variance QP solver (`decision/optimizer/qp.py`):
projected-gradient ascent, each iterate projected onto
`{w : Σw = 1, w_min ≤ w ≤ w_max}`.

Floats are rationals, so every step is exact. Vectors are lists, read by
index; the dimension check leaves the rows of `sigma` to the caller.
-/
import Warehouse.Python

namespace Warehouse

/-- `min(xs)` of a non-empty list. -/
def minOf (xs : List ℚ) : ℚ := xs.foldl min (xs.headD 0)

/-- `max(xs)` of a non-empty list. -/
def maxOf (xs : List ℚ) : ℚ := xs.foldl max (xs.headD 0)

-- ============================================================== projection

/-- `_summed`: the clipped point at a multiplier, and its sum. -/
def summed (v wMin wMax : List ℚ) (tau : ℚ) : List ℚ × ℚ :=
  let w := (List.range v.length).map fun i =>
    min (max (item v i - tau) (item wMin i)) (item wMax i)
  (w, w.sum)

/-- The bisection on the multiplier; `w` is the point last tried. -/
def bisectTau (v wMin wMax : List ℚ) (total : ℚ) :
    Nat → ℚ → ℚ → List ℚ → List ℚ
  | 0, _, _, w => w
  | iters + 1, loTau, hiTau, _ =>
      let tau := 1 / 2 * (loTau + hiTau)
      let (w, s) := summed v wMin wMax tau
      if |s - total| ≤ 1 / 10 ^ 12 then w
      else if s > total then bisectTau v wMin wMax total iters tau hiTau w
      else bisectTau v wMin wMax total iters loTau tau w

/-- At this multiplier every weight hits its cap. -/
def loTau (v wMax : List ℚ) : ℚ :=
  minOf ((List.range v.length).map fun i => item v i - item wMax i)

/-- At this one, its floor. -/
def hiTau (v wMin : List ℚ) : ℚ :=
  maxOf ((List.range v.length).map fun i => item v i - item wMin i)

/-- Euclidean projection of `v` onto `{w : Σw = total, lo ≤ w ≤ hi}`, by
bisection on the multiplier. -/
def projectCappedSimplex (v wMin wMax : List ℚ) (total : ℚ := 1)
    (iters : Nat := 200) : List ℚ :=
  let w := (List.range v.length).map fun i =>
    min (max (item v i) (item wMin i)) (item wMax i)
  bisectTau v wMin wMax total iters (loTau v wMax) (hiTau v wMin) w

-- ================================================================== ascent

/-- Gershgorin row-sum upper bound on the spectral radius. -/
def spectralBound (sigma : List (List ℚ)) : ℚ :=
  if sigma = [] then 0
  else maxOf (sigma.map fun row => (row.map fun x => |x|).sum)

/-- One gradient step, before the projection. -/
def ascend (mu : List ℚ) (sigma : List (List ℚ)) (lam step : ℚ)
    (w : List ℚ) : List ℚ :=
  let n := mu.length
  let grad := (List.range n).map fun i =>
    item mu i - lam * sumRange n fun j => item (sigma.getD i []) j * item w j
  (List.range n).map fun i => item w i + step * item grad i

/-- Ascend and project, until a step moves no weight by `tol` or more. -/
def ascendLoop (mu : List ℚ) (sigma : List (List ℚ)) (wMin wMax : List ℚ)
    (lam step tol : ℚ) : Nat → List ℚ → List ℚ
  | 0, w => w
  | iters + 1, w =>
      let wNext :=
        projectCappedSimplex (ascend mu sigma lam step w) wMin wMax
      if maxOf ((List.range mu.length).map fun i =>
          |item wNext i - item w i|) < tol then wNext
      else ascendLoop mu sigma wMin wMax lam step tol iters wNext

/-- The uniform starting guess. -/
def uniformGuess (n : Nat) : List ℚ := List.replicate n (1 / n)

/-- The step size `1/L`, or a unit step for a linear objective. -/
def stepSize (lam : ℚ) (sigma : List (List ℚ)) : ℚ :=
  let lipschitz := lam * spectralBound sigma
  if lipschitz > 1 / 10 ^ 12 then 1 / lipschitz else 1

/-- Slack on the box ∩ simplex feasibility test. -/
def feasibilitySlack : ℚ := 1 / 10 ^ 9

/-- Constrained MV ascent → target weights. -/
def solveQp (mu : List ℚ) (sigma : List (List ℚ)) (wMin wMax : List ℚ)
    (lam tol : ℚ) (maxIters : Nat) : Except Exc (List ℚ) :=
  let n := mu.length
  if n = 0 then
    .error (.optimizerInfeasible "empty sleeve universe — nothing to solve")
  else if ¬ (sigma.length = n ∧ wMin.length = n ∧ wMax.length = n) then
    .error (.valueError "solve_qp inputs disagree on dimension n")
  else if wMin.sum > 1 + feasibilitySlack then
    .error (.optimizerInfeasible ("infeasible IPS bounds: Σ w_min = "
      ++ formatFixed 6 wMin.sum
      ++ " > 1 (box ∩ simplex empty); not silently clipped"))
  else if wMax.sum < 1 - feasibilitySlack then
    .error (.optimizerInfeasible ("infeasible IPS bounds: Σ w_max = "
      ++ formatFixed 6 wMax.sum
      ++ " < 1 (box ∩ simplex empty); not silently clipped"))
  else
    .ok (ascendLoop mu sigma wMin wMax lam (stepSize lam sigma) tol maxIters
      (projectCappedSimplex (uniformGuess n) wMin wMax))

end Warehouse
