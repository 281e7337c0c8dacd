/-
Black–Litterman posterior μ (`decision/beliefs/black_litterman.py`, and the
records of `decision/beliefs/models.py` it reads and returns).

Floats are rationals, so every step is exact; only the posterior is
rounded, at the end. The blend reads no more of a sleeve than its place in
the universe, so the type of sleeves is a parameter.
-/
import Warehouse.Lib.Dict
import Warehouse.Python

namespace Warehouse

open Lib

-- ================================================================= records

/-- Where a view came from. -/
inductive ViewSource where
  | manual
  | fiij
  | statMove
  deriving DecidableEq, Repr

/-- A confidence-weighted statement about a sleeve's excess return. -/
structure View (σ : Type) where
  sleeve : σ
  expectedExcess : ℚ
  confidence : ℚ
  source : ViewSource
  sourceRef : Option String := none
  calibration : String := "not_computed"
  rationale : String
  /-- `Field(ge=0, le=1)`. -/
  fraction : IsFraction confidence

/-- `PosteriorBelief`: the posterior mean by sleeve, and how it was reached. -/
structure PosteriorBelief (σ : Type) where
  mu : Dict σ ℚ
  method : String := "black_litterman"
  tau : ℚ

/-- How the errors show a sleeve: its `repr`, and its value. -/
structure SleeveNames (σ : Type) where
  repr : σ → String
  value : σ → String

-- ================================================================ matrices

/-- `a[i][j]`. -/
def cell (a : List (List ℚ)) (i j : Nat) : ℚ := item (a.getD i []) j

/-- Pivot magnitude below which a matrix is treated as singular. -/
def singularEps : ℚ := 1 / 10 ^ 12

/-- `[A | I]`. -/
def augmented (matrix : List (List ℚ)) : List (List ℚ) :=
  let n := matrix.length
  (List.range n).map fun i =>
    ((List.range n).map fun j => cell matrix i j)
      ++ (List.range n).map fun k => if i = k then 1 else 0

/-- The first row at or below the diagonal of largest magnitude. -/
def pivotRow (aug : List (List ℚ)) (n col : Nat) : Nat :=
  (List.range' col (n - col)).foldl (fun best r =>
    if |cell aug r col| > |cell aug best col| then r else best) col

/-- What a degenerate covariance raises. -/
def singularMessage (col : Nat) : String :=
  "covariance/precision matrix is singular (pivot ~0 at column "
    ++ toString col ++ "); the sleeve block is degenerate — no silent "
    ++ "pseudo-inverse"

/-- Clear `col` of a row, against the row of the pivot. -/
def eliminated (n col : Nat) (pivot : List ℚ) (row : List ℚ) : List ℚ :=
  let factor := item row col
  if factor = 0 then row
  else (List.range (2 * n)).map fun j => item row j - factor * item pivot j

/-- One column of the elimination. No row but the pivot's is read after it
is written, so the loop over the rows is a map. -/
def eliminateColumn (n : Nat) (aug : List (List ℚ)) (col : Nat) :
    Except Exc (List (List ℚ)) :=
  let p := pivotRow aug n col
  if |cell aug p col| < singularEps then
    .error (.singularCovariance (singularMessage col))
  else
    let swapped := (aug.set col (aug.getD p [])).set p (aug.getD col [])
    let pivot := cell swapped col col
    let scaled := (swapped.getD col []).map (· / pivot)
    .ok ((List.range n).map fun r =>
      if r = col then scaled else eliminated n col scaled (swapped.getD r []))

/-- Gauss–Jordan inverse with partial pivoting; raise if singular. -/
def invert (matrix : List (List ℚ)) : Except Exc (List (List ℚ)) := do
  let n := matrix.length
  let aug ← (List.range n).foldlM (eliminateColumn n) (augmented matrix)
  pure (aug.map (·.drop n))

/-- `_matvec`: a matrix times a vector. -/
def matvec (a : List (List ℚ)) (v : List ℚ) : List ℚ :=
  (List.range a.length).map fun i =>
    sumRange v.length fun k => cell a i k * item v k

/-- `_matadd`: two matrices, entry by entry. -/
def matadd (a b : List (List ℚ)) : List (List ℚ) :=
  (List.range a.length).map fun i =>
    (List.range (a.headD []).length).map fun j => cell a i j + cell b i j

-- =============================================================== the blend

/-- The lowest confidence a view is taken at. -/
def confFloor : ℚ := 1 / 10 ^ 6

/-- The highest. -/
def confCeil : ℚ := 1 - 1 / 10 ^ 6

/-- A row of P, with its entries of Q and of Ω⁻¹. -/
structure ViewRow where
  pick : List ℚ
  target : ℚ
  omegaInv : ℚ

/-- `Ω_kk`, the uncertainty of a view on column `col`. -/
def viewOmega (sigma : List (List ℚ)) (tau confidence : ℚ) (col : Nat) : ℚ :=
  let conf := min (max confidence confFloor) confCeil
  let viewVar := tau * cell sigma col col
  let omega := viewVar * (1 - conf) / conf
  if omega < singularEps then singularEps else omega

variable {σ : Type} [DecidableEq σ]

/-- One turn of the loop that builds P, Q and Ω⁻¹. -/
def viewRow (names : SleeveNames σ) (sleeves : List σ) (pi : List ℚ)
    (sigma : List (List ℚ)) (tau : ℚ) (view : View σ) :
    Except Exc ViewRow :=
  if view.sleeve ∉ sleeves then
    .error (.viewMapping ("view on sleeve " ++ names.repr view.sleeve
      ++ " is outside the book's sleeve universe "
      ++ listText (sleeves.map names.value)))
  else
    let col := sleeves.idxOf view.sleeve
    .ok
      { pick := (List.range sleeves.length).map fun c =>
          if c = col then 1 else 0
        target := item pi col + view.expectedExcess
        omegaInv := 1 / viewOmega sigma tau view.confidence col }

/-- PᵀΩ⁻¹P and PᵀΩ⁻¹Q so far. -/
structure ViewSums where
  precision : List (List ℚ)
  pull : List ℚ

/-- One turn of the loop that accumulates them; every row has its pick. -/
def addView (n : Nat) (sums : ViewSums) (row : ViewRow) : ViewSums :=
  match (List.range n).find? fun c => item row.pick c ≠ 0 with
  | none => sums
  | some col =>
      { precision := sums.precision.modify col fun r =>
          r.modify col (· + row.omegaInv)
        pull := sums.pull.modify col (· + row.omegaInv * row.target) }

/-- The sums before the first view. -/
def noViews (n : Nat) : ViewSums where
  precision := List.replicate n (List.replicate n 0)
  pull := List.replicate n 0

/-- The posterior of a book with views, before it is rounded. -/
def posteriorMu (names : SleeveNames σ) (priorMu : Dict σ ℚ)
    (sigma : List (List ℚ)) (views : List (View σ)) (tau : ℚ) :
    Except Exc (List ℚ) := do
  let sleeves := priorMu.keys
  let n := sleeves.length
  let pi := priorMu.values
  let tauSigma := (List.range n).map fun i =>
    (List.range n).map fun j => tau * cell sigma i j
  let tauSigmaInv ← invert tauSigma
  let rows ← views.mapM (viewRow names sleeves pi sigma tau)
  let sums := rows.foldl (addView n) (noViews n)
  let precision := matadd tauSigmaInv sums.precision
  let rhs := (List.range n).map fun i =>
    item (matvec tauSigmaInv pi) i + item sums.pull i
  let inverse ← invert precision
  pure (matvec inverse rhs)

/-- Places of `_MU_QUANTUM`. -/
def muPlaces : Nat := 8

/-- Blend a prior μ with confidence-weighted views; without views the
posterior is the prior. -/
def blackLitterman (names : SleeveNames σ) (priorMu : Dict σ ℚ)
    (sigma : List (List ℚ)) (views : List (View σ)) (tau : ℚ) :
    Except Exc (PosteriorBelief σ) :=
  if views.isEmpty then .ok { mu := priorMu, tau := tau }
  else
    (posteriorMu names priorMu sigma views tau).map fun posterior =>
      { mu := Dict.enumerated priorMu.keys fun i _ =>
          quantize muPlaces (item posterior i)
        tau := tau }

end Warehouse
