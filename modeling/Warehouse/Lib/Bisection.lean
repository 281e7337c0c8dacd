/-
Bisection for a point where a Lipschitz function takes a given value,
over an ordered field.

The bracket is a pair of points with the function at least `target - δ`
at one and at most `target + δ` at the other; their order does not
matter, and neither does monotonicity. Every step halves the bracket
(`Bracket.step`), so the midpoint last tried is within the Lipschitz
constant times the bracket's half of the target, or close enough to have
stopped the search (`abs_bisect_sub_le`).

`clip` is the function a box-constrained search bisects.
-/
import Mathlib.Algebra.Order.Field.Basic
import Mathlib.Algebra.Order.Group.MinMax
import Mathlib.Tactic.FieldSimp
import Mathlib.Tactic.Linarith
import Mathlib.Tactic.Ring

namespace Warehouse.Lib.Bisection

-- ================================================================ the clip

section Clip

variable {K : Type*} [LinearOrder K]

/-- `x` clipped from below, then from above: where the bounds cross, the
upper one wins. -/
def clip (x lo hi : K) : K := min (max x lo) hi

theorem clip_le (x lo hi : K) : clip x lo hi ≤ hi := min_le_right _ _

theorem le_clip (x : K) {lo hi : K} (h : lo ≤ hi) : lo ≤ clip x lo hi :=
  le_min (le_max_right _ _) h

theorem min_le_clip (x lo hi : K) : min lo hi ≤ clip x lo hi :=
  min_le_min_right hi (le_max_right x lo)

/-- Inside the interval clipping changes nothing. -/
theorem clip_of_mem {x lo hi : K} (hlo : lo ≤ x) (hhi : x ≤ hi) :
    clip x lo hi = x := by
  rw [clip, max_eq_left hlo, min_eq_left hhi]

/-- Far enough up, a clip is its upper bound. -/
theorem clip_of_hi_le {x lo hi : K} (h : hi ≤ x) : clip x lo hi = hi :=
  min_eq_right (h.trans (le_max_left _ _))

/-- Far enough down, a clip is at most its lower bound. -/
theorem clip_le_of_le_lo {x lo hi : K} (h : x ≤ lo) : clip x lo hi ≤ lo := by
  rw [clip, max_eq_right h]
  exact min_le_left _ _

theorem clip_mono {x y : K} (h : x ≤ y) (lo hi : K) :
    clip x lo hi ≤ clip y lo hi :=
  min_le_min_right hi (max_le_max_right lo h)

variable [AddCommGroup K] [IsOrderedAddMonoid K]

theorem abs_clip_sub_clip_le (x y lo hi : K) :
    |clip x lo hi - clip y lo hi| ≤ |x - y| := by
  have hmin := abs_min_sub_min_le_max (max x lo) hi (max y lo) hi
  have hmax := abs_max_sub_max_le_abs x y lo
  have hsame : max |max x lo - max y lo| |hi - hi| = |max x lo - max y lo| := by
    rw [sub_self, abs_zero]
    exact max_eq_left (abs_nonneg _)
  rw [hsame] at hmin
  exact hmin.trans hmax

/-- A point near its bounds is moved little. -/
theorem abs_clip_sub_le {x lo hi ε : K} (hle : lo ≤ hi) (hε : 0 ≤ ε)
    (hlo : lo - ε ≤ x) (hhi : x ≤ hi + ε) : |clip x lo hi - x| ≤ ε := by
  rw [abs_sub_le_iff]
  rcases le_total x lo with hx | hx
  · have hclip : clip x lo hi = lo :=
      le_antisymm (clip_le_of_le_lo hx) (le_clip x hle)
    rw [hclip]
    exact ⟨sub_le_comm.mp hlo, (sub_nonpos.mpr hx).trans hε⟩
  · rcases le_total hi x with hx' | hx'
    · rw [clip_of_hi_le hx']
      exact ⟨(sub_nonpos.mpr hx').trans hε, sub_le_iff_le_add'.mpr hhi⟩
    · rw [clip_of_mem hx hx', sub_self]
      exact ⟨hε, hε⟩

/-- A clip is no larger than the larger of its bounds. -/
theorem abs_clip_le {x lo hi b : K} (hlo : |lo| ≤ b) (hhi : |hi| ≤ b) :
    |clip x lo hi| ≤ b := by
  rw [abs_le] at hlo hhi ⊢
  refine ⟨?_, (clip_le x lo hi).trans hhi.2⟩
  exact (le_min hlo.1 hhi.1).trans (min_le_clip x lo hi)

end Clip

-- =============================================================== the search

variable {K : Type*} [Field K] [LinearOrder K]

/-- Halve the bracket until the function is within `tol` of the target or
the steps run out; the midpoint last tried, or `last` if none was. -/
def bisect (f : K → K) (target tol : K) : Nat → K → K → K → K
  | 0, _, _, last => last
  | steps + 1, lo, hi, _ =>
      let mid := (lo + hi) / 2
      if |f mid - target| ≤ tol then mid
      else if f mid > target then bisect f target tol steps mid hi mid
      else bisect f target tol steps lo mid mid

/-- The target lies between the function's values at the two ends, up to
`δ`. -/
structure Bracket (f : K → K) (target δ lo hi : K) : Prop where
  above : target - δ ≤ f lo
  below : f hi ≤ target + δ

variable [IsStrictOrderedRing K] {f : K → K} {target tol δ lo hi c : K}

/-- The bracket's half that a step keeps is a bracket. -/
theorem Bracket.step (hb : Bracket f target δ lo hi) (hδ : 0 ≤ δ) (mid : K) :
    (f mid > target → Bracket f target δ mid hi)
      ∧ (¬ f mid > target → Bracket f target δ lo mid) := by
  refine ⟨fun hgt => ⟨?_, hb.below⟩, fun hle => ⟨hb.above, ?_⟩⟩
  · linarith
  · rw [not_lt] at hle
    linarith

/-- At the midpoint the function is within half the bracket's reach of
the target. -/
theorem Bracket.abs_mid_sub_le (hb : Bracket f target δ lo hi)
    (hf : ∀ x y, |f x - f y| ≤ c * |x - y|) :
    |f ((lo + hi) / 2) - target| ≤ δ + c * |hi - lo| / 2 := by
  have hhalf : |(hi - lo) / 2| = |hi - lo| / 2 := by
    rw [abs_div, abs_two]
  have hup : |f ((lo + hi) / 2) - f hi| ≤ c * (|hi - lo| / 2) := by
    have heq : (lo + hi) / 2 - hi = -((hi - lo) / 2) := by ring
    have h := hf ((lo + hi) / 2) hi
    rwa [heq, abs_neg, hhalf] at h
  have hdown : |f ((lo + hi) / 2) - f lo| ≤ c * (|hi - lo| / 2) := by
    have heq : (lo + hi) / 2 - lo = (hi - lo) / 2 := by ring
    have h := hf ((lo + hi) / 2) lo
    rwa [heq, hhalf] at h
  have hu := (abs_le.mp hup).2
  have hd := (abs_le.mp hdown).1
  have habove := hb.above
  have hbelow := hb.below
  rw [abs_le]
  refine ⟨?_, ?_⟩
  · linarith
  · linarith

/-- How close bisection comes: within `tol`, or within what is left of the
bracket after the last halving. -/
theorem abs_bisect_sub_le (hδ : 0 ≤ δ)
    (hf : ∀ x y, |f x - f y| ≤ c * |x - y|) (steps : Nat) :
    ∀ {lo hi : K} (last : K), Bracket f target δ lo hi →
      |f (bisect f target tol (steps + 1) lo hi last) - target|
        ≤ max tol (δ + c * |hi - lo| / 2 ^ (steps + 1)) := by
  induction steps with
  | zero =>
      intro lo hi last hb
      have hmid := hb.abs_mid_sub_le hf
      unfold bisect
      dsimp only
      split
      · next hclose => exact hclose.trans (le_max_left _ _)
      · rw [pow_one]
        split
        · exact hmid.trans (le_max_right _ _)
        · exact hmid.trans (le_max_right _ _)
  | succ steps ih =>
      intro lo hi last hb
      have hpow : ∀ w : K, c * (w / 2) / 2 ^ (steps + 1)
          = c * w / 2 ^ (steps + 1 + 1) := by
        intro w
        rw [pow_succ (2 : K) (steps + 1)]
        field_simp
      unfold bisect
      dsimp only
      split
      · next hclose => exact hclose.trans (le_max_left _ _)
      · -- half the bracket, one step fewer
        split
        · next hgt =>
          have hwidth : |hi - (lo + hi) / 2| = |hi - lo| / 2 := by
            have heq : hi - (lo + hi) / 2 = (hi - lo) / 2 := by ring
            rw [heq, abs_div, abs_two]
          have h := ih ((lo + hi) / 2) ((hb.step hδ _).1 hgt)
          rwa [hwidth, hpow] at h
        · next hle =>
          have hwidth : |(lo + hi) / 2 - lo| = |hi - lo| / 2 := by
            have heq : (lo + hi) / 2 - lo = (hi - lo) / 2 := by ring
            rw [heq, abs_div, abs_two]
          have h := ih ((lo + hi) / 2) ((hb.step hδ _).2 hle)
          rwa [hwidth, hpow] at h

end Warehouse.Lib.Bisection
