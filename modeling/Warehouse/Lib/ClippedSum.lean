/-
Sums of clipped shifts, over an ordered field.

A point moved down by a shift and clipped to its bounds is constant below
one breakpoint, constant above another and affine between the two. So on
a segment with no breakpoint inside the sum is affine (`clipSum_segment`),
and it takes every value between the sums of the bounds, at a shift of
the same field (`exists_clipSum_eq`): neither continuity nor completeness
is needed.
-/
import Warehouse.Lib.Bisection
import Mathlib.Algebra.BigOperators.Group.Finset.Basic
import Mathlib.Algebra.Order.BigOperators.Group.Finset
import Mathlib.Algebra.BigOperators.Ring.Finset
import Mathlib.Data.Finset.Max

namespace Warehouse.Lib.ClippedSum

open Bisection

variable {ι K : Type*} [Field K] [LinearOrder K] [IsStrictOrderedRing K]
  {s : Finset ι} {v lo hi : ι → K} {a b : K}

/-- The sum of the points moved down by `tau` and clipped. -/
def clipSum (s : Finset ι) (v lo hi : ι → K) (tau : K) : K :=
  ∑ i ∈ s, clip (v i - tau) (lo i) (hi i)

/-- The clipped sum falls as the shift grows. -/
theorem clipSum_antitone {x y : K} (h : x ≤ y) :
    clipSum s v lo hi y ≤ clipSum s v lo hi x :=
  Finset.sum_le_sum fun _ _ => clip_mono (sub_le_sub_left h _) _ _

-- ============================================================= one segment

/-- Neither of a point's breakpoints is inside the segment. -/
structure Unbroken (v lo hi a b : K) : Prop where
  low : v - lo ≤ a ∨ b ≤ v - lo
  high : v - hi ≤ a ∨ b ≤ v - hi

/-- Along an unbroken segment a clip is affine. -/
theorem clip_segment {v lo hi t : K} (h : Unbroken v lo hi a b)
    (hle : lo ≤ hi) (hab : a ≤ b) (ht : 0 ≤ t) (ht' : t ≤ 1) :
    clip (v - (a + t * (b - a))) lo hi
      = clip (v - a) lo hi + t * (clip (v - b) lo hi - clip (v - a) lo hi) := by
  have hstep : 0 ≤ t * (b - a) := mul_nonneg ht (sub_nonneg.mpr hab)
  have hstep' : t * (b - a) ≤ b - a :=
    mul_le_of_le_one_left (sub_nonneg.mpr hab) ht'
  have hfloor : ∀ x, x ≤ lo → clip x lo hi = lo := fun x hx =>
    le_antisymm (clip_le_of_le_lo hx) (le_clip x hle)
  rcases h.low with hlow | hlow
  · -- past the lower bound everywhere
    rw [hfloor _ (by linarith), hfloor (v - a) (by linarith),
      hfloor (v - b) (by linarith)]
    ring
  · rcases h.high with hhigh | hhigh
    · -- between the bounds everywhere
      rw [clip_of_mem (by linarith) (by linarith),
        clip_of_mem (by linarith : lo ≤ v - a) (by linarith),
        clip_of_mem (by linarith : lo ≤ v - b) (by linarith)]
      ring
    · -- above the upper bound everywhere
      rw [clip_of_hi_le (by linarith),
        clip_of_hi_le (by linarith : hi ≤ v - a),
        clip_of_hi_le (by linarith : hi ≤ v - b)]
      ring

theorem clipSum_segment {t : K}
    (h : ∀ i ∈ s, Unbroken (v i) (lo i) (hi i) a b)
    (hle : ∀ i ∈ s, lo i ≤ hi i) (hab : a ≤ b) (ht : 0 ≤ t) (ht' : t ≤ 1) :
    clipSum s v lo hi (a + t * (b - a))
      = clipSum s v lo hi a
        + t * (clipSum s v lo hi b - clipSum s v lo hi a) := by
  unfold clipSum
  rw [← Finset.sum_sub_distrib, Finset.mul_sum, ← Finset.sum_add_distrib]
  exact Finset.sum_congr rfl fun i hi =>
    clip_segment (h i hi) (hle i hi) hab ht ht'

/-- On an unbroken segment every value between those at the ends is
taken. -/
theorem exists_clipSum_of_segment {total : K}
    (h : ∀ i ∈ s, Unbroken (v i) (lo i) (hi i) a b)
    (hle : ∀ i ∈ s, lo i ≤ hi i) (hab : a ≤ b)
    (habove : total ≤ clipSum s v lo hi a)
    (hbelow : clipSum s v lo hi b ≤ total) :
    ∃ tau, clipSum s v lo hi tau = total := by
  rcases (hbelow.trans habove).lt_or_eq with hlt | heq
  · have hgap : 0 < clipSum s v lo hi a - clipSum s v lo hi b :=
      sub_pos.mpr hlt
    refine ⟨_, (clipSum_segment
      (t := (clipSum s v lo hi a - total)
        / (clipSum s v lo hi a - clipSum s v lo hi b)) h hle hab
      (div_nonneg (sub_nonneg.mpr habove) hgap.le)
      ((div_le_one hgap).mpr (by linarith))).trans ?_⟩
    field_simp
    ring
  · exact ⟨a, le_antisymm (heq ▸ hbelow) habove⟩

-- ============================================================= every value

/-- Where some clip of the sum changes its branch. -/
def breakpoints (s : Finset ι) (v lo hi : ι → K) : Finset K :=
  s.image (fun i => v i - lo i) ∪ s.image fun i => v i - hi i

omit [IsStrictOrderedRing K] in
/-- An interval without a breakpoint is unbroken at every index. -/
theorem unbroken_of_gap (hgap : ∀ c ∈ breakpoints s v lo hi, c ≤ a ∨ b ≤ c) :
    ∀ i ∈ s, Unbroken (v i) (lo i) (hi i) a b := by
  intro i hi'
  constructor
  · exact hgap _ (Finset.mem_union_left _
      (Finset.mem_image_of_mem (fun i => v i - lo i) hi'))
  · exact hgap _ (Finset.mem_union_right _
      (Finset.mem_image_of_mem (fun i => v i - hi i) hi'))

/-- The least upper breakpoint leaves every point at its upper bound. -/
theorem exists_break_above (hne : s.Nonempty) :
    ∃ c ∈ breakpoints s v lo hi, clipSum s v lo hi c = ∑ i ∈ s, hi i := by
  obtain ⟨i, hi', hleast⟩ := Finset.exists_min_image s (fun i => v i - hi i) hne
  refine ⟨v i - hi i, Finset.mem_union_right _
    (Finset.mem_image_of_mem (fun i => v i - hi i) hi'), ?_⟩
  apply Finset.sum_congr rfl
  intro j hj
  have hmin := hleast j hj
  exact clip_of_hi_le (by linarith)

/-- Some breakpoint clips every term from below. -/
theorem exists_break_below (hne : s.Nonempty)
    (hle : ∀ i ∈ s, lo i ≤ hi i) :
    ∃ c ∈ breakpoints s v lo hi, clipSum s v lo hi c = ∑ i ∈ s, lo i := by
  obtain ⟨i, hi', hgreatest⟩ :=
    Finset.exists_max_image s (fun i => v i - lo i) hne
  refine ⟨v i - lo i, Finset.mem_union_left _
    (Finset.mem_image_of_mem (fun i => v i - lo i) hi'), ?_⟩
  apply Finset.sum_congr rfl
  intro j hj
  have hmax := hgreatest j hj
  exact le_antisymm (clip_le_of_le_lo (by linarith)) (le_clip _ (hle j hj))

/-- A total between the sums of the bounds is the sum at some shift. -/
theorem exists_clipSum_eq {total : K} (hle : ∀ i ∈ s, lo i ≤ hi i)
    (hlo : ∑ i ∈ s, lo i ≤ total) (hhi : total ≤ ∑ i ∈ s, hi i) :
    ∃ tau, clipSum s v lo hi tau = total := by
  rcases s.eq_empty_or_nonempty with rfl | hne
  · exact ⟨0, le_antisymm hlo hhi⟩
  obtain ⟨top, htop, hsumTop⟩ : ∃ c ∈ breakpoints s v lo hi,
    clipSum s v lo hi c = ∑ i ∈ s, hi i := exists_break_above hne
  obtain ⟨bottom, hbottom, hsumBottom⟩ : ∃ c ∈ breakpoints s v lo hi,
    clipSum s v lo hi c = ∑ i ∈ s, lo i := exists_break_below hne hle
  -- the last breakpoint still above the total, and the first not above it
  obtain ⟨a, ha, hlast⟩ := Finset.exists_max_image
    ((breakpoints s v lo hi).filter fun c => total ≤ clipSum s v lo hi c) id
    ⟨top, Finset.mem_filter.mpr ⟨htop, hsumTop ▸ hhi⟩⟩
  obtain ⟨b, hb, hfirst⟩ := Finset.exists_min_image
    ((breakpoints s v lo hi).filter fun c => clipSum s v lo hi c ≤ total) id
    ⟨bottom, Finset.mem_filter.mpr ⟨hbottom, hsumBottom ▸ hlo⟩⟩
  rw [Finset.mem_filter] at ha hb
  rcases le_total b a with hba | hab
  · exact ⟨a, le_antisymm ((clipSum_antitone hba).trans hb.2) ha.2⟩
  · refine exists_clipSum_of_segment (unbroken_of_gap fun c hc => ?_) hle hab
      ha.2 hb.2
    rcases le_total total (clipSum s v lo hi c) with h | h
    · exact .inl (hlast c (Finset.mem_filter.mpr ⟨hc, h⟩))
    · exact .inr (hfirst c (Finset.mem_filter.mpr ⟨hc, h⟩))

end Warehouse.Lib.ClippedSum
