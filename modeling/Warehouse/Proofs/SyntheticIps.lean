/-
Generated households pass their own gate.

# The sample

The draws of a cohort are shared out with a rounding of half a quantum a
sleeve, and the last sleeve takes what is left, so the weights add up to
one and every one of them is within a few quanta of its draw's share
(`shareOut_near`).

# The gate

Shape A gives every sleeve its weight back, so a band drawn around the
weight holds it (`bandTarget_ok`); at rung 3 no lot has an issuer; and the
liquid share is a function of the alternatives' weight alone
(`liquidTierShare_assembled`), so what is left is that weight at the worst
corner of a cohort's ranges. The stressed cohort's equity is capped under
its weight, so that it is always bound.
-/
import Warehouse.Proofs.FixtureViews

namespace Warehouse

open Lib

-- ================================================================ the sample

/-- Half a quantum of a weight. -/
def halfQuantum : ℚ := 1 / 2 / 10 ^ 7

/-- The residue goes to a class that is there. -/
theorem keys_shareOut (total : ℚ) (raw : List (RiskClass × ℚ)) :
    ∀ assigned, (shareOut total assigned raw).map Prod.fst
      = raw.map Prod.fst := by
  induction raw with
  | nil => exact fun _ => rfl
  | cons first rest ih =>
      intro assigned
      cases rest with
      | nil => rfl
      | cons next rest =>
          unfold shareOut
          rw [List.map_cons, List.map_cons, ih]

/-- Whatever has been assigned, the sleeves left share out the rest. -/
theorem sum_shareOut (total : ℚ) (raw : List (RiskClass × ℚ))
    (hne : raw ≠ []) : ∀ assigned,
    ((shareOut total assigned raw).map Prod.snd).sum = 1 - assigned := by
  induction raw with
  | nil => exact absurd rfl hne
  | cons first rest ih =>
      intro assigned
      cases rest with
      | nil => exact add_zero _
      | cons next rest =>
          unfold shareOut
          rw [List.map_cons, List.sum_cons, ih (List.cons_ne_nil _ _)]
          ring

/-- Every weight is near its draw's share: a rounded one by half a
quantum, the last one by what the roundings before it add up to. -/
theorem shareOut_near (total : ℚ) (raw : List (RiskClass × ℚ)) :
    ∀ (assigned ε : ℚ),
      |1 - assigned - (raw.map Prod.snd).sum / total| ≤ ε →
      List.Forall₂ (fun r w => r.1 = w.1
          ∧ |w.2 - r.2 / total| ≤ ε + raw.length * halfQuantum)
        raw (shareOut total assigned raw) := by
  have hquantum : (0 : ℚ) ≤ halfQuantum := by norm_num [halfQuantum]
  induction raw with
  | nil => exact fun _ _ _ => .nil
  | cons first rest ih =>
      intro assigned ε hε
      have hε' : 0 ≤ ε := (abs_nonneg _).trans hε
      cases rest with
      | nil =>
          refine .cons ⟨rfl, ?_⟩ .nil
          simp only [List.map_cons, List.map_nil, List.sum_cons, List.sum_nil,
            add_zero] at hε
          have : (0 : ℚ) ≤ ([first].length : ℚ) * halfQuantum := by positivity
          exact hε.trans (by linarith)
      | cons next rest =>
          unfold shareOut
          dsimp only
          have hround : |quantize 7 (first.2 / total) - first.2 / total|
              ≤ halfQuantum := abs_quantize_sub_le 7 _
          have hlen : ((first :: next :: rest).length : ℚ)
              = ((next :: rest).length : ℚ) + 1 := by
            rw [List.length_cons]
            push_cast
            ring
          have hnonneg : (0 : ℚ) ≤ ((next :: rest).length : ℚ) := by positivity
          have hrest := ih (assigned + quantize 7 (first.2 / total))
            (ε + halfQuantum) (by
              rw [List.map_cons, List.sum_cons, add_div] at hε
              rw [abs_le] at hε hround ⊢
              constructor
              · linarith [hε.1, hround.2]
              · linarith [hε.2, hround.1])
          refine .cons ⟨rfl, ?_⟩ (hrest.imp fun r w h => ⟨h.1, ?_⟩)
          · refine hround.trans ?_
            rw [hlen]
            nlinarith
          · refine h.2.trans (le_of_eq ?_)
            rw [hlen]
            ring

-- ================================================================= the draws

theorem weightIn_of_mem {d : Dict RiskClass ℚ} {c : RiskClass} {q : ℚ}
    (h : (c, q) ∈ d.entries) : weightIn d c = q := by
  unfold weightIn
  rw [Dict.get?_eq_some_iff.mpr h, Option.getD_some]

/-- A class without one weighs nothing. -/
theorem weightIn_of_notMem {d : Dict RiskClass ℚ} {c : RiskClass}
    (h : c ∉ d.keys) : weightIn d c = 0 := by
  unfold weightIn
  rw [Dict.get?_eq_none_iff.mpr h, Option.getD_none]

/-- Draws from ranges: one for each sleeve, none for the others. -/
structure RawDraws (ranges : List (RiskClass × ℚ × ℚ)) (d : Dict RiskClass ℚ) :
    Prop where
  keys : d.keys = ranges.map Prod.fst
  within : ∀ r ∈ ranges, r.2.1 ≤ weightIn d r.1 ∧ weightIn d r.1 ≤ r.2.2

/-- Ranges as the cohorts have them: sleeves told apart, no foreign
exchange among them, none of them close to nought, and all of them not
much more than everything. -/
structure Ranged (ranges : List (RiskClass × ℚ × ℚ)) : Prop where
  distinct : (ranges.map Prod.fst).Nodup
  domestic : RiskClass.fx ∉ ranges.map Prod.fst
  nonempty : ranges ≠ []
  short : ranges.length ≤ 5
  low : ∀ r ∈ ranges, 2 / 100 ≤ r.2.1 ∧ r.2.1 ≤ r.2.2
  high : (ranges.map fun r => r.2.2).sum ≤ 13 / 10

/-- Every cohort's ranges are such. -/
theorem sleeveRanges_ranged {cohortId : String}
    {ranges : List (RiskClass × ℚ × ℚ)}
    (hcohort : sleeveRanges cohortId = some ranges) : Ranged ranges := by
  unfold sleeveRanges at hcohort
  split at hcohort
  all_goals cases hcohort
  all_goals exact ⟨by decide, by decide, List.cons_ne_nil _ _, by decide,
    by decide +kernel, by decide +kernel⟩

variable {ranges : List (RiskClass × ℚ × ℚ)}

theorem keys_rawWeights (rng : SeededRandom) (seed : Int)
    (ranges : List (RiskClass × ℚ × ℚ)) :
    (rawWeights rng seed ranges).map Prod.fst = ranges.map Prod.fst := by
  unfold rawWeights
  rw [List.map_map]
  calc _ = (ranges.zipIdx.map Prod.fst).map Prod.fst := by
          rw [List.map_map]
          rfl
    _ = _ := by rw [List.zipIdx_map_fst]

theorem drawn_rawWeights (rng : SeededRandom) (seed : Int)
    (hranged : Ranged ranges) :
    RawDraws ranges (Dict.ofPairs (rawWeights rng seed ranges)) := by
  have hnd : ((rawWeights rng seed ranges).map Prod.fst).Nodup := by
    rw [keys_rawWeights]
    exact hranged.distinct
  have hentries := Dict.entries_ofPairs hnd
  constructor
  · rw [Dict.keys, hentries, keys_rawWeights]
  · intro r hr
    obtain ⟨i, hi⟩ : ∃ i, (r, i) ∈ ranges.zipIdx := by
      rw [← List.zipIdx_map_fst 0 ranges] at hr
      obtain ⟨⟨r', i⟩, hi, rfl⟩ := List.mem_map.mp hr
      exact ⟨i, hi⟩
    have hmem : (r.1, rng.uniform seed i r.2.1 r.2.2)
        ∈ (Dict.ofPairs (rawWeights rng seed ranges)).entries := by
      rw [hentries]
      exact List.mem_map.mpr ⟨(r, i), hi, rfl⟩
    rw [weightIn_of_mem hmem]
    exact rng.uniformRange seed i _ _ (hranged.low r hr).2

/-- What the draws add up to. -/
theorem RawDraws.sum_values {d : Dict RiskClass ℚ} (h : RawDraws ranges d) :
    d.values.sum = (ranges.map fun r => weightIn d r.1).sum := by
  rw [Dict.values_eq, h.keys, List.map_map]
  rfl

theorem RawDraws.total_bounds {d : Dict RiskClass ℚ} (h : RawDraws ranges d)
    (hranged : Ranged ranges) : 0 < d.values.sum ∧ d.values.sum ≤ 13 / 10 := by
  rw [h.sum_values]
  constructor
  · apply List.sum_pos
    · intro q hq
      obtain ⟨r, hr, rfl⟩ := List.mem_map.mp hq
      have := (hranged.low r hr).1
      have := (h.within r hr).1
      linarith
    · intro hnil
      exact hranged.nonempty (List.map_eq_nil_iff.mp hnil)
  · exact (List.sum_le_sum fun r hr => (h.within r hr).2).trans hranged.high

/-- The sampled weights of a cohort. -/
structure Sampled (ranges : List (RiskClass × ℚ × ℚ))
    (d weights : Dict RiskClass ℚ) : Prop where
  drawn : RawDraws ranges d
  keys : weights.keys = ranges.map Prod.fst
  sum : weights.values.sum = 1
  near : ∀ c, |weightIn weights c - weightIn d c / d.values.sum|
    ≤ 5 * halfQuantum

/-- Weights shared out to a few draws are near the draws' shares. -/
theorem weightIn_shareOut_near {raw : List (RiskClass × ℚ)}
    (hnd : (raw.map Prod.fst).Nodup) (hlen : raw.length ≤ 5)
    (hpos : 0 < (raw.map Prod.snd).sum) (c : RiskClass) :
    |weightIn (Dict.ofPairs (shareOut (raw.map Prod.snd).sum 0 raw)) c
        - weightIn (Dict.ofPairs raw) c / (raw.map Prod.snd).sum|
      ≤ 5 * halfQuantum := by
  have hquantum : (0 : ℚ) ≤ halfQuantum := by norm_num [halfQuantum]
  have hfew : (raw.length : ℚ) ≤ 5 := by exact_mod_cast hlen
  have hkeys := keys_shareOut (raw.map Prod.snd).sum raw 0
  have hentries := Dict.entries_ofPairs hnd
  have hshares := Dict.entries_ofPairs (by rw [hkeys]; exact hnd :
    ((shareOut (raw.map Prod.snd).sum 0 raw).map Prod.fst).Nodup)
  by_cases hc : c ∈ raw.map Prod.fst
  · rw [← hkeys] at hc
    obtain ⟨⟨_, w⟩, hw, rfl⟩ := List.mem_map.mp hc
    have hnear := shareOut_near (raw.map Prod.snd).sum raw 0 0 (by
      rw [div_self hpos.ne', sub_zero, sub_self, abs_zero])
    obtain ⟨⟨_, r⟩, hr, rfl, hle⟩ := forall₂_mem_right hnear hw
    rw [weightIn_of_mem (by rw [hshares]; exact hw),
      weightIn_of_mem (by rw [hentries]; exact hr)]
    refine hle.trans ?_
    nlinarith
  · have hshared : c ∉ (Dict.ofPairs
        (shareOut (raw.map Prod.snd).sum 0 raw)).keys := by
      rw [Dict.keys, hshares, hkeys]
      exact hc
    have hdrawn : c ∉ (Dict.ofPairs raw).keys := by
      rw [Dict.keys, hentries]
      exact hc
    rw [weightIn_of_notMem hshared, weightIn_of_notMem hdrawn, zero_div,
      sub_zero, abs_zero]
    linarith

/-- A known cohort's weights are sampled. -/
theorem sampleSleeveWeights_ok (rng : SeededRandom) {cohortId : String}
    (seed : Int) (hcohort : sleeveRanges cohortId = some ranges)
    (hranged : Ranged ranges) :
    ∃ d weights, sampleSleeveWeights rng cohortId seed = .ok weights
      ∧ Sampled ranges d weights := by
  have hdrawn := drawn_rawWeights rng seed hranged
  have hkeys := keys_rawWeights rng seed ranges
  have hpos := (hdrawn.total_bounds hranged).1
  have hrun : sampleSleeveWeights rng cohortId seed = .ok (Dict.ofPairs
      (shareOut ((rawWeights rng seed ranges).map Prod.snd).sum 0
        (rawWeights rng seed ranges))) := by
    unfold sampleSleeveWeights
    rw [hcohort]
  generalize rawWeights rng seed ranges = raw at *
  have hnd : (raw.map Prod.fst).Nodup := by
    rw [hkeys]
    exact hranged.distinct
  have hlen : raw.length ≤ 5 := by
    rw [← List.length_map Prod.fst, hkeys, List.length_map]
    exact hranged.short
  have hne : raw ≠ [] := by
    intro hnil
    rw [hnil] at hkeys
    exact hranged.nonempty (List.map_eq_nil_iff.mp hkeys.symm)
  have htotal : (Dict.ofPairs raw).values.sum = (raw.map Prod.snd).sum := by
    rw [Dict.values, Dict.entries_ofPairs hnd]
  have hsharekeys := keys_shareOut (raw.map Prod.snd).sum raw 0
  have hshares := Dict.entries_ofPairs (by rw [hsharekeys]; exact hnd :
    ((shareOut (raw.map Prod.snd).sum 0 raw).map Prod.fst).Nodup)
  refine ⟨Dict.ofPairs raw,
    Dict.ofPairs (shareOut (raw.map Prod.snd).sum 0 raw), hrun, hdrawn, ?_, ?_,
    fun c => ?_⟩
  · rw [Dict.keys, hshares, hsharekeys, hkeys]
  · rw [Dict.values, hshares, sum_shareOut _ raw hne, sub_zero]
  · rw [htotal] at hpos ⊢
    exact weightIn_shareOut_near hnd hlen hpos c

/-- A sleeve of the cohort has some weight, the others have none. -/
theorem Sampled.weightIn_pos {d weights : Dict RiskClass ℚ}
    (h : Sampled ranges d weights) (hranged : Ranged ranges)
    {r : RiskClass × ℚ × ℚ} (hr : r ∈ ranges) :
    1 / 100 ≤ weightIn weights r.1 := by
  obtain ⟨hpos, hle⟩ := h.drawn.total_bounds hranged
  have hdraw : 2 / 100 ≤ weightIn d r.1 :=
    (hranged.low r hr).1.trans (h.drawn.within r hr).1
  have hshare : 2 / 130 ≤ weightIn d r.1 / d.values.sum := by
    rw [le_div_iff₀ hpos]
    linarith
  have hnear := (abs_le.mp (h.near r.1)).1
  norm_num [halfQuantum] at hnear
  linarith

/-- No sampled weight is negative. -/
theorem Sampled.weightIn_nonneg {d weights : Dict RiskClass ℚ}
    (h : Sampled ranges d weights) (hranged : Ranged ranges) (c : RiskClass) :
    0 ≤ weightIn weights c := by
  by_cases hc : c ∈ ranges.map Prod.fst
  · obtain ⟨r, hr, rfl⟩ := List.mem_map.mp hc
    have := h.weightIn_pos hranged hr
    linarith
  · rw [weightIn_of_notMem (by rw [h.keys]; exact hc)]

/-- A sleeve's weight is at most a bound on its draw's share, but for the
roundings. -/
theorem Sampled.weightIn_le {d weights : Dict RiskClass ℚ}
    (h : Sampled ranges d weights) (hranged : Ranged ranges) {c : RiskClass}
    {bound : ℚ} (hbound : weightIn d c ≤ bound * d.values.sum) :
    weightIn weights c ≤ bound + 5 * halfQuantum := by
  obtain ⟨hpos, -⟩ := h.drawn.total_bounds hranged
  have hshare : weightIn d c / d.values.sum ≤ bound := by
    rw [div_le_iff₀ hpos]
    exact hbound
  have hnear := (abs_le.mp (h.near c)).2
  linarith

-- ================================================================= the bands

theorem quantize_isFraction (places : Nat) {q : ℚ} (h : IsFraction q) :
    IsFraction (quantize places q) := by
  constructor
  · have := quantize_mono places h.1
    rw [quantize_zero] at this
    exact this
  · have := quantize_mono places h.2
    rw [quantize_one] at this
    exact this

theorem AllocationTarget.create_ok (sleeve : IpsSleeve) {low high target : ℚ}
    (hlow : IsFraction low) (hhigh : IsFraction high)
    (htarget : IsFraction target) :
    ∃ t, AllocationTarget.create sleeve low high target = .ok t
      ∧ t.assetClass = sleeve ∧ t.minWeight = low ∧ t.maxWeight = high := by
  unfold AllocationTarget.create
  rw [dif_pos hlow, dif_pos hhigh, dif_pos htarget]
  exact ⟨_, rfl, rfl, rfl, rfl⟩

/-- The one sleeve that is capped under its weight. -/
def Capped (cohortId : String) (sleeve : IpsSleeve) : Prop :=
  cohortId = "concentrated_stress" ∧ sleeve = .equity

section Bands

variable {cohortId : String} {sleeve : IpsSleeve} {weight band : ℚ}

/-- A cap is under the weight it caps. -/
theorem bandTarget_capped (hcapped : Capped cohortId sleeve)
    (hlow : 5 / 1000 ≤ weight) (hhigh : weight ≤ 1) (hband : 0 ≤ band) :
    ∃ t, bandTarget cohortId sleeve weight band = .ok t
      ∧ t.assetClass = sleeve ∧ t.maxWeight < weight := by
  have hcap : IsFraction (quantize 7 (weight - 5 / 1000)) :=
    quantize_isFraction 7 ⟨by linarith, by linarith⟩
  have hfloor : IsFraction
      (quantize 7 (max 0 (quantize 7 (weight - 5 / 1000) - band))) := by
    apply quantize_isFraction
    refine ⟨le_max_left _ _, max_le zero_le_one ?_⟩
    have := hcap.2
    linarith
  have hnear := (abs_le.mp (abs_quantize_sub_le 7 (weight - 5 / 1000))).2
  obtain ⟨t, hmade, hclass, -, hmax⟩ :=
    AllocationTarget.create_ok sleeve hfloor hcap hcap
  refine ⟨t, ?_, hclass, ?_⟩
  · unfold bandTarget
    unfold Capped at hcapped
    rw [if_pos hcapped]
    exact hmade
  · rw [hmax]
    norm_num at hnear
    linarith

/-- A band holds the weight it is drawn around, however it is rounded. -/
theorem bandTarget_ok (hcapped : ¬ Capped cohortId sleeve)
    (hweight : IsFraction weight) (hband : 1 / 100 ≤ band) :
    ∃ t, bandTarget cohortId sleeve weight band = .ok t
      ∧ t.assetClass = sleeve ∧ t.minWeight ≤ weight
      ∧ weight ≤ t.maxWeight := by
  have htarget := quantize_isFraction 7 hweight
  have hnear := abs_le.mp (abs_quantize_sub_le 7 weight)
  norm_num at hnear
  have hlow : IsFraction (max 0 (quantize 7 weight - band)) :=
    ⟨le_max_left _ _, max_le zero_le_one (by have := htarget.2; linarith)⟩
  have hhigh : IsFraction (min 1 (quantize 7 weight + band)) :=
    ⟨le_min zero_le_one (by have := htarget.1; linarith), min_le_left _ _⟩
  obtain ⟨t, hmade, hclass, hmin, hmax⟩ := AllocationTarget.create_ok sleeve
    (quantize_isFraction 7 hlow) (quantize_isFraction 7 hhigh) htarget
  refine ⟨t, ?_, hclass, ?_, ?_⟩
  · unfold bandTarget
    unfold Capped at hcapped
    rw [if_neg hcapped]
    exact hmade
  · rw [hmin]
    rcases le_total (quantize 7 weight - band) 0 with hle | hle
    · rw [max_eq_left hle, quantize_zero]
      exact hweight.1
    · rw [max_eq_right hle]
      have hround :=
        (abs_le.mp (abs_quantize_sub_le 7 (quantize 7 weight - band))).2
      norm_num at hround
      linarith
  · rw [hmax]
    rcases le_total 1 (quantize 7 weight + band) with hle | hle
    · rw [min_eq_left hle, quantize_one]
      exact hweight.2
    · rw [min_eq_right hle]
      have hround :=
        (abs_le.mp (abs_quantize_sub_le 7 (quantize 7 weight + band))).1
      norm_num at hround
      linarith

end Bands

-- ============================================================ the statements

section Statements

variable {cohortId householdId : String} {seed rung : Int}
  {weights : Dict RiskClass ℚ} {priors : CohortIpsPriors} {limit : ℚ}

theorem InvestmentPolicyStatement.create_ok (ipsId householdId : String)
    (version : Int) (effectiveDate : String) (targets : List AllocationTarget)
    (restricted : List String) {limit : ℚ} {liquidity turnover : Option ℚ}
    (hlimit : IsFraction limit) (hliquidity : ∀ q ∈ liquidity, IsFraction q)
    (hturnover : ∀ q ∈ turnover, IsFraction q) :
    ∃ ips, InvestmentPolicyStatement.create ipsId householdId version
        effectiveDate targets restricted limit liquidity turnover = .ok ips
      ∧ ips.householdId = householdId ∧ ips.allocationTargets = targets
      ∧ ips.liquidityTierMinPct = liquidity := by
  unfold InvestmentPolicyStatement.create
  rw [dif_pos hlimit, dif_pos hliquidity, dif_pos hturnover]
  exact ⟨_, rfl, rfl, rfl, rfl⟩

/-- The targeted classes are those with a weight. -/
theorem mem_targetClasses {c : RiskClass} :
    c ∈ targetClasses weights ↔ 0 < weightIn weights c := by
  unfold targetClasses
  rw [List.mem_filter, List.mem_mergeSort, decide_eq_true_eq]
  constructor
  · exact fun h => h.2
  · intro hpos
    refine ⟨?_, hpos⟩
    by_contra hc
    rw [weightIn_of_notMem hc] at hpos
    exact lt_irrefl _ hpos

/-- A statement has a target for every sleeve with a weight, drawn around
it, and for no other. -/
structure BandedAround (cohortId : String) (weights : Dict RiskClass ℚ)
    (targets : List AllocationTarget) : Prop where
  drawn : ∀ t ∈ targets, ∃ c, 0 < weightIn weights c
    ∧ t.assetClass = assetToIpsSleeve c
    ∧ (¬ Capped cohortId t.assetClass →
      t.minWeight ≤ weightIn weights c ∧ weightIn weights c ≤ t.maxWeight)
  capped : Capped cohortId .equity → 0 < weightIn weights .equity →
    ∃ t ∈ targets, t.assetClass = .equity
      ∧ t.maxWeight < weightIn weights .equity

/-- Every class gets a band around its weight. -/
theorem bandedAround_targets {band : ℚ} (hband : 1 / 100 ≤ band)
    (hweights : ∀ c, IsFraction (weightIn weights c))
    (hequity : Capped cohortId .equity → 5 / 1000 ≤ weightIn weights .equity) :
    ∃ targets, (targetClasses weights).mapM (fun c =>
        bandTarget cohortId (assetToIpsSleeve c) ((weights.get? c).getD 0) band)
        = .ok targets
      ∧ BandedAround cohortId weights targets
      ∧ ((∃ c, 0 < weightIn weights c) → targets ≠ []) := by
  obtain ⟨targets, hrun, hdrawn⟩ := mapM_forall₂
    (P := fun c (t : AllocationTarget) => t.assetClass = assetToIpsSleeve c
      ∧ (¬ Capped cohortId t.assetClass →
        t.minWeight ≤ weightIn weights c ∧ weightIn weights c ≤ t.maxWeight)
      ∧ (Capped cohortId t.assetClass → t.maxWeight < weightIn weights c))
    (targetClasses weights) (by
      intro c _
      by_cases hcapped : Capped cohortId (assetToIpsSleeve c)
      · have hc : c = .equity := by
          apply assetToIpsSleeve_injective
          exact hcapped.2
        have hlow : 5 / 1000 ≤ weightIn weights c := by
          rw [hc] at hcapped ⊢
          exact hequity hcapped
        obtain ⟨t, hmade, hclass, hmax⟩ := bandTarget_capped hcapped hlow
          (hweights c).2 (le_trans (by norm_num) hband)
        rw [← hclass] at hcapped
        exact ⟨t, hmade, hclass, fun h => absurd hcapped h, fun _ => hmax⟩
      · obtain ⟨t, hmade, hclass, hbanded⟩ :=
          bandTarget_ok hcapped (hweights c) hband
        rw [← hclass] at hcapped
        exact ⟨t, hmade, hclass, fun _ => hbanded, fun h => absurd h hcapped⟩)
  refine ⟨targets, hrun, ⟨?_, ?_⟩, ?_⟩
  · intro t ht
    obtain ⟨c, hc, hclass, hbanded, -⟩ := forall₂_mem_right hdrawn ht
    exact ⟨c, mem_targetClasses.mp hc, hclass, hbanded⟩
  · intro hcapped hpos
    obtain ⟨t, ht, hclass, -, hmax⟩ :=
      forall₂_mem_left hdrawn (mem_targetClasses.mpr hpos)
    exact ⟨t, ht, hclass, hmax (by rw [hclass]; exact hcapped)⟩
  · intro ⟨c, hpos⟩ hnil
    obtain ⟨t, ht, -⟩ := forall₂_mem_left hdrawn (mem_targetClasses.mpr hpos)
    rw [hnil] at ht
    cases ht

/-- Fractional weights and priors make a statement. -/
theorem emitIpsForCohort_ok (rng : SeededRandom) (householdId : String)
    (rung : Int) (hpriors : cohortIpsPriors cohortId = .ok priors)
    (hlimit : resolveConcentrationLimit rng cohortId priors seed weights
      = .ok limit)
    (hlimitFraction : IsFraction limit)
    (hfloor : IsFraction priors.liquidityTierMinPct)
    (hturnover : ∀ q ∈ priors.turnoverBudgetPct, IsFraction q)
    (hband : 1 / 100 ≤ priors.allocationBandPct)
    (hweights : ∀ c, IsFraction (weightIn weights c))
    (hequity : Capped cohortId .equity → 5 / 1000 ≤ weightIn weights .equity)
    (hsome : ∃ c, 0 < weightIn weights c) :
    ∃ ips, emitIpsForCohort rng cohortId seed householdId weights rung
        = .ok ips
      ∧ ips.householdId = householdId
      ∧ ips.liquidityTierMinPct = some priors.liquidityTierMinPct
      ∧ BandedAround cohortId weights ips.allocationTargets := by
  obtain ⟨targets, hrun, hbanded, hne⟩ :=
    bandedAround_targets hband hweights hequity
  have hfloors : ∀ q ∈ some priors.liquidityTierMinPct, IsFraction q := by
    intro q hq
    cases hq
    exact hfloor
  obtain ⟨ips, hmade, hhousehold, htargets, hliquidity⟩ :=
    InvestmentPolicyStatement.create_ok ("ips_" ++ householdId ++ "_v1")
      householdId 1 defaultIpsEffectiveDate targets
      (sampleRestrictedSecurities rng cohortId seed rung) hlimitFraction
      hfloors hturnover
  refine ⟨ips, ?_, hhousehold, hliquidity, ?_⟩
  · unfold emitIpsForCohort
    rw [hpriors, ok_bind, hlimit, ok_bind, hrun, ok_bind,
      if_neg (hne hsome)]
    exact hmade
  · rw [htargets]
    exact hbanded

end Statements

-- ================================================================== the gate

section Gate

variable {portfolio : AssetPortfolio} {ips : InvestmentPolicyStatement}
  {cohortId : String}

/-- A target reads the weight of its class. -/
theorem currentWeight_eq {t : AllocationTarget} {c : RiskClass}
    (h : t.assetClass = assetToIpsSleeve c) :
    ((shapeASleeveWeights portfolio).get? t.assetClass).getD 0
      = weightIn (shapeAWeights portfolio) c := by
  rw [h, get?_shapeASleeveWeights]
  rfl

/-- Bands around the weights do not bind. -/
theorem sleeveBindingConstraints_eq_nil
    (hbanded : BandedAround cohortId (shapeAWeights portfolio)
      ips.allocationTargets) (hcohort : cohortId ≠ "concentrated_stress") :
    sleeveBindingConstraints (shapeASleeveWeights portfolio) ips = [] := by
  unfold sleeveBindingConstraints
  rw [List.flatMap_eq_nil_iff]
  intro t ht
  obtain ⟨c, -, hclass, hband⟩ := hbanded.drawn t ht
  obtain ⟨hmin, hmax⟩ := hband fun hcapped => hcohort hcapped.1
  unfold targetBindings
  dsimp only
  rw [currentWeight_eq hclass, if_neg (not_lt.mpr hmin),
    if_neg (not_lt.mpr hmax), List.append_nil]

/-- The capped equity sleeve binds. -/
theorem sleeveBindingConstraints_ne_nil
    (hbanded : BandedAround cohortId (shapeAWeights portfolio)
      ips.allocationTargets) (hcohort : cohortId = "concentrated_stress")
    (hequity : 0 < weightIn (shapeAWeights portfolio) .equity) :
    sleeveBindingConstraints (shapeASleeveWeights portfolio) ips ≠ [] := by
  obtain ⟨t, ht, hclass, hmax⟩ := hbanded.capped ⟨hcohort, rfl⟩ hequity
  intro hnil
  unfold sleeveBindingConstraints at hnil
  have hquiet := List.flatMap_eq_nil_iff.mp hnil t ht
  unfold targetBindings at hquiet
  dsimp only at hquiet
  have hclass' : t.assetClass = assetToIpsSleeve .equity := hclass
  rw [currentWeight_eq hclass', if_pos hmax] at hquiet
  exact List.cons_ne_nil _ _ (List.append_eq_nil_iff.mp hquiet).2

/-- A sleeve's proxy fund is no issuer. -/
theorem lotIssuer_of_proxy {lot : SyntheticLot}
    (hissuer : lot.concentrationIssuer = none)
    (hticker : lot.ticker ∈ sleeveProxyTickers) : lotIssuer lot = none := by
  unfold lotIssuer
  rw [hissuer, if_neg (by decide), if_pos hticker]

/-- At rung 3 every lot is a sleeve's proxy. -/
theorem lotIssuer_sleeveOnlyLots {householdId accountId : String}
    {weights : Dict RiskClass ℚ} {nav : ℚ} {lot : SyntheticLot}
    (hlot : lot ∈ sleeveOnlyLots householdId accountId weights nav) :
    lotIssuer lot = none := by
  unfold sleeveOnlyLots at hlot
  obtain ⟨⟨c, ticker, price, basis⟩, hspec, hmade⟩ := List.mem_filterMap.mp hlot
  have hproxy : ∀ spec ∈ sleeveSpecs, spec.2.1 ∈ sleeveProxyTickers := by
    decide
  dsimp only at hmade
  split at hmade
  · cases hmade
  · cases hmade
    exact lotIssuer_of_proxy rfl (hproxy _ hspec)

/-- Lots without issuers concentrate nothing. -/
theorem concentrationBindingConstraints_eq_nil {fixture : HouseholdFixture}
    (hlots : ∀ lot ∈ fixture.lots, lotIssuer lot = none) :
    concentrationBindingConstraints fixture ips = [] := by
  have hfold : ∀ lots : List SyntheticLot,
      (∀ lot ∈ lots, lotIssuer lot = none) →
      lots.foldl addIssuer Dict.empty = Dict.empty := by
    intro lots
    induction lots with
    | nil => exact fun _ => rfl
    | cons lot rest ih =>
        intro hnone
        rw [List.forall_mem_cons] at hnone
        have hturn : addIssuer Dict.empty lot = Dict.empty := by
          unfold addIssuer
          rw [hnone.1]
        rw [List.foldl_cons, hturn]
        exact ih hnone.2
  have hempty : issuerWeights fixture = Dict.empty := by
    unfold issuerWeights
    dsimp only
    split
    · rfl
    · rw [hfold fixture.lots hlots]
      rfl
  unfold concentrationBindingConstraints
  rw [hempty]
  rfl

/-- Emitted lots are all liquid. -/
theorem foldlM_addLiquid (lots : List SyntheticLot)
    (hlots : ∀ lot ∈ lots, ∃ c ∈ publicClasses, lot.assetClass = c.value) :
    ∀ mv, lots.foldlM addLiquid mv
      = .ok (mv + (lots.map SyntheticLot.marketValue).sum) := by
  have htier : ∀ c ∈ publicClasses, classLiquidityTier c false ≤ 2 := by
    decide
  induction lots with
  | nil =>
      intro mv
      rw [List.map_nil, List.sum_nil, add_zero]
      rfl
  | cons lot rest ih =>
      intro mv
      rw [List.forall_mem_cons] at hlots
      obtain ⟨⟨c, hc, hvalue⟩, hrest⟩ := hlots
      have hturn : addLiquid mv lot = .ok (mv + lot.marketValue) := by
        unfold addLiquid
        rw [lotLiquidityTier_of_value hvalue, ok_bind, if_pos (htier c hc)]
        rfl
      rw [List.foldlM_cons, hturn, ok_bind, ih hrest, List.map_cons,
        List.sum_cons, add_assoc]

/-- The liquid share of a fixture is a function of the alternatives'
weight: a fifth of it comes on top, uncalled. -/
theorem liquidTierShare_assembled (cohortId : String) (rt : SyntheticRuntime)
    (seed rung : Int) (hhId : String) {nav : ℚ} {weights : Dict RiskClass ℚ} (hnav : 0 < nav)
    (hweights : ∀ q ∈ weights.values, 0 ≤ q) (hwhole : emittedWeight weights = 1)
    (portfolio : Option AssetPortfolio) :
    liquidTierShare { assembleFixture rt cohortId seed rung hhId nav weights with
        assetPortfolio := portfolio }
      = .ok ((1 - weightIn weights .alternatives)
        / (1 + weightIn weights .alternatives * (2 / 10))) := by
  have hnonneg := weightIn_nonneg hweights .alternatives
  have hlots := bySleeve_assembleFixture rt cohortId seed rung hhId nav weights
  obtain ⟨halts, hunfunded⟩ := sum_buildAlts seed hhId nav weights
    rt.toSeededRandom
    (((buildAccounts hhId cohortId).map (·.accountId)).getLastD "")
  rw [max_eq_left hnonneg] at halts hunfunded
  have htotal := totalNavUsd_eq_mul rt cohortId seed rung hnav.le hweights hhId
  rw [hwhole, mul_one] at htotal
  have hworth : ((assembleFixture rt cohortId seed rung hhId nav
      weights).lots.map SyntheticLot.marketValue).sum
      = nav * (1 - weightIn weights .alternatives) := by
    have hsplit : (assembleFixture rt cohortId seed rung hhId nav
        weights).totalNavUsd
        = ((assembleFixture rt cohortId seed rung hhId nav
            weights).lots.map SyntheticLot.marketValue).sum
          + nav * weightIn weights .alternatives := by
      rw [← halts]
      rfl
    linarith
  have hfold := foldlM_addLiquid (assembleFixture rt cohortId seed rung hhId
    nav weights).lots (fun lot hlot => by
      obtain ⟨c, hc, hvalue, -⟩ := hlots.mem hlot
      exact ⟨c, hc, hvalue⟩) 0
  have hdenominator : 0 < nav
      + nav * weightIn weights .alternatives * (2 / 10) := by positivity
  have hunfunded' : ((assembleFixture rt cohortId seed rung hhId nav
      weights).alternativeHoldings.map (·.unfundedCapital)).sum
      = nav * weightIn weights .alternatives * (2 / 10) := hunfunded
  unfold liquidTierShare
  dsimp only
  rw [hunfunded', htotal, if_neg (not_le.mpr hdenominator), hfold, ok_bind,
    hworth, zero_add]
  show Except.ok _ = Except.ok _
  congr 1
  rw [show nav + nav * weightIn weights .alternatives * (2 / 10)
      = nav * (1 + weightIn weights .alternatives * (2 / 10)) by ring,
    mul_div_mul_left _ _ hnav.ne']

end Gate

-- =============================================================== the cohorts

/-- Priors within their constraints, with one source of the concentration
limit. -/
structure SoundPriors (priors : CohortIpsPriors) : Prop where
  floor : IsFraction priors.liquidityTierMinPct
  turnover : ∀ q ∈ priors.turnoverBudgetPct, IsFraction q
  band : 1 / 100 ≤ priors.allocationBandPct
  limit : (∃ q ∈ priors.concentrationLimitPct, IsFraction q)
    ∨ priors.concentrationLimitPct = none
      ∧ ((∃ range ∈ priors.concentrationIssuerRange,
          0 ≤ range.1 ∧ range.1 ≤ range.2 ∧ range.2 ≤ 1)
        ∨ priors.concentrationIssuerRange = none
          ∧ ∃ range ∈ priors.concentrationPortfolioRange,
            0 ≤ range.1 ∧ range.1 ≤ range.2 ∧ range.2 ≤ 1)

theorem isFraction_percent {n : Nat} (h : n ≤ 100) :
    IsFraction ((n : ℚ) / 100) := by
  constructor
  · positivity
  · rw [div_le_one (by norm_num)]
    exact_mod_cast h

/-- Every cohort's priors are sound. -/
theorem cohortIpsPriors_sound {cohortId : String} {priors : CohortIpsPriors}
    (hpriors : cohortIpsPriors cohortId = .ok priors) : SoundPriors priors := by
  have hpercent : ∀ n : Nat, n ≤ 100 →
      ∀ q ∈ some ((n : ℚ) / 100), IsFraction q := by
    intro n hn q hq
    cases hq
    exact isFraction_percent hn
  unfold cohortIpsPriors at hpriors
  split at hpriors
  · cases hpriors
    exact ⟨isFraction_percent (by decide : 75 ≤ 100),
      hpercent 15 (by decide), by norm_num,
      .inl ⟨_, rfl, isFraction_percent (by decide : 12 ≤ 100)⟩⟩
  · cases hpriors
    exact ⟨isFraction_percent (by decide : 55 ≤ 100),
      hpercent 12 (by decide), by norm_num,
      .inl ⟨_, rfl, isFraction_percent (by decide : 10 ≤ 100)⟩⟩
  · cases hpriors
    exact ⟨isFraction_percent (by decide : 70 ≤ 100),
      hpercent 20 (by decide), by norm_num,
      .inr ⟨rfl, .inl ⟨_, rfl, by norm_num⟩⟩⟩
  · cases hpriors
    exact ⟨isFraction_percent (by decide : 60 ≤ 100),
      hpercent 10 (by decide), by norm_num,
      .inr ⟨rfl, .inr ⟨rfl, _, rfl, by norm_num⟩⟩⟩
  · cases hpriors

/-- Sound priors and a fractional equity weight make a fractional limit. -/
theorem resolveConcentrationLimit_ok (rng : SeededRandom) (cohortId : String)
    {priors : CohortIpsPriors} (seed : Int) {weights : Dict RiskClass ℚ}
    (hsound : SoundPriors priors)
    (hequity : IsFraction (weightIn weights .equity)) :
    ∃ limit, resolveConcentrationLimit rng cohortId priors seed weights
        = .ok limit ∧ IsFraction limit := by
  have hdraw : ∀ range : ℚ × ℚ,
      0 ≤ range.1 ∧ range.1 ≤ range.2 ∧ range.2 ≤ 1 →
      IsFraction (quantize 2 (rng.uniform (seed + 17) 0 range.1 range.2)) := by
    intro range ⟨hlow, hle, hhigh⟩
    obtain ⟨hmin, hmax⟩ := rng.uniformRange (seed + 17) 0 _ _ hle
    exact quantize_isFraction 2 ⟨hlow.trans hmin, hmax.trans hhigh⟩
  unfold resolveConcentrationLimit
  dsimp only
  rcases hsound.limit with ⟨q, hq, hfraction⟩ | ⟨hnone, hranges⟩
  · rw [Option.mem_def.mp hq]
    exact ⟨q, rfl, hfraction⟩
  · rw [hnone]
    rcases hranges with ⟨range, hrange, hbounds⟩ | ⟨hnone', range, hrange, hbounds⟩
    · rw [Option.mem_def.mp hrange]
      have hcap := hdraw range hbounds
      refine ⟨_, rfl, quantize_isFraction 2 ⟨?_, ?_⟩⟩
      · exact mul_nonneg hcap.1 hequity.1
      · exact mul_le_one₀ hcap.2 hequity.1 hequity.2
    · rw [hnone', Option.mem_def.mp hrange]
      exact ⟨_, rfl, hdraw range hbounds⟩

-- ================================================================ the margins

/-- What an alternatives' weight leaves liquid, at a floor it leaves room
for. -/
theorem floor_le_share {floor a : ℚ} (ha : 0 ≤ a)
    (hroom : floor * (1 + a * (2 / 10)) ≤ 1 - a) :
    floor ≤ (1 - a) / (1 + a * (2 / 10)) := by
  have hpos : 0 < 1 + a * (2 / 10) := by positivity
  rw [le_div_iff₀ hpos]
  exact hroom

/-- At the worst corner of its ranges a cohort that is not stressed still
leaves its liquidity floor room. -/
theorem Sampled.liquid {cohortId : String}
    {ranges : List (RiskClass × ℚ × ℚ)} {priors : CohortIpsPriors}
    {d weights : Dict RiskClass ℚ}
    (hcohort : sleeveRanges cohortId = some ranges)
    (hpriors : cohortIpsPriors cohortId = .ok priors)
    (hcalm : cohortId ≠ "concentrated_stress")
    (h : Sampled ranges d weights) :
    priors.liquidityTierMinPct ≤ (1 - weightIn weights .alternatives)
      / (1 + weightIn weights .alternatives * (2 / 10)) := by
  have hranged := sleeveRanges_ranged hcohort
  have hsum := h.drawn.sum_values
  have hwithin := h.drawn.within
  have hnonneg := h.weightIn_nonneg hranged .alternatives
  have hle : ∀ bound, weightIn d .alternatives ≤ bound * d.values.sum →
      weightIn weights .alternatives ≤ bound + 5 * halfQuantum :=
    fun bound => h.weightIn_le hranged
  have hquantum : halfQuantum = 1 / 20000000 := by norm_num [halfQuantum]
  apply floor_le_share hnonneg
  unfold sleeveRanges at hcohort
  split at hcohort
  · -- at most 15 of 80 parts: the floor is 75 hundredths
    cases hcohort
    cases hpriors
    simp only [List.forall_mem_cons, List.map_cons, List.map_nil,
      List.sum_cons, List.sum_nil] at hwithin hsum
    have := hle (15 / 80) (by linarith)
    dsimp only
    linarith
  · -- at most 35 of 87 parts: the floor is 55 hundredths
    cases hcohort
    cases hpriors
    simp only [List.forall_mem_cons, List.map_cons, List.map_nil,
      List.sum_cons, List.sum_nil] at hwithin hsum
    have := hle (35 / 87) (by linarith)
    dsimp only
    linarith
  · -- at most 20 of 80 parts: the floor is 70 hundredths
    cases hcohort
    cases hpriors
    simp only [List.forall_mem_cons, List.map_cons, List.map_nil,
      List.sum_cons, List.sum_nil] at hwithin hsum
    have := hle (20 / 80) (by linarith)
    dsimp only
    linarith
  · exact absurd rfl hcalm
  · cases hcohort

-- ============================================================ the households

section Households

variable {cohortId : String} {ranges : List (RiskClass × ℚ × ℚ)}
  {priors : CohortIpsPriors} {d weights : Dict RiskClass ℚ} {nav : ℚ}

/-- The rungs a cohort's households are claimed to pass at. -/
def GatedRung (cohortId : String) (rung : Int) : Prop :=
  rung = 3 ∨ rung = 4 ∧ cohortId = "concentrated_stress"

theorem values_nonneg (h : ∀ c, 0 ≤ weightIn weights c) :
    ∀ q ∈ weights.values, 0 ≤ q := by
  intro q hq
  obtain ⟨⟨c, _⟩, hmem, rfl⟩ := List.mem_map.mp hq
  rw [← weightIn_of_mem hmem]
  exact h c

/-- All of a sample is emitted. -/
theorem Sampled.emittedWeight (h : Sampled ranges d weights)
    (hranged : Ranged ranges) : emittedWeight weights = 1 := by
  have hfx : weightIn weights .fx = 0 :=
    weightIn_of_notMem (by rw [h.keys]; exact hranged.domestic)
  unfold Warehouse.emittedWeight
  rw [h.sum, hfx, sub_zero]

/-- Shape A of a sample is the sample. -/
theorem Sampled.shapeA (h : Sampled ranges d weights) (cohortId : String)
    (hranged : Ranged ranges) (rt : SyntheticRuntime) (seed : Int) {rung : Int}
    (householdId : Option String) (hrung : rung = 3 ∨ rung = 4)
    (hnav : 0 < nav) :
    ∃ portfolio,
      emitHnwFixture rt cohortId seed rung householdId nav (some weights)
        = .ok { assembleFixture rt cohortId seed rung
            (householdIdOr householdId cohortId seed) nav weights with
          assetPortfolio := some portfolio }
      ∧ ∀ c, weightIn (shapeAWeights portfolio) c = weightIn weights c := by
  have hwhole := h.emittedWeight hranged
  obtain ⟨portfolio, hrun, -, hshares⟩ := emitHnwFixture_ok rt cohortId seed
    householdId hrung hnav (values_nonneg (h.weightIn_nonneg hranged))
    (by rw [hwhole]; exact one_pos)
  refine ⟨portfolio, hrun, fun c => ?_⟩
  rw [hshares, hwhole, div_one]
  split
  · next hc =>
    rw [hc]
    exact (weightIn_of_notMem (by rw [h.keys]; exact hranged.domestic)).symm
  · rfl

theorem Sampled.weightIn_le_one (h : Sampled ranges d weights)
    (hranged : Ranged ranges) (c : RiskClass) : weightIn weights c ≤ 1 := by
  have hnonneg := h.weightIn_nonneg hranged
  have hsum := sum_weightIn weights
  rw [h.sum] at hsum
  rw [hsum]
  apply List.single_le_sum
  · intro q hq
    obtain ⟨c, -, rfl⟩ := List.mem_map.mp hq
    exact hnonneg c
  · exact List.mem_map_of_mem (mem_assetClasses c)

/-- The verdict on a household of the stressed cohort that is bound, or of
another that is not. -/
theorem validationVerdict_ok {binding : List String}
    (h : binding = [] ↔ cohortId ≠ "concentrated_stress") :
    (validationVerdict cohortId binding).ok = true
      ∧ (validationVerdict cohortId binding).bindingConstraints = binding := by
  unfold validationVerdict
  by_cases hcohort : cohortId = "concentrated_stress"
  · have hbound : binding ≠ [] := fun hnil => h.mp hnil hcohort
    rw [if_pos hcohort, if_neg hbound]
    exact ⟨rfl, rfl⟩
  · rw [if_neg hcohort]
    exact ⟨decide_eq_true (h.mpr hcohort), rfl⟩

/-- The liquid share of a calm household is over its floor. -/
theorem liquidityBindingConstraints_sampled
    (hcohort : sleeveRanges cohortId = some ranges)
    (hpriors : cohortIpsPriors cohortId = .ok priors)
    (h : Sampled ranges d weights) (rt : SyntheticRuntime) (seed rung : Int)
    (hhId : String) (hnav : 0 < nav) (portfolio : AssetPortfolio)
    {ips : InvestmentPolicyStatement}
    (hfloor : ips.liquidityTierMinPct = some priors.liquidityTierMinPct) :
    ∃ found, liquidityBindingConstraints
        { assembleFixture rt cohortId seed rung hhId nav weights with
          assetPortfolio := some portfolio } ips = .ok found
      ∧ (cohortId ≠ "concentrated_stress" → found = []) := by
  have hranged := sleeveRanges_ranged hcohort
  have hshare := liquidTierShare_assembled cohortId rt seed rung
    hhId hnav (values_nonneg (h.weightIn_nonneg hranged))
    (h.emittedWeight hranged) (some portfolio)
  unfold liquidityBindingConstraints
  rw [hfloor]
  dsimp only
  rw [hshare, ok_bind]
  by_cases hcalm : cohortId = "concentrated_stress"
  · split
    · exact ⟨_, rfl, fun hne => absurd hcalm hne⟩
    · exact ⟨_, rfl, fun hne => absurd hcalm hne⟩
  · rw [if_neg (not_lt.mpr (h.liquid hcohort hpriors hcalm))]
    exact ⟨_, rfl, fun _ => rfl⟩

/-- A sampled household passes the gate; the stressed one is bound. -/
theorem validateIps_sampled (hcohort : sleeveRanges cohortId = some ranges)
    (hpriors : cohortIpsPriors cohortId = .ok priors)
    (h : Sampled ranges d weights) (rt : SyntheticRuntime) (seed : Int)
    {rung : Int} (hhId : String) (hrung : GatedRung cohortId rung)
    (hnav : 0 < nav) {portfolio : AssetPortfolio}
    (hshapeA : ∀ c, weightIn (shapeAWeights portfolio) c = weightIn weights c)
    {ips : InvestmentPolicyStatement} (hhousehold : ips.householdId = hhId)
    (hfloor : ips.liquidityTierMinPct = some priors.liquidityTierMinPct)
    (hbanded : BandedAround cohortId (shapeAWeights portfolio)
      ips.allocationTargets)
    (hequity : cohortId = "concentrated_stress" →
      0 < weightIn weights .equity) :
    ∃ validation, validateIps
        { assembleFixture rt cohortId seed rung hhId nav weights with
          assetPortfolio := some portfolio } ips = .ok validation
      ∧ validation.ok = true
      ∧ (validation.bindingConstraints = []
        ↔ cohortId ≠ "concentrated_stress") := by
  obtain ⟨found, hfound, hquiet⟩ := liquidityBindingConstraints_sampled hcohort
    hpriors h rt seed rung hhId hnav portfolio hfloor
  generalize hfixture : { assembleFixture rt cohortId seed rung hhId nav
    weights with assetPortfolio := some portfolio } = fixture at hfound ⊢
  have hbinding : sleeveBindingConstraints (shapeASleeveWeights portfolio) ips
        ++ concentrationBindingConstraints fixture ips ++ found = []
      ↔ cohortId ≠ "concentrated_stress" := by
    constructor
    · intro hnil hstressed
      refine sleeveBindingConstraints_ne_nil hbanded hstressed ?_
        (List.append_eq_nil_iff.mp (List.append_eq_nil_iff.mp hnil).1).1
      rw [hshapeA]
      exact hequity hstressed
    · intro hcalm
      have hrung3 : rung = 3 := by
        rcases hrung with hrung | ⟨-, hstressed⟩
        · exact hrung
        · exact absurd hstressed hcalm
      have hlots : ∀ lot ∈ fixture.lots, lotIssuer lot = none := by
        subst hfixture hrung3
        intro lot hlot
        exact lotIssuer_sleeveOnlyLots hlot
      rw [sleeveBindingConstraints_eq_nil hbanded hcalm,
        concentrationBindingConstraints_eq_nil hlots, hquiet hcalm]
      rfl
  obtain ⟨hok, hsame⟩ := validationVerdict_ok hbinding
  refine ⟨_, ?_, hok, by rw [hsame]; exact hbinding⟩
  have hid : fixture.householdId = hhId := by
    subst hfixture
    rfl
  have hportfolio : fixture.assetPortfolio = some portfolio := by
    subst hfixture
    rfl
  have hseen : fixture.provenance.cohortId = cohortId := by
    subst hfixture
    rfl
  unfold validateIps
  rw [if_neg (by rw [hid]; exact not_not.mpr hhousehold), hportfolio, hfound,
    hseen]
  rfl

/-- A NAV that is not positive gives no fixture. -/
theorem emitSyntheticHousehold_noNav
    (hcohort : sleeveRanges cohortId = some ranges) (rt : SyntheticRuntime)
    (seed : Int) {rung : Int} (householdId : Option String)
    (hrung : rung = 3 ∨ rung = 4) (hnav : nav ≤ 0) (validate : Bool) :
    emitSyntheticHousehold rt cohortId seed rung householdId nav validate none
      = .error (.valueError
        "fixture has no markable NAV for Shape A projection") := by
  have hranged := sleeveRanges_ranged hcohort
  obtain ⟨d, weights, hsample, h⟩ :=
    sampleSleeveWeights_ok rt.toSeededRandom seed hcohort hranged
  unfold emitSyntheticHousehold
  rw [emitHnwFixture_sampled rt cohortId seed householdId hsample,
    emitHnwFixture_eq rt cohortId seed householdId hrung,
    projectToAssetPortfolio_error
      (lotAssetClass_assembleFixture rt cohortId seed rung _ nav weights)
      (heldTotal_nonpos rt cohortId seed rung hnav
        (values_nonneg (h.weightIn_nonneg hranged)) _)]
  rfl

/-- Sampled weights make a statement, banded around them; the stressed
cohort's equity has some. -/
theorem Sampled.statement (hcohort : sleeveRanges cohortId = some ranges)
    (hpriors : cohortIpsPriors cohortId = .ok priors)
    (hequity : cohortId = "concentrated_stress" →
      ∃ r ∈ ranges, r.1 = RiskClass.equity)
    (h : Sampled ranges d weights) (rng : SeededRandom) (seed rung : Int)
    (hhId : String) {portfolio : AssetPortfolio}
    (hshapeA : ∀ c, weightIn (shapeAWeights portfolio) c = weightIn weights c) :
    ∃ ips, emitIpsForCohort rng cohortId seed hhId (shapeAWeights portfolio)
        rung = .ok ips
      ∧ ips.householdId = hhId
      ∧ ips.liquidityTierMinPct = some priors.liquidityTierMinPct
      ∧ BandedAround cohortId (shapeAWeights portfolio) ips.allocationTargets
      ∧ (cohortId = "concentrated_stress" → 0 < weightIn weights .equity) := by
  have hranged := sleeveRanges_ranged hcohort
  have hsound := cohortIpsPriors_sound hpriors
  have hfraction : ∀ c, IsFraction (weightIn (shapeAWeights portfolio) c) := by
    intro c
    rw [hshapeA]
    exact ⟨h.weightIn_nonneg hranged c, h.weightIn_le_one hranged c⟩
  have hstressed : cohortId = "concentrated_stress" →
      1 / 100 ≤ weightIn weights .equity := by
    intro hstress
    obtain ⟨r, hr, hclass⟩ := hequity hstress
    rw [← hclass]
    exact h.weightIn_pos hranged hr
  have hsome : ∃ c, 0 < weightIn (shapeAWeights portfolio) c := by
    obtain ⟨r, hr⟩ := List.exists_mem_of_ne_nil ranges hranged.nonempty
    refine ⟨r.1, ?_⟩
    rw [hshapeA]
    exact lt_of_lt_of_le (by norm_num) (h.weightIn_pos hranged hr)
  obtain ⟨limit, hlimit, hlimitFraction⟩ := resolveConcentrationLimit_ok
    rng cohortId seed hsound (hfraction .equity)
  obtain ⟨ips, hips, hhousehold, hfloor, hbanded⟩ := emitIpsForCohort_ok
    rng hhId rung hpriors hlimit hlimitFraction hsound.floor hsound.turnover
    hsound.band hfraction (fun hcapped => by
      rw [hshapeA]
      exact le_trans (by norm_num) (hstressed hcapped.1)) hsome
  exact ⟨ips, hips, hhousehold, hfloor, hbanded, fun hstress =>
    lt_of_lt_of_le (by norm_num) (hstressed hstress)⟩

/-- With a positive NAV a sampled household is emitted, and passes. -/
theorem emitSyntheticHousehold_passes
    (hcohort : sleeveRanges cohortId = some ranges)
    (hpriors : cohortIpsPriors cohortId = .ok priors)
    (hequity : cohortId = "concentrated_stress" →
      ∃ r ∈ ranges, r.1 = RiskClass.equity)
    (rt : SyntheticRuntime) (seed : Int) {rung : Int}
    (householdId : Option String) (hrung : GatedRung cohortId rung)
    (hnav : 0 < nav) :
    ∃ bundle, emitSyntheticHousehold rt cohortId seed rung householdId nav true
        none = .ok bundle
      ∧ bundle.validation.ok = true
      ∧ (bundle.validation.bindingConstraints = []
        ↔ cohortId ≠ "concentrated_stress") := by
  have hranged := sleeveRanges_ranged hcohort
  obtain ⟨d, weights, hsample, h⟩ :=
    sampleSleeveWeights_ok rt.toSeededRandom seed hcohort hranged
  have hrung' : rung = 3 ∨ rung = 4 := by
    rcases hrung with hrung | ⟨hrung, -⟩
    · exact .inl hrung
    · exact .inr hrung
  obtain ⟨portfolio, hrun, hshapeA⟩ := h.shapeA cohortId hranged
    rt seed householdId hrung' hnav
  obtain ⟨ips, hips, hhousehold, hfloor, hbanded, hstressed⟩ :=
    h.statement hcohort hpriors hequity rt.toSeededRandom seed rung
      (householdIdOr householdId cohortId seed) hshapeA
  obtain ⟨validation, hvalid, hok, hbinding⟩ := validateIps_sampled hcohort
    hpriors h rt seed (householdIdOr householdId cohortId seed) hrung hnav
    hshapeA hhousehold hfloor hbanded hstressed
  have hpassed : ¬ (true = true ∧ validation.ok = false) := by
    intro hfails
    rw [hok] at hfails
    exact absurd hfails.2 (by decide)
  refine ⟨{
    fixture := sealIpsProvenance rt
      { assembleFixture rt cohortId seed rung
          (householdIdOr householdId cohortId seed) nav weights with
        assetPortfolio := some portfolio } ips.ipsId
    ips := ips
    validation := validation }, ?_, hok, hbinding⟩
  unfold emitSyntheticHousehold
  rw [emitHnwFixture_sampled rt cohortId seed householdId hsample, hrun, ok_bind]
  dsimp only
  show (emitIpsForCohort rt.toSeededRandom cohortId seed
    (householdIdOr householdId cohortId seed) (shapeAWeights portfolio) rung
      >>= _) = _
  rw [hips, ok_bind, hvalid, ok_bind, if_neg hpassed]
  rfl

/-- The cohorts, of which the last is made to break its policy. -/
def cohortIds : List String :=
  ["general_hnw", "uhnw_inherited", "founder_executive", "concentrated_stress"]

/-- A cohort has ranges, equity among them, and priors. -/
theorem cohortIds_known (hcohort : cohortId ∈ cohortIds) :
    ∃ ranges priors, sleeveRanges cohortId = some ranges
      ∧ cohortIpsPriors cohortId = .ok priors
      ∧ ∃ r ∈ ranges, r.1 = RiskClass.equity := by
  rcases List.mem_cons.mp hcohort with rfl | hcohort
  · exact ⟨_, _, rfl, rfl, _, List.mem_cons_self, rfl⟩
  rcases List.mem_cons.mp hcohort with rfl | hcohort
  · exact ⟨_, _, rfl, rfl, _, List.mem_cons_self, rfl⟩
  rcases List.mem_cons.mp hcohort with rfl | hcohort
  · exact ⟨_, _, rfl, rfl, _, List.mem_cons_self, rfl⟩
  · obtain rfl := List.mem_singleton.mp hcohort
    exact ⟨_, _, rfl, rfl, _, List.mem_cons_self, rfl⟩

/-- Whatever is drawn, a generated household is not refused by its own
gate, and one of the stressed cohort is bound. -/
theorem generated_households_pass (rt : SyntheticRuntime) (cohortId : String)
    (seed rung : Int) (householdId : Option String) (nav : ℚ)
    (hcohort : cohortId ∈ cohortIds) (hrung : GatedRung cohortId rung) :
    (∀ msg, emitSyntheticHousehold rt cohortId seed rung householdId nav true
        none ≠ .error (.ipsValidation msg))
      ∧ (0 < nav → ∃ bundle, emitSyntheticHousehold rt cohortId seed rung
          householdId nav true none = .ok bundle ∧ bundle.validation.ok = true)
      ∧ ∀ bundle, emitSyntheticHousehold rt cohortId seed rung householdId nav
          true none = .ok bundle →
        (bundle.validation.bindingConstraints ≠ []
          ↔ cohortId = "concentrated_stress") := by
  obtain ⟨ranges, priors, hranges, hpriors, hequity⟩ := cohortIds_known hcohort
  have hrung' : rung = 3 ∨ rung = 4 := hrung.imp_right And.left
  by_cases hnav : 0 < nav
  · obtain ⟨bundle, hrun, hok, hbinding⟩ := emitSyntheticHousehold_passes
      hranges hpriors (fun _ => hequity) rt seed householdId hrung hnav
    rw [hrun]
    refine ⟨nofun, fun _ => ⟨bundle, rfl, hok⟩, ?_⟩
    intro returned hreturned
    cases hreturned
    rw [ne_eq, hbinding, not_not]
  · rw [emitSyntheticHousehold_noNav hranges rt seed householdId hrung'
      (not_lt.mp hnav)]
    refine ⟨?_, fun hpos => absurd hpos hnav, ?_⟩
    · intro msg herror
      injection herror with herror
      injection herror
    · intro bundle hreturned
      injection hreturned

/-- An inheriting household passes its own policy. -/
theorem generated_households_pass_uhnw :
    ∃ bundle, emitSyntheticHousehold .least "uhnw_inherited" 7 3 none 2500000
        true none = .ok bundle ∧ bundle.validation.ok = true :=
  (generated_households_pass .least "uhnw_inherited" 7 3 none 2500000
    (by simp [cohortIds]) (.inl rfl)).2.1 (by norm_num)

end Households

end Warehouse
