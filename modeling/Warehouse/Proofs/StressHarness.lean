/-
The harness records every combination, and no error.

A manifest of up to a few thousand leaf types validates whatever the rounding
of its unit weight (`hnwSlots_ok`), and the risk service answers a plain
request on any manifest (`evaluateRisk_ok_iff`), so a cell is refused for a
non-investable leaf or for nothing (`runHarnessCell_status`). The counts are
binomials (`filter_combinations`), and the names of a suite's reports keep
the combinations apart (`joined_injective`).

# Nothing but leaves

A cell's types are leaves of the asset tree; the only refusal a plain
request can meet is a leaf no policy may hold. That the manifest of the
other leaves always validates is arithmetic about rounding: every slot
weighs the rounded unit but the last, which takes what is left of one, and
up to a few thousand slots that is a fraction.

# Names

The long names of a suite are hashed. Distinct combinations keep distinct
names as long as the digests of those that are hashed do not collide, which
is assumed by name (`NoCollision`).
-/
import Warehouse.Proofs.Advice
import Warehouse.Proofs.RiskService
import Warehouse.Research.StressHarness

namespace Warehouse

open Lib

-- ================================================================ manifests

/-- A leaf's defaults are within the constraints of a slot. -/
theorem hnwSlot_ok (t : HnwAssetType) {weight : ℚ} (h : IsFraction weight) :
    ∃ slot, hnwSlot t weight = .ok slot ∧ slot.weight = weight := by
  have hspec : (∀ d ∈ (hnwAssetSpec t).durationYears, 0 ≤ d)
      ∧ (∀ b ∈ (hnwAssetSpec t).beta, 0 ≤ b)
      ∧ 1 ≤ (hnwAssetSpec t).liquidityTier
      ∧ (hnwAssetSpec t).liquidityTier ≤ 3 := by
    cases t <;> refine ⟨?_, ?_, by decide, by decide⟩ <;> intro q hq
      <;> simp only [hnwAssetSpec, Option.mem_def, Option.some.injEq,
        reduceCtorEq] at hq <;> subst hq <;> norm_num
  obtain ⟨hduration, hbeta, htier⟩ := hspec
  obtain ⟨slot, hslot⟩ : ∃ slot, hnwSlot t weight = .ok slot :=
    AllocationSlot.create_ok h hduration hbeta htier
  exact ⟨slot, hslot, congrArg Prod.snd (AllocationSlot.create_reads hslot)⟩

/-- The slots validate where the last one is left something, and their
weights come to what was left to assign. -/
theorem hnwSlots_ok {unit : ℚ} (hunit : IsFraction unit)
    {types : List HnwAssetType} (hne : types ≠ []) :
    ∀ assigned, 0 ≤ assigned → assigned + (types.length - 1) * unit ≤ 1 →
      ∃ slots, hnwSlots unit assigned types = .ok slots ∧ slots ≠ []
        ∧ (slots.map (·.weight)).sum = 1 - assigned := by
  induction types with
  | nil => exact absurd rfl hne
  | cons t rest ih =>
    intro assigned hlo hhi
    cases rest with
    | nil =>
      have hlast : IsFraction (1 - assigned) := by
        simp only [List.length_singleton, Nat.cast_one, sub_self, zero_mul,
          add_zero] at hhi
        exact ⟨by linarith, by linarith⟩
      obtain ⟨slot, hslot, hweight⟩ := hnwSlot_ok t hlast
      refine ⟨[slot], ?_, List.cons_ne_nil _ _, ?_⟩
      · show (hnwSlot t (1 - assigned) >>= _) = _
        rw [hslot]
        rfl
      · rw [List.map_singleton, List.sum_singleton, hweight]
    | cons second rest =>
      obtain ⟨slot, hslot, hweight⟩ := hnwSlot_ok t hunit
      have hmore : assigned + unit + (((second :: rest).length : ℚ) - 1) * unit
          ≤ 1 := by
        simp only [List.length_cons, Nat.cast_add, Nat.cast_one] at hhi ⊢
        linarith
      obtain ⟨slots, hslots, -, hsum⟩ := ih (List.cons_ne_nil _ _)
        (assigned + unit) (add_nonneg hlo hunit.1) hmore
      refine ⟨slot :: slots, ?_, List.cons_ne_nil _ _, ?_⟩
      · show (hnwSlot t unit >>= _) = _
        rw [hslot, ok_bind, hslots]
        rfl
      · rw [List.map_cons, List.sum_cons, hweight, hsum]
        ring

/-- The unit weight of `n` types, and what it leaves the last of them. -/
theorem unit_fits {n : Nat} (hpos : 0 < n) (hsmall : n ≤ 4000) :
    IsFraction (quantize 7 (1 / n))
      ∧ ((n : ℚ) - 1) * quantize 7 (1 / n) ≤ 1 := by
  have hn : (1 : ℚ) ≤ n := by exact_mod_cast hpos
  have hle : (n : ℚ) ≤ 4000 := by exact_mod_cast hsmall
  have hshare : (1 : ℚ) / n ≤ 1 := by
    rw [div_le_one (by linarith)]
    exact hn
  have hlo : 0 ≤ quantize 7 (1 / n) := by
    have hmono := quantize_mono 7 (by positivity : (0 : ℚ) ≤ 1 / n)
    rw [quantize_zero] at hmono
    exact hmono
  have hhi : quantize 7 (1 / n) ≤ 1 := by
    have hmono := quantize_mono 7 hshare
    rw [quantize_one] at hmono
    exact hmono
  have herr := (abs_le.mp (abs_quantize_sub_le 7 (1 / n))).2
  refine ⟨⟨hlo, hhi⟩, ?_⟩
  -- the rounding of the others is less than the share of the last
  have hbound : ((n : ℚ) - 1) * quantize 7 (1 / n)
      ≤ ((n : ℚ) - 1) * (1 / n + 1 / 2 / 10 ^ 7) :=
    mul_le_mul_of_nonneg_left (by linarith) (by linarith)
  have hshares : (n : ℚ) * (1 / n) = 1 := by
    field_simp
  have hover : ((n : ℚ) - 1) * (1 / 2 / 10 ^ 7) ≤ 1 / n := by
    rw [le_div_iff₀ (by linarith)]
    have hsquare : ((n : ℚ) - 1) * n ≤ 4000 * 4000 := by nlinarith
    linarith
  linarith

section Manifest

variable {types : List HnwAssetType} (portfolioId : Option String)
  (seed : Option Int)

/-- A combination with a type no policy may hold is excluded. -/
theorem buildManifestFromHnwTypes_excluded (hne : types ≠ [])
    (h : ipsExcludedTypes types ≠ []) :
    ∃ msg, buildManifestFromHnwTypes types portfolioId seed
      = .error (.ipsExcluded msg) := by
  have hempty : types.isEmpty = false := by
    rw [List.isEmpty_eq_false_iff]
    exact hne
  have hsome : (ipsExcludedTypes types).isEmpty = false := by
    rw [List.isEmpty_eq_false_iff]
    exact h
  unfold buildManifestFromHnwTypes
  dsimp only
  rw [hempty, hsome]
  exact ⟨_, rfl⟩

theorem buildManifestFromHnwTypes_ok (hne : types ≠ [])
    (hsmall : types.length ≤ 4000) (h : ipsExcludedTypes types = []) :
    ∃ portfolio, buildManifestFromHnwTypes types portfolioId seed
      = .ok portfolio := by
  have hempty : types.isEmpty = false := by
    rw [List.isEmpty_eq_false_iff]
    exact hne
  obtain ⟨hunit, hfits⟩ := unit_fits (List.length_pos_iff.mpr hne) hsmall
  obtain ⟨slots, hslots, hsome, hsum⟩ := hnwSlots_ok hunit hne 0 (le_refl 0)
    (by rw [zero_add]; exact hfits)
  have hwhole : WeightsSumToOne slots := by
    unfold WeightsSumToOne
    rw [hsum]
    norm_num
  obtain ⟨portfolio, hportfolio, -⟩ := AssetPortfolio.create_ok
    (some (if truthy portfolioId then portfolioId.getD ""
      else "hnw-" ++ "-".intercalate (types.map (·.value)))) "synthetic"
    (some (types.length : Int)) none none seed ["hnw_leaf_combo"] hsome hwhole
  unfold buildManifestFromHnwTypes
  dsimp only
  rw [hempty, h, hslots]
  refine ⟨portfolio, ?_⟩
  show raising (AssetPortfolio.create _ _ _ _ _ _ _ _) = _
  rw [hportfolio]
  rfl

end Manifest

-- ================================================================ outcomes

section Cells

variable {rt : RiskRuntime} {types : List HnwAssetType}
  {request : RiskRequest}

/-- The status a combination is owed. -/
def expectedStatus (types : List HnwAssetType) : HarnessStatus :=
  if types = [] then .error
  else if ipsExcludedTypes types = [] then .ok
  else .ipsExcluded

/-- The status recorded is the one its types determine. -/
theorem recordCell_status (rt : RiskRuntime) (hsmall : types.length ≤ 4000)
    (hplain : request.overlay = none) :
    (recordCell types (evaluateTypes rt types request)).status
      = expectedStatus types := by
  unfold expectedStatus evaluateTypes
  by_cases hne : types = []
  · rw [if_pos hne, hne]
    rfl
  · rw [if_neg hne]
    by_cases hexcluded : ipsExcludedTypes types = []
    · obtain ⟨portfolio, hportfolio⟩ := buildManifestFromHnwTypes_ok none
        none hne hsmall hexcluded
      obtain ⟨result, hresult⟩ := (evaluateRisk_ok_iff rt request portfolio).mpr
        (by rw [hplain]; exact fun _ h => nomatch h)
      rw [if_pos hexcluded, hportfolio]
      show (recordCell types (raising (evaluateRisk rt request portfolio))).status
        = _
      rw [hresult]
      rfl
    · obtain ⟨msg, hmsg⟩ := buildManifestFromHnwTypes_excluded none none hne
        hexcluded
      rw [if_neg hexcluded, hmsg]
      rfl

end Cells

-- ================================================================== counts

/-- The counts of a matrix. -/
def matrixSummary (ok ipsExcluded error : Nat) : Dict String Nat :=
  Dict.ofPairs [("ok", ok), ("ips_excluded", ipsExcluded), ("error", error)]

/-- One more cell counts under its status. -/
theorem matrixSummary_add (ok ipsExcluded error : Nat)
    (status : HarnessStatus) :
    (matrixSummary ok ipsExcluded error).add status.value 1
      = matrixSummary (ok + if status = .ok then 1 else 0)
        (ipsExcluded + if status = .ipsExcluded then 1 else 0)
        (error + if status = .error then 1 else 0) := by
  cases status <;> rfl

/-- The summary counts the cells by status. -/
theorem summarizeMatrix_eq (cells : List HarnessCell) :
    summarizeMatrix cells
      = matrixSummary (cells.countP (·.status = .ok))
        (cells.countP (·.status = .ipsExcluded))
        (cells.countP (·.status = .error)) := by
  have hfold : ∀ ok ipsExcluded error : Nat,
      cells.foldl (fun counts cell => counts.add cell.status.value 1)
          (matrixSummary ok ipsExcluded error)
        = matrixSummary (ok + cells.countP (·.status = .ok))
          (ipsExcluded + cells.countP (·.status = .ipsExcluded))
          (error + cells.countP (·.status = .error)) := by
    induction cells with
    | nil => exact fun _ _ _ => rfl
    | cons cell rest ih =>
      intro ok ipsExcluded error
      rw [List.foldl_cons, matrixSummary_add, ih]
      simp only [List.countP_cons, decide_eq_true_eq]
      congr 1 <;> omega
  have hstart := hfold 0 0 0
  simp only [Nat.zero_add] at hstart
  exact hstart

/-- How many combinations of `k` leaves have a status. -/
def statusCount (k : Nat) : HarnessStatus → Nat
  | .ok => if k = 0 then 0 else Nat.choose 13 k
  | .ipsExcluded => Nat.choose 15 k - Nat.choose 13 k
  | .error => if k = 0 then 1 else 0

/-- A leaf of the investable numerator. -/
def investable (t : HnwAssetType) : Bool := (hnwAssetSpec t).ipsInvestable

/-- No type is excluded exactly when all are investable. -/
theorem ipsExcludedTypes_eq_nil_iff {types : List HnwAssetType} :
    ipsExcludedTypes types = [] ↔ types.all investable = true := by
  unfold ipsExcludedTypes investable
  rw [List.filter_eq_nil_iff, List.all_eq_true]
  simp

/-- Of the combinations of a size, those of the thirteen investable types. -/
theorem countP_investable (k : Nat) :
    (combinations k hnwAssetTypes).countP (fun types => types.all investable)
      = Nat.choose 13 k := by
  have hthirteen : (hnwAssetTypes.filter investable).length = 13 := by decide
  rw [List.countP_eq_length_filter, filter_combinations, length_combinations,
    hthirteen]

/-- How many combinations of a size end in each status. -/
theorem countP_expectedStatus (k : Nat) (status : HarnessStatus) :
    (combinations k hnwAssetTypes).countP (expectedStatus · = status)
      = statusCount k status := by
  cases k with
  | zero => cases status <;> rfl
  | succ k =>
    have hsome : ∀ types ∈ combinations (k + 1) hnwAssetTypes, types ≠ [] := by
      rintro types htypes rfl
      have hlength := (mem_combinations.mp htypes).2
      simp at hlength
    have hok : (combinations (k + 1) hnwAssetTypes).countP
        (expectedStatus · = .ok) = Nat.choose 13 (k + 1) := by
      rw [← countP_investable]
      refine List.countP_congr fun types htypes => ?_
      unfold expectedStatus
      rw [if_neg (hsome types htypes), decide_eq_true_eq,
        ← ipsExcludedTypes_eq_nil_iff]
      by_cases h : ipsExcludedTypes types = []
      · simp [h]
      · simp [h]
    cases status with
    | ok => exact hok
    | error =>
      show _ = 0
      rw [List.countP_eq_zero]
      intro types htypes
      unfold expectedStatus
      rw [if_neg (hsome types htypes)]
      by_cases h : ipsExcludedTypes types = []
      · simp [h]
      · simp [h]
    | ipsExcluded =>
      have htotal := List.length_eq_countP_add_countP
        (fun types => decide (expectedStatus types = .ok))
        (l := combinations (k + 1) hnwAssetTypes)
      have hrest : (combinations (k + 1) hnwAssetTypes).countP
          (fun types => ¬decide (expectedStatus types = .ok) = true)
          = (combinations (k + 1) hnwAssetTypes).countP
            (expectedStatus · = .ipsExcluded) := by
        refine List.countP_congr fun types htypes => ?_
        unfold expectedStatus
        rw [if_neg (hsome types htypes)]
        by_cases h : ipsExcludedTypes types = []
        · simp [h]
        · simp [h]
      rw [hok, hrest, length_combinations] at htotal
      show _ = Nat.choose 15 (k + 1) - Nat.choose 13 (k + 1)
      have hfifteen : hnwAssetTypes.length = 15 := rfl
      rw [hfifteen] at htotal
      omega

-- ================================================================== matrix

/-- The sizes a matrix runs through. -/
def matrixSizes (maxSize : Option Nat) (minSize : Nat) : List Nat :=
  List.range' minSize (maxSize.getD hnwAssetTypes.length + 1 - minSize)

/-- The matrix iterates the sublists of the asked sizes. -/
theorem mem_iterHnwCombinations {maxSize : Option Nat} {minSize : Nat}
    {types : List HnwAssetType} :
    types ∈ iterHnwCombinations maxSize minSize
      ↔ types.Sublist hnwAssetTypes
        ∧ types.length ∈ matrixSizes maxSize minSize := by
  unfold iterHnwCombinations matrixSizes
  rw [List.mem_flatMap]
  constructor
  · rintro ⟨k, hk, htypes⟩
    obtain ⟨hsub, hlength⟩ := mem_combinations.mp htypes
    exact ⟨hsub, hlength ▸ hk⟩
  · rintro ⟨hsub, hlength⟩
    exact ⟨types.length, hlength, mem_combinations.mpr ⟨hsub, rfl⟩⟩

theorem length_le_of_sublist {types : List HnwAssetType}
    (h : types.Sublist hnwAssetTypes) : types.length ≤ 4000 :=
  h.length_le.trans (by decide)

/-- A cell's status is the one its types determine. -/
theorem runHarnessCell_status (rt : RiskRuntime) {types : List HnwAssetType}
    {request : Option RiskRequest} (hplain : ∀ r ∈ request, r.overlay = none)
    (h : types.Sublist hnwAssetTypes) :
    (runHarnessCell rt types request).status = expectedStatus types := by
  unfold runHarnessCell
  refine recordCell_status rt (length_le_of_sublist h) ?_
  cases request with
  | none => rfl
  | some r => exact hplain r rfl

/-- How many cells of a matrix end in each status. -/
theorem countP_matrix (rt : RiskRuntime) {request : Option RiskRequest}
    (hplain : ∀ r ∈ request, r.overlay = none) (maxSize : Option Nat)
    (minSize : Nat) (status : HarnessStatus) :
    (runCombinationMatrix rt maxSize minSize request).countP
        (·.status = status)
      = ((matrixSizes maxSize minSize).map (statusCount · status)).sum := by
  have hcells : (runCombinationMatrix rt maxSize minSize request).countP
      (·.status = status)
      = (iterHnwCombinations maxSize minSize).countP
        (expectedStatus · = status) := by
    unfold runCombinationMatrix
    rw [List.countP_map]
    refine List.countP_congr fun types htypes => ?_
    obtain ⟨hsub, -⟩ := mem_iterHnwCombinations.mp htypes
    show decide ((runHarnessCell rt types request).status = status) = true ↔ _
    rw [runHarnessCell_status rt hplain hsub]
  rw [hcells]
  unfold iterHnwCombinations matrixSizes
  rw [List.countP_flatMap]
  congr 1
  exact List.map_congr_left fun k _ => countP_expectedStatus k status

/-- Every combination of every size ends as its leaves say, whatever the
request asks short of an overlay: refused for a leaf outside the investable
numerator, evaluated otherwise, and an error only without a leaf. -/
theorem harness_matrix (rt : RiskRuntime) (maxSize : Option Nat)
    (minSize : Nat) (request : Option RiskRequest)
    (hplain : ∀ r ∈ request, r.overlay = none) :
    (∀ types ∈ iterHnwCombinations maxSize minSize,
      (runHarnessCell rt types request).status = expectedStatus types)
    ∧ summarizeMatrix (runCombinationMatrix rt maxSize minSize request)
      = matrixSummary
        ((matrixSizes maxSize minSize).map (statusCount · .ok)).sum
        ((matrixSizes maxSize minSize).map (statusCount · .ipsExcluded)).sum
        ((matrixSizes maxSize minSize).map (statusCount · .error)).sum := by
  constructor
  · intro types htypes
    exact runHarnessCell_status rt hplain (mem_iterHnwCombinations.mp htypes).1
  · rw [summarizeMatrix_eq, countP_matrix rt hplain, countP_matrix rt hplain,
      countP_matrix rt hplain]

/-- The full matrix of the fifteen leaves. -/
theorem harness_matrix_full :
    summarizeMatrix (runCombinationMatrix rootsRuntime)
      = matrixSummary 8191 24576 0 := by
  have hmatrix := harness_matrix rootsRuntime none 1 none fun _ h => nomatch h
  rw [hmatrix.2]
  rfl

-- ============================================================ report names

/-- `"__".join` of the names of the leaves. -/
def joinedStem (types : List HnwAssetType) : String :=
  "__".intercalate (types.map (·.value))

/-- The names of the leaves are parted by a double underscore. -/
theorem parted_value (t : HnwAssetType) : Parted '_' t.value.toList := by
  cases t <;> exact ⟨by decide, by decide, by decide⟩

theorem value_injective : Function.Injective HnwAssetType.value := by
  intro t u h
  cases t <;> cases u <;> first | rfl | exact absurd h (by decide)

/-- Joined names tell combinations apart. -/
theorem joinedStem_injective : Function.Injective joinedStem := by
  intro types others h
  have hchars := congrArg String.toList h
  unfold joinedStem at hchars
  rw [String.toList_intercalate, String.toList_intercalate, List.map_map,
    List.map_map] at hchars
  have hwords : ∀ ts : List HnwAssetType,
      ∀ word ∈ ts.map (String.toList ∘ HnwAssetType.value),
        Parted '_' word := by
    intro ts word hword
    obtain ⟨t, -, rfl⟩ := List.mem_map.mp hword
    exact parted_value t
  have hmap := joined_injective (hwords types) (hwords others) hchars
  refine List.map_injective_iff.mpr ?_ hmap
  intro t u hvalue
  exact value_injective (String.toList_inj.mp hvalue)

section Names

variable {sha256 : String → String} {types others : List HnwAssetType}

/-- The name a combination's report has. -/
def reportName (sha256 : String → String) (types : List HnwAssetType) :
    String := cellFilename sha256 (types.map (·.value))

/-- `hexdigest()[:12]` of a combination's stem. -/
def stemDigest (sha256 : String → String) (types : List HnwAssetType) :
    String := String.ofList ((sha256 (joinedStem types)).toList.take 12)

/-- Combinations that are named by their digest. -/
def Hashed (types : List HnwAssetType) : Prop :=
  maxJoinedStemLen < (joinedStem types).length

/-- A single type is never hashed. -/
theorem not_hashed_single (t : HnwAssetType) : ¬ Hashed [t] := by
  cases t <;> exact Nat.not_lt.mpr (by decide)

/-- A short stem is the name; a long one is counted and hashed. -/
theorem reportName_eq (sha256 : String → String) (types : List HnwAssetType) :
    reportName sha256 types
      = if (joinedStem types).length ≤ maxJoinedStemLen then
          joinedStem types ++ ".json"
        else "n" ++ toString types.length ++ "_" ++ stemDigest sha256 types
          ++ ".json" := by
  cases types with
  | nil => rfl
  | cons t rest =>
    cases rest with
    | nil =>
      rw [if_pos (Nat.not_lt.mp (not_hashed_single t))]
      show t.value ++ ".json" = joinedStem [t] ++ ".json"
      unfold joinedStem
      rw [List.map_singleton, String.intercalate_singleton]
    | cons second rest =>
      unfold reportName cellFilename stemDigest joinedStem
      rw [List.map_cons, List.map_cons, ← List.length_map HnwAssetType.value]
      rfl

/-- A readable name begins with the name of a leaf. -/
theorem head_joinedStem (types : List HnwAssetType) :
    (joinedStem types ++ ".json").toList.head? ≠ some 'n' := by
  cases types with
  | nil => decide
  | cons t rest =>
    have hstem : ∃ more, joinedStem (t :: rest) = t.value ++ more := by
      unfold joinedStem
      cases rest with
      | nil => exact ⟨"", by rw [List.map_singleton,
          String.intercalate_singleton, String.append_empty]⟩
      | cons second rest =>
        rw [List.map_cons, List.map_cons, String.intercalate_cons_cons,
          String.append_assoc]
        exact ⟨_, rfl⟩
    have hfirst : ∃ c, t.value.toList.head? = some c ∧ c ≠ 'n' := by
      cases t <;> exact ⟨_, rfl, by decide⟩
    obtain ⟨more, hmore⟩ := hstem
    obtain ⟨c, hc, hne⟩ := hfirst
    rw [hmore, String.append_assoc, String.toList_append, List.head?_append, hc]
    exact fun h => hne (Option.some.inj h)

/-- No two of the combinations that are named by their digest have one
digest. -/
def NoCollision (sha256 : String → String)
    (combos : List (List HnwAssetType)) : Prop :=
  ∀ types ∈ combos, ∀ others ∈ combos, Hashed types → Hashed others →
    stemDigest sha256 types = stemDigest sha256 others → types = others

/-- The digest is cut to twelve characters. -/
theorem length_stemDigest (hhex : ∀ s, 12 ≤ (sha256 s).length)
    (types : List HnwAssetType) :
    (stemDigest sha256 types).toList.length = 12 := by
  unfold stemDigest
  rw [String.toList_ofList, List.length_take, String.length_toList]
  exact Nat.min_eq_left (hhex _)

/-- Without a collision of digests, names tell combinations apart. -/
theorem reportName_injOn (hhex : ∀ s, 12 ≤ (sha256 s).length)
    {combos : List (List HnwAssetType)} (hcollision : NoCollision sha256 combos)
    (htypes : types ∈ combos) (hothers : others ∈ combos)
    (h : reportName sha256 types = reportName sha256 others) :
    types = others := by
  rw [reportName_eq, reportName_eq] at h
  by_cases hshort : (joinedStem types).length ≤ maxJoinedStemLen
  · rw [if_pos hshort] at h
    by_cases hshort' : (joinedStem others).length ≤ maxJoinedStemLen
    · rw [if_pos hshort'] at h
      exact joinedStem_injective ((String.append_left_inj _).mp h)
    · rw [if_neg hshort'] at h
      refine absurd ?_ (head_joinedStem types)
      rw [h]
      simp [String.toList_append]
  · rw [if_neg hshort] at h
    by_cases hshort' : (joinedStem others).length ≤ maxJoinedStemLen
    · rw [if_pos hshort'] at h
      refine absurd ?_ (head_joinedStem others)
      rw [← h]
      simp [String.toList_append]
    · rw [if_neg hshort'] at h
      have hchars := congrArg String.toList ((String.append_left_inj _).mp h)
      simp only [String.toList_append] at hchars
      have hlength := (length_stemDigest hhex types).trans
        (length_stemDigest hhex others).symm
      have hdigest := (List.append_inj' hchars hlength).2
      exact hcollision types htypes others hothers (Nat.not_le.mp hshort)
        (Nat.not_le.mp hshort') (String.toList_inj.mp hdigest)

end Names

-- ================================================================== suite

variable {rt : RiskRuntime} {sha256 : String → String} {dir : String}
  {request : RiskRequest}

/-- The loop evaluates every combination and writes each report. -/
theorem foldl_runSuiteCell (combos : List (List HnwAssetType)) :
    ∀ (cells : List AssetTestCellResult) (reports : Dict String CellReport),
      combos.foldl (runSuiteCell rt sha256 dir request) (cells, reports)
        = (cells ++ combos.map fun types =>
            { (evaluateCell rt types request).cell with
              reportPath := some (dir ++ "/" ++ reportName sha256 types) },
          reports.setAll (combos.map fun types =>
            (reportName sha256 types, evaluateCell rt types request))) := by
  have hname : ∀ types, cellFilename sha256
      (evaluateCell rt types request).cell.types = reportName sha256 types := by
    intro types
    unfold reportName evaluateCell
    congr 1
    dsimp only
    cases evaluateTypes rt types request with
    | ok result => rfl
    | error err =>
      cases err with
      | ipsExcluded msg => rfl
      | raised err => rfl
  induction combos with
  | nil =>
    intro cells reports
    rw [List.map_nil, List.append_nil]
    rfl
  | cons types rest ih =>
    intro cells reports
    rw [List.foldl_cons, List.map_cons, List.map_cons]
    unfold runSuiteCell
    dsimp only
    rw [hname]
    have hrest := ih (cells ++ [{ (evaluateCell rt types request).cell with
        reportPath := some (dir ++ "/" ++ reportName sha256 types) }])
      (reports.set (reportName sha256 types) (evaluateCell rt types request))
    rw [List.append_assoc] at hrest
    exact hrest

/-- A suite keeps a report of every combination of its phase, each under a
name of its own, and touches no other file; it evaluates as the harness
does, and its two phases make up the harness's matrix. -/
theorem suite_reports_combinations (rt : RiskRuntime)
    (sha256 : String → String) (root : String) (phase : AssetTestPhase)
    (request : Option RiskRequest) (phaseBMaxSize : Option Nat)
    (reports : Dict String CellReport)
    (hhex : ∀ s, 12 ≤ (sha256 s).length)
    (hcollision : NoCollision sha256 (phaseCombinations phase phaseBMaxSize)) :
    let out := runAssetTestSuite rt sha256 root phase request phaseBMaxSize
      reports
    (∀ types ∈ phaseCombinations phase phaseBMaxSize,
      out.2.get? (reportName sha256 types)
        = some (evaluateCell rt types (request.getD harnessRequest)))
    ∧ (∀ name, (∀ types ∈ phaseCombinations phase phaseBMaxSize,
        reportName sha256 types ≠ name) →
      out.2.get? name = reports.get? name)
    ∧ out.1.cells.map (·.toHarnessCell)
      = (phaseCombinations phase phaseBMaxSize).map
        (fun types => runHarnessCell rt types request)
    ∧ (0 < phaseBMaxSize.getD hnwAssetTypes.length →
      (phaseCombinations .a phaseBMaxSize
          ++ phaseCombinations .b phaseBMaxSize).map
          (fun types => runHarnessCell rt types request)
        = runCombinationMatrix rt phaseBMaxSize 1 request) := by
  dsimp only
  unfold runAssetTestSuite
  dsimp only
  rw [foldl_runSuiteCell]
  refine ⟨?_, ?_, ?_, ?_⟩
  · exact Dict.get?_setAll_own (fun types htypes others hothers =>
      reportName_injOn hhex hcollision htypes hothers) reports
  · intro name hname
    refine Dict.get?_setAll_other ?_ reports
    rw [List.map_map]
    intro hmem
    obtain ⟨types, htypes, heq⟩ := List.mem_map.mp hmem
    exact hname types htypes heq
  · rw [List.nil_append, List.map_map]
    rfl
  · intro hsize
    unfold runCombinationMatrix phaseCombinations iterHnwCombinations
    dsimp only
    have hsizes : phaseBMaxSize.getD hnwAssetTypes.length + 1 - 1
        = (phaseBMaxSize.getD hnwAssetTypes.length + 1 - 2) + 1 := by omega
    rw [hsizes, List.range'_succ, List.flatMap_cons, combinations_one]

/-- Ten leaves or fewer are named in full. -/
theorem not_hashed_of_length {types : List HnwAssetType}
    (hsub : types.Sublist hnwAssetTypes) (hlength : types.length ≤ 10) :
    ¬ Hashed types := by
  have hstem : ∀ ts : List HnwAssetType, (joinedStem ts).length
      ≤ (ts.map fun t => t.value.length + 2).sum := by
    intro ts
    induction ts with
    | nil => exact Nat.le_refl 0
    | cons t rest ih =>
      cases rest with
      | nil => simp [joinedStem]
      | cons second rest =>
        have hstem : joinedStem (t :: second :: rest)
            = t.value ++ "__" ++ joinedStem (second :: rest) :=
          String.intercalate_cons_cons
        have hmark : "__".length = 2 := rfl
        rw [hstem, String.length_append, String.length_append, List.map_cons,
          List.sum_cons]
        omega
  -- thirteen letters a leaf, and what the longer ones have over that
  have hexcess : ∀ ts : List HnwAssetType,
      (ts.map fun t => t.value.length + 2).sum
        ≤ 15 * ts.length + (ts.map fun t => t.value.length - 13).sum := by
    intro ts
    induction ts with
    | nil => exact Nat.le_refl 0
    | cons t rest ih =>
      rw [List.map_cons, List.map_cons, List.sum_cons, List.sum_cons,
        List.length_cons]
      omega
  have hover : (types.map fun t => t.value.length - 13).sum ≤ 43 := by
    have hall : (hnwAssetTypes.map fun t => t.value.length - 13).sum = 43 := by
      decide
    rw [← hall]
    exact (hsub.map _).sum_le_sum fun _ _ => Nat.zero_le _
  have h := hstem types
  have h' := hexcess types
  show ¬ 200 < (joinedStem types).length
  omega

/-- Phase B up to ten leaves, under a digest that tells nothing apart. -/
theorem suite_reports_combinations_tenLeaves :
    ((runAssetTestSuite rootsRuntime (fun _ => "000000000000")
        "runs/research/risk_asset_tests" .b none (some 10) .empty).2.get?
          "pe_vc__hedge_funds.json").isSome = true := by
  have hshort : ∀ types ∈ phaseCombinations .b (some 10), ¬ Hashed types := by
    intro types htypes
    obtain ⟨hsub, hsize⟩ := mem_iterHnwCombinations.mp htypes
    refine not_hashed_of_length hsub ?_
    have hrange := (List.mem_range'_1.mp hsize).2
    show types.length ≤ 10
    change types.length < 2 + (10 + 1 - 2) at hrange
    omega
  have hreports := (suite_reports_combinations rootsRuntime
    (fun _ => "000000000000") "runs/research/risk_asset_tests" .b none (some 10)
    .empty (fun _ => by decide) fun types htypes _ _ hhashed =>
      absurd hhashed (hshort types htypes)).1 [.peVc, .hedgeFunds]
    (mem_iterHnwCombinations.mpr ⟨by decide, by decide⟩)
  have hname : reportName (fun _ => "000000000000") [.peVc, .hedgeFunds]
      = "pe_vc__hedge_funds.json" := by decide
  rw [hname] at hreports
  rw [hreports]
  rfl

end Warehouse
