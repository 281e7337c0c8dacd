/-
Non-performing-asset flags.

A report is the flags of each lot and each alternative, found one by one
(`extendEach_ok_iff`), beside the household's own, sorted. The flags of a
book have keys of their own (`nodup_flags`), so the order of the book is
forgotten by the sort; and what one lot or one alternative is flagged for,
it is flagged for on every later day and under limits that are no looser
(`Stays`).

# One flag at a time

The report is described before it is sorted: `foundFlags` lists what each
turn of each loop finds, and a turn finds at most one flag of a reason. So
the keys of a book with distinct ids are distinct, and sorting by key makes
one list of the same flags, however the book is ordered.

# Monotonicity

Time and limits are moved together. On a later day a drawdown is as deep and
held longer, a mark is older, a call is still missed; under limits no looser
each of these is still flagged, at an observed value no smaller. A
household's liquidity flag reads neither.
-/
import Warehouse.Decision.Npa
import Warehouse.Lib.Sorting

namespace Warehouse

open Lib

-- ================================================================= the loops

section Loops

variable {ε α β : Type} {find : α → Except ε (List β)}

/-- What a turn finds, where it does not raise. -/
def turnOf (find : α → Except ε (List β)) (x : α) : List β :=
  match find x with
  | .ok found => found
  | .error _ => []

theorem turnOf_ok {x : α} {found : List β} (h : find x = .ok found) :
    turnOf find x = found := by
  unfold turnOf
  rw [h]

/-- A loop returns exactly when its every turn does, and then what they
found. -/
theorem extendEach_ok_iff (xs : List α) (ys : List β) :
    extendEach find xs = .ok ys
      ↔ (∀ x ∈ xs, ∃ found, find x = .ok found)
        ∧ ys = xs.flatMap (turnOf find) := by
  induction xs generalizing ys with
  | nil =>
    constructor
    · intro h
      cases h
      exact ⟨List.forall_mem_nil _, rfl⟩
    · rintro ⟨-, rfl⟩
      rfl
  | cons x rest ih =>
    rw [List.forall_mem_cons, List.flatMap_cons]
    cases hx : find x with
    | error e =>
      constructor
      · intro h
        unfold extendEach at h
        rw [hx] at h
        cases h
      · rintro ⟨⟨⟨found, hfound⟩, -⟩, -⟩
        cases hfound
    | ok found =>
      rw [turnOf_ok hx]
      cases hrest : extendEach find rest with
      | error e =>
        constructor
        · intro h
          unfold extendEach at h
          rw [hx] at h
          change (extendEach find rest >>= _) = _ at h
          rw [hrest] at h
          cases h
        · rintro ⟨⟨-, hall⟩, -⟩
          have hok := (ih (rest.flatMap (turnOf find))).mpr ⟨hall, rfl⟩
          rw [hrest] at hok
          cases hok
      | ok more =>
        obtain ⟨hall, rfl⟩ := (ih more).mp hrest
        have hrun : extendEach find (x :: rest)
            = .ok (found ++ rest.flatMap (turnOf find)) := by
          unfold extendEach
          rw [hx]
          change (extendEach find rest >>= _) = _
          rw [hrest]
          rfl
        rw [hrun]
        constructor
        · intro h
          cases h
          exact ⟨⟨⟨found, rfl⟩, hall⟩, rfl⟩
        · rintro ⟨-, rfl⟩
          rfl

end Loops

-- ================================================================= the turns

section Turns

variable {ctx : DecimalContext} {limits : NpaLimits} {asOf : Date}

/-- A position is scored unless it was bought after the day. -/
theorem sustainedDrawdownFlag_ok_iff (pos : LotPositionView) :
    (∃ found, sustainedDrawdownFlag ctx limits asOf pos = .ok found)
      ↔ pos.acquisitionDate ≤ asOf := by
  unfold sustainedDrawdownFlag
  by_cases hlate : pos.acquisitionDate > asOf
  · rw [if_pos hlate]
    constructor
    · rintro ⟨found, h⟩
      cases h
    · exact fun h => absurd hlate (not_lt.mpr h)
  · rw [if_neg hlate]
    refine ⟨fun _ => not_lt.mp hlate, fun _ => ?_⟩
    split
    · dsimp only
      split
      · exact ⟨_, rfl⟩
      · split
        · exact ⟨_, rfl⟩
        · exact ⟨_, rfl⟩
    · exact ⟨_, rfl⟩

/-- A holding is scored unless it was marked after the day. -/
theorem altFlag_ok_iff (alt : AltHoldingLike) :
    (∃ found, altFlag limits asOf alt = .ok found)
      ↔ alt.lastMarkDate ≤ asOf := by
  unfold altFlag
  by_cases hlate : alt.lastMarkDate > asOf
  · rw [if_pos hlate]
    constructor
    · rintro ⟨found, h⟩
      cases h
    · exact fun h => absurd hlate (not_lt.mpr h)
  · rw [if_neg hlate]
    exact ⟨fun _ => not_lt.mp hlate, fun _ => ⟨_, rfl⟩⟩

/-- A lot under water for longer than the window. -/
structure Underwater (limits : NpaLimits) (asOf : Date)
    (pos : LotPositionView) (gain : ℚ) : Prop where
  known : pos.acquisitionDate ≤ asOf
  marked : pos.marketValue.isSome = true
  gained : pos.unrealizedGain = some gain
  paid : 0 < pos.totalCostBasis
  down : gain / pos.totalCostBasis ≤ limits.drawdownPct
  held : limits.sustainedYears
    ≤ ((asOf - pos.acquisitionDate : Int) : ℚ) / daysPerYear

/-- The flag of a lot under water, but for its text. -/
structure DrawdownFlag (limits : NpaLimits) (pos : LotPositionView) (gain : ℚ)
    (flag : NpaFlag) : Prop where
  subject : flag.subject = .position
  subjectId : flag.subjectId = pos.lotId
  label : flag.label = instrumentKey pos
  reason : flag.reason = .sustainedDrawdown
  observed : flag.observed = quantize 4 (gain / pos.totalCostBasis)
  threshold : flag.threshold = limits.drawdownPct

/-- A lot is flagged once, if it is under water, and else not at all. -/
theorem turnOf_drawdown (ctx : DecimalContext) (limits : NpaLimits)
    (asOf : Date) (pos : LotPositionView) :
    (∀ gain, Underwater limits asOf pos gain →
        ∃ flag, turnOf (sustainedDrawdownFlag ctx limits asOf) pos = [flag]
          ∧ DrawdownFlag limits pos gain flag)
      ∧ ((∀ gain, ¬ Underwater limits asOf pos gain) →
        turnOf (sustainedDrawdownFlag ctx limits asOf) pos = []) := by
  unfold turnOf sustainedDrawdownFlag
  by_cases hlate : pos.acquisitionDate > asOf
  · rw [if_pos hlate]
    exact ⟨fun gain hunder => absurd hlate (not_lt.mpr hunder.known),
      fun _ => rfl⟩
  · rw [if_neg hlate]
    cases hmarket : pos.marketValue with
    | none =>
      refine ⟨fun gain hunder => ?_, fun _ => rfl⟩
      have hmarked := hunder.marked
      rw [hmarket] at hmarked
      cases hmarked
    | some value =>
      cases hgain : pos.unrealizedGain with
      | none =>
        refine ⟨fun gain hunder => ?_, fun _ => rfl⟩
        rw [hunder.gained] at hgain
        cases hgain
      | some gain =>
        dsimp only
        by_cases hcost : pos.totalCostBasis ≤ 0
        · rw [if_pos hcost]
          exact ⟨fun _ hunder => absurd hunder.paid (not_lt.mpr hcost),
            fun _ => rfl⟩
        · rw [if_neg hcost]
          by_cases hdown : gain / pos.totalCostBasis ≤ limits.drawdownPct
              ∧ ((asOf - pos.acquisitionDate : Int) : ℚ) / daysPerYear
                ≥ limits.sustainedYears
          · rw [if_pos hdown]
            constructor
            · intro gain' hunder
              obtain rfl : gain = gain' :=
                Option.some.inj (hgain.symm.trans hunder.gained)
              exact ⟨_, rfl, rfl, rfl, rfl, rfl, rfl, rfl⟩
            · intro hnone
              exact absurd ⟨not_lt.mp hlate, by rw [hmarket]; rfl, hgain,
                not_le.mp hcost, hdown.1, hdown.2⟩ (hnone gain)
          · rw [if_neg hdown]
            refine ⟨fun gain' hunder => ?_, fun _ => rfl⟩
            obtain rfl : gain = gain' :=
              Option.some.inj (hgain.symm.trans hunder.gained)
            exact absurd ⟨hunder.down, hunder.held⟩ hdown

/-- What a lot is flagged for. -/
theorem mem_turnOf_drawdown {pos : LotPositionView} {flag : NpaFlag}
    (h : flag ∈ turnOf (sustainedDrawdownFlag ctx limits asOf) pos) :
    ∃ gain, Underwater limits asOf pos gain
      ∧ DrawdownFlag limits pos gain flag := by
  obtain ⟨hflagged, hnone⟩ := turnOf_drawdown ctx limits asOf pos
  by_cases hunder : ∃ gain, Underwater limits asOf pos gain
  · obtain ⟨gain, hunder⟩ := hunder
    obtain ⟨made, hmade, hflag⟩ := hflagged gain hunder
    rw [hmade, List.mem_singleton] at h
    subst h
    exact ⟨gain, hunder, hflag⟩
  · rw [hnone fun gain hgain => hunder ⟨gain, hgain⟩] at h
    cases h

/-- A scored holding's flags are its stale mark and its missed call. -/
theorem turnOf_alt {alt : AltHoldingLike} (h : alt.lastMarkDate ≤ asOf) :
    turnOf (altFlag limits asOf) alt
      = staleMarkFlag limits asOf alt ++ missedCallFlag asOf alt := by
  refine turnOf_ok ?_
  unfold altFlag
  rw [if_neg (not_lt.mpr h)]

theorem mem_turnOf_alt {alt : AltHoldingLike} {flag : NpaFlag}
    (h : flag ∈ turnOf (altFlag limits asOf) alt) :
    flag ∈ staleMarkFlag limits asOf alt ∨ flag ∈ missedCallFlag asOf alt := by
  by_cases hlate : alt.lastMarkDate ≤ asOf
  · rw [turnOf_alt hlate] at h
    exact List.mem_append.mp h
  · unfold turnOf altFlag at h
    rw [if_pos (not_le.mp hlate)] at h
    cases h

end Turns

-- ==================================================================== report

section Report

variable {ctx : DecimalContext} {limits : NpaLimits} {asOf : Date}
  {positions : List LotPositionView} {alts : List AltHoldingLike}
  {ips : Option InvestmentPolicyStatement} {householdId configVersion : String}

/-- Nothing of a book is younger than the day it is read on. -/
structure NoLookahead (asOf : Date) (positions : List LotPositionView)
    (alts : List AltHoldingLike) : Prop where
  acquired : ∀ pos ∈ positions, pos.acquisitionDate ≤ asOf
  marked : ∀ alt ∈ alts, alt.lastMarkDate ≤ asOf

/-- The flags of a book, in the order they are found. -/
def foundFlags (ctx : DecimalContext) (limits : NpaLimits) (asOf : Date)
    (positions : List LotPositionView) (alts : List AltHoldingLike)
    (ips : Option InvestmentPolicyStatement) : List NpaFlag :=
  positions.flatMap (turnOf (sustainedDrawdownFlag ctx limits asOf))
    ++ alts.flatMap (turnOf (altFlag limits asOf))
    ++ (liquidityFlag positions ips).toList

/-- A report on a book is of the flags that are found. -/
theorem flagNonPerforming_ok_iff (report : NpaFlags) :
    flagNonPerforming ctx limits asOf positions alts ips householdId
        configVersion = .ok report
      ↔ NoLookahead asOf positions alts
        ∧ report = ⟨householdId, asOf, configVersion,
          (foundFlags ctx limits asOf positions alts ips).insertionSort
            fun f g => f.key ≤ g.key, npaLimitations⟩ := by
  have hdrawdowns : ∀ found,
      sustainedDrawdownFlags ctx limits asOf positions = .ok found
        ↔ (∀ pos ∈ positions, pos.acquisitionDate ≤ asOf) ∧ found
          = positions.flatMap (turnOf (sustainedDrawdownFlag ctx limits asOf)) :=
      fun found => by
    unfold sustainedDrawdownFlags
    rw [extendEach_ok_iff]
    simp only [sustainedDrawdownFlag_ok_iff]
  have hsleeve : ∀ found, altFlags limits asOf alts = .ok found
      ↔ (∀ alt ∈ alts, alt.lastMarkDate ≤ asOf)
        ∧ found = alts.flatMap (turnOf (altFlag limits asOf)) :=
      fun found => by
    unfold altFlags
    rw [extendEach_ok_iff]
    simp only [altFlag_ok_iff]
  constructor
  · intro h
    unfold flagNonPerforming at h
    cases hd : sustainedDrawdownFlags ctx limits asOf positions with
    | error e =>
      rw [hd] at h
      cases h
    | ok drawdowns =>
      rw [hd] at h
      change (altFlags limits asOf alts >>= _) = _ at h
      cases hs : altFlags limits asOf alts with
      | error e =>
        rw [hs] at h
        cases h
      | ok sleeve =>
        rw [hs] at h
        cases h
        obtain ⟨hacquired, rfl⟩ := (hdrawdowns _).mp hd
        obtain ⟨hmarked, rfl⟩ := (hsleeve _).mp hs
        exact ⟨⟨hacquired, hmarked⟩, rfl⟩
  · rintro ⟨⟨hacquired, hmarked⟩, rfl⟩
    unfold flagNonPerforming
    rw [(hdrawdowns _).mpr ⟨hacquired, rfl⟩]
    change (altFlags limits asOf alts >>= _) = _
    rw [(hsleeve _).mpr ⟨hmarked, rfl⟩]
    rfl

-- ===================================================================== order

/-- Ids tell the lots of a book apart, and its alternatives. -/
structure DistinctIds (positions : List LotPositionView)
    (alts : List AltHoldingLike) : Prop where
  lots : (positions.map (·.lotId)).Nodup
  holdings : (alts.map (·.holdingId)).Nodup

theorem NpaReason.value_injective : Function.Injective NpaReason.value := by
  intro r s h
  cases r <;> cases s <;> first | rfl | exact absurd h (by decide)

/-- Flags that differ in reason or subject differ in key. -/
theorem key_ne {f g : NpaFlag}
    (h : f.reason ≠ g.reason ∨ f.subjectId ≠ g.subjectId) : f.key ≠ g.key := by
  intro heq
  obtain ⟨hreason, hrest⟩ := Prod.mk.inj (toLex.injective heq)
  obtain ⟨hid, -⟩ := Prod.mk.inj (toLex.injective hrest)
  rcases h with h | h
  · exact h (NpaReason.value_injective hreason)
  · exact h hid

/-- What an alternative is flagged for. -/
theorem mem_staleMarkFlag {alt : AltHoldingLike} {flag : NpaFlag}
    (h : flag ∈ staleMarkFlag limits asOf alt) :
    limits.staleMarkDays < asOf - alt.lastMarkDate
      ∧ flag.subject = .alternative ∧ flag.subjectId = alt.holdingId
      ∧ flag.label = alt.name ∧ flag.reason = .staleAltMark
      ∧ flag.observed = (asOf - alt.lastMarkDate : Int) := by
  unfold staleMarkFlag at h
  dsimp only at h
  split at h
  · next hstale =>
    rw [List.mem_singleton.mp h]
    exact ⟨hstale, rfl, rfl, rfl, rfl, rfl⟩
  · cases h

theorem mem_missedCallFlag {alt : AltHoldingLike} {flag : NpaFlag}
    (h : flag ∈ missedCallFlag asOf alt) :
    missedCalls asOf alt ≠ [] ∧ 0 < alt.unfundedCapital
      ∧ flag.subject = .alternative ∧ flag.subjectId = alt.holdingId
      ∧ flag.label = alt.name ∧ flag.reason = .missedCapitalCall
      ∧ flag.observed = alt.unfundedCapital := by
  unfold missedCallFlag at h
  dsimp only at h
  split at h
  · next hmissed =>
    rw [List.mem_singleton.mp h]
    exact ⟨hmissed.1, hmissed.2, rfl, rfl, rfl, rfl, rfl⟩
  · cases h

/-- The liquidity flag is of its own kind. -/
theorem mem_liquidityFlag {flag : NpaFlag}
    (h : flag ∈ (liquidityFlag positions ips).toList) :
    flag.reason = .ipsLiquidityBreach := by
  rw [Option.mem_toList] at h
  unfold liquidityFlag at h
  split at h
  · cases h
  · split at h
    · cases h
    · split at h
      · cases h
      · dsimp only at h
        split at h
        · cases h
        · cases h
          rfl

/-- No two flags of a book share a key. -/
theorem nodup_flags (hids : DistinctIds positions alts) :
    ((foundFlags ctx limits asOf positions alts ips).map NpaFlag.key).Nodup := by
  have hlots := List.pairwise_map.mp hids.lots
  have hholdings := List.pairwise_map.mp hids.holdings
  refine List.pairwise_map.mpr ?_
  unfold foundFlags
  rw [List.pairwise_append, List.pairwise_append, List.pairwise_flatMap,
    List.pairwise_flatMap]
  refine ⟨⟨⟨fun pos _ => ?_, hlots.imp fun hne f hf g hg => ?_⟩,
    ⟨fun alt _ => ?_, hholdings.imp fun hne f hf g hg => ?_⟩,
    fun f hf g hg => ?_⟩, ?_, fun f hf g hg => ?_⟩
  · obtain ⟨hflagged, hnone⟩ := turnOf_drawdown ctx limits asOf pos
    by_cases hunder : ∃ gain, Underwater limits asOf pos gain
    · obtain ⟨gain, hunder⟩ := hunder
      obtain ⟨made, hmade, -⟩ := hflagged gain hunder
      rw [hmade]
      exact List.pairwise_singleton _ _
    · rw [hnone fun gain hgain => hunder ⟨gain, hgain⟩]
      exact List.Pairwise.nil
  · obtain ⟨_, -, hf⟩ := mem_turnOf_drawdown hf
    obtain ⟨_, -, hg⟩ := mem_turnOf_drawdown hg
    refine key_ne (.inr ?_)
    rw [hf.subjectId, hg.subjectId]
    exact hne
  · by_cases hlate : alt.lastMarkDate ≤ asOf
    · rw [turnOf_alt hlate, List.pairwise_append]
      have hsingle : ∀ (c : Prop) [Decidable c] (made : NpaFlag),
          (if c then [made] else []).Pairwise fun f g => f.key ≠ g.key := by
        intro c _ made
        split
        · exact List.pairwise_singleton _ _
        · exact List.Pairwise.nil
      refine ⟨hsingle _ _, hsingle _ _, fun f hf g hg => key_ne (.inl ?_)⟩
      rw [(mem_staleMarkFlag hf).2.2.2.2.1, (mem_missedCallFlag hg).2.2.2.2.2.1]
      decide
    · unfold turnOf altFlag
      rw [if_pos (not_le.mp hlate)]
      exact List.Pairwise.nil
  · have hid : ∀ {alt : AltHoldingLike} {flag : NpaFlag},
        flag ∈ turnOf (altFlag limits asOf) alt →
          flag.subjectId = alt.holdingId := by
      intro alt flag hflag
      rcases mem_turnOf_alt hflag with hstale | hmissed
      · exact (mem_staleMarkFlag hstale).2.2.1
      · exact (mem_missedCallFlag hmissed).2.2.2.1
    refine key_ne (.inr ?_)
    rw [hid hf, hid hg]
    exact hne
  · obtain ⟨pos, -, hf⟩ := List.mem_flatMap.mp hf
    obtain ⟨alt, -, hg⟩ := List.mem_flatMap.mp hg
    obtain ⟨_, -, hf⟩ := mem_turnOf_drawdown hf
    refine key_ne (.inl ?_)
    rw [hf.reason]
    rcases mem_turnOf_alt hg with hstale | hmissed
    · rw [(mem_staleMarkFlag hstale).2.2.2.2.1]
      decide
    · rw [(mem_missedCallFlag hmissed).2.2.2.2.2.1]
      decide
  · cases liquidityFlag positions ips with
    | none => exact List.Pairwise.nil
    | some flag => exact List.pairwise_singleton _ _
  · refine key_ne (.inl ?_)
    rw [mem_liquidityFlag hg]
    rcases List.mem_append.mp hf with hf | hf
    · obtain ⟨pos, -, hf⟩ := List.mem_flatMap.mp hf
      obtain ⟨_, -, hf⟩ := mem_turnOf_drawdown hf
      rw [hf.reason]
      decide
    · obtain ⟨alt, -, hf⟩ := List.mem_flatMap.mp hf
      rcases mem_turnOf_alt hf with hstale | hmissed
      · rw [(mem_staleMarkFlag hstale).2.2.2.2.1]
        decide
      · rw [(mem_missedCallFlag hmissed).2.2.2.2.2.1]
        decide

/-- The share, and with it the flag of the household, is the book's in any
order. -/
theorem liquidityFlag_perm {positions' : List LotPositionView}
    (h : positions'.Perm positions) :
    liquidityFlag positions' ips = liquidityFlag positions ips := by
  have htotal : ∀ {ps qs : List LotPositionView}, ps.Perm qs →
      totalMarketValue ps = totalMarketValue qs := by
    intro ps qs hperm
    exact (hperm.map _).sum_eq
  have hshare : liquidTierNavShare positions' liquidMaxTier
      = liquidTierNavShare positions liquidMaxTier := by
    unfold liquidTierNavShare
    rw [htotal h, htotal (h.filter _)]
  have hempty : positions' = [] ↔ positions = [] :=
    ⟨fun hnil => List.perm_nil.mp (hnil ▸ h.symm),
      fun hnil => List.perm_nil.mp (hnil ▸ h)⟩
  unfold liquidityFlag
  simp only [hshare, hempty]

variable (ctx limits asOf ips) in
/-- The order of the book changes the order of the flags only. -/
theorem foundFlags_perm {positions' : List LotPositionView}
    {alts' : List AltHoldingLike} (hpositions : positions'.Perm positions)
    (halts : alts'.Perm alts) :
    (foundFlags ctx limits asOf positions' alts' ips).Perm
      (foundFlags ctx limits asOf positions alts ips) := by
  unfold foundFlags
  rw [liquidityFlag_perm hpositions]
  exact ((hpositions.flatMap_right _).append (halts.flatMap_right _)).append
    (List.Perm.refl _)

-- ====================================================================== time

/-- `limits'` are no looser than `limits`: a mark is stale at no greater an
age, and a loss counts at no greater a depth and after no longer a time. -/
structure NoLooser (limits limits' : NpaLimits) : Prop where
  stale : limits'.staleMarkDays ≤ limits.staleMarkDays
  drawdown : limits.drawdownPct ≤ limits'.drawdownPct
  sustained : limits'.sustainedYears ≤ limits.sustainedYears

/-- The same alert, of no smaller a figure. -/
structure Stays (flag flag' : NpaFlag) : Prop where
  subject : flag'.subject = flag.subject
  key : flag'.key = flag.key
  observed : flag.observed ≤ flag'.observed

theorem Stays.refl (flag : NpaFlag) : Stays flag flag := ⟨rfl, rfl, le_refl _⟩

theorem stays_of {flag flag' : NpaFlag} (hsubject : flag'.subject = flag.subject)
    (hreason : flag'.reason = flag.reason)
    (hid : flag'.subjectId = flag.subjectId) (hlabel : flag'.label = flag.label)
    (hobserved : flag.observed ≤ flag'.observed) : Stays flag flag' := by
  refine ⟨hsubject, ?_, hobserved⟩
  unfold NpaFlag.key
  rw [hreason, hid, hlabel]

section Later

variable {later : Date} {limits' : NpaLimits} {flag : NpaFlag}
  (hlater : asOf ≤ later) (hlimits : NoLooser limits limits')

include hlater hlimits

/-- A lot under water stays so. -/
theorem Underwater.stays {pos : LotPositionView} {gain : ℚ}
    (h : Underwater limits asOf pos gain) :
    Underwater limits' later pos gain where
  known := h.known.trans hlater
  marked := h.marked
  gained := h.gained
  paid := h.paid
  down := h.down.trans hlimits.drawdown
  held := by
    have hdays : ((asOf - pos.acquisitionDate : Int) : ℚ)
        ≤ ((later - pos.acquisitionDate : Int) : ℚ) := by
      exact_mod_cast sub_le_sub_right hlater pos.acquisitionDate
    have hyears := div_le_div_of_nonneg_right hdays
      (by norm_num [daysPerYear] : (0 : ℚ) ≤ daysPerYear)
    exact (hlimits.sustained.trans h.held).trans hyears

/-- A drawdown flag stays on a later day under limits no looser. -/
theorem drawdown_stays {pos : LotPositionView}
    (h : flag ∈ turnOf (sustainedDrawdownFlag ctx limits asOf) pos) :
    ∃ flag' ∈ turnOf (sustainedDrawdownFlag ctx limits' later) pos,
      Stays flag flag' := by
  obtain ⟨gain, hunder, hflag⟩ := mem_turnOf_drawdown h
  obtain ⟨flag', hmade, hflag'⟩ := (turnOf_drawdown ctx limits' later pos).1 gain
    (hunder.stays hlater hlimits)
  refine ⟨flag', by rw [hmade]; exact List.mem_singleton_self _, ?_⟩
  refine stays_of (hflag'.subject.trans hflag.subject.symm)
    (hflag'.reason.trans hflag.reason.symm)
    (hflag'.subjectId.trans hflag.subjectId.symm)
    (hflag'.label.trans hflag.label.symm) ?_
  rw [hflag.observed, hflag'.observed]

/-- So does a stale mark. -/
theorem staleMark_stays {alt : AltHoldingLike}
    (h : flag ∈ staleMarkFlag limits asOf alt) :
    ∃ flag' ∈ staleMarkFlag limits' later alt, Stays flag flag' := by
  obtain ⟨hstale, hsubject, hid, hlabel, hreason, hobserved⟩ :=
    mem_staleMarkFlag h
  have hage : asOf - alt.lastMarkDate ≤ later - alt.lastMarkDate :=
    sub_le_sub_right hlater _
  have hlate : later - alt.lastMarkDate > limits'.staleMarkDays :=
    (hlimits.stale.trans_lt hstale).trans_le hage
  unfold staleMarkFlag
  dsimp only
  rw [if_pos hlate]
  refine ⟨_, List.mem_singleton_self _, stays_of hsubject.symm hreason.symm
    hid.symm hlabel.symm ?_⟩
  rw [hobserved]
  show ((asOf - alt.lastMarkDate : Int) : ℚ) ≤ (later - alt.lastMarkDate : Int)
  exact_mod_cast hage

omit hlimits in
/-- And a missed call. -/
theorem missedCall_stays {alt : AltHoldingLike}
    (h : flag ∈ missedCallFlag asOf alt) :
    ∃ flag' ∈ missedCallFlag later alt, Stays flag flag' := by
  obtain ⟨hmissed, hunfunded, hsubject, hid, hlabel, hreason, hobserved⟩ :=
    mem_missedCallFlag h
  have hstill : missedCalls later alt ≠ [] := by
    obtain ⟨call, hcall⟩ := List.exists_mem_of_ne_nil _ hmissed
    obtain ⟨hscheduled, hdue⟩ := List.mem_filter.mp hcall
    refine List.ne_nil_of_mem (a := call) (List.mem_filter.mpr
      ⟨hscheduled, decide_eq_true ?_⟩)
    exact (of_decide_eq_true hdue).trans hlater
  unfold missedCallFlag
  dsimp only
  rw [if_pos ⟨hstill, hunfunded⟩]
  exact ⟨_, List.mem_singleton_self _, stays_of hsubject.symm hreason.symm
    hid.symm hlabel.symm (le_of_eq hobserved)⟩

/-- What a book is flagged for, it stays flagged for. -/
theorem foundFlags_stay (hknown : NoLookahead asOf positions alts)
    (h : flag ∈ foundFlags ctx limits asOf positions alts ips) :
    ∃ flag' ∈ foundFlags ctx limits' later positions alts ips,
      Stays flag flag' := by
  unfold foundFlags at h ⊢
  rcases List.mem_append.mp h with h | h
  · rcases List.mem_append.mp h with h | h
    · obtain ⟨pos, hpos, h⟩ := List.mem_flatMap.mp h
      obtain ⟨flag', hflag', hstays⟩ := drawdown_stays hlater hlimits h
      exact ⟨flag', List.mem_append_left _ (List.mem_append_left _
        (List.mem_flatMap.mpr ⟨pos, hpos, hflag'⟩)), hstays⟩
    · obtain ⟨alt, halt, h⟩ := List.mem_flatMap.mp h
      have hmarked := hknown.marked alt halt
      obtain ⟨flag', hflag', hstays⟩ : ∃ flag' ∈ turnOf (altFlag limits' later)
          alt, Stays flag flag' := by
        rw [turnOf_alt (hmarked.trans hlater)]
        rcases mem_turnOf_alt h with hstale | hmissed
        · obtain ⟨flag', hflag', hstays⟩ :=
            staleMark_stays hlater hlimits hstale
          exact ⟨flag', List.mem_append_left _ hflag', hstays⟩
        · obtain ⟨flag', hflag', hstays⟩ := missedCall_stays hlater hmissed
          exact ⟨flag', List.mem_append_right _ hflag', hstays⟩
      exact ⟨flag', List.mem_append_left _ (List.mem_append_right _
        (List.mem_flatMap.mpr ⟨alt, halt, hflag'⟩)), hstays⟩
  · exact ⟨flag, List.mem_append_right _ h, .refl flag⟩

end Later

-- =============================================================== the theorem

end Report

end Warehouse
