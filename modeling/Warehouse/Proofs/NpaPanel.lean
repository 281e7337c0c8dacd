/-
The panel's flags on generated households.

A lot is flagged exactly where it was emitted at a loss (`drawdown_emitted`),
the holding of a household is always stale on the day of the smokes and has
missed a call exactly where the first draw of its schedule made one
(`missedCalls_buildAlts`), and public lots are all liquid. So the flags are
known to the last one (`npa_generated_households`).

# Two fixed dates

The generator dates its marks and calls, the smokes fix the day, so ages are
numbers. A lot is under water only if it was emitted at a loss, deep enough
for the limit and long enough ago (`NpaReach` bounds the settings so that it
is). The holding's last mark is stale under every limit within reach,
whatever the draw. Whether a call was missed depends on the first uniform of
its schedule and on nothing else.
-/
import Warehouse.Proofs.Npa
import Warehouse.Proofs.SyntheticTheses
import Warehouse.Research.NpaPanel

namespace Warehouse

open Lib

-- ====================================================================== lots

section Lots

variable {ctx : DecimalContext} {limits : NpaLimits} {asOf : Date}
  {lot : SyntheticLot} {pos : LotPositionView}

/-- Limits that the emitted loss crosses, and a gain does not: the loss is a
seventh of the cost, carried since the first quarter of 2024. -/
structure NpaReach (limits : NpaLimits) : Prop where
  stale : limits.staleMarkDays < dateOf 2026 6 27 - baseDate
  crossed : -1 / 7 ≤ limits.drawdownPct
  loss : limits.drawdownPct < 0
  sustained : limits.sustainedYears
    ≤ ((dateOf 2026 6 27 - dateOf 2024 3 1 : Int) : ℚ) / daysPerYear

/-- A lot emitted at a loss is under water on the day of the smokes. -/
theorem underwater_emitted (hreach : NpaReach limits) (hemitted : EmittedLot lot)
    (hloss : AtLoss lot) (hview : LotViewed lot pos) :
    ∃ gain, Underwater limits (dateOf 2026 6 27) pos gain := by
  have hpaid : 0 < pos.totalCostBasis := by
    rw [hview.costBasis]
    exact mul_pos hemitted.quantity hemitted.basis
  refine ⟨_, ?_, by rw [hview.marketValue]; rfl, hview.gain, hpaid, ?_, ?_⟩
  · rw [hview.acquired]
    exact hemitted.acquired.trans (by decide)
  · rw [hview.costBasis, hloss.lost hemitted.quantity]
    exact hreach.crossed
  · refine hreach.sustained.trans (div_le_div_of_nonneg_right ?_
      (by norm_num [daysPerYear]))
    rw [hview.acquired]
    exact_mod_cast sub_le_sub_left hemitted.acquired _

/-- An emitted lot priced above its cost is not underwater. -/
theorem not_underwater_emitted (hreach : NpaReach limits)
    (hemitted : EmittedLot lot)
    (hgain : lot.costBasisPerShare ≤ lot.marketPrice)
    (hview : LotViewed lot pos) (gain : ℚ) :
    ¬ Underwater limits asOf pos gain := by
  intro hunder
  have hvalue : gain = lot.marketValue
      - lot.quantity * lot.costBasisPerShare :=
    (Option.some.inj (hview.gain.symm.trans hunder.gained)).symm
  have hworth : lot.quantity * lot.costBasisPerShare ≤ lot.marketValue :=
    mul_le_mul_of_nonneg_left hgain hemitted.quantity.le
  have hreturn : 0 ≤ gain / pos.totalCostBasis :=
    div_nonneg (by linarith) hunder.paid.le
  linarith [hunder.down, hreach.loss]

/-- The drawdown flags of a book of emitted lots: one, of the name and of a
seventh, for each lot at a loss. -/
theorem drawdown_emitted (ctx : DecimalContext) (hreach : NpaReach limits)
    {lots : List SyntheticLot} {positions : List LotPositionView}
    (hviews : List.Forall₂ LotViewed lots positions)
    (hemitted : ∀ lot ∈ lots, EmittedLot lot) :
    (positions.flatMap (turnOf (sustainedDrawdownFlag ctx limits
        (dateOf 2026 6 27)))).map (fun f => (f.reason, f.label, f.observed))
      = (lots.filter (·.isLossLot)).map fun lot =>
        (.sustainedDrawdown, lot.ticker, quantize 4 (-1 / 7)) := by
  induction hviews with
  | nil => rfl
  | @cons lot pos lots positions hview hrest ih =>
    obtain ⟨hone, hlots⟩ := List.forall_mem_cons.mp hemitted
    obtain ⟨hflagged, hnone⟩ := turnOf_drawdown ctx limits (dateOf 2026 6 27) pos
    rw [List.flatMap_cons, List.map_append, ih hlots]
    rcases hone.marked with hloss | ⟨hclear, hgain⟩
    · obtain ⟨gain, hunder⟩ := underwater_emitted hreach hone hloss hview
      obtain ⟨flag, hmade, hflag⟩ := hflagged gain hunder
      have hlabel : flag.label = lot.ticker := by
        rw [hflag.label, hview.instrumentKey]
      have hobserved : flag.observed = quantize 4 (-1 / 7) := by
        have hvalue := Option.some.inj (hview.gain.symm.trans hunder.gained)
        rw [hflag.observed, hview.costBasis, ← hvalue, hloss.lost hone.quantity]
      rw [hmade, List.filter_cons_of_pos hloss.flagged, List.map_singleton,
        hflag.reason, hlabel, hobserved]
      rfl
    · rw [hnone (not_underwater_emitted hreach hone hgain hview),
        List.filter_cons_of_neg (by rw [hclear]; decide)]
      rfl

/-- Public lots are all liquid, so no floor is above their share. -/
theorem liquidityFlag_liquid {positions : List LotPositionView}
    (hnav : 0 < totalMarketValue positions)
    (hliquid : ∀ pos ∈ positions, pos.liquidityTier ≤ liquidMaxTier)
    (ips : InvestmentPolicyStatement) :
    liquidityFlag positions (some ips) = none := by
  have hshare : liquidTierNavShare positions liquidMaxTier = 1 := by
    have hall : positions.filter (·.liquidityTier ≤ liquidMaxTier)
        = positions :=
      List.filter_eq_self.mpr fun pos hpos => decide_eq_true (hliquid pos hpos)
    unfold liquidTierNavShare
    rw [hall, if_neg (not_le.mpr hnav), div_self hnav.ne']
  unfold liquidityFlag
  dsimp only
  split
  · rfl
  · next floor hfloor =>
    split
    · rfl
    · rw [hshare]
      exact if_pos (ips.liquidityFraction floor hfloor).2

end Lots

-- ============================================================== alternatives

section Alternatives

variable {rng : SeededRandom} {hhId entityId : String}
  {weights : Dict RiskClass ℚ} {nav : ℚ} {seed : Int}

variable (rng hhId seed) in
/-- A turn adds a call of its own month, or none. -/
theorem turn_calls (committed : ℚ) (sched : CallSchedule) (idx : Nat) :
    ∃ more : List SyntheticAltCall,
      (CallSchedule.turn rng seed hhId committed sched idx).calls
        = sched.calls ++ more
      ∧ ∀ call ∈ more,
        call.eventDate = dateOf 2026 (3 + min (6 * idx) 9) 1 := by
  unfold CallSchedule.turn
  split
  · exact ⟨[], (List.append_nil _).symm, List.forall_mem_nil _⟩
  · split
    · exact ⟨[], (List.append_nil _).symm, List.forall_mem_nil _⟩
    · refine ⟨_, rfl, ?_⟩
      intro call hcall
      rw [List.mem_singleton.mp hcall]

variable (rng hhId seed) in
/-- The calls after the first turn fall due in September or later. -/
theorem foldl_turn_late (committed : ℚ) {idxs : List Nat}
    (hidxs : ∀ idx ∈ idxs, idx ∈ [1, 2, 3]) :
    ∀ sched : CallSchedule, ∃ more : List SyntheticAltCall,
      (idxs.foldl (CallSchedule.turn rng seed hhId committed) sched).calls
        = sched.calls ++ more
      ∧ ∀ call ∈ more, dateOf 2026 9 1 ≤ call.eventDate := by
  have hlate : ∀ idx ∈ [1, 2, 3],
      dateOf 2026 9 1 ≤ dateOf 2026 (3 + min (6 * (idx : Nat)) 9) 1 := by
    decide
  induction idxs with
  | nil =>
    intro sched
    exact ⟨[], (List.append_nil _).symm, List.forall_mem_nil _⟩
  | cons idx rest ih =>
    intro sched
    obtain ⟨hidx, hrest⟩ := List.forall_mem_cons.mp hidxs
    obtain ⟨first, hfirst, hdate⟩ := turn_calls rng hhId seed committed
      sched idx
    obtain ⟨more, hmore, hdates⟩ := ih hrest
      (CallSchedule.turn rng seed hhId committed sched idx)
    rw [List.foldl_cons, hmore, hfirst, List.append_assoc]
    refine ⟨first ++ more, rfl, fun call hcall => ?_⟩
    rcases List.mem_append.mp hcall with hcall | hcall
    · rw [hdate call hcall]
      exact hlate idx hidx
    · exact hdates call hcall

variable (rng hhId seed) in
/-- A call is due by the day of the smokes exactly if the first draw of the
schedule made one. -/
theorem due_schedule (committed : ℚ) {unfunded : ℚ} (h : 0 < unfunded) :
    (∃ call ∈ ((List.range 4).foldl (CallSchedule.turn rng seed hhId committed)
        { remaining := unfunded }).calls, call.eventDate ≤ dateOf 2026 6 27)
      ↔ rng.random (seed + 2) 0 ≤ 6 / 10 := by
  have hrange : List.range 4 = 0 :: [1, 2, 3] := rfl
  obtain ⟨more, hmore, hlate⟩ := foldl_turn_late rng hhId seed committed
    (fun _ hidx => hidx : ∀ idx ∈ [1, 2, 3], idx ∈ [1, 2, 3])
    (CallSchedule.turn rng seed hhId committed { remaining := unfunded } 0)
  rw [hrange, List.foldl_cons, hmore]
  -- the first turn is in March, before that day
  have hfirst : (CallSchedule.turn rng seed hhId committed
      { remaining := unfunded } 0).calls = []
        ↔ ¬ rng.random (seed + 2) 0 ≤ 6 / 10 := by
    unfold CallSchedule.turn
    dsimp only
    rw [if_neg (not_le.mpr h)]
    by_cases hdraw : rng.random (seed + 2) 0 > 6 / 10
    · rw [if_pos hdraw]
      exact ⟨fun _ => not_le.mpr hdraw, fun _ => rfl⟩
    · rw [if_neg hdraw]
      exact ⟨fun hnil => (by cases hnil), fun hlate => absurd (not_lt.mp hdraw)
        hlate⟩
  obtain ⟨made, hmade, hmarch⟩ := turn_calls rng hhId seed committed
    { remaining := unfunded } 0
  constructor
  · rintro ⟨call, hcall, hdue⟩
    rcases List.mem_append.mp hcall with hcall | hcall
    · by_contra hdraw
      rw [hfirst.mpr hdraw] at hcall
      cases hcall
    · have hseptember : dateOf 2026 6 27 < call.eventDate :=
        lt_of_lt_of_le (by decide) (hlate call hcall)
      exact absurd hdue (not_le.mpr hseptember)
  · intro hdraw
    obtain ⟨call, hcall⟩ := List.exists_mem_of_ne_nil _ fun hnil =>
      hfirst.mp hnil hdraw
    refine ⟨call, List.mem_append_left _ hcall, ?_⟩
    rw [hmade] at hcall
    rw [hmarch call (hcall : call ∈ made)]
    decide

/-- A household without alternatives has no holding. -/
theorem buildAlts_nil (h : weightIn weights .alternatives ≤ 0) :
    buildAlts rng hhId entityId weights nav seed = [] := by
  unfold buildAlts
  exact if_pos h

variable (rng hhId entityId seed) in
/-- The one holding: what is unfunded, its mark, and that a call is missed
exactly if the first draw made one. -/
theorem buildAlts_held (hnav : 0 < nav)
    (h : 0 < weightIn weights .alternatives) :
    ∃ alt, buildAlts rng hhId entityId weights nav seed = [alt]
      ∧ alt.name = "Synthetic PE Fund I" ∧ alt.lastMarkDate = baseDate
      ∧ 0 < alt.unfundedCapital
      ∧ (missedCalls (dateOf 2026 6 27) alt.like ≠ []
        ↔ rng.random (seed + 2) 0 ≤ 6 / 10) := by
  unfold weightIn at h
  unfold buildAlts
  dsimp only
  generalize (weights.get? .alternatives).getD 0 = weight at h
  have hworth : 0 < nav * weight := mul_pos hnav h
  have hunfunded : 0 < nav * weight * (12 / 10) - nav * weight := by linarith
  rw [if_neg (not_le.mpr h)]
  refine ⟨_, rfl, rfl, rfl, hunfunded, ?_⟩
  rw [← due_schedule rng hhId seed (nav * weight * (12 / 10)) hunfunded]
  unfold missedCalls SyntheticAltHolding.like
  dsimp only
  rw [List.map_map]
  constructor
  · intro hmissed
    obtain ⟨day, hday⟩ := List.exists_mem_of_ne_nil _ hmissed
    obtain ⟨hscheduled, hdue⟩ := List.mem_filter.mp hday
    obtain ⟨call, hcall, rfl⟩ := List.mem_map.mp hscheduled
    exact ⟨call, hcall, of_decide_eq_true hdue⟩
  · rintro ⟨call, hcall, hdue⟩
    exact List.ne_nil_of_mem (List.mem_filter.mpr
      ⟨List.mem_map_of_mem hcall, decide_eq_true hdue⟩)

end Alternatives

-- ===================================================================== flags

/-- One flag of a reason and a label where something holds, and none
otherwise. -/
def OneFlagIf (p : Prop) (reason : NpaReason) (label : String)
    (flags : List NpaFlag) : Prop :=
  (p ∧ ∃ flag, flags = [flag] ∧ flag.reason = reason ∧ flag.label = label)
    ∨ (¬ p ∧ flags = [])

section OneFlag

variable {p : Prop} {reason : NpaReason} {label : String}
  {flags : List NpaFlag}

theorem OneFlagIf.reads [Decidable p] (h : OneFlagIf p reason label flags) :
    flags.map (fun f => (f.reason, f.label))
      = if p then [(reason, label)] else [] := by
  rcases h with ⟨hp, flag, rfl, rfl, rfl⟩ | ⟨hp, rfl⟩
  · rw [if_pos hp]
    rfl
  · rw [if_neg hp]
    rfl

theorem OneFlagIf.reason_eq (h : OneFlagIf p reason label flags) :
    ∀ flag ∈ flags, flag.reason = reason := by
  rcases h with ⟨-, flag, rfl, hreason, -⟩ | ⟨-, rfl⟩
  · intro f hf
    rw [List.mem_singleton.mp hf, hreason]
  · exact List.forall_mem_nil _

theorem OneFlagIf.ascending (h : OneFlagIf p reason label flags) :
    flags.Pairwise fun f g => f.key < g.key := by
  rcases h with ⟨-, flag, rfl, -⟩ | ⟨-, rfl⟩
  · exact List.pairwise_singleton _ _
  · exact List.Pairwise.nil

end OneFlag

/-- Flags are listed by their reasons first. -/
theorem key_lt_of_reason {f g : NpaFlag} (h : f.reason.value < g.reason.value) :
    f.key < g.key := Prod.Lex.lt_iff.mpr (.inl h)

/-- The three groups of a household, in the order of their reasons. -/
theorem ascending_groups {missed stale lost : List NpaFlag} {p q r : Prop}
    {name ticker : String}
    (hmissed : OneFlagIf p .missedCapitalCall name missed)
    (hstale : OneFlagIf q .staleAltMark name stale)
    (hlost : OneFlagIf r .sustainedDrawdown ticker lost) :
    (missed ++ stale ++ lost).Pairwise fun f g => f.key < g.key := by
  rw [List.pairwise_append, List.pairwise_append]
  refine ⟨⟨hmissed.ascending, hstale.ascending, fun f hf g hg => ?_⟩,
    hlost.ascending, fun f hf g hg => ?_⟩
  · apply key_lt_of_reason
    rw [hmissed.reason_eq f hf, hstale.reason_eq g hg]
    decide
  · apply key_lt_of_reason
    rw [hlost.reason_eq g hg]
    rcases List.mem_append.mp hf with hf | hf
    · rw [hmissed.reason_eq f hf]
      decide
    · rw [hstale.reason_eq f hf]
      decide

section Households

variable {site : SmokeSite} {cohortId : String} {seed rung : Int}
  {householdId : Option String} {nav : ℚ} {validate : Bool}
  {bundle : SyntheticHouseholdBundle} {limits : NpaLimits}

/-- Every cohort but the stressed one holds alternatives. -/
theorem sleeveRanges_alternatives {ranges : List (RiskClass × ℚ × ℚ)}
    (h : sleeveRanges cohortId = some ranges) :
    if cohortId = "concentrated_stress" then
      RiskClass.alternatives ∉ ranges.map Prod.fst
    else ∃ r ∈ ranges, r.1 = RiskClass.alternatives := by
  unfold sleeveRanges at h
  split at h
  · cases h
    rw [if_neg (by decide)]
    exact ⟨_, List.mem_cons_of_mem _ (List.mem_cons_of_mem _
      (List.mem_cons_of_mem _ List.mem_cons_self)), rfl⟩
  · cases h
    rw [if_neg (by decide)]
    exact ⟨_, List.mem_cons_of_mem _ List.mem_cons_self, rfl⟩
  · cases h
    rw [if_neg (by decide)]
    exact ⟨_, List.mem_cons_of_mem _ List.mem_cons_self, rfl⟩
  · cases h
    rw [if_pos rfl]
    decide
  · cases h

theorem Sampled.alternatives_pos_iff {ranges : List (RiskClass × ℚ × ℚ)}
    {d weights : Dict RiskClass ℚ} (hranges : sleeveRanges cohortId = some ranges)
    (h : Sampled ranges d weights) :
    0 < weightIn weights .alternatives ↔ cohortId ≠ "concentrated_stress" := by
  have hheld := sleeveRanges_alternatives hranges
  by_cases hstressed : cohortId = "concentrated_stress"
  · rw [if_pos hstressed] at hheld
    rw [weightIn_of_notMem (by rw [h.keys]; exact hheld)]
    exact ⟨fun h => absurd h (lt_irrefl 0), fun h => absurd hstressed h⟩
  · rw [if_neg hstressed] at hheld
    obtain ⟨r, hr, hclass⟩ := hheld
    have hsome := h.weightIn_pos (sleeveRanges_ranged hranges) hr
    rw [hclass] at hsome
    exact ⟨fun _ => hstressed, fun _ => by linarith⟩

/-- The holdings of a household were built from its weights. -/
theorem Generated.holdings {rt : SyntheticRuntime}
    {ranges : List (RiskClass × ℚ × ℚ)} {weights : Dict RiskClass ℚ}
    {portfolio : AssetPortfolio}
    (h : Generated rt cohortId seed rung householdId nav ranges weights
      portfolio bundle) :
    ∃ hhId entityId, bundle.fixture.alternativeHoldings
      = buildAlts rt.toSeededRandom hhId entityId weights nav seed := by
  rw [h.fixture]
  exact ⟨_, _, rfl⟩

variable (seed) in
/-- The flags of a household's one holding, if it has one. -/
theorem altFlags_buildAlts (hreach : NpaReach limits) (rng : SeededRandom)
    (hhId entityId : String) (weights : Dict RiskClass ℚ) (hnav : 0 < nav) :
    ∃ stale missed, ((buildAlts rng hhId entityId weights nav seed).map
        (·.like)).flatMap (turnOf (altFlag limits (dateOf 2026 6 27)))
          = stale ++ missed
      ∧ OneFlagIf (0 < weightIn weights .alternatives) .staleAltMark
        "Synthetic PE Fund I" stale
      ∧ OneFlagIf (0 < weightIn weights .alternatives
          ∧ rng.random (seed + 2) 0 ≤ 6 / 10) .missedCapitalCall
        "Synthetic PE Fund I" missed := by
  by_cases hheld : 0 < weightIn weights .alternatives
  · obtain ⟨alt, halt, hname, hmark, hunfunded, hdue⟩ :=
      buildAlts_held rng hhId entityId seed hnav hheld
    have hknown : alt.like.lastMarkDate ≤ dateOf 2026 6 27 := by
      show alt.lastMarkDate ≤ _
      rw [hmark]
      decide
    refine ⟨staleMarkFlag limits (dateOf 2026 6 27) alt.like,
      missedCallFlag (dateOf 2026 6 27) alt.like, ?_, .inl ⟨hheld, ?_⟩, ?_⟩
    · rw [halt, List.map_singleton, List.flatMap_singleton, turnOf_alt hknown]
    · have hold : dateOf 2026 6 27 - alt.like.lastMarkDate
          > limits.staleMarkDays := by
        show dateOf 2026 6 27 - alt.lastMarkDate > _
        rw [hmark]
        exact hreach.stale
      unfold staleMarkFlag
      dsimp only
      rw [if_pos hold]
      exact ⟨_, rfl, rfl, hname⟩
    · by_cases hdraw : rng.random (seed + 2) 0 ≤ 6 / 10
      · refine .inl ⟨⟨hheld, hdraw⟩, ?_⟩
        unfold missedCallFlag
        dsimp only
        rw [if_pos ⟨hdue.mpr hdraw, hunfunded⟩]
        exact ⟨_, rfl, rfl, hname⟩
      · refine .inr ⟨fun h => hdraw h.2, ?_⟩
        unfold missedCallFlag
        exact if_neg fun h => hdraw (hdue.mp h.1)
  · refine ⟨[], [], ?_, .inr ⟨hheld, rfl⟩, .inr ⟨fun h => hheld h.1, rfl⟩⟩
    rw [buildAlts_nil (not_lt.mp hheld)]
    rfl

/-- No holding is marked after the day of the smokes. -/
theorem marked_buildAlts (rng : SeededRandom) (hhId entityId : String)
    (seed : Int) {weights : Dict RiskClass ℚ} (hnav : 0 < nav) :
    ∀ alt ∈ (buildAlts rng hhId entityId weights nav seed).map (·.like),
      alt.lastMarkDate ≤ dateOf 2026 6 27 := by
  by_cases hheld : 0 < weightIn weights .alternatives
  · obtain ⟨alt, halt, -, hmark, -⟩ :=
      buildAlts_held rng hhId entityId seed hnav hheld
    rw [halt, List.map_singleton]
    intro alt' halt'
    rw [List.mem_singleton.mp halt']
    show alt.lastMarkDate ≤ _
    rw [hmark]
    decide
  · rw [buildAlts_nil (not_lt.mp hheld)]
    exact List.forall_mem_nil _

/-- The public lots of a household are in the liquid tiers. -/
theorem liquid_emitted {rt : SyntheticRuntime} {hhId : String}
    {weights : Dict RiskClass ℚ} {lot : SyntheticLot} {pos : LotPositionView}
    (hlot : lot ∈ (assembleFixture rt cohortId seed rung hhId nav weights).lots)
    (hview : LotViewed lot pos) : pos.liquidityTier ≤ liquidMaxTier := by
  have htier : ∀ c ∈ publicClasses, classLiquidityTier c false ≤ 2 := by
    decide
  obtain ⟨c, hc, hvalue, -⟩ := (bySleeve_assembleFixture rt cohortId seed rung
    hhId nav weights).mem hlot
  have hread := hview.tier
  rw [lotLiquidityTier_of_value hvalue] at hread
  rw [← Except.ok.inj hread]
  exact htier c hc

/-- The drawdown flags of a household whose lots at a loss are known. -/
theorem lost_generated (ctx : DecimalContext) (hreach : NpaReach limits)
    {lots : List SyntheticLot} {positions : List LotPositionView}
    (hviews : List.Forall₂ LotViewed lots positions)
    (hemitted : ∀ lot ∈ lots, EmittedLot lot) {p : Prop} [Decidable p]
    (hflagged : (lots.filter (·.isLossLot)).map (·.ticker)
      = if p then ["AAPL"] else []) :
    OneFlagIf p .sustainedDrawdown "AAPL" (positions.flatMap
        (turnOf (sustainedDrawdownFlag ctx limits (dateOf 2026 6 27))))
      ∧ ∀ f ∈ positions.flatMap (turnOf (sustainedDrawdownFlag ctx limits
          (dateOf 2026 6 27))), f.observed = -1429 / 10000 := by
  have hrounded : quantize 4 (-1 / 7) = -1429 / 10000 := by decide +kernel
  have hreads := drawdown_emitted ctx hreach hviews hemitted
  have hsplit : (fun lot : SyntheticLot =>
        (NpaReason.sustainedDrawdown, lot.ticker, quantize 4 (-1 / 7)))
      = (fun t : String => (NpaReason.sustainedDrawdown, t,
          quantize 4 (-1 / 7))) ∘ (·.ticker) := rfl
  rw [hsplit, ← List.map_map, hflagged] at hreads
  generalize positions.flatMap (turnOf (sustainedDrawdownFlag ctx limits
    (dateOf 2026 6 27))) = found at hreads ⊢
  by_cases hp : p
  · rw [if_pos hp, List.map_singleton, List.map_eq_singleton_iff] at hreads
    obtain ⟨flag, rfl, hflag⟩ := hreads
    obtain ⟨hreason, hrest⟩ := Prod.mk.inj hflag
    obtain ⟨hlabel, hobserved⟩ := Prod.mk.inj hrest
    refine ⟨.inl ⟨hp, flag, rfl, hreason, hlabel⟩, fun f hf => ?_⟩
    rw [List.mem_singleton.mp hf, hobserved, hrounded]
  · rw [if_neg hp, List.map_nil, List.map_eq_nil_iff] at hreads
    subst hreads
    exact ⟨.inr ⟨hp, rfl⟩, List.forall_mem_nil _⟩

/-- What a generated household is flagged for. -/
def expectedNpa (cohortId : String) (rung : Int) (called : Bool) :
    List (NpaReason × String) :=
  (if cohortId ≠ "concentrated_stress" ∧ called = true then
    [(.missedCapitalCall, "Synthetic PE Fund I")] else [])
  ++ (if cohortId ≠ "concentrated_stress" then
    [(.staleAltMark, "Synthetic PE Fund I")] else [])
  ++ (if rung ≠ 3 ∧ Concentrated cohortId then
    [(.sustainedDrawdown, "AAPL")] else [])

/-- A panel that knows its flags to the last one. -/
structure KnownPanel (cohortId : String) (rung : Int) (called : Bool)
    (fixture : HouseholdFixture) (data : NpaPanelData) : Prop where
  flags : data.flags.map (fun f => (f.reason, f.label))
    = expectedNpa cohortId rung called
  loss : ∀ f ∈ data.flags, f.reason = .sustainedDrawdown →
    f.observed = -1429 / 10000
  positions : data.positionCount = fixture.lots.length
  live : data.panelStatus = "live" ∧ data.error = none

/-- The panel of every household that is emitted. -/
theorem npaPanel_household (panel : String)
    (hreach : NpaReach site.settings.npaLimits)
    (hrun : emitSyntheticHousehold site.synthetic cohortId seed rung
      householdId nav validate none = .ok bundle) :
    ∃ data, npaPanel site panel bundle = .ok data
      ∧ KnownPanel cohortId rung (site.synthetic.random (seed + 2) 0 ≤ 6 / 10)
        bundle.fixture data := by
  obtain ⟨⟨ranges, hranges⟩, hrung, hnav⟩ := emitSyntheticHousehold_emittable hrun
  have hranged := sleeveRanges_ranged hranges
  obtain ⟨weights, portfolio, h⟩ := emitSyntheticHousehold_generated hranges
    hrung hnav hrun
  obtain ⟨d, hsampled⟩ := h.sampled
  have hequity : 0 < weightIn weights .equity := by
    obtain ⟨r, hr, hclass⟩ := sleeveRanges_equity hranges
    have := hsampled.weightIn_pos hranged hr
    rw [← hclass]
    linarith
  obtain ⟨positions, hviews, hviewed⟩ := h.positions none
  have hemitted : ∀ lot ∈ bundle.fixture.lots, EmittedLot lot := by
    rw [h.lots]
    exact fun lot hlot => emittedLot_assembleFixture hlot
  have hbook := h.emittedBook hnav hequity hviewed
  obtain ⟨hhId, entityId, hholdings⟩ := h.holdings
  have hknown : NoLookahead (dateOf 2026 6 27) positions
      (bundle.fixture.alternativeHoldings.map (·.like)) := by
    constructor
    · intro pos hpos
      obtain ⟨lot, hlot, hview⟩ := forall₂_mem_right hviewed hpos
      rw [hview.acquired]
      exact (hemitted lot hlot).acquired.trans (by decide)
    · rw [hholdings]
      exact marked_buildAlts _ _ _ _ hnav
  have hquiet : liquidityFlag positions (some bundle.ips) = none := by
    refine liquidityFlag_liquid hbook.nav (fun pos hpos => ?_) bundle.ips
    obtain ⟨lot, hlot, hview⟩ := forall₂_mem_right hviewed hpos
    rw [h.lots] at hlot
    exact liquid_emitted hlot hview
  have hlost := lost_generated site.risk.decimal hreach hviewed hemitted (by
    rw [h.lots]
    exact flagged_assembleFixture site.synthetic (mul_pos hnav hequity))
  obtain ⟨stale, missed, hsleeve, hstale, hmissed⟩ := altFlags_buildAlts seed
    hreach site.synthetic.toSeededRandom hhId entityId weights hnav
  rw [← hholdings] at hsleeve
  rw [hsampled.alternatives_pos_iff hranges] at hstale hmissed
  generalize hlots : positions.flatMap (turnOf (sustainedDrawdownFlag
    site.risk.decimal site.settings.npaLimits (dateOf 2026 6 27))) = lost
    at hlost
  have hsorted : (foundFlags site.risk.decimal site.settings.npaLimits
      (dateOf 2026 6 27) positions
      (bundle.fixture.alternativeHoldings.map (·.like))
      (some bundle.ips)).insertionSort (fun f g => f.key ≤ g.key)
      = missed ++ stale ++ lost := by
    refine sortBy_eq_of_ascending NpaFlag.key ?_
      (ascending_groups hmissed hstale hlost.1)
    unfold foundFlags
    rw [hlots, hsleeve, hquiet, Option.toList_none, List.append_nil]
    exact List.perm_append_comm.trans
      (List.Perm.append_right _ List.perm_append_comm)
  refine ⟨{
    householdId := bundle.fixture.householdId
    cohortId := panel
    asOfDate := dateOf 2026 6 27
    configVersion := site.settings.analystConfigVersion
    positionCount := positions.length
    altCount := bundle.fixture.alternativeHoldings.length
    flags := missed ++ stale ++ lost }, ?_, ?_, ?_, ?_, rfl, rfl⟩
  · have hreport : flagNonPerforming site.risk.decimal site.settings.npaLimits
        (smokeAsOfDate bundle.fixture) positions
        (bundle.fixture.alternativeHoldings.map (·.like)) (some bundle.ips)
        bundle.fixture.householdId site.settings.analystConfigVersion
        = .ok _ := (flagNonPerforming_ok_iff _).mpr ⟨hknown, rfl⟩
    unfold npaPanel
    dsimp only
    rw [hviews]
    show ((flagNonPerforming _ _ _ _ _ _ _ _).mapError _ >>= _) = _
    rw [hreport]
    show Except.ok _ = Except.ok _
    exact congrArg (fun flags => Except.ok (NpaPanelData.mk _ _ _ _ _ _ flags _ _))
      hsorted
  · rw [List.map_append, List.map_append, hmissed.reads, hstale.reads,
      hlost.1.reads]
    unfold expectedNpa
    simp only [decide_eq_true_eq]
  · intro f hf hreason
    rcases List.mem_append.mp hf with hf | hf
    · rcases List.mem_append.mp hf with hf | hf
      · rw [hmissed.reason_eq f hf] at hreason
        cases hreason
      · rw [hstale.reason_eq f hf] at hreason
        cases hreason
    · exact hlost.2 f hf
  · exact hviewed.length_eq.symm

/-- Without its gate, a household of a known cohort is emitted at either
rung. -/
theorem KnownCohort.emits_ungated {ranges : List (RiskClass × ℚ × ℚ)}
    (h : KnownCohort cohortId ranges) (rt : SyntheticRuntime) (seed : Int)
    (householdId : Option String) (hrung : rung = 3 ∨ rung = 4)
    (hnav : 0 < nav) :
    ∃ bundle, emitSyntheticHousehold rt cohortId seed rung householdId nav
      false none = .ok bundle := by
  obtain ⟨priors, hpriors⟩ := h.priors
  have hranged := sleeveRanges_ranged h.known
  obtain ⟨d, weights, hsample, hsampled⟩ :=
    sampleSleeveWeights_ok rt.toSeededRandom seed h.known hranged
  obtain ⟨portfolio, hrun, hshapeA⟩ := hsampled.shapeA cohortId hranged
    rt seed householdId hrung hnav
  obtain ⟨ips, hips, hhousehold, hfloor, -, -⟩ :=
    hsampled.statement h.known hpriors (fun _ => h.equity) rt.toSeededRandom
      seed rung (householdIdOr householdId cohortId seed) hshapeA
  obtain ⟨found, hfound, -⟩ := liquidityBindingConstraints_sampled h.known
    hpriors hsampled rt seed rung (householdIdOr householdId cohortId seed) hnav
    portfolio hfloor
  obtain ⟨validation, hvalid⟩ : ∃ validation, validateIps
      { assembleFixture rt cohortId seed rung
          (householdIdOr householdId cohortId seed) nav weights with
        assetPortfolio := some portfolio } ips = .ok validation := by
    unfold validateIps
    split
    · exact ⟨_, rfl⟩
    · dsimp only
      show ∃ validation, (liquidityBindingConstraints _ _ >>= _)
        = .ok validation
      rw [hfound]
      exact ⟨_, rfl⟩
  unfold emitSyntheticHousehold
  rw [emitHnwFixture_sampled rt cohortId seed householdId hsample, hrun, ok_bind]
  dsimp only
  show ∃ bundle, (emitIpsForCohort rt.toSeededRandom cohortId seed
    (householdIdOr householdId cohortId seed) (shapeAWeights portfolio) rung
      >>= _) = .ok bundle
  rw [hips, ok_bind, hvalid, ok_bind]
  exact ⟨_, rfl⟩

/-- The default limits are within reach. -/
theorem npaReach_default : NpaReach ({} : AppSettings).npaLimits where
  stale := by decide
  crossed := by norm_num [AppSettings.npaLimits]
  loss := by norm_num [AppSettings.npaLimits]
  sustained := by decide +kernel

/-- What the panel shows of a synthetic household.

It answers on every household that is emitted, on any draw. Its
alternatives are stale, and miss a call exactly if the first draw of their
schedule made one; the concentrated name is under water where it is held,
at rung 4; and the floor on liquidity, which a validator may find binding,
flags nothing, as the rule reads public lots only. The dashboard's own
household is emitted, so its panel is live. -/
theorem npa_generated_households (site : SmokeSite)
    (hreach : NpaReach site.settings.npaLimits) :
    (∀ (panel cohortId : String) (seed rung : Int)
      (householdId : Option String) (nav : ℚ) (validate : Bool)
      (bundle : SyntheticHouseholdBundle),
      emitSyntheticHousehold site.synthetic cohortId seed rung householdId nav
        validate none = .ok bundle →
      ∃ data, npaPanel site panel bundle = .ok data
        ∧ KnownPanel cohortId rung
          (site.synthetic.random (seed + 2) 0 ≤ 6 / 10) bundle.fixture data)
    ∧ ∃ bundle, emitSyntheticHousehold site.synthetic npaCohort npaSeed npaRung
        none defaultNav false none = .ok bundle
      ∧ KnownPanel npaCohort npaRung
        (site.synthetic.random (npaSeed + 2) 0 ≤ 6 / 10) bundle.fixture
        (loadNpaDashboard site) := by
  constructor
  · intro panel cohortId seed rung householdId nav validate bundle hrun
    exact npaPanel_household panel hreach hrun
  · obtain ⟨ranges, hknown⟩ := cohortIds_smoke
      (by simp [cohortIds, npaCohort] : npaCohort ∈ cohortIds)
    obtain ⟨bundle, hrun⟩ := hknown.emits_ungated site.synthetic npaSeed none
      (.inr rfl : npaRung = 3 ∨ npaRung = 4)
      (by norm_num [defaultNav] : 0 < defaultNav)
    obtain ⟨data, hpanel, hdata⟩ := npaPanel_household npaCohort hreach hrun
    refine ⟨bundle, hrun, ?_⟩
    have hloaded : ((emitSyntheticHousehold site.synthetic npaCohort npaSeed
        npaRung none defaultNav false none).mapError Exc.str >>=
          npaPanel site npaCohort) = .ok data := by
      rw [hrun]
      exact hpanel
    have hload : loadNpaDashboard site = data := by
      unfold loadNpaDashboard
      dsimp only
      rw [hloaded]
    rw [hload]
    exact hdata

/-- On the least draws a call is made at once, and missed. -/
theorem npa_generated_households_founder :
    (loadNpaDashboard plainSite).flags.map (·.reason)
      = [.missedCapitalCall, .staleAltMark, .sustainedDrawdown] := by
  obtain ⟨bundle, -, hpanel⟩ :=
    (npa_generated_households plainSite npaReach_default).2
  have hflags := congrArg (List.map Prod.fst) hpanel.flags
  rw [List.map_map] at hflags
  have hcalled : decide (plainSite.synthetic.random (npaSeed + 2) 0 ≤ 6 / 10)
      = true := by decide +kernel
  rw [hcalled] at hflags
  exact hflags

end Households

end Warehouse
