/-
The risk manifest of a seeded household beside its Shape A.

# The two tables

Shape A takes a lot's class from the lot, the ledger's builder takes it
from the ticker, and the builder's table knows three of the five tickers.
So what the generator emits as cash or as commodities is equity to the
builder (`builtClass`), and nothing else changes class
(`classValue_fixtureHoldings`).

# The ledger

The session that seeded a household reads its amounts as they were
written, so the ledger's holdings are the fixture's in some order
(`ledgerHoldings_perm`), and the manifest does not see the order.

# Exact shares

Folding adds shares that Shape A has rounded, where the builder rounds the
share of a class's sum. The two are equated in exact arithmetic: in 28
digits the last one can differ.
-/
import Warehouse.Proofs.SeededLedger

namespace Warehouse

open Lib UnitOfWork

-- ================================================================ the tables

/-- The class the builder gives the lots of a public sleeve. -/
def builtClass : RiskClass → RiskClass
  | .fixedIncome => .fixedIncome
  | _ => .equity

/-- The class the builder gives a lot. -/
def tickerClassOf (lot : SyntheticLot) : RiskClass :=
  (tickerClass (some lot.ticker)).1

/-- The ledger classes an emitted ticker as the builder would its sleeve. -/
theorem tickerClassOf_emitted : ∀ c ∈ publicClasses, ∀ lot : SyntheticLot,
    lot.assetClass = c.value → lot.ticker ∈ sleeveTickers c →
      tickerClassOf lot = builtClass c := by
  have htable : ∀ c ∈ publicClasses, ∀ ticker ∈ sleeveTickers c,
      (tickerClass (some ticker)).1 = builtClass c := by
    decide
  intro c hc lot _ hticker
  exact htable c hc lot.ticker hticker

/-- What Shape A holds, by the builder's classes. -/
def builtWeight (weights : RiskClass → ℚ) : RiskClass → ℚ
  | .equity => weights .equity + weights .cash + weights .commodities
  | .fixedIncome => weights .fixedIncome
  | .alternatives => weights .alternatives
  | _ => 0

/-- A fixture's holdings as the builder classes them. -/
def fixtureHoldings (fixture : HouseholdFixture) : List (RiskClass × ℚ) :=
  fixture.lots.map (fun lot => (tickerClassOf lot, lot.marketValue))
    ++ fixture.alternativeHoldings.map fun alt =>
      (.alternatives, alt.currentNav)

/-- A class's value over two lists of holdings. -/
theorem classValue_append (holdings holdings' : List (RiskClass × ℚ))
    (c : RiskClass) : classValue (holdings ++ holdings') c
      = classValue holdings c + classValue holdings' c := by
  unfold classValue
  rw [List.filter_append, List.map_append, List.sum_append]

theorem classValue_perm {holdings holdings' : List (RiskClass × ℚ)}
    (h : holdings.Perm holdings') (c : RiskClass) :
    classValue holdings c = classValue holdings' c :=
  ((h.filter _).map _).sum_eq

/-- Over the lots, by ticker. -/
theorem classValue_lots (lots : List SyntheticLot) (c : RiskClass) :
    classValue (lots.map fun lot => (tickerClassOf lot, lot.marketValue)) c
      = ((lots.filter (tickerClassOf · = c)).map
        SyntheticLot.marketValue).sum := by
  unfold classValue
  rw [List.filter_map, List.map_map]
  rfl

/-- Over the holdings, all in one class. -/
theorem classValue_alternatives (alts : List SyntheticAltHolding)
    (c : RiskClass) :
    classValue (alts.map fun alt => (.alternatives, alt.currentNav)) c
      = if c = .alternatives then (alts.map (·.currentNav)).sum else 0 := by
  unfold classValue
  rw [List.filter_map, List.map_map]
  by_cases hc : c = .alternatives
  · rw [if_pos hc, List.filter_eq_self.mpr]
    · rfl
    · intro alt _
      exact decide_eq_true hc.symm
  · rw [if_neg hc, List.filter_eq_nil_iff.mpr]
    · rfl
    · intro alt _ heq
      exact hc (of_decide_eq_true heq).symm

/-- The builder's classes hold what Shape A's do, cash and commodities
with the equity. -/
theorem classValue_fixtureHoldings {value : RiskClass → ℚ}
    {fixture : HouseholdFixture} (hlots : BySleeve value fixture.lots)
    (c : RiskClass) :
    classValue (fixtureHoldings fixture) c
      = builtWeight (heldNav fixture) c := by
  have hbuilt := hlots.sum_filter builtClass tickerClassOf_emitted
  have hheld := hlots.sum_filter (f := heldClass) id
    fun c _ lot hvalue _ => heldClass_of_value hvalue
  unfold fixtureHoldings
  rw [classValue_append, classValue_lots, classValue_alternatives, hbuilt]
  unfold builtWeight heldNav
  simp only [hheld, publicClasses, List.map_cons, List.map_nil, List.sum_cons,
    List.sum_nil]
  cases c with
  | equity =>
    simp [builtClass]
    ring
  | fixedIncome => simp [builtClass]
  | alternatives => simp [builtClass]
  | cash => simp [builtClass]
  | commodities => simp [builtClass]
  | fx => simp [builtClass]

/-- A fixture is worth its lots and its holdings. -/
theorem holdingsValue_fixtureHoldings (fixture : HouseholdFixture) :
    holdingsValue (fixtureHoldings fixture)
      = (fixture.lots.map SyntheticLot.marketValue).sum
        + (fixture.alternativeHoldings.map (·.currentNav)).sum := by
  unfold holdingsValue fixtureHoldings
  rw [List.map_append, List.sum_append, List.map_map, List.map_map]
  rfl

-- ================================================================ the ledger

/-- Every lot and every holding of a fixture is worth something. -/
structure WorthAll (fixture : HouseholdFixture) : Prop where
  lots : ∀ lot ∈ fixture.lots, 0 < lot.marketValue
  holdings : ∀ alt ∈ fixture.alternativeHoldings, 0 < alt.currentNav

/-- Every lot counts, at its ticker's class. -/
theorem valuedPositions_views {lots : List SyntheticLot}
    {views : List LotPositionView} (h : List.Forall₂ LotViewed lots views)
    (hworth : ∀ lot ∈ lots, 0 < lot.marketValue) :
    (views.map ledgerView).filterMap valuedPosition
      = lots.map fun lot => (tickerClassOf lot, lot.marketValue) := by
  rw [List.filterMap_map]
  apply filterMap_of_forall₂ h.flip
  intro pos _ lot hlot hview
  apply valuedPosition_eq_some.mpr
  refine ⟨lot.marketValue, hview.marketValue, hworth lot hlot, ?_⟩
  show _ = ((tickerClass pos.ticker).1, _)
  rw [hview.ticker]
  rfl

theorem valuedAlternatives_views (hhId : String)
    {alts : List SyntheticAltHolding}
    (hworth : ∀ alt ∈ alts, 0 < alt.currentNav) :
    (alts.map (alternativeView hhId)).filterMap valuedAlternative
      = alts.map fun alt => (.alternatives, alt.currentNav) := by
  induction alts with
  | nil => rfl
  | cons alt rest ih =>
    have hvalued : valuedAlternative (alternativeView hhId alt)
        = some (.alternatives, alt.currentNav) :=
      if_neg (not_le.mpr (hworth alt List.mem_cons_self))
    rw [List.map_cons, List.filterMap_cons_some hvalued, List.map_cons,
      ih fun alt' halt' => hworth alt' (List.mem_cons_of_mem _ halt')]

/-- The session that wrote a fixture keeps it. -/
theorem kept_exact {fixture : HouseholdFixture}
    (h : StandardFixture fixture) :
    ColumnScale.exact.kept fixture = fixture := by
  have hlots : fixture.lots.map ColumnScale.exact.keptLot = fixture.lots :=
    List.map_id _
  have halts : fixture.alternativeHoldings.map ColumnScale.exact.keptHolding
      = fixture.alternativeHoldings := List.map_id _
  have hworth := h.worth
  unfold ColumnScale.kept
  dsimp only
  rw [hlots, halts, ← hworth]

/-- What the ledger holds of a seeded household is the fixture, in some order. -/
theorem ledgerHoldings_perm {store : SeedStore} {bundle : SpelledBundle}
    (hread : ReadsBack .exact store bundle)
    (hstandard : StandardFixture bundle.fixture)
    (hworth : WorthAll bundle.fixture) (order : LedgerOrder) :
    (ledgerHoldings order (store.read .exact) bundle.hhId).Perm
      (fixtureHoldings bundle.fixture) := by
  obtain ⟨views, hviews, hpositions⟩ := hread.positions
  have halternatives := hread.alternatives order
  rw [kept_exact hstandard] at hviews halternatives
  have hvalued := valuedPositions_views (lotPositions_viewed hviews) hworth.lots
  have hvalued' := valuedAlternatives_views bundle.hhId hworth.holdings
  unfold ledgerHoldings valuedHoldings fixtureHoldings
  rw [← hvalued, ← hvalued']
  exact ((hpositions order).filterMap _).append (halternatives.filterMap _)

-- ============================================================= the emission

section Emitted

variable {rt : SyntheticRuntime} {cohortId : String} {seed rung : Int}
  {householdId : Option String} {nav : ℚ} {validate : Bool}
  {weights : Option (Dict RiskClass ℚ)}

/-- A returned bundle's Shape A is its fixture's projection. -/
theorem emitSyntheticHousehold_projection {bundle : SyntheticHouseholdBundle}
    (hrun : emitSyntheticHousehold rt cohortId seed rung householdId nav
      validate weights = .ok bundle) :
    ∃ resolved portfolio,
      projectToAssetPortfolio (assembleFixture rt cohortId seed rung
        (householdIdOr householdId cohortId seed) nav resolved) = .ok portfolio
      ∧ bundle.fixture = sealIpsProvenance rt
        { assembleFixture rt cohortId seed rung
            (householdIdOr householdId cohortId seed) nav resolved with
          assetPortfolio := some portfolio } bundle.ips.ipsId := by
  unfold emitSyntheticHousehold at hrun
  obtain ⟨fixture, hfixture, hrun⟩ := bind_ok_iff.mp hrun
  obtain ⟨resolved, -, hfixture⟩ := emitHnwFixture_resolved hfixture
  obtain ⟨-, portfolio, hproject, rfl⟩ := emitHnwFixture_returned rt cohortId
    seed householdId hfixture
  obtain ⟨_, -, hrun⟩ := bind_ok_iff.mp hrun
  obtain ⟨ips, -, hrun⟩ := bind_ok_iff.mp hrun
  obtain ⟨validation, -, hrun⟩ := bind_ok_iff.mp hrun
  refine ⟨resolved, portfolio, hproject, ?_⟩
  split at hrun
  · cases hrun
  · cases hrun
    rfl

/-- Everything in an assembled fixture is worth something. -/
theorem worthAll_assembleFixture (hnav : 0 < nav) (hhId : String)
    (resolved : Dict RiskClass ℚ) :
    WorthAll (assembleFixture rt cohortId seed rung hhId nav resolved) where
  lots := fun lot hlot => (emittedLot_assembleFixture hlot).marketValue_pos
  holdings := by
    intro alt halt
    unfold assembleFixture buildAlts at halt
    dsimp only at halt
    split at halt
    · cases halt
    · next hweight =>
      rw [List.mem_singleton.mp halt]
      exact mul_pos hnav (not_le.mp hweight)

/-- No class of it is worth less than nothing. -/
theorem WorthAll.heldNav_nonneg {fixture : HouseholdFixture}
    (h : WorthAll fixture) (c : RiskClass) : 0 ≤ heldNav fixture c := by
  have hlots : 0 ≤ ((fixture.lots.filter (heldClass · = c)).map
      SyntheticLot.marketValue).sum := by
    apply List.sum_nonneg
    intro value hvalue
    obtain ⟨lot, hlot, rfl⟩ := List.mem_map.mp hvalue
    exact (h.lots lot (List.mem_filter.mp hlot).1).le
  have halts : 0 ≤ (fixture.alternativeHoldings.map (·.currentNav)).sum := by
    apply List.sum_nonneg
    intro value hvalue
    obtain ⟨alt, halt, rfl⟩ := List.mem_map.mp hvalue
    exact (h.holdings alt halt).le
  unfold heldNav
  split
  · exact add_nonneg hlots halts
  · rw [add_zero]
    exact hlots

/-- What a returned bundle's Shape A weighs. -/
theorem emitted_shapeA {bundle : SyntheticHouseholdBundle}
    (hrun : emitSyntheticHousehold rt cohortId seed rung householdId nav
      validate weights = .ok bundle) (hnav : 0 < nav) :
    ∃ portfolio value, bundle.fixture.assetPortfolio = some portfolio
      ∧ WorthAll bundle.fixture ∧ BySleeve value bundle.fixture.lots
      ∧ 0 < bundle.fixture.totalNavUsd
      ∧ ∀ c, weightIn (shapeAWeights portfolio) c
        = heldNav bundle.fixture c / bundle.fixture.totalNavUsd := by
  obtain ⟨resolved, portfolio, hproject, hfixture⟩ :=
    emitSyntheticHousehold_projection hrun
  have hclass := lotAssetClass_assembleFixture rt cohortId seed rung
    (householdIdOr householdId cohortId seed) nav resolved
  have hworth : WorthAll (assembleFixture rt cohortId seed rung
      (householdIdOr householdId cohortId seed) nav resolved) :=
    worthAll_assembleFixture hnav _ resolved
  have htotal := totalNavUsd_assembleFixture rt cohortId seed rung
    (householdIdOr householdId cohortId seed) nav resolved
  have hpos : 0 < heldTotal (assembleFixture rt cohortId seed rung
      (householdIdOr householdId cohortId seed) nav resolved) := by
    by_contra hle
    rw [projectToAssetPortfolio_error hclass (not_lt.mp hle)] at hproject
    cases hproject
  obtain ⟨portfolio', hproject', -, hshares⟩ := projectToAssetPortfolio_ok
    hclass hworth.heldNav_nonneg hpos
  rw [hproject] at hproject'
  obtain rfl := Except.ok.inj hproject'
  rw [hfixture]
  refine ⟨portfolio, _, rfl, ⟨hworth.lots, hworth.holdings⟩,
    bySleeve_assembleFixture rt cohortId seed rung
      (householdIdOr householdId cohortId seed) nav resolved, ?_, fun c => ?_⟩
  · rw [← htotal] at hpos
    exact hpos
  · rw [← htotal] at hshares
    exact hshares c

end Emitted

-- ============================================================ the manifest

/-- Building from values and dividing is building from shares. -/
theorem builtWeight_div (weights : RiskClass → ℚ) (total : ℚ) (c : RiskClass) :
    builtWeight weights c / total
      = builtWeight (fun c => weights c / total) c := by
  cases c with
  | equity =>
    unfold builtWeight
    rw [add_div, add_div]
  | fixedIncome => rfl
  | alternatives => rfl
  | cash => exact zero_div total
  | commodities => exact zero_div total
  | fx => exact zero_div total

/-- Folding keeps the weights exactly when there is nothing to fold. -/
theorem builtWeight_eq_iff {weights : RiskClass → ℚ}
    (hfx : weights .fx = 0) :
    (∀ c, builtWeight weights c = weights c)
      ↔ weights .cash = 0 ∧ weights .commodities = 0 := by
  constructor
  · intro h
    exact ⟨(h .cash).symm, (h .commodities).symm⟩
  · rintro ⟨hcash, hcommodities⟩ c
    cases c with
    | equity =>
      unfold builtWeight
      rw [hcash, hcommodities, add_zero, add_zero]
    | fixedIncome => rfl
    | alternatives => rfl
    | cash => exact hcash.symm
    | commodities => exact hcommodities.symm
    | fx => exact hfx.symm

/-- Nothing is emitted in currencies. -/
theorem heldNav_fx {value : RiskClass → ℚ} {fixture : HouseholdFixture}
    (hlots : BySleeve value fixture.lots) : heldNav fixture .fx = 0 := by
  have hheld := hlots.sum_filter (f := heldClass) id
    (fun c _ lot hvalue _ => heldClass_of_value hvalue) .fx
  unfold heldNav
  rw [hheld, if_neg (by decide), add_zero]
  simp [publicClasses]

/-- A manifest beside a Shape A, in exact arithmetic: cash and commodities
count as equity. -/
structure FoldsShapeA (manifest : HouseholdRiskManifest)
    (portfolio : AssetPortfolio) : Prop where
  weights : ∀ c, classWeight manifest.portfolio c
    = builtWeight (weightIn (shapeAWeights portfolio)) c
  same : (∀ c, classWeight manifest.portfolio c
      = weightIn (shapeAWeights portfolio) c)
    ↔ weightIn (shapeAWeights portfolio) .cash = 0
      ∧ weightIn (shapeAWeights portfolio) .commodities = 0

end Warehouse
