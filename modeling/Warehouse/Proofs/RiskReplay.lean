/-
Replaying a risk report from its fingerprint.

The fingerprint's payload sorts the slots by class and leaves out their
labels, the stress filter, and every value of the assumption set but its
regime and model version. No metric reads a label, and none depends on
how the classes interleave (`Agree`), so under assumption sets their
version pins and one stress filter the payload decides the report.

# Sums in another order

Two payloads are equal when the slots of each class are the same in the same
order, while the engine walks the slots of all classes together. So its sums
are taken in two orders, and decimals are exact here: in the 28 digits of
the default context the last digit of a sum depends on its order.
-/
import Warehouse.Lib.Classwise
import Warehouse.Proofs.Covariance
import Mathlib.Data.Rat.Sqrt
import Mathlib.Data.String.Basic

namespace Warehouse

open Lib

-- ================================================================== slots

/-- A slot without its label, which no metric reads. -/
def AllocationSlot.unlabelled (slot : AllocationSlot) : AllocationSlot :=
  { slot with label := none }

/-- The same slots class by class, labels aside. -/
def Agree (xs ys : List AllocationSlot) : Prop :=
  Classwise (·.assetClass) (xs.map (·.unlabelled)) (ys.map (·.unlabelled))

variable {xs ys : List AllocationSlot} {priors : RiskAssumptions}

/-- A function that reads no label may be mapped over unlabelled slots. -/
theorem map_unlabelled {β : Type*} {F : AllocationSlot → β}
    (hF : ∀ s, F s.unlabelled = F s) (zs : List AllocationSlot) :
    (zs.map (·.unlabelled)).map F = zs.map F := by
  rw [List.map_map]
  exact List.map_congr_left fun s _ => hF s

/-- What does not read labels agrees up to order. -/
theorem Agree.map_perm {β : Type*} (h : Agree xs ys) {F : AllocationSlot → β}
    (hF : ∀ s, F s.unlabelled = F s) : (xs.map F).Perm (ys.map F) := by
  rw [← map_unlabelled hF xs, ← map_unlabelled hF ys]
  exact h.perm.map F

/-- A sum that does not read labels agrees. -/
theorem Agree.sum_eq (h : Agree xs ys) {F : AllocationSlot → ℚ}
    (hF : ∀ s, F s.unlabelled = F s) : (xs.map F).sum = (ys.map F).sum :=
  (h.map_perm hF).sum_eq

/-- The rows made slot by slot agree class by class. -/
theorem Agree.map_classwise {β : Type*} (h : Agree xs ys)
    {F : AllocationSlot → β} {cls : β → RiskClass}
    (hF : ∀ s, F s.unlabelled = F s) (hcls : ∀ s, cls (F s) = s.assetClass) :
    Classwise cls (xs.map F) (ys.map F) := by
  rw [← map_unlabelled hF xs, ← map_unlabelled hF ys]
  exact Classwise.map h hcls

theorem Agree.exists_iff (h : Agree xs ys) {p : AllocationSlot → Prop}
    (hp : ∀ s, p s.unlabelled ↔ p s) :
    (∃ s ∈ xs, p s) ↔ ∃ s ∈ ys, p s := by
  have hmap : ∀ zs : List AllocationSlot,
      (∃ s ∈ zs, p s) ↔ ∃ s ∈ zs.map (·.unlabelled), p s := by
    intro zs
    simp [hp]
  rw [hmap xs, hmap ys]
  exact exists_congr fun s => and_congr_left fun _ => h.perm.mem_iff

/-- Slots selected without reading labels agree. -/
theorem Agree.filter (h : Agree xs ys) {p : AllocationSlot → Bool}
    (hp : ∀ s, p s.unlabelled = p s) : Agree (xs.filter p) (ys.filter p) := by
  have hcomp : p ∘ (·.unlabelled) = p := funext hp
  have hmap : ∀ zs : List AllocationSlot, (zs.filter p).map (·.unlabelled)
      = (zs.map (·.unlabelled)).filter p := by
    intro zs
    rw [List.filter_map, hcomp]
  intro c
  rw [hmap xs, hmap ys, List.filter_comm, h c, List.filter_comm]

-- ============================================================ the payload

theorem RiskClass.value_injective : Function.Injective RiskClass.value := by
  intro c c' h
  cases c <;> cases c' <;> first | rfl | simp [RiskClass.value] at h

theorem MeasurementMode.value_injective :
    Function.Injective MeasurementMode.value := by
  intro m m' h
  cases m <;> cases m' <;> first | rfl | simp [MeasurementMode.value] at h

/-- An entry holds all of a slot but its label. -/
theorem unlabelled_eq_of_entry {s s' : AllocationSlot}
    (h : allocationEntry s = allocationEntry s') :
    s.unlabelled = s'.unlabelled := by
  obtain ⟨c, w, d, b, t, m, l⟩ := s
  obtain ⟨c', w', d', b', t', m', l'⟩ := s'
  simp only [allocationEntry, AllocationEntry.mk.injEq] at h
  obtain ⟨hc, rfl, rfl, rfl, rfl, hm⟩ := h
  cases RiskClass.value_injective hc
  cases MeasurementMode.value_injective hm
  rfl

/-- Entries of a payload determine the slots up to labels. -/
theorem map_unlabelled_eq :
    ∀ {ss ss' : List AllocationSlot},
      ss.map allocationEntry = ss'.map allocationEntry →
      ss.map (·.unlabelled) = ss'.map (·.unlabelled)
  | [], [], _ => rfl
  | [], _ :: _, h => nomatch h
  | _ :: _, [], h => nomatch h
  | s :: ss, s' :: ss', h => by
    rw [List.map_cons, List.map_cons, List.cons.injEq] at h
    rw [List.map_cons, List.map_cons, unlabelled_eq_of_entry h.1,
      map_unlabelled_eq h.2]

/-- Sorting by class changes no class. -/
theorem agree_sortedByClass (slots : List AllocationSlot) :
    Agree slots (sortedByClass slots) := by
  have hsorted : Classwise (·.assetClass) slots (sortedByClass slots) :=
    Classwise.mergeSort AllocationSlot.assetClass
      (fun c c' => decide (c.value ≤ c'.value))
      (fun a b c => decide_le_trans a.value b.value c.value)
      (fun a b => decide_le_total a.value b.value) slots
  exact hsorted.map fun _ => rfl

/-- Equal payloads are of agreeing slots. -/
theorem agree_of_entries (h : (sortedByClass xs).map allocationEntry
    = (sortedByClass ys).map allocationEntry) : Agree xs ys := by
  have hsorted : Agree (sortedByClass xs) (sortedByClass ys) := by
    unfold Agree
    rw [map_unlabelled_eq h]
    exact Classwise.refl _ _
  exact (agree_sortedByClass xs).trans
    (hsorted.trans (agree_sortedByClass ys).symm)

-- =========================================================== covariance

/-- The covariance of two slots, unweighted. -/
def slotCovariance (priors : RiskAssumptions) (s t : AllocationSlot) : ℚ :=
  sleeveAnnualVolatility s priors * sleeveAnnualVolatility t priors
    * priors.pairwiseCorrelation s.assetClass t.assetClass

/-- The variance of a book as a sum over pairs of its slots. -/
def slotsVariance (priors : RiskAssumptions) (slots : List AllocationSlot) :
    ℚ :=
  (slots.map fun s => (slots.map fun t =>
    s.weight * t.weight * slotCovariance priors s t).sum).sum

/-- A slot's share of the variance. -/
def varianceShare (priors : RiskAssumptions) (slots : List AllocationSlot)
    (s : AllocationSlot) : ℚ :=
  if slotsVariance priors slots > 0 then
    s.weight * (slots.map fun t => slotCovariance priors s t * t.weight).sum
      / slotsVariance priors slots
  else 0

/-- The covariance of the portfolio of some slots. -/
def slotsCovariance (priors : RiskAssumptions) (slots : List AllocationSlot) :
    CovarianceResult :=
  portfolioCovariance (buildSleeveStates slots priors) priors

/-- What a slot contributes to the variance. -/
theorem stateMarginal_buildSleeveState (priors : RiskAssumptions)
    (slots : List AllocationSlot) (s : AllocationSlot) :
    stateMarginal priors (buildSleeveStates slots priors)
        (buildSleeveState priors s)
      = s.weight * (slots.map fun t => slotCovariance priors s t * t.weight).sum
      := by
  unfold stateMarginal coMovement buildSleeveStates
  rw [List.map_map, ← List.sum_map_mul_left, ← List.sum_map_mul_left]
  congr 1
  apply List.map_congr_left
  intro t _
  show s.weight * sleeveAnnualVolatility s priors
      * (priors.pairwiseCorrelation s.assetClass t.assetClass
        * (t.weight * sleeveAnnualVolatility t priors)) = _
  unfold slotCovariance
  ring

/-- The variance of the states is the double sum over the slots. -/
theorem statesVariance_buildSleeveStates (priors : RiskAssumptions)
    (slots : List AllocationSlot) :
    statesVariance priors (buildSleeveStates slots priors)
      = slotsVariance priors slots := by
  show ((slots.map (buildSleeveState priors)).map _).sum = _
  unfold slotsVariance
  rw [List.map_map]
  congr 1
  apply List.map_congr_left
  intro s _
  show stateMarginal priors (buildSleeveStates slots priors)
    (buildSleeveState priors s) = _
  rw [stateMarginal_buildSleeveState, ← List.sum_map_mul_left]
  congr 1
  apply List.map_congr_left
  intro t _
  ring

/-- The source's double loop is a sum over pairs of slots. -/
theorem portfolioVariance_slots (priors : RiskAssumptions)
    (slots : List AllocationSlot) :
    (slotsCovariance priors slots).portfolioVariance
      = slotsVariance priors slots := by
  unfold slotsCovariance
  rw [portfolioCovariance_eq]
  exact statesVariance_buildSleeveStates priors slots

/-- Each slot's share is a function of that slot and the book. -/
theorem pctVarianceContributions_slots (priors : RiskAssumptions)
    (slots : List AllocationSlot) :
    (slotsCovariance priors slots).pctVarianceContributions
      = slots.map (varianceShare priors slots) := by
  unfold slotsCovariance
  rw [portfolioCovariance_eq]
  show (slots.map (buildSleeveState priors)).map _ = _
  rw [List.map_map]
  apply List.map_congr_left
  intro s _
  show stateShare priors (buildSleeveStates slots priors)
    (buildSleeveState priors s) = _
  unfold stateShare varianceShare
  rw [statesVariance_buildSleeveStates, stateMarginal_buildSleeveState]

/-- The variance agrees. -/
theorem Agree.slotsVariance_eq (h : Agree xs ys) :
    slotsVariance priors xs = slotsVariance priors ys := by
  unfold slotsVariance
  have hinner : (xs.map fun s => (xs.map fun t =>
      s.weight * t.weight * slotCovariance priors s t).sum)
    = xs.map fun s => (ys.map fun t =>
      s.weight * t.weight * slotCovariance priors s t).sum :=
    List.map_congr_left fun s _ => h.sum_eq fun _ => rfl
  rw [hinner]
  exact h.sum_eq fun _ => rfl

/-- The shares agree, as functions of the slot. -/
theorem Agree.varianceShare_eq (h : Agree xs ys) :
    varianceShare priors xs = varianceShare priors ys := by
  funext s
  unfold varianceShare
  rw [h.slotsVariance_eq]
  congr 3
  exact h.sum_eq fun _ => rfl

-- =================================================================== level 2

/-- A slot's row of the class contributions. -/
def slotContribution (priors : RiskAssumptions) (slots : List AllocationSlot)
    (s : AllocationSlot) : ClassRiskContribution :=
  classContribution priors (buildSleeveState priors s)
    (varianceShare priors slots s)

/-- Level 2 is one contribution a slot. -/
theorem evaluateClassContributions_slots (priors : RiskAssumptions)
    (slots : List AllocationSlot) :
    evaluateClassContributions (buildSleeveStates slots priors)
        (slotsCovariance priors slots) priors
      = slots.map (slotContribution priors slots) := by
  unfold evaluateClassContributions
  rw [pctVarianceContributions_slots]
  unfold buildSleeveStates
  rw [List.zipWith_map, List.zipWith_self]
  rfl

/-- The contributions agree, as functions of the slot. -/
theorem Agree.slotContribution_eq (h : Agree xs ys) :
    slotContribution priors xs = slotContribution priors ys := by
  funext s
  unfold slotContribution
  rw [h.varianceShare_eq]

/-- The class rows agree class by class. -/
theorem Agree.contributions (h : Agree xs ys) (priors : RiskAssumptions) :
    Classwise (·.assetClass) (xs.map (slotContribution priors xs))
      (ys.map (slotContribution priors ys)) := by
  rw [h.slotContribution_eq]
  exact h.map_classwise (fun _ => rfl) fun _ => rfl

/-- The summary by measurement mode agrees. -/
theorem Agree.measurementSummary_eq (h : Agree xs ys) :
    measurementSummary (xs.map (slotContribution priors xs))
      = measurementSummary (ys.map (slotContribution priors ys)) := by
  have hperm := (h.contributions priors).perm
  unfold measurementSummary
  rw [((hperm.filter _).map _).sum_eq, ((hperm.filter _).map _).sum_eq]

/-- A bucket's row reads its slots up to order and labels. -/
theorem Agree.durationBucketRisk_eq (h : Agree xs ys) (horizon : RiskHorizon)
    {pct pct' : Dict RiskClass ℚ} (hpct : ∀ c, pct.get? c = pct'.get? c)
    (bucket : String) :
    durationBucketRisk horizon pct bucket xs
      = durationBucketRisk horizon pct' bucket ys := by
  have hdurations : (xs.filterMap (·.durationYears)).Perm
      (ys.filterMap (·.durationYears)) := by
    have hperm := h.perm.filterMap (·.durationYears)
    rw [List.filterMap_map, List.filterMap_map] at hperm
    exact hperm
  have hempty : (xs.filterMap (·.durationYears)).isEmpty
      = (ys.filterMap (·.durationYears)).isEmpty := by
    rw [Bool.eq_iff_iff, List.isEmpty_iff, List.isEmpty_iff]
    exact ⟨fun hnil => (hnil ▸ hdurations).nil_eq.symm,
      fun hnil => (hnil ▸ hdurations).eq_nil⟩
  have hpctSum : (xs.map fun m => (pct.get? m.assetClass).getD 0).sum
      = (ys.map fun m => (pct'.get? m.assetClass).getD 0).sum := by
    simp only [hpct]
    exact h.sum_eq fun _ => rfl
  have hweight : (xs.map (·.weight)).sum = (ys.map (·.weight)).sum :=
    h.sum_eq fun _ => rfl
  unfold durationBucketRisk
  dsimp only
  rw [hempty, hdurations.sum_eq, hdurations.length_eq, hpctSum, hweight]

/-- The duration buckets agree where the rows by class do. -/
theorem Agree.evaluateDurationRisk_eq (h : Agree xs ys)
    (horizon : RiskHorizon) {rows rows' : List ClassRiskContribution}
    (hrows : Classwise (·.assetClass) rows rows') :
    evaluateDurationRisk xs horizon rows
      = evaluateDurationRisk ys horizon rows' := by
  unfold evaluateDurationRisk
  apply Dict.map_sortedEntries_groupBy decide_le_trans decide_le_total
    decide_le_antisymm
  · exact fun k => h.exists_iff fun _ => Iff.rfl
  · intro k
    exact (h.filter fun _ => rfl).durationBucketRisk_eq horizon
      (Dict.get?_ofPairs_classwise _ hrows) k

-- ================================================= sensitivities and stress

/-- The sensitivities agree class by class. -/
theorem Agree.sensitivities (h : Agree xs ys) :
    Classwise (·.assetClass) (evaluateSensitivities xs)
      (evaluateSensitivities ys) :=
  h.map_classwise (fun _ => rfl) fun _ => rfl

/-- Scenario results with equal metrics, by class too. -/
structure SameScenario (result result' : StressScenarioResult) : Prop where
  name : result.name = result'.name
  portfolioReturn : result.portfolioReturn = result'.portfolioReturn
  dollarPnl : result.dollarPnl = result'.dollarPnl
  byClass : ∀ c, result.byClass.get? c = result'.byClass.get? c

/-- A scenario agrees in its totals and, class by class, in its entries. -/
theorem Agree.stressScenario (h : Agree xs ys) (notionalUsd : Option ℚ)
    (markSource name : String) (shocks : Dict RiskClass ℚ) :
    SameScenario (stressScenario xs notionalUsd markSource name shocks)
      (stressScenario ys notionalUsd markSource name shocks) := by
  have hreturn : (scenarioReturn xs shocks).1 = (scenarioReturn ys shocks).1 :=
    h.sum_eq fun _ => rfl
  have hbyClass : ∀ c, (scenarioReturn xs shocks).2.get? c
      = (scenarioReturn ys shocks).2.get? c := by
    intro c
    have hpairs := map_unlabelled
      (F := fun s => (s.assetClass, shockContribution shocks s)) fun _ => rfl
    unfold scenarioReturn
    rw [← hpairs xs, ← hpairs ys]
    exact Dict.get?_ofPairs_classwise (shockContribution shocks) h c
  unfold Warehouse.stressScenario
  rcases hxs : scenarioReturn xs shocks with ⟨total, byClass⟩
  rcases hys : scenarioReturn ys shocks with ⟨total', byClass'⟩
  rw [hxs, hys] at hreturn hbyClass
  cases hreturn
  exact ⟨rfl, rfl, rfl, hbyClass⟩

theorem Agree.evaluateLiquidity_eq (h : Agree xs ys) :
    evaluateLiquidity xs = evaluateLiquidity ys := by
  have hkeys : ∀ tier, tier ∈ (Dict.tally (·.liquidityTier)
      (·.weight : AllocationSlot → ℚ) xs).keys
        ↔ tier ∈ (Dict.tally (·.liquidityTier)
          (·.weight : AllocationSlot → ℚ) ys).keys := by
    intro tier
    rw [Dict.mem_keys_tally, Dict.mem_keys_tally]
    exact h.exists_iff fun _ => Iff.rfl
  have hweights : ∀ tier, ((Dict.tally (·.liquidityTier)
      (·.weight : AllocationSlot → ℚ) xs).get? tier).getD 0
        = ((Dict.tally (·.liquidityTier)
          (·.weight : AllocationSlot → ℚ) ys).get? tier).getD 0 := by
    intro tier
    rw [Dict.getD_tally, Dict.getD_tally]
    exact (h.filter fun _ => rfl).sum_eq fun _ => rfl
  unfold evaluateLiquidity
  simp only [hweights, Dict.mergeSort_keys_eq decide_le_trans decide_le_total
    decide_le_antisymm hkeys]

-- ================================================================ the report

/-- Reports equal in every metric: the rows of each class the same in the
same order, and everything else equal. -/
structure SameReport (report report' : PortfolioRiskReport) : Prop where
  portfolioId : report.portfolioId = report'.portfolioId
  horizonYears : report.horizonYears = report'.horizonYears
  modelVersion : report.modelVersion = report'.modelVersion
  inputFingerprint : report.inputFingerprint = report'.inputFingerprint
  manifest : report.manifest = report'.manifest
  level1Portfolio : report.level1Portfolio = report'.level1Portfolio
  byClass : Classwise (·.assetClass) report.level2Contributions.byClass
    report'.level2Contributions.byClass
  byDuration : report.level2Contributions.byDuration
    = report'.level2Contributions.byDuration
  bySleeve : Classwise (·.assetClass) report.level3Sensitivities
    report'.level3Sensitivities
  stress : List.Forall₂ SameScenario report.level4Stress.scenarios
    report'.level4Stress.scenarios
  liquidity : report.liquidity = report'.liquidity
  measurementSummary : report.measurementSummary = report'.measurementSummary
  aggregationNote : report.aggregationNote = report'.aggregationNote

/-- The same report, or the same exception. -/
def SameOutcome : Except Exc PortfolioRiskReport →
    Except Exc PortfolioRiskReport → Prop
  | .ok report, .ok report' => SameReport report report'
  | .error e, .error e' => e = e'
  | _, _ => False

/-- A regime and a model version pin the values of an assumption set. -/
def Pinned (priors priors' : RiskAssumptions) : Prop :=
  priors.regime = priors'.regime → priors.modelVersion = priors'.modelVersion →
    priors = priors'

/-- The catalog is keyed by regime, so its sets are pinned. -/
theorem assumptionsFor_pinned {name name' : String}
    {priors priors' : RiskAssumptions} (h : assumptionsFor name = .ok priors)
    (h' : assumptionsFor name' = .ok priors') : Pinned priors priors' := by
  intro hregime _
  rw [(assumptionsFor_cases h).2, (assumptionsFor_cases h').2] at hregime
  subst hregime
  exact Except.ok.inj (h.symm.trans h')

/-- The expected return is a sum over the slots. -/
theorem portfolioExpectedReturn_slots (slots : List AllocationSlot) :
    portfolioExpectedReturn (buildSleeveStates slots priors) priors
      = (slots.map fun s =>
        s.weight * priors.classExpectedReturn s.assetClass).sum := by
  unfold portfolioExpectedReturn buildSleeveStates
  rw [List.map_map]
  rfl

/-- Both books raise the same error or replay the same scenarios. -/
theorem Agree.evaluateStress (h : Agree xs ys) (notionalUsd : Option ℚ)
    (markSource : String) (priors : RiskAssumptions)
    (stressFilter : Option String) :
    (∃ e, evaluateStress xs notionalUsd markSource priors stressFilter
          = .error e
        ∧ evaluateStress ys notionalUsd markSource priors stressFilter
          = .error e)
      ∨ ∃ stress stress',
        evaluateStress xs notionalUsd markSource priors stressFilter
          = .ok stress
        ∧ evaluateStress ys notionalUsd markSource priors stressFilter
          = .ok stress'
        ∧ List.Forall₂ SameScenario stress.scenarios stress'.scenarios := by
  unfold Warehouse.evaluateStress
  cases stressPacks priors.stressScenarios stressFilter with
  | error e => exact Or.inl ⟨e, rfl, rfl⟩
  | ok packs =>
    refine Or.inr ⟨_, _, rfl, rfl, ?_⟩
    rw [List.forall₂_map_left_iff, List.forall₂_map_right_iff,
      List.forall₂_same]
    exact fun pack _ => h.stressScenario notionalUsd markSource pack.1 pack.2

theorem Agree.volatility_eq (h : Agree xs ys) (ctx : DecimalContext) :
    CovarianceResult.portfolioVolatility ctx
        (portfolioCovariance (buildSleeveStates xs priors) priors)
      = CovarianceResult.portfolioVolatility ctx
        (portfolioCovariance (buildSleeveStates ys priors) priors) := by
  have hvariance := portfolioVariance_slots priors
  unfold slotsCovariance at hvariance
  unfold CovarianceResult.portfolioVolatility
  rw [hvariance xs, hvariance ys, h.slotsVariance_eq]

theorem Agree.expectedReturn_eq (h : Agree xs ys) :
    portfolioExpectedReturn (buildSleeveStates xs priors) priors
      = portfolioExpectedReturn (buildSleeveStates ys priors) priors := by
  rw [portfolioExpectedReturn_slots, portfolioExpectedReturn_slots]
  exact h.sum_eq fun _ => rfl

/-- Agreeing portfolios have the same report, if their fingerprints do. -/
theorem Agree.evaluatePortfolioRisk {ctx : DecimalContext}
    {digest : FingerprintPayload → String}
    {portfolio portfolio' : AssetPortfolio} {horizon horizon' : RiskHorizon}
    {notionalUsd : Option ℚ} {assumptions assumptions' : Option RiskAssumptions}
    (stressFilter : Option String)
    (h : Agree portfolio.allocations portfolio'.allocations)
    (hid : portfolio.portfolioId = portfolio'.portfolioId)
    (hyears : horizon.years = horizon'.years)
    (hpriors : assumptions.getD baseAssumptions
      = assumptions'.getD baseAssumptions)
    (hpayload : fingerprintPayload portfolio horizon notionalUsd
        (assumptions'.getD baseAssumptions).regime
        (assumptions'.getD baseAssumptions).modelVersion
      = fingerprintPayload portfolio' horizon' notionalUsd
        (assumptions'.getD baseAssumptions).regime
        (assumptions'.getD baseAssumptions).modelVersion) :
    SameOutcome
      (evaluatePortfolioRisk ctx digest portfolio horizon notionalUsd
        assumptions stressFilter)
      (evaluatePortfolioRisk ctx digest portfolio' horizon' notionalUsd
        assumptions' stressFilter) := by
  obtain ⟨years, hrange⟩ := horizon
  obtain ⟨years', hrange'⟩ := horizon'
  cases hyears
  unfold Warehouse.evaluatePortfolioRisk
  rw [hpriors]
  generalize assumptions'.getD baseAssumptions = priors at hpayload ⊢
  have hrows := evaluateClassContributions_slots priors
  unfold slotsCovariance at hrows
  dsimp only
  rw [h.volatility_eq, h.expectedReturn_eq, hrows, hrows, hpayload, hid]
  cases parametricVar ctx _ _ years priors.varAlpha priors "model_prior" with
  | error e => exact rfl
  | ok varMetric =>
    cases parametricEs ctx _ _ years priors.esAlpha priors "model_prior" with
    | error e => exact rfl
    | ok esMetric =>
      rcases h.evaluateStress notionalUsd "model_prior" priors stressFilter with
        ⟨e, hx, hy⟩ | ⟨stress, stress', hx, hy, hstress⟩
      · simp only [hx, hy, bind, Except.bind]
        exact rfl
      · simp only [hx, hy, bind, Except.bind]
        exact {
          portfolioId := rfl
          horizonYears := rfl
          modelVersion := rfl
          inputFingerprint := rfl
          manifest := rfl
          level1Portfolio := by rw [h.measurementSummary_eq]
          byClass := h.contributions priors
          byDuration := h.evaluateDurationRisk_eq _ (h.contributions priors)
          bySleeve := h.sensitivities
          stress := hstress
          liquidity := h.evaluateLiquidity_eq
          measurementSummary := h.measurementSummary_eq
          aggregationNote := rfl }

/-- Under pinned assumption sets and one stress filter, equal payloads give
the same exception or, in exact arithmetic, the same report. -/
theorem risk_fingerprint_replay (ctx : DecimalContext)
    (digest : FingerprintPayload → String)
    (portfolio portfolio' : AssetPortfolio) (horizon horizon' : RiskHorizon)
    (notionalUsd notionalUsd' : Option ℚ)
    (assumptions assumptions' : Option RiskAssumptions)
    (stressFilter : Option String)
    (hpinned : Pinned (assumptions.getD baseAssumptions)
      (assumptions'.getD baseAssumptions))
    (hpayload : fingerprintPayload portfolio horizon notionalUsd
        (assumptions.getD baseAssumptions).regime
        (assumptions.getD baseAssumptions).modelVersion
      = fingerprintPayload portfolio' horizon' notionalUsd'
        (assumptions'.getD baseAssumptions).regime
        (assumptions'.getD baseAssumptions).modelVersion) :
    SameOutcome
      (evaluatePortfolioRisk ctx digest portfolio horizon notionalUsd
        assumptions stressFilter)
      (evaluatePortfolioRisk ctx digest portfolio' horizon' notionalUsd'
        assumptions' stressFilter) := by
  have hpriors := hpinned (congrArg FingerprintPayload.assumptionRegime hpayload)
    (congrArg FingerprintPayload.modelVersion hpayload)
  cases (congrArg FingerprintPayload.notionalUsd hpayload : notionalUsd = _)
  rw [hpriors] at hpayload
  exact Agree.evaluatePortfolioRisk stressFilter
    (agree_of_entries (congrArg FingerprintPayload.allocations hpayload))
    (congrArg FingerprintPayload.portfolioId hpayload)
    (congrArg FingerprintPayload.horizonYears hpayload) hpriors hpayload

-- ======================================================= concrete portfolios

/-- Roots of the squares of fractions. -/
def squareRoots : DecimalContext where
  sqrt := Rat.sqrt
  pow q _ := q
  str := formatFixed 2

/-- Half a book in one class. -/
def halfSlot (c : RiskClass) : AllocationSlot where
  assetClass := c
  weight := 1 / 2
  weightFraction := by norm_num [IsFraction]

/-- Half in each of two classes. -/
def halves (c c' : RiskClass) : AssetPortfolio where
  portfolioId := some "halves"
  allocations := [halfSlot c, halfSlot c']
  nonempty := by simp
  budget := by norm_num [WeightsSumToOne, halfSlot]

/-- A horizon of four years: its root is exact. -/
def fourYears : RiskHorizon where
  years := 4
  inRange := by norm_num

/-- The base vols doubled, under the base's names. -/
def doubledVols : RiskAssumptions :=
  { baseAssumptions with classAnnualVol := fun c => 2 * classAnnualVol c }

/-- The payload sorts the slots. -/
theorem fingerprintPayload_halves (notionalUsd : Option ℚ)
    (regime version : String) :
    fingerprintPayload (halves .equity .cash) fourYears notionalUsd regime
        version
      = fingerprintPayload (halves .cash .equity) fourYears notionalUsd regime
        version := by
  unfold fingerprintPayload sortedByClass
  simp [halves, List.mergeSort, halfSlot, RiskClass.value]

/-- Two orders of the same slots, under the catalog's base set: one payload,
one report. -/
theorem risk_fingerprint_replay_reordered :
    SameOutcome
      (evaluatePortfolioRisk squareRoots (fun _ => "digest")
        (halves .equity .cash) fourYears (some 100) none none)
      (evaluatePortfolioRisk squareRoots (fun _ => "digest")
        (halves .cash .equity) fourYears (some 100) none none) :=
  risk_fingerprint_replay squareRoots (fun _ => "digest")
    (halves .equity .cash) (halves .cash .equity) fourYears fourYears
    (some 100) (some 100) none none none
    (assumptionsFor_pinned (show assumptionsFor "base" = _ from rfl)
      (show assumptionsFor "base" = _ from rfl))
    (fingerprintPayload_halves ..)

/-- The vols a report lists by class. -/
def listedVols (outcome : Except Exc PortfolioRiskReport) : List ℚ :=
  match outcome with
  | .ok report => report.level2Contributions.byClass.map (·.annualVolatility)
  | .error _ => []

/-- The stress scenarios a report replays. -/
def replayed (outcome : Except Exc PortfolioRiskReport) : List String :=
  match outcome with
  | .ok report => report.level4Stress.scenarios.map (·.name)
  | .error _ => []

/-- Equal payloads, and not equal reports: for the values of the assumption
set, for the order of the slots, and for the stress filter. -/
theorem risk_fingerprint_insufficient :
    (fingerprintPayload (halves .equity .cash) fourYears none
          doubledVols.regime doubledVols.modelVersion
        = fingerprintPayload (halves .equity .cash) fourYears none
          baseAssumptions.regime baseAssumptions.modelVersion
      ∧ listedVols (evaluatePortfolioRisk squareRoots (fun _ => "digest")
          (halves .equity .cash) fourYears none (some doubledVols))
        ≠ listedVols (evaluatePortfolioRisk squareRoots (fun _ => "digest")
          (halves .equity .cash) fourYears none none))
    ∧ (fingerprintPayload (halves .equity .cash) fourYears none
          baseAssumptions.regime baseAssumptions.modelVersion
        = fingerprintPayload (halves .cash .equity) fourYears none
          baseAssumptions.regime baseAssumptions.modelVersion
      ∧ listedVols (evaluatePortfolioRisk squareRoots (fun _ => "digest")
          (halves .equity .cash) fourYears none)
        ≠ listedVols (evaluatePortfolioRisk squareRoots (fun _ => "digest")
          (halves .cash .equity) fourYears none))
    ∧ replayed (evaluatePortfolioRisk squareRoots (fun _ => "digest")
          (halves .equity .cash) fourYears none none (some "2022_inflation"))
        ≠ replayed (evaluatePortfolioRisk squareRoots (fun _ => "digest")
          (halves .equity .cash) fourYears none none none) := by
  refine ⟨⟨rfl, ?_⟩, ⟨fingerprintPayload_halves .., ?_⟩, ?_⟩
  · decide +kernel
  · decide +kernel
  · decide +kernel

end Warehouse
