/-
Generated households pass the workflow smoke.

One theorem a leg, over what a generated household is (`Generated`): its
lots are held at a positive value, so no leg refuses the book; its
statement is feasible, so the rebalance lands on target, under the crisis
priors too; and where the smoke asks for an alert, the capped equity sleeve
raises it. `smoke_passes` assembles the legs.

# What is asked of the site

The clock is on or after the day of the smokes, and the settings are within
the bounds the rebalance and the risk service need (`SmokeSettings`); the
defaults are (`smokeSettings_default`). Of the runtime nothing is assumed: a
digest is any function, and the smoke compares no digests. The household is
any that was emitted for a cohort on a gated rung, with a positive NAV.
-/
import Warehouse.Proofs.Advice
import Warehouse.Proofs.EmittedHousehold
import Warehouse.Research.WorkflowSmoke

namespace Warehouse

open Lib

-- ==================================================================== books

section Books

variable {rt : SyntheticRuntime} {cohortId : String} {seed rung : Int}
  {householdId : Option String} {nav : ℚ}
  {ranges : List (RiskClass × ℚ × ℚ)} {weights : Dict RiskClass ℚ}
  {portfolio : AssetPortfolio} {bundle : SyntheticHouseholdBundle}
  {positions : List LotPositionView}

/-- A book of emitted lots: every one is worth something, was bought for
something, and was bought in time. -/
structure EmittedBook (positions : List LotPositionView) : Prop where
  nav : 0 < totalMarketValue positions
  values : ∀ p ∈ positions, ∀ v ∈ p.marketValue, 0 ≤ v
  attributable : ∀ p ∈ positions, ∀ day, dateOf 2024 3 1 ≤ day →
    Attributable day p

/-- A generated household's positions are an emitted book. -/
theorem Generated.emittedBook
    (h : Generated rt cohortId seed rung householdId nav ranges weights
      portfolio bundle)
    (hnav : 0 < nav) (hequity : 0 < weightIn weights .equity)
    (hviews : List.Forall₂ LotViewed bundle.fixture.lots positions) :
    EmittedBook positions := by
  have hlots : ∀ lot ∈ bundle.fixture.lots, EmittedLot lot := by
    rw [h.lots]
    exact fun lot hlot => emittedLot_assembleFixture hlot
  refine ⟨?_, fun p hp v hv => ?_, fun p hp day hday => ?_⟩
  · have hsum := (bySleeve_assembleFixture rt cohortId seed rung
      (householdIdOr householdId cohortId seed) nav weights).sum
    rw [totalMarketValue_views (hviews.imp fun _ _ hview => hview.lotView),
      h.lots, hsum]
    have hworth : ∀ c, 0 ≤ emittedNav weights nav c := fun c =>
      le_max_right _ _
    have hpositive : 0 < emittedNav weights nav .equity :=
      lt_max_of_lt_left (mul_pos hnav hequity)
    unfold publicClasses
    simp only [List.map_cons, List.map_nil, List.sum_cons, List.sum_nil]
    linarith [hworth .fixedIncome, hworth .cash, hworth .commodities]
  · obtain ⟨lot, hlot, hview⟩ := forall₂_mem_right hviews hp
    rw [hview.marketValue] at hv
    cases hv
    exact (hlots lot hlot).marketValue_pos.le
  · obtain ⟨lot, hlot, hview⟩ := forall₂_mem_right hviews hp
    have hemitted := hlots lot hlot
    refine ⟨?_, by rw [hview.marketValue]; rfl, by rw [hview.gain]; rfl, ?_⟩
    · rw [hview.acquired]
      exact hemitted.acquired.trans hday
    · rw [hview.costBasis]
      exact mul_pos hemitted.quantity hemitted.basis

theorem nodup_targetClasses (weights : Dict RiskClass ℚ) :
    (targetClasses weights).Nodup := by
  unfold targetClasses
  exact ((List.mergeSort_perm _ _).nodup_iff.mpr weights.nodupKeys).filter _

/-- Sampled weights, and so Shape A's, are fractions of a whole. -/
theorem Generated.whole
    (h : Generated rt cohortId seed rung householdId nav ranges weights
      portfolio bundle) (hranged : Ranged ranges) :
    (∀ c, IsFraction (weightIn (shapeAWeights portfolio) c))
      ∧ (assetClasses.map (weightIn (shapeAWeights portfolio))).sum = 1 := by
  obtain ⟨d, hsampled⟩ := h.sampled
  have hsame : weightIn (shapeAWeights portfolio) = weightIn weights :=
    funext h.shapeA
  rw [hsame]
  refine ⟨fun c => ⟨hsampled.weightIn_nonneg hranged c,
    hsampled.weightIn_le_one hranged c⟩, ?_⟩
  rw [← sum_weightIn]
  exact hsampled.sum

/-- The statement of a generated household is boxed around its weights. -/
theorem Generated.boxed
    (h : Generated rt cohortId seed rung householdId nav ranges weights
      portfolio bundle) (hranged : Ranged ranges)
    (hequity : ∃ r ∈ ranges, r.1 = RiskClass.equity) :
    BoxedStatement cohortId (shapeAWeights portfolio)
      bundle.ips.allocationTargets := by
  refine emitIpsForCohort_boxed (h.whole hranged).1 (fun _ => ?_)
    (fun _ => cohortIpsPriors_band) h.statement
  obtain ⟨d, hsampled⟩ := h.sampled
  obtain ⟨r, hr, hclass⟩ := hequity
  have := hsampled.weightIn_pos hranged hr
  rw [h.shapeA, ← hclass]
  linarith

/-- A generated household's book is one the rebalance takes. -/
theorem Generated.rebalanceInput
    (h : Generated rt cohortId seed rung householdId nav ranges weights
      portfolio bundle) (hranged : Ranged ranges)
    (hequity : ∃ r ∈ ranges, r.1 = RiskClass.equity)
    (hbook : EmittedBook positions) :
    RebalanceInput positions bundle.ips := by
  have hboxed := h.boxed hranged hequity
  refine ⟨hbook.values, hbook.nav, ?_, fun t ht => ?_⟩
  · rw [hboxed.classes]
    exact (nodup_targetClasses _).map assetToIpsSleeve_injective
  · obtain ⟨c, -, hbox⟩ := hboxed.boxed t ht
    exact hbox.ordered

/-- No household's boxes miss the budget: beside equity another sleeve has
a weight. -/
theorem Generated.feasible
    (h : Generated rt cohortId seed rung householdId nav ranges weights
      portfolio bundle) (hranged : Ranged ranges)
    (hequity : ∃ r ∈ ranges, r.1 = RiskClass.equity)
    (hother : ∃ r ∈ ranges, r.1 ≠ RiskClass.equity) :
    ¬ BoxMissesBudget positions bundle.ips := by
  obtain ⟨hfractions, hone⟩ := h.whole hranged
  refine (h.boxed hranged hequity).feasible hfractions hone ?_
  obtain ⟨d, hsampled⟩ := h.sampled
  obtain ⟨r, hr, hclass⟩ := hother
  refine ⟨assetToIpsSleeve r.1, fun hcapped => hclass ?_, ?_⟩
  · exact assetToIpsSleeve_injective hcapped.2
  · have := hsampled.weightIn_pos hranged hr
    have hsame : riskClassFor (assetToIpsSleeve r.1) = r.1 := by
      apply assetToIpsSleeve_injective
      rw [assetToIpsSleeve_riskClassFor]
    rw [hsame, h.shapeA]
    linarith

end Books

-- ================================================================= the legs

section Legs

variable {site : SmokeSite} {cohortId : String} {seed rung : Int}
  {householdId : Option String} {nav : ℚ}
  {ranges : List (RiskClass × ℚ × ℚ)} {weights : Dict RiskClass ℚ}
  {portfolio : AssetPortfolio} {bundle : SyntheticHouseholdBundle}
  {positions : List LotPositionView}

/-- A leg that reported, and was satisfied. -/
def Passes (leg : Except Exc WorkflowSmokeCheck) : Prop :=
  ∃ check, leg = .ok check ∧ check.ok = true

/-- The guard passes a book bought by the day. -/
theorem assertLotsNotAfter_ok {asOf : Date}
    (h : ∀ p ∈ positions, p.acquisitionDate ≤ asOf) :
    assertLotsNotAfter positions asOf = .ok ⟨⟩ := by
  unfold assertLotsNotAfter
  rw [List.find?_eq_none.mpr fun p hp => by
    rw [decide_eq_true_eq]
    exact not_lt.mpr (h p hp)]

/-- Every emitted lot is bought before the smoke date. -/
theorem walkForwardGuardCheck_passes {asOf : Date}
    (hviews : bundlePositions bundle = .ok positions)
    (hbook : EmittedBook positions) (hasOf : dateOf 2024 3 1 ≤ asOf) :
    Passes (walkForwardGuardCheck bundle asOf) := by
  unfold walkForwardGuardCheck
  rw [hviews, ok_bind, assertLotsNotAfter_ok fun p hp =>
    (hbook.attributable p hp asOf hasOf).acquired]
  exact ⟨_, rfl, rfl⟩

/-- What the drift monitor weighs a target against. -/
theorem get?_targetWeights {targets : List AllocationTarget}
    (hdistinct : (targets.map (·.assetClass)).Nodup)
    (f : AllocationTarget → ℚ) {t : AllocationTarget} (ht : t ∈ targets) :
    (Dict.ofPairs (targets.map fun target =>
      (target.assetClass, f target))).get? t.assetClass = some (f t) := by
  rw [Dict.get?_eq_some_iff, Dict.entries_ofPairs]
  · exact List.mem_map_of_mem (f := fun target => (target.assetClass,
      f target)) ht
  · rw [List.map_map]
    exact hdistinct

/-- A target the book is over is an alert. -/
theorem alerts_ne_nil {householdId : String} {ips : InvestmentPolicyStatement}
    (hdistinct : (ips.allocationTargets.map (·.assetClass)).Nodup)
    {t : AllocationTarget} (ht : t ∈ ips.allocationTargets)
    (hover : t.maxWeight < targetWeightNow (totalMarketValue positions)
      (classMarketValue positions) t) :
    (buildIpsDriftReportFromViews householdId positions ips).alerts ≠ [] := by
  unfold buildIpsDriftReportFromViews
  dsimp only
  intro hnil
  have hquiet := (List.append_eq_nil_iff.mp hnil).1
  unfold driftVsIps at hquiet
  have hone := List.flatMap_eq_nil_iff.mp hquiet t ht
  dsimp only at hone
  rw [get?_targetWeights hdistinct (targetWeightNow _ _) ht, Option.getD_some,
    if_pos hover] at hone
  have hpair := (List.append_eq_nil_iff.mp (List.append_eq_nil_iff.mp hone).1).2
  cases hpair

/-- The stressed cohort has no class but equity, bonds and cash. -/
theorem stressed_ranges (hcohort : sleeveRanges "concentrated_stress"
    = some ranges) : RiskClass.alternatives ∉ ranges.map Prod.fst
      ∧ RiskClass.commodities ∉ ranges.map Prod.fst := by
  cases hcohort
  constructor
  · decide
  · decide

/-- The seal leaves the lots and their accounts as they are. -/
theorem lotPositionsFromFixture_seal (rt : SyntheticRuntime)
    (fixture : HouseholdFixture) (ipsId : String)
    (restricted : Option (List String)) :
    lotPositionsFromFixture (sealIpsProvenance rt fixture ipsId) restricted
      = lotPositionsFromFixture fixture restricted := rfl

/-- The stressed household's equity is over its cap in the monitor's eyes
too. -/
theorem Generated.alerts
    (h : Generated site.synthetic "concentrated_stress" seed rung householdId
      nav ranges weights portfolio bundle)
    (hcohort : sleeveRanges "concentrated_stress" = some ranges)
    (hrung : rung = 3 ∨ rung = 4) (hnav : 0 < nav)
    (hequity : ∃ r ∈ ranges, r.1 = RiskClass.equity)
    (hviews : bundlePositions bundle = .ok positions) :
    (buildIpsDriftReportFromViews bundle.fixture.householdId positions
      bundle.ips).alerts ≠ [] := by
  have hranged := sleeveRanges_ranged hcohort
  have hboxed := h.boxed hranged hequity
  obtain ⟨d, hsampled⟩ := h.sampled
  obtain ⟨halts, hcommodities⟩ := stressed_ranges hcohort
  rw [← hsampled.keys] at halts hcommodities
  obtain ⟨fixture, positions', portfolio', hrun, -, hviews', -, hsame,
    hpreserved⟩ := emitted_views site.synthetic "concentrated_stress" seed
      householdId hrung hnav (values_nonneg (hsampled.weightIn_nonneg hranged))
      (by rw [hsampled.emittedWeight hranged]; exact one_pos)
      (weightIn_of_notMem halts) (some bundle.ips.restrictedSecurities)
  rw [h.emitted] at hrun
  cases hrun
  cases hsame
  unfold bundlePositions at hviews
  rw [h.fixture, lotPositionsFromFixture_seal] at hviews
  obtain rfl : positions' = positions :=
    Except.ok.inj (hviews'.symm.trans hviews)
  have hjudged := hpreserved.mpr (weightIn_of_notMem hcommodities)
  have hpos : 0 < weightIn (shapeAWeights portfolio) .equity := by
    obtain ⟨r, hr, hclass⟩ := hequity
    have := hsampled.weightIn_pos hranged hr
    rw [h.shapeA, ← hclass]
    linarith
  have hmem : IpsSleeve.equity ∈ bundle.ips.allocationTargets.map
      (·.assetClass) := by
    rw [hboxed.classes]
    exact List.mem_map.mpr ⟨.equity, mem_targetClasses.mpr hpos, rfl⟩
  obtain ⟨t, ht, hclass⟩ := List.mem_map.mp hmem
  obtain ⟨c, hc, hbox⟩ := hboxed.boxed t ht
  have hcequity : c = .equity := by
    apply assetToIpsSleeve_injective
    rw [← hc]
    exact hclass
  refine alerts_ne_nil ?_ ht ?_
  · rw [hboxed.classes]
    exact (nodup_targetClasses _).map assetToIpsSleeve_injective
  · have hcap := hbox.cap ⟨rfl, hclass⟩
    rw [hcequity] at hcap
    rw [hjudged.judged t, hc, hcequity, get?_shapeASleeveWeights]
    exact hcap

/-- The drift report always exists; only the stressed cohort's check asks for an
alert, and its capped sleeve raises one. -/
theorem policyMonitoringCheck_passes
    (h : Generated site.synthetic cohortId seed rung householdId nav ranges
      weights portfolio bundle)
    (hcohort : sleeveRanges cohortId = some ranges)
    (hrung : rung = 3 ∨ rung = 4) (hnav : 0 < nav)
    (hequity : ∃ r ∈ ranges, r.1 = RiskClass.equity)
    (hviews : bundlePositions bundle = .ok positions) :
    Passes (policyMonitoringCheck bundle) := by
  unfold policyMonitoringCheck
  rw [hviews, ok_bind, h.cohort.1]
  by_cases hstressed : cohortId = "concentrated_stress"
  · subst hstressed
    have halerts := List.length_pos_iff.mpr
      (h.alerts hcohort hrung hnav hequity hviews)
    rw [if_pos rfl]
    refine ⟨_, rfl, decide_eq_true ?_⟩
    show 1 ≤ _ + _
    omega
  · rw [if_neg hstressed]
    exact ⟨_, rfl, rfl⟩

/-- The optimizer answers on every book worth something. -/
theorem rebalanceTaxOverlayCheck_passes (site : SmokeSite) (asOf : Date)
    (hviews : bundlePositions bundle = .ok positions)
    (hbook : EmittedBook positions) :
    Passes (rebalanceTaxOverlayCheck site bundle asOf) := by
  unfold rebalanceTaxOverlayCheck runTaxAwareOptimizer
  rw [hviews, ok_bind]
  dsimp only
  rw [if_neg (not_le.mpr hbook.nav), ok_bind]
  exact ⟨_, rfl, rfl⟩

-- ============================================================ the rebalance

/-- A base proposal says where its returns come from. -/
theorem rebalanceCore_muSource {ips : InvestmentPolicyStatement}
    {priors : RiskAssumptions} {cfg : Settings} {estimator : TaxEstimator}
    {proposal : RebalanceProposal}
    (hrun : rebalanceCore positions ips priors cfg estimator = .ok proposal) :
    proposal.muSource = "ex_ante_class_assumption" := by
  unfold rebalanceCore at hrun
  obtain ⟨held, -, hrun⟩ := bind_ok_iff.mp hrun
  dsimp only at hrun
  obtain ⟨w, -, hrun⟩ := bind_ok_iff.mp hrun
  split at hrun
  · cases hrun
  · obtain ⟨states, -, hrun⟩ := bind_ok_iff.mp hrun
    cases hrun
    rfl

/-- What the smoke asserts of a proposal holds of every one on target that
a stressed run reports. -/
theorem qpInvariants_of_run {ips : InvestmentPolicyStatement} {cfg : Settings}
    {proposal : RebalanceProposal}
    (hrun : runMvRebalance positions ips none cfg none true none
      = .ok proposal)
    (hon : OnTarget positions ips proposal.targetWeights) :
    qpInvariants proposal = true := by
  obtain ⟨priors, base, -, hbase, -, hstress⟩ := runMvRebalance_ok hrun
  obtain ⟨crisis, inner, -, -, hoverlaid⟩ :=
    computeStressOverlay_ok (hstress rfl)
  have hmu := rebalanceCore_muSource hbase
  have hsource : proposal.muSource = "ex_ante_class_assumption" := by
    rw [← hoverlaid]
    exact hmu
  have hregime : proposal.stressRegime.isSome = true := by
    rw [← hoverlaid]
    rfl
  have hbox : (proposal.targetWeights.values.all
      fun w => decide (0 ≤ w ∧ w ≤ 1)) = true := by
    rw [List.all_eq_true]
    intro w hw
    obtain ⟨e, he, rfl⟩ := List.mem_map.mp hw
    exact decide_eq_true (hon.fraction e he)
  have hsum : |proposal.targetWeights.values.sum - 1| ≤ smokeSumTolerance :=
    hon.budget
  unfold qpInvariants
  dsimp only
  rw [decide_eq_true hsum, hbox, hregime, decide_eq_true hsource]
  rfl

/-- Settings under which the optimizer is asked what it can answer. -/
structure SmokeSettings (settings : AppSettings) : Prop where
  lambdaNonneg : 0 ≤ settings.riskAversionLambda
  lambdaBounded : settings.riskAversionLambda ≤ 10 ^ 6
  regime : settings.optimizerStressRegime ∈ catalog.keys
  horizon : 0 < settings.riskDashboardHorizonYears
    ∧ settings.riskDashboardHorizonYears ≤ 50

/-- A feasible book is rebalanced, on target. -/
theorem runMvRebalance_smoke {ips : InvestmentPolicyStatement}
    {settings : AppSettings} (hsettings : SmokeSettings settings)
    (hin : RebalanceInput positions ips)
    (hfeasible : ¬ BoxMissesBudget positions ips) :
    ∃ proposal, runMvRebalance positions ips none settings.toSettings none true
        none = .ok proposal
      ∧ OnTarget positions ips proposal.targetWeights := by
  have hlam : |settings.riskAversionLambda| ≤ 10 ^ 6 := by
    rw [abs_of_nonneg hsettings.lambdaNonneg]
    exact hsettings.lambdaBounded
  rcases runMvRebalance_cases hin none none settings.toSettings none
      (fun _ h => nomatch h) (fun _ h => nomatch h) (fun _ h => nomatch h) hlam
      true with
    ⟨hmisses, -⟩ | ⟨-, ⟨-, -, hunknown⟩, -⟩ | ⟨-, proposal, hrun, hon, -⟩
  · exact absurd hmisses hfeasible
  · exact absurd hsettings.regime hunknown
  · exact ⟨proposal, hrun, hon⟩

/-- The rebalance answers where the bands admit the budget. -/
theorem mvRebalanceQpCheck_passes (hsettings : SmokeSettings site.settings)
    (hviews : bundlePositions bundle = .ok positions)
    (hin : RebalanceInput positions bundle.ips)
    (hfeasible : ¬ BoxMissesBudget positions bundle.ips) :
    (mvRebalanceQpCheck site bundle).ok = true := by
  obtain ⟨proposal, hrun, hon⟩ := runMvRebalance_smoke hsettings hin hfeasible
  unfold mvRebalanceQpCheck
  rw [hviews, ok_bind, hrun, ok_bind]
  exact qpInvariants_of_run hrun hon

-- ================================================================ the advice

/-- A payload without a date is advised as of the day of the dispatch. -/
theorem pmAdvise_undated (rt : RiskRuntime) (settings : Settings)
    (correlationId : String) (clockToday : Date) {p : PmAdvisePayload}
    (hnone : p.asOfDate = none) :
    pmAdvise rt settings correlationId clockToday p
      = pmAdvise rt settings correlationId clockToday
        { p with asOfDate := some clockToday } := by
  unfold pmAdvise attributionEvaluate
  dsimp only
  rw [hnone]
  rfl

/-- An answerable payload's advice has every leg, and no tax. -/
theorem pmAdvise_legs (rt : RiskRuntime) (settings : Settings)
    (correlationId : String) (clockToday : Date) {p : PmAdvisePayload}
    (hnone : p.asOfDate = none)
    (h : Answerable settings { p with asOfDate := some clockToday }
      clockToday) :
    ∃ out, pmAdvise rt settings correlationId clockToday p = .ok out
      ∧ out.proposal.rebalance.isSome = true
      ∧ out.narrative.isSome = true ∧ out.tax.taxDelta = 0 := by
  obtain ⟨risk, hrisk⟩ := (evaluateRisk_ok_iff rt p.request p.manifest).mpr
    h.overlay
  obtain ⟨result, hrun, -⟩ := runTaxAwareOptimizer_harvested
    { p with asOfDate := some clockToday } settings clockToday h.nav
  obtain ⟨rebalance, hrebalance⟩ := h.rebalance
  obtain ⟨attribution, hattribution⟩ := (evaluateAttribution_ok_iff ..).mpr
    h.attribution
  rw [pmAdvise_undated rt settings correlationId clockToday hnone,
    pmAdvise_eq rfl, hrun]
  dsimp only
  rw [hrisk, hrebalance]
  unfold attributionAt
  rw [hattribution]
  exact ⟨_, rfl, rfl, rfl, rfl⟩

/-- The advice is given where its clock is not before the smoke date. -/
theorem pmAdviseCheck_passes (hsettings : SmokeSettings site.settings)
    (hclock : dateOf 2024 3 1 ≤ site.clockToday)
    (hviews : bundlePositions bundle = .ok positions)
    (hbook : EmittedBook positions)
    (hmanifest : bundle.fixture.assetPortfolio = some portfolio)
    (hin : RebalanceInput positions bundle.ips)
    (hfeasible : ¬ BoxMissesBudget positions bundle.ips) :
    (pmAdviseCheck site bundle).ok = true := by
  obtain ⟨proposal, hrun, -⟩ := runMvRebalance_smoke hsettings hin hfeasible
  have hhorizon : RiskHorizon.create site.settings.riskDashboardHorizonYears
      = .ok ⟨_, hsettings.horizon⟩ := dif_pos hsettings.horizon
  obtain ⟨payload, hpayload, hnone, hanswerable⟩ : ∃ payload,
      buildWorkingSetFromBundle site.settings bundle = .ok payload
      ∧ payload.asOfDate = none
      ∧ Answerable site.settings.toSettings
        { payload with asOfDate := some site.clockToday } site.clockToday := by
    unfold buildWorkingSetFromBundle
    rw [hviews, ok_bind, hmanifest]
    dsimp only
    rw [hhorizon, ok_bind]
    exact ⟨_, rfl, rfl,
      { overlay := fun _ h => nomatch h
        nav := hbook.nav
        rebalance := ⟨proposal, hrun⟩
        attribution := fun p hp => hbook.attributable p hp _ hclock }⟩
  obtain ⟨out, hout, hrebalance, hnarrative, htax⟩ := pmAdvise_legs site.risk
    site.settings.toSettings ("e2e-" ++ bundle.fixture.householdId)
    site.clockToday hnone hanswerable
  unfold pmAdviseCheck
  rw [hpayload, ok_bind, hout, ok_bind, hrebalance, hnarrative,
    decide_eq_true htax]
  rfl

-- ============================================================== the scenario

/-- A cohort the generator and the gate know: it holds equity and another
class, and its households pass. -/
structure KnownCohort (cohortId : String)
    (ranges : List (RiskClass × ℚ × ℚ)) : Prop where
  known : sleeveRanges cohortId = some ranges
  priors : ∃ priors, cohortIpsPriors cohortId = .ok priors
  equity : ∃ r ∈ ranges, r.1 = RiskClass.equity
  other : ∃ r ∈ ranges, r.1 ≠ RiskClass.equity
  named : cohortId ≠ ""

theorem cohortIds_smoke (hcohort : cohortId ∈ cohortIds) :
    ∃ ranges, KnownCohort cohortId ranges := by
  unfold cohortIds at hcohort
  simp only [List.mem_cons, List.not_mem_nil, or_false] at hcohort
  rcases hcohort with rfl | rfl | rfl | rfl
  all_goals exact ⟨_, rfl, ⟨_, rfl⟩, ⟨_, List.mem_cons_self, rfl⟩,
    ⟨_, List.mem_cons_of_mem _ List.mem_cons_self, by decide⟩, by decide⟩

/-- A gated household is emitted, whether or not the gate is asked. -/
theorem KnownCohort.emits (h : KnownCohort cohortId ranges)
    (rt : SyntheticRuntime) (seed : Int) (householdId : Option String)
    (hrung : GatedRung cohortId rung) (hnav : 0 < nav) (validate : Bool) :
    ∃ bundle, emitSyntheticHousehold rt cohortId seed rung householdId nav
      validate none = .ok bundle := by
  obtain ⟨priors, hpriors⟩ := h.priors
  obtain ⟨bundle, hrun, -⟩ := emitSyntheticHousehold_passes h.known hpriors
    (fun _ => h.equity) rt seed householdId hrung hnav
  exact ⟨bundle, emitSyntheticHousehold_ungated hrun⟩

theorem GatedRung.emittable (h : GatedRung cohortId rung) :
    rung = 3 ∨ rung = 4 := h.imp_right And.left

theorem buildScenarioCard_ok (h : KnownCohort cohortId ranges)
    (site : SmokeSite) (seed : Int) (hrung : GatedRung cohortId rung) :
    ∃ card, buildScenarioCard site rung seed (some cohortId) = .ok card := by
  obtain ⟨bundle, hrun⟩ := h.emits site.synthetic seed none hrung
    (by norm_num [defaultNav] : 0 < defaultNav) true
  obtain ⟨weights, portfolio, hgenerated⟩ := emitSyntheticHousehold_generated
    h.known hrung.emittable (by norm_num [defaultNav]) hrun
  have hnamed : truthy (some cohortId) = true := decide_eq_true h.named
  have hhorizon : RiskHorizon.create 5 = .ok ⟨5, by norm_num⟩ :=
    dif_pos (by norm_num)
  obtain ⟨risk, hrisk⟩ := (evaluateRisk_ok_iff site.risk
    { horizon := ⟨5, by norm_num⟩ } portfolio).mpr fun _ h => nomatch h
  unfold buildScenarioCard
  rw [if_pos hnamed, show (pure ((some cohortId).getD "") : Except Exc String)
    = .ok cohortId from rfl, ok_bind]
  dsimp only
  rw [hrun, ok_bind, hgenerated.assetPortfolio]
  dsimp only
  rw [hhorizon, ok_bind, hrisk, ok_bind]
  exact ⟨_, rfl⟩

theorem researchScenarioCheck_passes (h : KnownCohort cohortId ranges)
    (site : SmokeSite) (hrung : GatedRung cohortId rung)
    (hprovenance : bundle.fixture.provenance.cohortId = cohortId
      ∧ bundle.fixture.provenance.seed = seed
      ∧ bundle.fixture.provenance.rung = rung) :
    Passes (researchScenarioCheck site bundle) := by
  obtain ⟨card, hcard⟩ := buildScenarioCard_ok h site seed hrung
  obtain ⟨hcohort, hseed, hrung⟩ := hprovenance
  unfold researchScenarioCheck
  dsimp only
  rw [hcohort, hseed, hrung, hcard, ok_bind, ok_bind]
  exact ⟨_, rfl, decide_eq_true rfl⟩

end Legs

-- ================================================================= the smoke

/-- A generated household passes every leg. -/
theorem smoke_passes {site : SmokeSite} {cohortId : String} {seed rung : Int}
    {householdId : Option String} {nav : ℚ}
    {ranges : List (RiskClass × ℚ × ℚ)} {weights : Dict RiskClass ℚ}
    {portfolio : AssetPortfolio} {bundle : SyntheticHouseholdBundle}
    (hknown : KnownCohort cohortId ranges)
    (hsettings : SmokeSettings site.settings)
    (hclock : dateOf 2024 3 1 ≤ site.clockToday)
    (hrung : GatedRung cohortId rung) (hnav : 0 < nav)
    (h : Generated site.synthetic cohortId seed rung householdId nav ranges
      weights portfolio bundle) :
    ∃ result, runWorkflowSmoke site bundle = .ok result
      ∧ result.ok = true := by
  have hranged := sleeveRanges_ranged hknown.known
  obtain ⟨positions, hviews, hviewed⟩ :=
    h.positions (some bundle.ips.restrictedSecurities)
  have hequity : 0 < weightIn weights .equity := by
    obtain ⟨d, hsampled⟩ := h.sampled
    obtain ⟨r, hr, hclass⟩ := hknown.equity
    have := hsampled.weightIn_pos hranged hr
    rw [← hclass]
    linarith
  have hbook := h.emittedBook hnav hequity hviewed
  have hin := h.rebalanceInput hranged hknown.equity hbook
  have hfeasible : ¬ BoxMissesBudget positions bundle.ips :=
    h.feasible hranged hknown.equity hknown.other
  obtain ⟨guard, hguard, hguardOk⟩ := walkForwardGuardCheck_passes hviews hbook
    (by decide : dateOf 2024 3 1 ≤ dateOf 2026 6 27)
  obtain ⟨policy, hpolicy, hpolicyOk⟩ := policyMonitoringCheck_passes h
    hknown.known hrung.emittable hnav hknown.equity hviews
  obtain ⟨overlay, hoverlay, hoverlayOk⟩ :=
    rebalanceTaxOverlayCheck_passes site (dateOf 2026 6 27) hviews hbook
  obtain ⟨scenario, hscenario, hscenarioOk⟩ :=
    researchScenarioCheck_passes hknown site hrung h.cohort
  have hqp := mvRebalanceQpCheck_passes hsettings hviews hin hfeasible
  have hadvice := pmAdviseCheck_passes hsettings hclock hviews hbook
    h.assetPortfolio hin hfeasible
  unfold runWorkflowSmoke
  dsimp only [Option.getD_none, smokeAsOfDate]
  rw [hguard, ok_bind, hpolicy, ok_bind, hoverlay, ok_bind, hscenario, ok_bind]
  refine ⟨_, rfl, ?_⟩
  unfold WorkflowSmokeResult.ok
  simp only [List.all_cons, List.all_nil, hguardOk, hpolicyOk, hoverlayOk, hqp,
    hscenarioOk, hadvice, Bool.and_self]

/-- A gated combination is emitted, with the gate or without it, and
passes. -/
theorem gated_smoke {site : SmokeSite} {cohortId : String} {seed rung : Int}
    (householdId : Option String) {nav : ℚ} (validate : Bool)
    (hcohort : cohortId ∈ cohortIds) (hrung : GatedRung cohortId rung)
    (hnav : 0 < nav) (hsettings : SmokeSettings site.settings)
    (hclock : dateOf 2024 3 1 ≤ site.clockToday) :
    ∃ bundle result, emitSyntheticHousehold site.synthetic cohortId seed rung
        householdId nav validate none = .ok bundle
      ∧ runWorkflowSmoke site bundle = .ok result ∧ result.ok = true := by
  obtain ⟨ranges, hknown⟩ := cohortIds_smoke hcohort
  obtain ⟨bundle, hrun⟩ := hknown.emits site.synthetic seed householdId hrung
    hnav validate
  obtain ⟨weights, portfolio, hgenerated⟩ := emitSyntheticHousehold_generated
    hknown.known hrung.emittable hnav hrun
  obtain ⟨result, hsmoke, hok⟩ := smoke_passes hknown hsettings hclock hrung
    hnav hgenerated
  exact ⟨bundle, result, hrun, hsmoke, hok⟩

/-- A matrix of gated combinations, the default one among them, has one
result for each, and all of them pass. -/
theorem e2e_matrix_passes (site : SmokeSite)
    (combos : Option (List (String × Int × Int))) (validate : Bool)
    (hgated : ∀ combo ∈ if combos.getD [] = [] then defaultE2eCombos
      else combos.getD [], combo.1 ∈ cohortIds ∧ GatedRung combo.1 combo.2.1)
    (hsettings : SmokeSettings site.settings)
    (hclock : dateOf 2024 3 1 ≤ site.clockToday) :
    ∃ matrix, runE2eMatrix site combos validate = .ok matrix
      ∧ matrix.ok = true
      ∧ matrix.summary = Dict.ofPairs
        [("households", matrix.results.length),
         ("passed", matrix.results.length)] := by
  unfold runE2eMatrix
  dsimp only
  generalize (if combos.getD [] = [] then defaultE2eCombos
    else combos.getD []) = chosen at hgated ⊢
  obtain ⟨results, hrun, hall⟩ := mapM_forall₂ (P := fun _ result =>
    WorkflowSmokeResult.ok result = true) chosen fun combo hcombo => by
      obtain ⟨hcohort, hrung⟩ := hgated combo hcombo
      have hnav : 0 < defaultNav := by norm_num [defaultNav]
      obtain ⟨bundle, result, hemits, hsmoke, hok⟩ : ∃ bundle result,
          emitSyntheticHousehold site.synthetic combo.1 combo.2.2 combo.2.1
            none defaultNav validate none = .ok bundle
          ∧ runWorkflowSmoke site bundle = .ok result ∧ result.ok = true :=
        gated_smoke none validate hcohort hrung hnav hsettings hclock
      refine ⟨result, ?_, hok⟩
      show (emitSyntheticHousehold site.synthetic combo.1 combo.2.2 combo.2.1
        none defaultNav validate none >>= runWorkflowSmoke site) = _
      rw [hemits, ok_bind, hsmoke]
  have hok : ∀ result ∈ results, result.ok = true := by
    intro result hresult
    obtain ⟨_, -, hok⟩ := forall₂_mem_right hall hresult
    exact hok
  rw [hrun, ok_bind]
  refine ⟨_, rfl, List.all_eq_true.mpr hok, ?_⟩
  unfold E2eMatrixResult.summary
  rw [List.countP_eq_length.mpr hok]

-- ============================================================= the theorem

/-- The whole stack runs on every generated household.

Whatever its seed draws, a household of one of the four cohorts at a rung
its gate is claimed to pass is emitted, whether or not the gate is asked,
and every leg of the smoke is satisfied with it. -/
theorem generated_households_smoke (site : SmokeSite) (cohortId : String)
    (seed rung : Int) (householdId : Option String) (nav : ℚ)
    (validate : Bool) (hcohort : cohortId ∈ cohortIds)
    (hrung : GatedRung cohortId rung) (hnav : 0 < nav)
    (hsettings : SmokeSettings site.settings)
    (hclock : dateOf 2024 3 1 ≤ site.clockToday) :
    ∃ bundle result, emitSyntheticHousehold site.synthetic cohortId seed rung
        householdId nav validate none = .ok bundle
      ∧ runWorkflowSmoke site bundle = .ok result ∧ result.ok = true :=
  gated_smoke householdId validate hcohort hrung hnav hsettings hclock

/-- The default settings, the day after the smokes' own. -/
def plainSite : SmokeSite where
  synthetic := .least
  risk := rootsRuntime
  settings := {}
  clockToday := dateOf 2026 6 28

/-- The default settings are among those assumed. -/
theorem smokeSettings_default : SmokeSettings {} where
  lambdaNonneg := by norm_num
  lambdaBounded := by norm_num
  regime := by decide +kernel
  horizon := by norm_num

/-- The stressed household passes every check. -/
theorem generated_households_smoke_stressed :
    ∃ bundle result, emitSyntheticHousehold .least "concentrated_stress" 42 4
        none 2500000 false none = .ok bundle
      ∧ runWorkflowSmoke plainSite bundle = .ok result ∧ result.ok = true :=
  generated_households_smoke plainSite "concentrated_stress" 42 4 none 2500000
    false (by simp [cohortIds]) (.inr ⟨rfl, rfl⟩) (by norm_num)
    smokeSettings_default (by decide)

end Warehouse
