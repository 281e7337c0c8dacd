/-
The gate of the risk service on correlation matrices.

The variance of a portfolio is the quadratic form of the class correlation
matrix at the classes' exposures (`slotsVariance_eq`), so a semidefinite
matrix keeps it from being negative. The catalog's three matrices are
semidefinite: the base by its square form, the other two as mixtures of it
with the constant matrix and the identity. What a caller passes is tested
only under a label that is none of the catalog's.

# The test

The source asks numpy for the least eigenvalue and compares it with a small
negative tolerance. Here the least eigenvalue is a parameter of the runtime,
assumed right about the set that is passed in (`NumpyTests`): the test fails
exactly where the quadratic form, with the tolerance added, takes a negative
value. A variance computed past a passed test is therefore negative by at
most the tolerance times the sum of squared exposures.

# The label

A caller's set is validated unless its regime is a name of the catalog. A
set labelled `base` is therefore never looked at, whatever its table says.
-/
import Warehouse.Proofs.RiskReplay
import Warehouse.Proofs.RiskService
import Mathlib.Tactic.LinearCombination

namespace Warehouse

open Lib

variable {priors : RiskAssumptions}

-- ========================================================== quadratic forms

/-- A sum over the risk classes. -/
def classSum (f : RiskClass → ℚ) : ℚ := (RiskClass.all.map f).sum

/-- A sum over the classes, term by term. -/
theorem classSum_eq (f : RiskClass → ℚ) : classSum f = f .equity
    + (f .fixedIncome + (f .commodities + (f .fx + (f .alternatives
      + f .cash)))) := by
  simp [classSum, RiskClass.all]

/-- The quadratic form of a correlation table. -/
def quadraticForm (rho : RiskClass → RiskClass → ℚ) (x : RiskClass → ℚ) : ℚ :=
  classSum fun left => classSum fun right => x left * rho left right * x right

/-- The class correlation matrix is positive semidefinite, up to the
tolerance of the check. -/
def CorrelationPsd (priors : RiskAssumptions) : Prop :=
  ∀ x, -(psdTolerance * classSum fun c => x c ^ 2)
    ≤ quadraticForm priors.pairwiseCorrelation x

theorem squares_nonneg (x : RiskClass → ℚ) :
    0 ≤ classSum fun c => x c ^ 2 := by
  rw [classSum_eq]
  positivity

/-- A nonnegative form passes the tolerance. -/
theorem CorrelationPsd.of_nonneg
    (h : ∀ x, 0 ≤ quadraticForm priors.pairwiseCorrelation x) :
    CorrelationPsd priors := by
  intro x
  have hsquares := squares_nonneg x
  have htol : 0 ≤ psdTolerance := by norm_num [psdTolerance]
  linarith [h x, mul_nonneg htol hsquares]

-- ============================================================== the catalog

theorem pairwiseCorrelation_self (c : RiskClass) :
    priors.pairwiseCorrelation c c = 1 := if_pos rfl

theorem correlationMatrix_base : correlationMatrix baseAssumptions =
    [[1, -1 / 5, 7 / 20, -3 / 20, 11 / 20, 0],
     [-1 / 5, 1, 1 / 10, 1 / 5, 3 / 10, 1 / 20],
     [7 / 20, 1 / 10, 1, 3 / 20, 2 / 5, 0],
     [-3 / 20, 1 / 5, 3 / 20, 1, 1 / 4, 0],
     [11 / 20, 3 / 10, 2 / 5, 1 / 4, 1, 0],
     [0, 1 / 20, 0, 0, 0, 1]] := by decide +kernel

/-- The base form, written out. -/
theorem quadraticForm_base (x : RiskClass → ℚ) :
    quadraticForm baseAssumptions.pairwiseCorrelation x
      = (classSum fun c => x c ^ 2)
        + 2 * (-1 / 5 * (x .equity * x .fixedIncome)
          + 7 / 20 * (x .equity * x .commodities)
          - 3 / 20 * (x .equity * x .fx)
          + 11 / 20 * (x .equity * x .alternatives)
          + 1 / 10 * (x .fixedIncome * x .commodities)
          + 1 / 5 * (x .fixedIncome * x .fx)
          + 3 / 10 * (x .fixedIncome * x .alternatives)
          + 1 / 20 * (x .fixedIncome * x .cash)
          + 3 / 20 * (x .commodities * x .fx)
          + 2 / 5 * (x .commodities * x .alternatives)
          + 1 / 4 * (x .fx * x .alternatives)) := by
  have hentries := correlationMatrix_base
  simp only [correlationMatrix, RiskClass.all, List.map_cons, List.map_nil,
    List.cons.injEq, and_true] at hentries
  simp only [quadraticForm, classSum_eq, hentries]
  ring

/-- The base form is a sum of squares with positive weights. -/
theorem quadraticForm_base_nonneg (x : RiskClass → ℚ) :
    0 ≤ quadraticForm baseAssumptions.pairwiseCorrelation x := by
  have hsquares : quadraticForm baseAssumptions.pairwiseCorrelation x
      = (x .equity - 1 / 5 * x .fixedIncome + 7 / 20 * x .commodities
          - 3 / 20 * x .fx + 11 / 20 * x .alternatives) ^ 2
        + 24 / 25 * (x .fixedIncome + 17 / 96 * x .commodities
          + 17 / 96 * x .fx + 41 / 96 * x .alternatives
          + 5 / 96 * x .cash) ^ 2
        + 1627 / 1920 * (x .commodities + 331 / 1627 * x .fx
          + 259 / 1627 * x .alternatives - 17 / 1627 * x .cash) ^ 2
        + 29687 / 32540 * (x .fx + 7564 / 29687 * x .alternatives
          - 459 / 59374 * x .cash) ^ 2
        + 65563 / 148435 * (x .alternatives - 10775 / 262252 * x .cash) ^ 2
        + 5226699 / 5245040 * x .cash ^ 2 := by
    rw [quadraticForm_base]
    simp only [classSum_eq]
    ring
  rw [hsquares]
  positivity

/-- Between two classes a regime's correlation is the base's,
transformed. -/
theorem pairwiseCorrelation_regimeFrom (base : RiskAssumptions)
    (regime : String) (volMultiplier esMultiplier : ℚ) (crisis : Bool)
    {left right : RiskClass} (h : left ≠ right) :
    (regimeFrom base regime volMultiplier esMultiplier
        crisis).pairwiseCorrelation left right
      = transformCorrelation crisis (base.pairwiseCorrelation left right) := by
  unfold RiskAssumptions.pairwiseCorrelation
  rw [if_neg h, if_neg h]
  show ((base.classCorrelations.mapValues _).get? _).getD _ = _
  rw [Dict.get?_mapValues]
  cases base.classCorrelations.get? s(left, right) <;> rfl

/-- A matrix that is affine in another off the diagonal mixes it with the
constant matrix and the identity. -/
theorem quadraticForm_mix {rho rho' : RiskClass → RiskClass → ℚ} {a b : ℚ}
    (hself : ∀ c, rho c c = 1) (hself' : ∀ c, rho' c c = 1)
    (hoff : ∀ left right, left ≠ right →
      rho' left right = a * rho left right + b) (x : RiskClass → ℚ) :
    quadraticForm rho' x = a * quadraticForm rho x + b * (classSum x) ^ 2
      + (1 - a - b) * classSum fun c => x c ^ 2 := by
  simp only [quadraticForm, classSum_eq, hself, hself', hoff, ne_eq,
    reduceCtorEq, not_false_eq_true]
  ring

/-- The crisis matrix mixes the base with the constant matrix and the
identity. -/
theorem quadraticForm_highRisk (base : RiskAssumptions) (x : RiskClass → ℚ) :
    quadraticForm (buildHighRisk base).pairwiseCorrelation x
      = 1 / 5 * quadraticForm base.pairwiseCorrelation x
        + 17 / 25 * (classSum x) ^ 2 + 3 / 25 * classSum fun c => x c ^ 2 := by
  have hoff : ∀ left right, left ≠ right →
      (buildHighRisk base).pairwiseCorrelation left right
        = 1 / 5 * base.pairwiseCorrelation left right + 17 / 25 := by
    intro left right h
    unfold buildHighRisk
    rw [pairwiseCorrelation_regimeFrom _ _ _ _ _ h]
    unfold transformCorrelation crisisCorrelation crisisBlend
    rw [if_pos rfl]
    ring
  rw [quadraticForm_mix pairwiseCorrelation_self pairwiseCorrelation_self hoff]
  ring

/-- The benign matrix is halfway from the base to the identity. -/
theorem quadraticForm_lowRisk (base : RiskAssumptions) (x : RiskClass → ℚ) :
    quadraticForm (buildLowRisk base).pairwiseCorrelation x
      = 1 / 2 * quadraticForm base.pairwiseCorrelation x
        + 1 / 2 * classSum fun c => x c ^ 2 := by
  have hoff : ∀ left right, left ≠ right →
      (buildLowRisk base).pairwiseCorrelation left right
        = 1 / 2 * base.pairwiseCorrelation left right + 0 := by
    intro left right h
    unfold buildLowRisk
    rw [pairwiseCorrelation_regimeFrom _ _ _ _ _ h]
    unfold transformCorrelation benignCorrelationScale
    rw [if_neg (by decide)]
    ring
  rw [quadraticForm_mix pairwiseCorrelation_self pairwiseCorrelation_self hoff]
  ring

/-- Every set of the catalog passes the check it is registered with. -/
theorem assumptionsFor_psd {name : String}
    (h : assumptionsFor name = .ok priors) : CorrelationPsd priors := by
  apply CorrelationPsd.of_nonneg
  intro x
  have hbase := quadraticForm_base_nonneg x
  have hsquares := squares_nonneg x
  rcases (assumptionsFor_cases h).1 with rfl | rfl | rfl
  · exact hbase
  · rw [quadraticForm_highRisk]
    positivity
  · rw [quadraticForm_lowRisk]
    positivity

-- ============================================================= the variance

/-- A sum over items with a class, taken class by class. -/
theorem sum_by_class {α : Type*} (cls : α → RiskClass) (xs : List α)
    (f : RiskClass → ℚ) (g : α → ℚ) : (xs.map fun x => f (cls x) * g x).sum
      = classSum fun c => f c * ((xs.filter (cls · = c)).map g).sum := by
  induction xs with
  | nil => simp [classSum_eq]
  | cons x rest ih =>
      rw [List.map_cons, List.sum_cons, ih]
      simp only [classSum_eq, List.filter_cons]
      cases cls x <;> simp <;> ring

/-- What the states of a class contribute to the portfolio's moves. -/
def stateExposures (states : List SleeveRiskState) (c : RiskClass) : ℚ :=
  ((states.filter (·.slot.assetClass = c)).map (·.exposure)).sum

/-- How a class moves with the book reads the exposures by class. -/
theorem coMovement_eq (states : List SleeveRiskState) (c : RiskClass) :
    coMovement priors states c = classSum fun d =>
      priors.pairwiseCorrelation c d * stateExposures states d :=
  sum_by_class (fun t : SleeveRiskState => t.slot.assetClass) states
    (priors.pairwiseCorrelation c) SleeveRiskState.exposure

/-- The variance is the correlation matrix's form at the exposures. -/
theorem statesVariance_eq (states : List SleeveRiskState) :
    statesVariance priors states = quadraticForm priors.pairwiseCorrelation
      (stateExposures states) := by
  have hclasses := sum_by_class
    (fun s : SleeveRiskState => s.slot.assetClass) states
    (coMovement priors states) SleeveRiskState.exposure
  have hmarginal : (states.map (stateMarginal priors states)).sum
      = (states.map fun s =>
        coMovement priors states s.slot.assetClass * s.exposure).sum := by
    congr 1
    apply List.map_congr_left
    intro s _
    exact mul_comm ..
  unfold statesVariance
  rw [hmarginal, hclasses]
  show (classSum fun c => _ * stateExposures states c) = _
  unfold quadraticForm
  simp only [coMovement_eq, classSum_eq]
  ring

/-- What a class contributes to the portfolio's moves. -/
def classExposure (priors : RiskAssumptions) (slots : List AllocationSlot)
    (c : RiskClass) : ℚ :=
  ((slots.filter (·.assetClass = c)).map fun s =>
    s.weight * sleeveAnnualVolatility s priors).sum

/-- The states' exposures are the slots'. -/
theorem stateExposures_buildSleeveStates (slots : List AllocationSlot) :
    stateExposures (buildSleeveStates slots priors)
      = classExposure priors slots := by
  funext c
  unfold stateExposures buildSleeveStates
  rw [List.filter_map, List.map_map]
  rfl

/-- A book's variance is the quadratic form of its exposures. -/
theorem slotsVariance_eq (slots : List AllocationSlot) :
    slotsVariance priors slots
      = quadraticForm priors.pairwiseCorrelation
        (classExposure priors slots) := by
  rw [← statesVariance_buildSleeveStates, statesVariance_eq,
    stateExposures_buildSleeveStates]

/-- Under a semidefinite matrix no variance is below the tolerance. -/
theorem CorrelationPsd.variance_ge (h : CorrelationPsd priors)
    (slots : List AllocationSlot) :
    -(psdTolerance * classSum fun c => classExposure priors slots c ^ 2)
      ≤ (slotsCovariance priors slots).portfolioVariance := by
  rw [portfolioVariance_slots, slotsVariance_eq]
  exact h _

-- ================================================================= the gate

/-- `_resolve_assumptions` done, the rest of `evaluate_risk`. -/
def evaluateUnder (rt : RiskRuntime) (request : RiskRequest)
    (manifest : AssetPortfolio) (priors : RiskAssumptions) :
    Except Exc RiskResult := do
  let report ← evaluateReport rt manifest request priors
  let scenarios ← (scenarioRegimes request.runScenarios).mapM
    (scenarioReport rt manifest request)
  let deltas ← match request.overlay with
    | none => Except.ok none
    | some overlay =>
        (evaluateDeltas rt report request overlay manifest priors).map some
  return {
    report := report
    scenarios := Dict.ofPairs scenarios
    deltas := deltas }

/-- The overlay of the request is refused: its weights do not renormalise,
or it names a stress pack the set does not have. -/
def OverlayRefused (request : RiskRequest) (manifest : AssetPortfolio)
    (priors : RiskAssumptions) : Prop :=
  ∃ overlay ∈ request.overlay,
    ¬(Normalizable (overlayState manifest overlay).weights
      ∧ StressKnown priors overlay.stressPack)

/-- Without a tail to look up there is a `KeyError`, and no report. -/
theorem evaluateReport_unquoted (rt : RiskRuntime) (manifest : AssetPortfolio)
    (request : RiskRequest) (h : ¬priors.Quoted)
    (stressFilter : Option String) :
    ∃ key, evaluateReport rt manifest request priors stressFilter
      = .error (.keyError key) := by
  unfold evaluateReport evaluatePortfolioRisk parametricVar parametricEs
    parametricTail
  dsimp only [Option.getD_some]
  cases hvar : priors.zScores.get? (alphaKey priors.varAlpha) with
  | none => exact ⟨_, rfl⟩
  | some z =>
      cases hes : priors.esMultipliers.get? (alphaKey priors.esAlpha) with
      | none => exact ⟨_, rfl⟩
      | some m =>
          have hquoted : priors.Quoted :=
            ⟨by rw [hvar]; rfl, by rw [hes]; rfl⟩
          exact absurd hquoted h

/-- Under quoted priors only the stress filter can fail, by a
`ValueError`. -/
theorem evaluateReport_unknown (rt : RiskRuntime) (manifest : AssetPortfolio)
    (request : RiskRequest) (hquoted : priors.Quoted)
    {stressFilter : Option String} (h : ¬StressKnown priors stressFilter) :
    ∃ msg, evaluateReport rt manifest request priors stressFilter
      = .error (.valueError msg) := by
  obtain ⟨z, hz⟩ := Option.isSome_iff_exists.mp hquoted.var
  obtain ⟨m, hm⟩ := Option.isSome_iff_exists.mp hquoted.es
  unfold StressKnown at h
  cases stressFilter with
  | none => exact absurd (fun _ hname => nomatch hname) h
  | some name =>
      have hnone : priors.stressScenarios.get? name = none := by
        rw [Dict.get?_eq_none_iff]
        intro hmem
        exact h fun _ hname => (Option.some.inj hname) ▸ hmem
      refine ⟨"unknown stress_pack: " ++ name, ?_⟩
      unfold evaluateReport evaluatePortfolioRisk parametricVar parametricEs
        parametricTail evaluateStress stressPacks
      dsimp only [Option.getD_some]
      rw [hz, hm, hnone]
      rfl

/-- Past the gate a run raises a `ValueError` exactly when the overlay is
refused, the tails being there. -/
theorem evaluateUnder_valueError_iff (rt : RiskRuntime) (request : RiskRequest)
    (manifest : AssetPortfolio) :
    (∃ e, evaluateUnder rt request manifest priors = .error e
        ∧ e.isValueError = true)
      ↔ priors.Quoted ∧ OverlayRefused request manifest priors := by
  unfold evaluateUnder OverlayRefused
  by_cases hquoted : priors.Quoted
  · obtain ⟨report, hreport⟩ := (evaluateReport_ok_iff rt manifest request
      hquoted none).mpr fun _ h => nomatch h
    obtain ⟨scenarios, hscenarios⟩ :=
      scenarioReports_ok rt manifest request request.runScenarios
    simp only [bind, Except.bind, hreport, hscenarios, hquoted, true_and]
    cases request.overlay with
    | none =>
        constructor
        · rintro ⟨e, he, -⟩
          cases he
        · rintro ⟨overlay, hoverlay, -⟩
          cases hoverlay
    | some overlay =>
        simp only [Option.mem_some_iff, exists_eq_left']
        unfold evaluateDeltas
        rcases applyOverlay_cases rt.decimal manifest overlay with
          ⟨hweights, happly⟩ | ⟨hweights, msg, happly⟩
        · rw [happly]
          by_cases hknown : StressKnown priors overlay.stressPack
          · obtain ⟨proposed, hproposed⟩ := (evaluateReport_ok_iff rt
              (renormalised manifest hweights) request hquoted
              overlay.stressPack).mpr hknown
            simp only [bind, Except.bind, hproposed]
            constructor
            · rintro ⟨e, he, -⟩
              cases he
            · exact fun h => absurd ⟨hweights, hknown⟩ h
          · obtain ⟨msg, hmsg⟩ := evaluateReport_unknown rt
              (renormalised manifest hweights) request hquoted hknown
            simp only [bind, Except.bind, hmsg]
            exact ⟨fun _ h => hknown h.2, fun _ => ⟨_, rfl, rfl⟩⟩
        · rw [happly]
          exact ⟨fun _ h => hweights h.1, fun _ => ⟨_, rfl, rfl⟩⟩
  · obtain ⟨key, hkey⟩ := evaluateReport_unquoted rt manifest request hquoted
      none
    rw [hkey]
    constructor
    · rintro ⟨e, he, hvalue⟩
      cases he
      cases hvalue
    · exact fun h => absurd h.1 hquoted

/-- numpy's test of a set's matrix is right. -/
def NumpyTests (rt : RiskRuntime) (priors : RiskAssumptions) : Prop :=
  rt.minEigenvalue (correlationMatrix priors) < -psdTolerance
    ↔ ¬CorrelationPsd priors

/-- The labels of the catalog. -/
def catalogLabels : List String := ["base", "high_risk", "low_risk"]

/-- The sets a run computes with: what it was passed, or the base, and the
regimes it was asked for. -/
def computedWith (request : RiskRequest)
    (assumptions : Option RiskAssumptions) : List RiskAssumptions :=
  assumptions.getD baseAssumptions
    :: (scenarioRegimes request.runScenarios).filterMap catalog.get?

/-- A run raises a `ValueError`, or every correlation matrix it computes with
is positive semidefinite and no variance is materially negative. -/
def PsdGated (rt : RiskRuntime) (request : RiskRequest)
    (manifest : AssetPortfolio) (assumptions : Option RiskAssumptions) :
    Prop :=
  (∃ e, evaluateRisk rt request manifest assumptions = .error e
      ∧ e.isValueError = true)
    ∨ ∀ priors ∈ computedWith request assumptions, CorrelationPsd priors
      ∧ ∀ slots : List AllocationSlot,
        -(psdTolerance * classSum fun c => classExposure priors slots c ^ 2)
          ≤ (portfolioCovariance (buildSleeveStates slots priors)
            priors).portfolioVariance

/-- What a request computes with is positive where the priors passed in are. -/
theorem computedWith_psd {request : RiskRequest}
    {assumptions : Option RiskAssumptions}
    (h : ∀ priors ∈ assumptions, CorrelationPsd priors) :
    ∀ priors ∈ computedWith request assumptions, CorrelationPsd priors := by
  intro priors hpriors
  rcases List.mem_cons.mp hpriors with rfl | hregime
  · cases assumptions with
    | none =>
        have hbase : assumptionsFor "base" = .ok baseAssumptions := rfl
        exact assumptionsFor_psd hbase
    | some priors => exact h priors rfl
  · obtain ⟨regime, -, hget⟩ := List.mem_filterMap.mp hregime
    have hfor : assumptionsFor regime = .ok priors := by
      unfold assumptionsFor
      rw [hget]
    exact assumptionsFor_psd hfor

/-- A set under a label of the catalog goes past the gate untested. -/
theorem evaluateRisk_labelled (rt : RiskRuntime) (request : RiskRequest)
    (manifest : AssetPortfolio) (hlabel : priors.regime ∈ catalogLabels) :
    evaluateRisk rt request manifest (some priors)
      = evaluateUnder rt request manifest priors := by
  have hnamed : ¬priors.regime ∉ ["base", "high_risk", "low_risk"] :=
    not_not_intro hlabel
  unfold evaluateRisk resolveAssumptions
  dsimp only
  rw [if_neg hnamed]
  rfl

/-- Under any other label it is tested first. -/
theorem evaluateRisk_tested (rt : RiskRuntime) (request : RiskRequest)
    (manifest : AssetPortfolio) (hlabel : priors.regime ∉ catalogLabels)
    (hfails : rt.minEigenvalue (correlationMatrix priors) < -psdTolerance) :
    ∃ e, evaluateRisk rt request manifest (some priors) = .error e
      ∧ e.isValueError = true := by
  have hother : priors.regime ∉ ["base", "high_risk", "low_risk"] := hlabel
  unfold evaluateRisk resolveAssumptions validateCorrelationPsd
  dsimp only
  rw [if_pos hother, if_pos hfails]
  exact ⟨_, rfl, rfl⟩

/-- The gate holds exactly when a set that is passed under a label of the
catalog is semidefinite, or the run is refused for its overlay. -/
theorem psdGated_iff (rt : RiskRuntime) (request : RiskRequest)
    (manifest : AssetPortfolio) (assumptions : Option RiskAssumptions)
    (hnumpy : ∀ priors ∈ assumptions, NumpyTests rt priors) :
    PsdGated rt request manifest assumptions
      ↔ ∀ priors ∈ assumptions, priors.regime ∈ catalogLabels →
        CorrelationPsd priors
          ∨ priors.Quoted ∧ OverlayRefused request manifest priors := by
  unfold PsdGated
  constructor
  · intro hgated priors hpriors hlabel
    cases hpriors
    rcases hgated with hraises | hpsd
    · rw [evaluateRisk_labelled rt request manifest hlabel] at hraises
      exact .inr ((evaluateUnder_valueError_iff rt request manifest).mp hraises)
    · exact .inl (hpsd priors (List.mem_cons_self ..)).1
  · intro hcondition
    by_cases hpsd : ∀ priors ∈ assumptions, CorrelationPsd priors
    · right
      intro priors hpriors
      have h := computedWith_psd hpsd priors hpriors
      exact ⟨h, h.variance_ge⟩
    · left
      obtain ⟨priors, hpriors, hnot⟩ : ∃ priors ∈ assumptions,
          ¬CorrelationPsd priors := by
        simpa only [not_forall, exists_prop] using hpsd
      cases hpriors
      by_cases hlabel : priors.regime ∈ catalogLabels
      · have hrefused := (hcondition priors rfl hlabel).resolve_left hnot
        rw [evaluateRisk_labelled rt request manifest hlabel]
        exact (evaluateUnder_valueError_iff rt request manifest).mpr hrefused
      · exact evaluateRisk_tested rt request manifest hlabel
          ((hnumpy priors rfl).mpr hnot)

-- ============================================================ concrete sets

/-- Every two classes opposed, under a label. -/
def opposed (regime : String) : RiskAssumptions :=
  { baseAssumptions with
    regime := regime
    defaultClassCorrelation := -1
    classCorrelations := Dict.empty }

/-- numpy's least eigenvalue of the opposed matrix. -/
def opposedRuntime : RiskRuntime where
  decimal := squareRoots
  digest _ := "digest"
  minEigenvalue _ := -4

/-- A third of a book in one class. -/
def thirdSlot (c : RiskClass) : AllocationSlot where
  assetClass := c
  weight := 1 / 3
  weightFraction := by norm_num [IsFraction]

/-- A third in each of three classes. -/
def thirds : AssetPortfolio where
  portfolioId := some "thirds"
  allocations := [thirdSlot .equity, thirdSlot .commodities, thirdSlot .fx]
  nonempty := by simp
  budget := by norm_num [WeightsSumToOne, thirdSlot]

/-- The opposed table has a negative direction. -/
theorem not_correlationPsd_opposed (regime : String) :
    ¬CorrelationPsd (opposed regime) := by
  intro h
  have hones := h fun _ => 1
  have hentries : ∀ left right, left ≠ right →
      (opposed regime).pairwiseCorrelation left right = -1 := by
    intro left right hne
    exact if_neg hne
  simp only [quadraticForm, classSum_eq, pairwiseCorrelation_self, hentries,
    ne_eq, reduceCtorEq, not_false_eq_true] at hones
  norm_num [psdTolerance] at hones

/-- And a runtime whose test refuses it. -/
theorem numpyTests_opposed (regime : String) :
    NumpyTests opposedRuntime (opposed regime) := by
  have hfails : opposedRuntime.minEigenvalue
      (correlationMatrix (opposed regime)) < -psdTolerance := by
    show (-4 : ℚ) < -psdTolerance
    norm_num [psdTolerance]
  exact iff_of_true hfails (not_correlationPsd_opposed regime)

/-- Under a label of its own the set is refused. -/
theorem psdGated_iff_sweep :
    PsdGated opposedRuntime { horizon := fourYears } thirds
      (some (opposed "research_sweep")) := by
  apply (psdGated_iff opposedRuntime { horizon := fourYears } thirds
    (some (opposed "research_sweep")) ?_).mpr
  · rintro priors ⟨⟩ hlabel
    exact absurd hlabel (by decide)
  · rintro priors ⟨⟩
    exact numpyTests_opposed "research_sweep"

/-- Under the label a set has unless it is given one, the same matrix is not
tested, and the report is of a negative variance. -/
theorem labelled_set_untested :
    NumpyTests opposedRuntime (opposed "base")
    ∧ (∃ result, evaluateRisk opposedRuntime { horizon := fourYears } thirds
        (some (opposed "base")) = .ok result)
    ∧ (portfolioCovariance
        (buildSleeveStates thirds.allocations (opposed "base"))
        (opposed "base")).portfolioVariance = -31 / 5625
    ∧ ¬PsdGated opposedRuntime { horizon := fourYears } thirds
        (some (opposed "base")) := by
  have hlabel : (opposed "base").regime ∈ catalogLabels := by decide
  have hquoted : (opposed "base").Quoted :=
    ⟨by decide +kernel, by decide +kernel⟩
  refine ⟨numpyTests_opposed "base", ?_, by decide +kernel, ?_⟩
  · obtain ⟨report, hreport⟩ := (evaluateReport_ok_iff opposedRuntime thirds
      { horizon := fourYears } hquoted none).mpr fun _ h => nomatch h
    rw [evaluateRisk_labelled opposedRuntime _ thirds hlabel]
    unfold evaluateUnder
    rw [hreport]
    exact ⟨_, rfl⟩
  · rintro (hraises | hpsd)
    · rw [evaluateRisk_labelled opposedRuntime _ thirds hlabel,
        evaluateUnder_valueError_iff] at hraises
      obtain ⟨-, overlay, hoverlay, -⟩ := hraises
      cases hoverlay
    · exact not_correlationPsd_opposed "base"
        (hpsd _ (List.mem_cons_self ..)).1

end Warehouse
