/-
The regimes of the catalog beside the base.

The transforms of a correlation are mixtures of the matrix with the
constant one and the identity, over any classes and any table, so they
keep it semidefinite (`regime_transforms_psd`).

At exposures that are not negative the three variances are ordered. For
the crisis this is entry by entry, as no correlation is above one; for the
benign regime it is not, and rests on the base form leaving a good part of
the sum of squares on the positive orthant (`squares_le_base`). The order
passes through the root and the tails' multipliers (`regimes_ordered`).

# What is assumed

Of the root only that it keeps the order and is never negative
(`OrderlyRoot`), which any rounding of the exact root does. Of numpy's least
eigenvalue only that the check at registration fails for a reason
(`EigenvalueTests`): below the tolerance it reports, the form is negative
somewhere. Manifests, horizons and requests are arbitrary, and the
volatilities and correlations are those of the catalog.
-/
import Warehouse.Proofs.RiskRun
import Warehouse.Proofs.Subadditivity

namespace Warehouse

open Lib

-- ================================================================ transforms

section Tables

variable {κ : Type*} [DecidableEq κ]

/-- A table with its default, over any classes. -/
def tableCorrelation (correlations : Dict (Sym2 κ) ℚ) (default : ℚ)
    (left right : κ) : ℚ :=
  if left = right then 1 else (correlations.get? s(left, right)).getD default

/-- `_transform_correlations`. -/
def transformCorrelations (correlations : Dict (Sym2 κ) ℚ) (default : ℚ)
    (crisis : Bool) : Dict (Sym2 κ) ℚ × ℚ :=
  (correlations.mapValues (transformCorrelation crisis),
   transformCorrelation crisis default)

variable (correlations : Dict (Sym2 κ) ℚ) (default : ℚ)

/-- A table keyed by pairs is symmetric. -/
theorem tableCorrelation_comm (left right : κ) :
    tableCorrelation correlations default left right
      = tableCorrelation correlations default right left := by
  unfold tableCorrelation
  rw [Sym2.eq_swap]
  simp only [eq_comm]

theorem tableCorrelation_self (c : κ) :
    tableCorrelation correlations default c c = 1 := if_pos rfl

/-- The weights of the mixture a transform is: of the matrix, and of the
constant one. The identity has the rest. -/
def mixWeights (crisis : Bool) : ℚ × ℚ :=
  if crisis then (1 - crisisBlend, crisisCorrelation * crisisBlend)
  else (benignCorrelationScale, 0)

/-- The weights of both transforms are nonnegative and leave room. -/
theorem mixWeights_nonneg (crisis : Bool) : 0 ≤ (mixWeights crisis).1
    ∧ 0 ≤ (mixWeights crisis).2
    ∧ 0 ≤ 1 - (mixWeights crisis).1 - (mixWeights crisis).2 := by
  cases crisis <;> norm_num [mixWeights, crisisBlend, crisisCorrelation,
    benignCorrelationScale]

/-- Both transforms mix the correlation with a constant. -/
theorem transformCorrelation_eq (crisis : Bool) (rho : ℚ) :
    transformCorrelation crisis rho
      = (mixWeights crisis).1 * rho + (mixWeights crisis).2 := by
  cases crisis
  · show rho * benignCorrelationScale = benignCorrelationScale * rho + 0
    ring
  · show rho + (crisisCorrelation - rho) * crisisBlend
      = (1 - crisisBlend) * rho + crisisCorrelation * crisisBlend
    ring

/-- Listed, defaulted and diagonal entries alike. -/
theorem tableCorrelation_transform (crisis : Bool) (left right : κ) :
    tableCorrelation (transformCorrelations correlations default crisis).1
        (transformCorrelations correlations default crisis).2 left right
      = (mixWeights crisis).1 * tableCorrelation correlations default left right
        + (mixWeights crisis).2
        + if left = right
          then 1 - (mixWeights crisis).1 - (mixWeights crisis).2 else 0 := by
  unfold tableCorrelation transformCorrelations
  by_cases heq : left = right
  · simp only [if_pos heq]
    ring
  · simp only [if_neg heq, Dict.get?_mapValues]
    rw [add_zero, ← transformCorrelation_eq]
    cases correlations.get? s(left, right) <;> rfl

/-- So they keep a positive table positive: a mixture with the identity and the
constant one. -/
theorem PairPsd.transform {classes : Finset κ}
    (h : PairPsd classes (tableCorrelation correlations default))
    (crisis : Bool) :
    PairPsd classes (tableCorrelation
      (transformCorrelations correlations default crisis).1
      (transformCorrelations correlations default crisis).2) := by
  obtain ⟨ha, hb, hc⟩ := mixWeights_nonneg crisis
  have hmix : tableCorrelation
        (transformCorrelations correlations default crisis).1
        (transformCorrelations correlations default crisis).2
      = fun left right => (mixWeights crisis).1
          * tableCorrelation correlations default left right
        + (mixWeights crisis).2
        + if left = right
          then 1 - (mixWeights crisis).1 - (mixWeights crisis).2 else 0 := by
    funext left right
    exact tableCorrelation_transform correlations default crisis left right
  rw [hmix]
  exact h.mix ha hb hc

-- ============================================================ the registration

/-- `_correlation_matrix`, over any classes. -/
def tableMatrix (classes : List κ) (correlations : Dict (Sym2 κ) ℚ)
    (default : ℚ) : List (List ℚ) :=
  classes.map fun left => classes.map fun right =>
    tableCorrelation correlations default left right

/-- `validate_correlation_psd`, of a matrix. -/
def validateMatrix (minEigenvalue : List (List ℚ) → ℚ) (regime : String)
    (matrix : List (List ℚ)) : Except Exc Unit :=
  let minEval := minEigenvalue matrix
  if minEval < -psdTolerance then
    .error (.valueError (regime
      ++ " correlation matrix not PSD: min eigenvalue "
      ++ formatFixed 6 minEval))
  else .ok ()

/-- The least eigenvalue of a table's matrix is below the tolerance only if
the form is, somewhere. -/
def EigenvalueTests (minEigenvalue : List (List ℚ) → ℚ) (classes : List κ)
    (correlations : Dict (Sym2 κ) ℚ) (default : ℚ) : Prop :=
  minEigenvalue (tableMatrix classes correlations default) < -psdTolerance →
    ∃ x, pairForm classes.toFinset (tableCorrelation correlations default) x x
      < -(psdTolerance * ∑ c ∈ classes.toFinset, x c ^ 2)

/-- A positive table passes any gate that tests eigenvalues. -/
theorem validateMatrix_ok {minEigenvalue : List (List ℚ) → ℚ}
    {classes : List κ} {correlations : Dict (Sym2 κ) ℚ} {default : ℚ}
    (htests : EigenvalueTests minEigenvalue classes correlations default)
    (h : PairPsd classes.toFinset (tableCorrelation correlations default))
    (regime : String) :
    validateMatrix minEigenvalue regime
      (tableMatrix classes correlations default) = .ok () := by
  unfold validateMatrix
  apply if_neg
  intro hlow
  obtain ⟨x, hx⟩ := htests hlow
  have hsquares : 0 ≤ psdTolerance * ∑ c ∈ classes.toFinset, x c ^ 2 := by
    have htol : 0 ≤ psdTolerance := by norm_num [psdTolerance]
    exact mul_nonneg htol (Finset.sum_nonneg fun c _ => sq_nonneg (x c))
  linarith [h x]

/-- The transforms keep a semidefinite table semidefinite, with every entry a
correlation, and the check at registration lets it pass. -/
theorem regime_transforms_psd (classes : List κ)
    (correlations : Dict (Sym2 κ) ℚ) (default : ℚ)
    (hpsd : PairPsd classes.toFinset (tableCorrelation correlations default))
    (minEigenvalue : List (List ℚ) → ℚ)
    (htests : ∀ crisis, EigenvalueTests minEigenvalue classes
      (transformCorrelations correlations default crisis).1
      (transformCorrelations correlations default crisis).2)
    (crisis : Bool) (regime : String) :
    let table := transformCorrelations correlations default crisis
    PairPsd classes.toFinset (tableCorrelation table.1 table.2)
    ∧ (∀ left ∈ classes, ∀ right ∈ classes,
        |tableCorrelation table.1 table.2 left right| ≤ 1)
    ∧ validateMatrix minEigenvalue regime
        (tableMatrix classes table.1 table.2) = .ok () := by
  have htransformed := PairPsd.transform correlations default hpsd crisis
  refine ⟨htransformed, ?_, validateMatrix_ok (htests crisis) htransformed _⟩
  intro left hleft right hright
  exact htransformed.abs_le_one (tableCorrelation_comm _ _)
    (tableCorrelation_self _ _) (List.mem_toFinset.mpr hleft)
    (List.mem_toFinset.mpr hright)

end Tables

/-- The least eigenvalue of a two by two correlation matrix. -/
def pairEigenvalue : List (List ℚ) → ℚ
  | [[_, rho], _] => 1 - |rho|
  | _ => 0

/-- Two classes at a correlation of a half, in a crisis. -/
theorem regime_transforms_psd_pair :
    validateMatrix pairEigenvalue "high_risk" (tableMatrix [false, true]
      (transformCorrelations Dict.empty (1 / 2) true).1
      (transformCorrelations (Dict.empty : Dict (Sym2 Bool) ℚ) (1 / 2) true).2)
      = .ok () := by
  have hpsd : PairPsd [false, true].toFinset
      (tableCorrelation (Dict.empty : Dict (Sym2 Bool) ℚ) (1 / 2)) := by
    intro x
    have hform : pairForm [false, true].toFinset
        (tableCorrelation (Dict.empty : Dict (Sym2 Bool) ℚ) (1 / 2)) x x
        = (x false + x true / 2) ^ 2 + 3 / 4 * x true ^ 2 := by
      simp [pairForm, tableCorrelation]
      ring
    rw [hform]
    positivity
  have htests : ∀ crisis, EigenvalueTests pairEigenvalue [false, true]
      (transformCorrelations (Dict.empty : Dict (Sym2 Bool) ℚ) (1 / 2)
        crisis).1
      (transformCorrelations (Dict.empty : Dict (Sym2 Bool) ℚ) (1 / 2)
        crisis).2 := by
    intro crisis hlow
    exact absurd hlow (by cases crisis <;> decide +kernel)
  exact (regime_transforms_psd [false, true] Dict.empty (1 / 2) hpsd
    pairEigenvalue htests true "high_risk").2.2

/-- The assumption sets read their tables so. -/
theorem pairwiseCorrelation_eq_table (priors : RiskAssumptions) :
    priors.pairwiseCorrelation = tableCorrelation priors.classCorrelations
      priors.defaultClassCorrelation := rfl

/-- The gate is the general one at the risk classes. -/
theorem validateCorrelationPsd_eq (rt : RiskRuntime)
    (priors : RiskAssumptions) :
    validateCorrelationPsd rt priors = validateMatrix rt.minEigenvalue
      priors.regime (tableMatrix RiskClass.all priors.classCorrelations
        priors.defaultClassCorrelation) := rfl

/-- On semidefinite base priors both built regimes register. -/
theorem built_regimes_register (rt : RiskRuntime) (base : RiskAssumptions)
    (hpsd : PairPsd RiskClass.all.toFinset base.pairwiseCorrelation)
    (htests : ∀ crisis, EigenvalueTests rt.minEigenvalue RiskClass.all
      (transformCorrelations base.classCorrelations
        base.defaultClassCorrelation crisis).1
      (transformCorrelations base.classCorrelations
        base.defaultClassCorrelation crisis).2) :
    validateCorrelationPsd rt (buildHighRisk base) = .ok ()
    ∧ validateCorrelationPsd rt (buildLowRisk base) = .ok () := by
  rw [pairwiseCorrelation_eq_table] at hpsd
  rw [validateCorrelationPsd_eq, validateCorrelationPsd_eq]
  constructor
  · exact validateMatrix_ok (htests true) (PairPsd.transform _ _ hpsd true) _
  · exact validateMatrix_ok (htests false) (PairPsd.transform _ _ hpsd false) _

-- ================================================================= variances

section Orthant

variable {x : RiskClass → ℚ}

/-- No correlation of the base is above one. -/
theorem base_le_square (hx : ∀ c, 0 ≤ x c) :
    quadraticForm baseAssumptions.pairwiseCorrelation x ≤ classSum x ^ 2 := by
  have he := hx .equity
  have hf := hx .fixedIncome
  have hc := hx .commodities
  have hfx := hx .fx
  have ha := hx .alternatives
  have hcash := hx .cash
  have hgap : classSum x ^ 2
      - quadraticForm baseAssumptions.pairwiseCorrelation x
      = 12 / 5 * (x .equity * x .fixedIncome)
        + 13 / 10 * (x .equity * x .commodities)
        + 23 / 10 * (x .equity * x .fx)
        + 9 / 10 * (x .equity * x .alternatives)
        + 2 * (x .equity * x .cash)
        + 9 / 5 * (x .fixedIncome * x .commodities)
        + 8 / 5 * (x .fixedIncome * x .fx)
        + 7 / 5 * (x .fixedIncome * x .alternatives)
        + 19 / 10 * (x .fixedIncome * x .cash)
        + 17 / 10 * (x .commodities * x .fx)
        + 6 / 5 * (x .commodities * x .alternatives)
        + 2 * (x .commodities * x .cash)
        + 3 / 2 * (x .fx * x .alternatives)
        + 2 * (x .fx * x .cash)
        + 2 * (x .alternatives * x .cash) := by
    rw [quadraticForm_base]
    simp only [classSum_eq]
    ring
  have hpos : 0 ≤ classSum x ^ 2
      - quadraticForm baseAssumptions.pairwiseCorrelation x := by
    rw [hgap]
    positivity
  linarith

/-- What the two negative correlations take from the squares, at most. -/
theorem squares_le_base (hx : ∀ c, 0 ≤ x c) :
    13 / 20 * (classSum fun c => x c ^ 2)
      ≤ quadraticForm baseAssumptions.pairwiseCorrelation x := by
  have he := hx .equity
  have hf := hx .fixedIncome
  have hc := hx .commodities
  have hfx := hx .fx
  have ha := hx .alternatives
  have hcash := hx .cash
  have hgap : quadraticForm baseAssumptions.pairwiseCorrelation x
      - 13 / 20 * (classSum fun c => x c ^ 2)
      = 1 / 5 * (x .equity - x .fixedIncome) ^ 2
        + 3 / 20 * (x .equity - x .fx) ^ 2
        + 3 / 20 * x .fixedIncome ^ 2 + 7 / 20 * x .commodities ^ 2
        + 1 / 5 * x .fx ^ 2 + 7 / 20 * x .alternatives ^ 2
        + 7 / 20 * x .cash ^ 2
        + 7 / 10 * (x .equity * x .commodities)
        + 11 / 10 * (x .equity * x .alternatives)
        + 1 / 5 * (x .fixedIncome * x .commodities)
        + 2 / 5 * (x .fixedIncome * x .fx)
        + 3 / 5 * (x .fixedIncome * x .alternatives)
        + 1 / 10 * (x .fixedIncome * x .cash)
        + 3 / 10 * (x .commodities * x .fx)
        + 4 / 5 * (x .commodities * x .alternatives)
        + 1 / 2 * (x .fx * x .alternatives) := by
    rw [quadraticForm_base]
    simp only [classSum_eq]
    ring
  have hpos : 0 ≤ quadraticForm baseAssumptions.pairwiseCorrelation x
      - 13 / 20 * (classSum fun c => x c ^ 2) := by
    rw [hgap]
    positivity
  linarith

end Orthant

/-- The form is homogeneous of degree two. -/
theorem quadraticForm_scale (rho : RiskClass → RiskClass → ℚ) (k : ℚ)
    (x : RiskClass → ℚ) : quadraticForm rho (fun c => k * x c)
      = k ^ 2 * quadraticForm rho x := by
  simp only [quadraticForm, classSum_eq]
  ring

/-- A regime scales every exposure, Fermi-scaled or not. -/
theorem classExposure_regimeFrom (regime : String)
    (volMultiplier esMultiplier : ℚ) (crisis : Bool)
    (slots : List AllocationSlot) :
    classExposure (regimeFrom baseAssumptions regime volMultiplier esMultiplier
        crisis) slots
      = fun c => volMultiplier * classExposure baseAssumptions slots c := by
  funext c
  unfold classExposure
  rw [← List.sum_map_mul_left]
  congr 1
  apply List.map_congr_left
  intro s _
  unfold sleeveAnnualVolatility
  dsimp only [regimeFrom]
  split
  · ring
  · ring

/-- The base priors give no class a negative exposure. -/
theorem classExposure_nonneg (slots : List AllocationSlot) (c : RiskClass) :
    0 ≤ classExposure baseAssumptions slots c := by
  have hvol : ∀ c, 0 ≤ classAnnualVol c := by
    intro c
    cases c <;> norm_num [classAnnualVol]
  have hfermi : 0 ≤ baseAssumptions.fermiVolMultiplier := by
    norm_num [baseAssumptions]
  apply List.sum_nonneg
  intro e he
  obtain ⟨s, -, rfl⟩ := List.mem_map.mp he
  apply mul_nonneg s.weightFraction.1
  unfold sleeveAnnualVolatility
  split
  · exact mul_nonneg (hvol s.assetClass) hfermi
  · exact hvol s.assetClass

/-- The low regime's variance is at most the base's. -/
theorem lowRisk_variance_le (slots : List AllocationSlot) :
    slotsVariance (buildLowRisk baseAssumptions) slots
      ≤ slotsVariance baseAssumptions slots := by
  have hx := classExposure_nonneg slots
  have hsquares := squares_le_base hx
  have hbase := quadraticForm_base_nonneg (classExposure baseAssumptions slots)
  have hexposure : classExposure (buildLowRisk baseAssumptions) slots
      = fun c => lowVolMultiplier * classExposure baseAssumptions slots c :=
    classExposure_regimeFrom ..
  rw [slotsVariance_eq, slotsVariance_eq, hexposure, quadraticForm_scale,
    quadraticForm_lowRisk]
  norm_num [lowVolMultiplier]
  linarith

/-- The base's is at most the high regime's. -/
theorem base_variance_le (slots : List AllocationSlot) :
    slotsVariance baseAssumptions slots
      ≤ slotsVariance (buildHighRisk baseAssumptions) slots := by
  have hx := classExposure_nonneg slots
  have hsquare := base_le_square hx
  have hsquares := squares_nonneg (classExposure baseAssumptions slots)
  have hbase := quadraticForm_base_nonneg (classExposure baseAssumptions slots)
  have hexposure : classExposure (buildHighRisk baseAssumptions) slots
      = fun c => highVolMultiplier * classExposure baseAssumptions slots c :=
    classExposure_regimeFrom ..
  rw [slotsVariance_eq, slotsVariance_eq, hexposure, quadraticForm_scale,
    quadraticForm_highRisk]
  norm_num [highVolMultiplier]
  linarith

-- ==================================================================== tails

/-- A root that is never negative and keeps the order, as one that rounds
the exact root does. -/
structure OrderlyRoot (ctx : DecimalContext) : Prop where
  nonneg : ∀ q, 0 ≤ q → 0 ≤ ctx.sqrt q
  mono : ∀ p q, 0 ≤ p → p ≤ q → ctx.sqrt p ≤ ctx.sqrt q

/-- What a regime makes of a manifest. -/
structure RegimeRisk where
  variance : ℚ
  parametricVar : ℚ
  parametricEs : ℚ

/-- The three figures a regime is compared on. -/
def regimeRisk (rt : RiskRuntime) (manifest : AssetPortfolio)
    (request : RiskRequest) (regime : String) : Except Exc RegimeRisk := do
  let priors ← assumptionsFor regime
  let report ← evaluateReport rt manifest request priors
  return {
    variance :=
      (slotsCovariance priors manifest.allocations).portfolioVariance
    parametricVar := report.level1Portfolio.parametricVar.value
    parametricEs := report.level1Portfolio.parametricEs.value }

/-- No measure of the one is above the other's. -/
structure RegimeRisk.AtMost (risk risk' : RegimeRisk) : Prop where
  variance : risk.variance ≤ risk'.variance
  parametricVar : risk.parametricVar ≤ risk'.parametricVar
  parametricEs : risk.parametricEs ≤ risk'.parametricEs

section Tails

variable {rt : RiskRuntime}

/-- The portfolio's volatility over the horizon. -/
def horizonSigma (ctx : DecimalContext) (priors : RiskAssumptions)
    (slots : List AllocationSlot) (years : ℚ) : ℚ :=
  (slotsCovariance priors slots).portfolioVolatility ctx * ctx.sqrt years

/-- The deviation over the horizon is nonnegative. -/
theorem OrderlyRoot.horizonSigma_nonneg {ctx : DecimalContext}
    (h : OrderlyRoot ctx) (priors : RiskAssumptions)
    (slots : List AllocationSlot) (horizon : RiskHorizon) :
    0 ≤ horizonSigma ctx priors slots horizon.years := by
  have hyears := h.nonneg horizon.years horizon.inRange.1.le
  apply mul_nonneg _ hyears
  unfold CovarianceResult.portfolioVolatility
  split
  · next hpos => exact h.nonneg _ hpos.le
  · exact le_refl 0

/-- A larger variance is no smaller over the horizon. -/
theorem OrderlyRoot.horizonSigma_mono {ctx : DecimalContext}
    (h : OrderlyRoot ctx) {priors priors' : RiskAssumptions}
    {slots : List AllocationSlot}
    (hle : slotsVariance priors slots ≤ slotsVariance priors' slots)
    (horizon : RiskHorizon) : horizonSigma ctx priors slots horizon.years
      ≤ horizonSigma ctx priors' slots horizon.years := by
  have hyears := h.nonneg horizon.years horizon.inRange.1.le
  apply mul_le_mul_of_nonneg_right _ hyears
  unfold CovarianceResult.portfolioVolatility
  rw [portfolioVariance_slots, portfolioVariance_slots]
  by_cases hpos : slotsVariance priors slots > 0
  · rw [if_pos hpos, if_pos (hpos.trans_le hle)]
    exact h.mono _ _ hpos.le hle
  · rw [if_neg hpos]
    split
    · next hpos' => exact h.nonneg _ hpos'.le
    · exact le_refl 0

/-- The measures at the multipliers of the two tails. -/
def riskAt (ctx : DecimalContext) (priors : RiskAssumptions)
    (slots : List AllocationSlot) (years z m : ℚ) : RegimeRisk where
  variance := slotsVariance priors slots
  parametricVar := z * horizonSigma ctx priors slots years
    - portfolioExpectedReturn (buildSleeveStates slots priors) priors * years
  parametricEs := m * horizonSigma ctx priors slots years
    - portfolioExpectedReturn (buildSleeveStates slots priors) priors * years

/-- A larger variance and a larger multiplier, at the same expected return,
are no less risk. -/
theorem OrderlyRoot.riskAt_atMost {ctx : DecimalContext} (h : OrderlyRoot ctx)
    {priors priors' : RiskAssumptions} {slots : List AllocationSlot}
    (hle : slotsVariance priors slots ≤ slotsVariance priors' slots)
    (hreturn : priors.classExpectedReturn = priors'.classExpectedReturn)
    {z m m' : ℚ} (hz : 0 ≤ z) (hm : 0 ≤ m) (hmm : m ≤ m')
    (horizon : RiskHorizon) :
    (riskAt ctx priors slots horizon.years z m).AtMost
      (riskAt ctx priors' slots horizon.years z m') := by
  have hsigma := h.horizonSigma_mono hle horizon
  have hnonneg := h.horizonSigma_nonneg priors slots horizon
  have hmean : portfolioExpectedReturn (buildSleeveStates slots priors) priors
      = portfolioExpectedReturn (buildSleeveStates slots priors') priors' := by
    rw [portfolioExpectedReturn_slots, portfolioExpectedReturn_slots, hreturn]
  constructor
  · exact hle
  · show z * _ - _ * _ ≤ z * _ - _ * _
    rw [hmean]
    exact sub_le_sub_right (mul_le_mul_of_nonneg_left hsigma hz) _
  · show m * _ - _ * _ ≤ m' * _ - _ * _
    rw [hmean]
    exact sub_le_sub_right (mul_le_mul hmm hsigma hnonneg (hm.trans hmm)) _

/-- A regime of the catalog, by its multipliers. -/
theorem regimeRisk_ok (rt : RiskRuntime) (manifest : AssetPortfolio)
    (request : RiskRequest) {regime : String} {priors : RiskAssumptions}
    (h : assumptionsFor regime = .ok priors) {z m : ℚ}
    (hz : priors.zScores.get? (alphaKey priors.varAlpha) = some z)
    (hm : priors.esMultipliers.get? (alphaKey priors.esAlpha) = some m) :
    regimeRisk rt manifest request regime = .ok (riskAt rt.decimal priors
      manifest.allocations request.horizon.years z m) := by
  obtain ⟨report, hreport⟩ := (evaluateReport_ok_iff rt manifest request
    (assumptionsFor_quoted h).1 none).mpr fun _ h => nomatch h
  obtain ⟨varMetric, esMetric, hrun⟩ := engineReport_of_run hreport
  have hvar := parametricTail_value hz hrun.var
  have hes := parametricTail_value hm hrun.es
  unfold regimeRisk
  rw [h]
  simp only [bind, Except.bind, hreport, pure, Except.pure]
  rw [portfolioVariance_slots, hrun.level1]
  show Except.ok (RegimeRisk.mk _ varMetric.value esMetric.value) = _
  rw [hvar, hes]
  rfl

/-- The tail multipliers of the catalog's regimes. -/
theorem catalog_multipliers : ∃ z m : ℚ, 0 ≤ z ∧ 0 ≤ m
    ∧ (∀ priors ∈ [buildLowRisk baseAssumptions, baseAssumptions,
        buildHighRisk baseAssumptions],
      priors.zScores.get? (alphaKey priors.varAlpha) = some z)
    ∧ baseAssumptions.esMultipliers.get? (alphaKey baseAssumptions.esAlpha)
        = some m
    ∧ (buildLowRisk baseAssumptions).esMultipliers.get?
        (alphaKey (buildLowRisk baseAssumptions).esAlpha)
        = some (m * lowEsMultiplier)
    ∧ (buildHighRisk baseAssumptions).esMultipliers.get?
        (alphaKey (buildHighRisk baseAssumptions).esAlpha)
        = some (m * highEsMultiplier) := by
  refine ⟨1644853626951472 / 10 ^ 15, 2337803 / 10 ^ 6, by norm_num,
    by norm_num, ?_, by decide +kernel, by decide +kernel, by decide +kernel⟩
  intro priors hpriors
  simp only [List.mem_cons, List.not_mem_nil, or_false] at hpriors
  rcases hpriors with rfl | rfl | rfl
  · decide +kernel
  · decide +kernel
  · decide +kernel

end Tails

/-- Every manifest is at most as risky under `low_risk` as under `base`, and
under `base` as under `high_risk`. -/
theorem regimes_ordered (rt : RiskRuntime) (hroot : OrderlyRoot rt.decimal)
    (manifest : AssetPortfolio) (request : RiskRequest) :
    ∃ low base high, regimeRisk rt manifest request "low_risk" = .ok low
      ∧ regimeRisk rt manifest request "base" = .ok base
      ∧ regimeRisk rt manifest request "high_risk" = .ok high
      ∧ low.AtMost base ∧ base.AtMost high := by
  obtain ⟨z, m, hz, hm, hzs, hmBase, hmLow, hmHigh⟩ := catalog_multipliers
  have hlowFor : assumptionsFor "low_risk"
      = .ok (buildLowRisk baseAssumptions) := rfl
  have hbaseFor : assumptionsFor "base" = .ok baseAssumptions := rfl
  have hhighFor : assumptionsFor "high_risk"
      = .ok (buildHighRisk baseAssumptions) := rfl
  have hlowEs : m * lowEsMultiplier ≤ m := by
    norm_num [lowEsMultiplier]
    linarith
  have hhighEs : m ≤ m * highEsMultiplier := by
    norm_num [highEsMultiplier]
    linarith
  have hlowNonneg : 0 ≤ m * lowEsMultiplier :=
    mul_nonneg hm (by norm_num [lowEsMultiplier])
  refine ⟨_, _, _,
    regimeRisk_ok rt manifest request hlowFor (hzs _ (by simp)) hmLow,
    regimeRisk_ok rt manifest request hbaseFor (hzs _ (by simp)) hmBase,
    regimeRisk_ok rt manifest request hhighFor (hzs _ (by simp)) hmHigh, ?_, ?_⟩
  · exact hroot.riskAt_atMost (lowRisk_variance_le manifest.allocations) rfl hz
      hlowNonneg hlowEs request.horizon
  · exact hroot.riskAt_atMost (base_variance_le manifest.allocations) rfl hz hm
      hhighEs request.horizon

/-- Roots to 28 places, rounded down. -/
def placedRoots : DecimalContext where
  sqrt q := Nat.sqrt ⌊q * 10 ^ 56⌋₊ / 10 ^ 28
  pow q _ := q
  str := formatFixed 2

/-- The cut root is monotone and nonnegative. -/
theorem orderlyRoot_placedRoots : OrderlyRoot placedRoots := by
  constructor
  · intro q _
    show (0 : ℚ) ≤ Nat.sqrt ⌊q * 10 ^ 56⌋₊ / 10 ^ 28
    positivity
  · intro p q _ hle
    show (Nat.sqrt ⌊p * 10 ^ 56⌋₊ : ℚ) / 10 ^ 28
      ≤ Nat.sqrt ⌊q * 10 ^ 56⌋₊ / 10 ^ 28
    have hfloor : ⌊p * 10 ^ 56⌋₊ ≤ ⌊q * 10 ^ 56⌋₊ :=
      Nat.floor_mono (mul_le_mul_of_nonneg_right hle (by norm_num))
    have hroot := Nat.sqrt_le_sqrt hfloor
    have hcast : (Nat.sqrt ⌊p * 10 ^ 56⌋₊ : ℚ) ≤ Nat.sqrt ⌊q * 10 ^ 56⌋₊ := by
      exact_mod_cast hroot
    exact div_le_div_of_nonneg_right hcast (by norm_num)

/-- A runtime whose root is cut after 28 places. -/
def placedRuntime : RiskRuntime where
  decimal := placedRoots
  digest _ := "digest"
  minEigenvalue _ := 0

/-- All in stocks, over four years. -/
theorem regimes_ordered_stocks : ∃ low base high,
    regimeRisk placedRuntime (halves .equity .equity) { horizon := fourYears }
        "low_risk" = .ok low
    ∧ regimeRisk placedRuntime (halves .equity .equity)
        { horizon := fourYears } "base" = .ok base
    ∧ regimeRisk placedRuntime (halves .equity .equity)
        { horizon := fourYears } "high_risk" = .ok high
    ∧ low.AtMost base ∧ base.AtMost high :=
  regimes_ordered placedRuntime orderlyRoot_placedRoots
    (halves .equity .equity) { horizon := fourYears }

end Warehouse
