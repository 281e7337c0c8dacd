/-
The portfolio's standard deviation is subadditive.

The variance is the class correlation matrix's form at the classes'
exposures, whatever slots a class is held in, and the exposures of a
portfolio are the sums of its parts'. So a semidefinite matrix makes the
variance nowhere negative, and its root obeys the triangle inequality of
the form.
-/
import Warehouse.Lib.PairForm
import Warehouse.Proofs.PsdGate

namespace Warehouse

open Lib

-- ========================================================= the class matrix

/-- The risk classes as a finite set. -/
def riskClasses : Finset RiskClass := RiskClass.all.toFinset

/-- A sum over the finite set is the model's class sum. -/
theorem sum_riskClasses (f : RiskClass → ℚ) :
    ∑ c ∈ riskClasses, f c = classSum f :=
  List.sum_toFinset f (by decide : RiskClass.all.Nodup)

/-- The quadratic form is the library's pair form. -/
theorem quadraticForm_eq_pairForm (rho : RiskClass → RiskClass → ℚ)
    (x : RiskClass → ℚ) :
    quadraticForm rho x = pairForm riskClasses rho x x := by
  unfold quadraticForm pairForm
  simp only [sum_riskClasses]

theorem pairwiseCorrelation_comm (priors : RiskAssumptions)
    (left right : RiskClass) : priors.pairwiseCorrelation left right
      = priors.pairwiseCorrelation right left := by
  unfold RiskAssumptions.pairwiseCorrelation
  rw [Sym2.eq_swap]
  simp only [eq_comm]

-- =============================================================== exposures

theorem stateExposures_append (left right : List SleeveRiskState) :
    stateExposures (left ++ right)
      = fun c => stateExposures left c + stateExposures right c := by
  funext c
  unfold stateExposures
  rw [List.filter_append, List.map_append, List.sum_append]

-- ======================================================= standard deviations

/-- `portfolio_volatility`, its root taken exactly. -/
noncomputable def standardDeviation (cov : CovarianceResult) : ℝ :=
  if cov.portfolioVariance > 0 then Real.sqrt cov.portfolioVariance else 0

/-- The deviation is the root of the variance: both are zero where it is not
positive. -/
theorem standardDeviation_eq (cov : CovarianceResult) :
    standardDeviation cov = Real.sqrt cov.portfolioVariance := by
  unfold standardDeviation
  split
  · rfl
  · next h =>
    have hnonpos : (cov.portfolioVariance : ℝ) ≤ 0 := by
      exact_mod_cast not_lt.mp h
    exact (Real.sqrt_eq_zero_of_nonpos hnonpos).symm

/-- Under a semidefinite class matrix the variance is not negative, and a
portfolio deviates at most as its two parts do together. -/
theorem volatility_subadditive (assumptions : RiskAssumptions)
    (hpsd : ∀ x, 0 ≤ quadraticForm assumptions.pairwiseCorrelation x)
    (states : List SleeveRiskState) :
    0 ≤ (portfolioCovariance states assumptions).portfolioVariance
    ∧ ∀ left right, states.Perm (left ++ right) →
        standardDeviation (portfolioCovariance states assumptions)
          ≤ standardDeviation (portfolioCovariance left assumptions)
            + standardDeviation (portfolioCovariance right assumptions) := by
  have hvariance : ∀ zs, (portfolioCovariance zs assumptions).portfolioVariance
      = pairForm riskClasses assumptions.pairwiseCorrelation
        (stateExposures zs) (stateExposures zs) := by
    intro zs
    rw [portfolioCovariance_eq]
    show statesVariance assumptions zs = _
    rw [statesVariance_eq, quadraticForm_eq_pairForm]
  have hform : PairPsd riskClasses assumptions.pairwiseCorrelation := by
    intro x
    rw [← quadraticForm_eq_pairForm]
    exact hpsd x
  constructor
  · rw [hvariance]
    exact hform _
  · intro left right hsplit
    have hwhole : (portfolioCovariance states assumptions).portfolioVariance
        = (portfolioCovariance (left ++ right)
          assumptions).portfolioVariance := by
      rw [portfolioCovariance_eq, portfolioCovariance_eq]
      exact statesVariance_perm hsplit
    rw [standardDeviation_eq, standardDeviation_eq, standardDeviation_eq,
      hwhole, hvariance, hvariance, hvariance, stateExposures_append]
    exact hform.sqrt_add_le (pairwiseCorrelation_comm assumptions) _ _

/-- Stocks and bonds, apart and together. -/
theorem volatility_subadditive_halves :
    standardDeviation (portfolioCovariance
        (buildSleeveStates [halfSlot .equity, halfSlot .fixedIncome]
          baseAssumptions) baseAssumptions)
      ≤ standardDeviation (portfolioCovariance
          (buildSleeveStates [halfSlot .equity] baseAssumptions)
          baseAssumptions)
        + standardDeviation (portfolioCovariance
          (buildSleeveStates [halfSlot .fixedIncome] baseAssumptions)
          baseAssumptions) :=
  (volatility_subadditive baseAssumptions quadraticForm_base_nonneg
    (buildSleeveStates [halfSlot .equity, halfSlot .fixedIncome]
      baseAssumptions)).2 _ _ (List.Perm.refl _)

end Warehouse
