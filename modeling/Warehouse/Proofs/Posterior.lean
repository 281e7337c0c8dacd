/-
The posterior loop.

The belief engine and the rebalance each collect the book's sleeves, the
one from the lots and the targets, the other from the keys of two
dictionaries; both collect `heldOrTargeted`. The sleeve→risk map is
injective, so overriding the expected returns by a posterior overrides
each sleeve's own (`Dict.override_apply`), and overriding them by the
prior's changes none (`Dict.override_eq_self`).

# One solve

The loop's rebalance and the stand-alone one assemble the same problem from
the same universe; they differ in the returns they maximise. With no view
the posterior is the prior, so the two are given the same numbers and return
one proposal, field by field. Otherwise the loop's proposal is an optimum of
the posterior's problem in the solver's sense: what it reports comes from a
point the solver returned for those returns.
-/
import Warehouse.Decision.Beliefs
import Warehouse.Proofs.BlackLitterman
import Warehouse.Proofs.Rebalance
import Warehouse.Proofs.RiskReplay

namespace Warehouse

open Lib

variable {positions : List LotPositionView} {ips : InvestmentPolicyStatement}
  {priors : RiskAssumptions}

-- ============================================================ the universe

/-- No two sleeves share a class. -/
theorem riskClassFor_injective : Function.Injective riskClassFor := by
  intro s s' h
  cases s <;> cases s' <;> first | rfl | cases h

/-- The beliefs and the rebalance range over one universe. -/
theorem beliefUniverse_eq :
    beliefUniverse positions ips = heldOrTargeted positions ips := by
  unfold beliefUniverse heldOrTargeted
  apply List.filter_congr
  intro s _
  have hheld : s ∈ (positions.filter fun p => p.marketValue.isSome).map
      ipsSleeveForPosition
        ↔ ∃ p ∈ positions, p.marketValue.isSome
          ∧ ipsSleeveForPosition p = s := by
    simp only [List.mem_map, List.mem_filter, and_assoc]
  have htargeted : s ∈ ips.allocationTargets.map (·.assetClass)
      ↔ ∃ t ∈ ips.allocationTargets, t.assetClass = s := List.mem_map
  simp only [List.mem_append, hheld, htargeted]

-- ============================================================ the posterior

/-- A posterior is over the prior's sleeves, in their order. -/
theorem keys_blackLitterman {σ : Type} [DecidableEq σ]
    {names : SleeveNames σ} {priorMu : Dict σ ℚ} {sigma : List (List ℚ)}
    {views : List (View σ)} {tau : ℚ} {posterior : PosteriorBelief σ}
    (hrun : blackLitterman names priorMu sigma views tau = .ok posterior) :
    posterior.mu.keys = priorMu.keys := by
  unfold blackLitterman at hrun
  by_cases hviews : views.isEmpty
  · rw [if_pos hviews] at hrun
    cases hrun
    rfl
  · rw [if_neg hviews] at hrun
    cases hmu : posteriorMu names priorMu sigma views tau with
    | error err =>
        rw [hmu] at hrun
        cases hrun
    | ok mu =>
        rw [hmu] at hrun
        cases hrun
        exact Dict.keys_enumerated priorMu.nodupKeys _

/-- The prior of a book. -/
def bookPrior (priors : RiskAssumptions) (positions : List LotPositionView)
    (ips : InvestmentPolicyStatement) : Dict IpsSleeve ℚ :=
  Dict.tabulate (heldOrTargeted positions ips) fun s =>
    priors.classExpectedReturn (riskClassFor s)

theorem keys_bookPrior :
    (bookPrior priors positions ips).keys = heldOrTargeted positions ips :=
  Dict.keys_tabulate (heldOrTargeted_nodup positions ips) _

/-- An update blends the prior of its book under the base priors. -/
theorem updateBeliefs_blends {settings : Settings} {clockToday : Date}
    {book : PmAdvisePayload} {views : List (View IpsSleeve)}
    {correlationId : String} {asOfDate : Option Date} {update : BeliefUpdate}
    (hrun : updateBeliefs settings clockToday book views correlationId
      asOfDate = .ok update) :
    ∃ priors, assumptionsFor "base" = .ok priors
      ∧ blackLitterman ipsSleeveNames (bookPrior priors book.positions book.ips)
        (covarianceMatrix priors (heldOrTargeted book.positions book.ips))
        views settings.blackLittermanTau = .ok update.posterior := by
  unfold updateBeliefs at hrun
  obtain ⟨priors, hpriors, hrun⟩ := bind_ok_iff.mp hrun
  obtain ⟨prior, hprior, hrun⟩ := bind_ok_iff.mp hrun
  obtain ⟨posterior, hposterior, hrun⟩ := bind_ok_iff.mp hrun
  cases hprior
  cases hrun
  refine ⟨priors, hpriors, ?_⟩
  have hkeys : (bookPrior priors book.positions book.ips).keys
      = heldOrTargeted book.positions book.ips := keys_bookPrior
  rw [beliefUniverse_eq] at hposterior
  rw [← hkeys]
  exact hposterior

-- =========================================================== the overriding

/-- The override reads each sleeve of a posterior back. -/
theorem expectedReturn_posteriorPriors (posterior : PosteriorBelief IpsSleeve)
    (s : IpsSleeve) :
    (posteriorPriors priors posterior).classExpectedReturn (riskClassFor s)
      = (posterior.mu.get? s).getD
        (priors.classExpectedReturn (riskClassFor s)) :=
  posterior.mu.override_apply riskClassFor_injective _ s

/-- So the QP's `μ` over a posterior's sleeves is the posterior. -/
theorem expectedReturns_posteriorPriors
    (posterior : PosteriorBelief IpsSleeve) (cfg : Settings) :
    expectedReturns (posteriorPriors priors posterior) zeroTaxEstimator cfg
      posterior.mu.keys = posterior.mu.values := by
  show posterior.mu.keys.map _ = _
  rw [Dict.keys, Dict.values, List.map_map]
  apply List.map_congr_left
  rintro ⟨s, mu⟩ hentry
  show (posteriorPriors priors posterior).classExpectedReturn (riskClassFor s)
    = mu
  rw [expectedReturn_posteriorPriors, Dict.get?_eq_some_iff.mpr hentry]
  rfl

/-- The prior as posterior leaves the priors as they are. -/
theorem posteriorPriors_prior (tau : ℚ) :
    posteriorPriors priors { mu := bookPrior priors positions ips, tau := tau }
      = priors := by
  have hsame : (bookPrior priors positions ips).override riskClassFor
      priors.classExpectedReturn = priors.classExpectedReturn := by
    apply Dict.override_eq_self
    intro entry hentry
    rw [bookPrior, Dict.entries_tabulate (heldOrTargeted_nodup positions ips)]
      at hentry
    obtain ⟨s, -, rfl⟩ := List.mem_map.mp hentry
    rfl
  unfold posteriorPriors
  rw [hsame]

-- ================================================================ the runs

/-- A proposal's targets are what the QP makes of a `μ` over some sleeves,
quantized and capped, and its objective is of that `μ`. -/
structure Optimizes (ips : InvestmentPolicyStatement)
    (priors : RiskAssumptions) (cfg : Settings) (sleeves : List IpsSleeve)
    (mu : List ℚ) (proposal : RebalanceProposal) : Prop where
  solved : ∃ wStar,
    solveQp mu (covarianceMatrix priors sleeves)
        (sleeves.map fun s => (sleeveBox (targetByClass ips) s).1)
        (sleeves.map fun s => (sleeveBox (targetByClass ips) s).2)
        cfg.riskAversionLambda cfg.qpTolerance cfg.qpMaxIters = .ok wStar
      ∧ proposal.targetWeights = (cappedTargets sleeves
        (sleeves.map fun s => (sleeveBox (targetByClass ips) s).1)
        (sleeves.map fun s => (sleeveBox (targetByClass ips) s).2)
        ips.turnoverBudgetPct
        (quantizedTargets sleeves
          (sleeves.map fun s => (sleeveBox (targetByClass ips) s).1)
          (sleeves.map fun s => (sleeveBox (targetByClass ips) s).2) wStar)
        proposal.currentWeights).2
  valued : proposal.objectiveValue = quantize 8 (objective sleeves mu
    (covarianceMatrix priors sleeves) cfg.riskAversionLambda
    proposal.targetWeights)

/-- The core solves for the expected returns of its universe. -/
theorem rebalanceCore_optimizes {cfg : Settings} {estimator : TaxEstimator}
    {proposal : RebalanceProposal}
    (hrun : rebalanceCore positions ips priors cfg estimator = .ok proposal) :
    Optimizes ips priors cfg (heldOrTargeted positions ips)
      (expectedReturns priors estimator cfg (heldOrTargeted positions ips))
      proposal := by
  obtain ⟨w, h⟩ := rebalanceCore_ok hrun
  refine ⟨⟨w, h.solved, ?_⟩, h.valued⟩
  rw [h.current]
  exact h.targets

theorem runMvRebalance_optimizes {cfg : Settings} {computeStress : Bool}
    {stressAssumptions : Option RiskAssumptions}
    {proposal : RebalanceProposal}
    (hrun : runMvRebalance positions ips (some priors) cfg none computeStress
      stressAssumptions = .ok proposal) :
    Optimizes ips priors cfg (heldOrTargeted positions ips)
      (expectedReturns priors zeroTaxEstimator cfg
        (heldOrTargeted positions ips)) proposal := by
  obtain ⟨_, base, hpriors, hbase, hplain, hoverlay⟩ := runMvRebalance_ok hrun
  obtain rfl := Except.ok.inj hpriors
  have hoptimizes := rebalanceCore_optimizes hbase
  cases computeStress with
  | false =>
      rw [← hplain rfl]
      exact hoptimizes
  | true =>
      -- the overlay leaves the optimum as it was
      obtain ⟨-, -, -, -, rfl⟩ := computeStressOverlay_ok (hoverlay rfl)
      exact ⟨hoptimizes.solved, hoptimizes.valued⟩

/-- On a posterior it solves for the posterior's. -/
theorem rebalanceOnPosterior_eq
    (hpriors : assumptionsFor "base" = .ok priors) (cfg : Settings)
    (book : PmAdvisePayload) (posterior : PosteriorBelief IpsSleeve)
    (computeStress : Bool) :
    rebalanceOnPosterior cfg book posterior computeStress
      = runMvRebalance book.positions book.ips
        (some (posteriorPriors priors posterior)) cfg none computeStress none
    := by
  unfold rebalanceOnPosterior
  rw [hpriors, ok_bind]

/-- Rebalancing on a posterior over the book's sleeves optimizes its `μ`. -/
theorem rebalanceOnPosterior_optimizes {cfg : Settings}
    {book : PmAdvisePayload} {posterior : PosteriorBelief IpsSleeve}
    (hkeys : posterior.mu.keys = heldOrTargeted book.positions book.ips)
    (hpriors : assumptionsFor "base" = .ok priors) {computeStress : Bool}
    {proposal : RebalanceProposal}
    (hrun : rebalanceOnPosterior cfg book posterior computeStress
      = .ok proposal) :
    Optimizes book.ips priors cfg posterior.mu.keys posterior.mu.values
      proposal := by
  rw [rebalanceOnPosterior_eq hpriors] at hrun
  have hoptimizes := runMvRebalance_optimizes hrun
  rw [← hkeys, expectedReturns_posteriorPriors] at hoptimizes
  -- the override leaves the volatilities and the correlations
  exact ⟨hoptimizes.solved, hoptimizes.valued⟩

/-- Rebalancing on the prior is rebalancing. -/
theorem rebalanceOnPosterior_prior {cfg : Settings} {book : PmAdvisePayload}
    (hpriors : assumptionsFor "base" = .ok priors) (tau : ℚ)
    (computeStress : Bool) :
    rebalanceOnPosterior cfg book
        { mu := bookPrior priors book.positions book.ips, tau := tau }
        computeStress
      = runMvRebalance book.positions book.ips none cfg none computeStress
        none := by
  have hbase : ∀ given : RiskAssumptions, given = priors →
      runMvRebalance book.positions book.ips (some given) cfg none
        computeStress none
      = runMvRebalance book.positions book.ips none cfg none computeStress
        none := by
    rintro given rfl
    have hsame : assumptionsOr (some given) "base"
        = assumptionsOr none "base" := hpriors.symm
    unfold runMvRebalance
    rw [hsame]
  rw [rebalanceOnPosterior_eq hpriors]
  exact hbase _ (posteriorPriors_prior tau)

-- ================================================================ the loop

/-- The posterior is over the rebalance's universe, in its order; the QP's
`μ` on it is the posterior, sleeve by sleeve, in whatever the rebalance
returns; and without views the rebalance is the plain one. -/
theorem posterior_loop_matches_rebalance (settings cfg : Settings)
    (clockToday : Date) (book : PmAdvisePayload)
    (views : List (View IpsSleeve)) (correlationId : String)
    (asOfDate : Option Date) (update : BeliefUpdate)
    (hnav : 0 < totalMarketValue book.positions)
    (hrun : updateBeliefs settings clockToday book views correlationId
      asOfDate = .ok update) :
    ∃ held priors, currentWeights book.positions = .ok held
      ∧ assumptionsFor "base" = .ok priors
      ∧ update.posterior.mu.keys = sleeveUniverse held (targetByClass book.ips)
      ∧ expectedReturns (posteriorPriors priors update.posterior)
          zeroTaxEstimator cfg (sleeveUniverse held (targetByClass book.ips))
        = update.posterior.mu.values
      ∧ (∀ computeStress proposal,
        rebalanceOnPosterior cfg book update.posterior computeStress
            = .ok proposal →
          Optimizes book.ips priors cfg update.posterior.mu.keys
            update.posterior.mu.values proposal)
      ∧ (views = [] →
        rebalanceOnPosterior cfg book update.posterior false
          = runMvRebalance book.positions book.ips none cfg none false none)
    := by
  obtain ⟨priors, hpriors, hblend⟩ := updateBeliefs_blends hrun
  have hkeys : update.posterior.mu.keys
      = heldOrTargeted book.positions book.ips :=
    (keys_blackLitterman hblend).trans keys_bookPrior
  refine ⟨_, priors, currentWeights_iff.mpr ⟨hnav, rfl⟩, hpriors, ?_, ?_,
    fun _ _ => rebalanceOnPosterior_optimizes hkeys hpriors, ?_⟩
  · rw [sleeveUniverse_eq, hkeys]
  · rw [sleeveUniverse_eq, ← hkeys]
    exact expectedReturns_posteriorPriors update.posterior cfg
  · rintro rfl
    rw [← Except.ok.inj hblend]
    exact rebalanceOnPosterior_prior hpriors _ false

/-- The equity lot's book. -/
def balancedBook : PmAdvisePayload where
  householdId := "h"
  positions := [equityLot]
  ips := balancedPolicy
  manifest := halves .equity .cash
  request := { horizon := fourYears }

/-- Equity is held and fixed income only targeted. -/
theorem posterior_loop_matches_rebalance_balanced :
    (∃ update, updateBeliefs {} 0 balancedBook
        [equityView (1 / 2) isFraction_half] "" none = .ok update
      ∧ update.posterior.mu.keys = [.equity, .fixedIncome])
    ∧ ∃ update, updateBeliefs {} 0 balancedBook [] "" none = .ok update
      ∧ rebalanceOnPosterior {} balancedBook update.posterior false
        = runMvRebalance [equityLot] balancedPolicy none {} none false none
    := by
  have hnav : 0 < totalMarketValue balancedBook.positions := by decide +kernel
  constructor
  · cases hrun : updateBeliefs {} 0 balancedBook
        [equityView (1 / 2) isFraction_half] "" none with
    | error err =>
        have hok : (updateBeliefs {} 0 balancedBook
          [equityView (1 / 2) isFraction_half] "" none).isOk = true := by
          decide +kernel
        rw [hrun] at hok
        cases hok
    | ok update =>
        obtain ⟨held, -, hheld, -, hkeys, -⟩ :=
          posterior_loop_matches_rebalance {} {} 0 balancedBook _ "" none
            update hnav hrun
        obtain ⟨-, rfl⟩ := currentWeights_iff.mp hheld
        exact ⟨update, rfl, hkeys.trans (by decide +kernel)⟩
  · obtain ⟨_, _, -, -, -, -, -, hsame⟩ :=
      posterior_loop_matches_rebalance {} {} 0 balancedBook [] "" none _ hnav
        rfl
    exact ⟨_, rfl, hsame rfl⟩

end Warehouse
