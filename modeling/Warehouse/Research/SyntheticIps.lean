/-
Co-generated policy statements: the cohort priors (`ips_cohort.py`), their
emission (`ips_emit.py`), the validation gate (`ips_validate.py`) and the
households that pass it (`pipeline.py`, `emit_synthetic_household`), all of
`research/synthetic`.

`AssetClass` and `IpsSleeve` have the same values, so `IpsSleeve(x.value)`
is a renaming.

Bands lie around the sleeve weights the household was emitted with, within
nought and one, but for the equity of the stressed cohort, whose cap lies
under its weight. Validation looks at three limits of the policy: sleeves,
issuers and liquidity. The stressed cohort passes only if something binds,
the others only if nothing does.
-/
import Warehouse.Decision.Ips
import Warehouse.Research.Synthetic

namespace Warehouse

open Lib

-- ================================================================== priors

/-- Static IPS policy priors for a synthetic cohort. -/
structure CohortIpsPriors where
  allocationBandPct : ℚ
  liquidityTierMinPct : ℚ
  concentrationLimitPct : Option ℚ := none
  concentrationPortfolioRange : Option (ℚ × ℚ) := none
  concentrationIssuerRange : Option (ℚ × ℚ) := none
  turnoverBudgetPct : Option ℚ := none

/-- The policy a cohort starts from; an unknown one is a `KeyError`. -/
def cohortIpsPriors : String → Except Exc CohortIpsPriors
  | "general_hnw" => .ok
      { allocationBandPct := 5 / 100
        concentrationLimitPct := some (12 / 100)
        liquidityTierMinPct := 75 / 100
        turnoverBudgetPct := some (15 / 100) }
  | "uhnw_inherited" => .ok
      { allocationBandPct := 5 / 100
        concentrationLimitPct := some (10 / 100)
        liquidityTierMinPct := 55 / 100
        turnoverBudgetPct := some (12 / 100) }
  | "founder_executive" => .ok
      { allocationBandPct := 8 / 100
        concentrationIssuerRange := some (15 / 100, 45 / 100)
        liquidityTierMinPct := 70 / 100
        turnoverBudgetPct := some (20 / 100) }
  | "concentrated_stress" => .ok
      { allocationBandPct := 2 / 100
        concentrationPortfolioRange := some (20 / 100, 25 / 100)
        liquidityTierMinPct := 60 / 100
        turnoverBudgetPct := some (10 / 100) }
  | cohortId => .error (.keyError ("unknown cohort_id: " ++ cohortId))

/-- The date an emitted policy takes effect by default. -/
def defaultIpsEffectiveDate : String := "2024-01-15"

-- ================================================================ emission

/-- `IpsSleeve(asset_class.value)`. -/
def assetToIpsSleeve : RiskClass → IpsSleeve
  | .equity => .equity
  | .fixedIncome => .fixedIncome
  | .commodities => .commodities
  | .fx => .fx
  | .alternatives => .alternatives
  | .cash => .cash

/-- The cohort's own limit, else one drawn from its range: a range by issuer is
a share of the equity weight. -/
def resolveConcentrationLimit (rng : SeededRandom) (cohortId : String)
    (priors : CohortIpsPriors) (seed : Int) (weights : Dict RiskClass ℚ) :
    Except Exc ℚ :=
  let equityWeight := (weights.get? .equity).getD 0
  match priors.concentrationLimitPct with
  | some limit => .ok limit
  | none =>
      match priors.concentrationIssuerRange with
      | some (low, high) =>
          let issuerCap := quantize 2 (rng.uniform (seed + 17) 0 low high)
          .ok (quantize 2 (issuerCap * equityWeight))
      | none =>
          match priors.concentrationPortfolioRange with
          | some (low, high) =>
              .ok (quantize 2 (rng.uniform (seed + 17) 0 low high))
          | none => .error (.valueError ("cohort " ++ cohortId
              ++ " has no concentration prior configured"))

/-- The constructor's validation. -/
def AllocationTarget.create (assetClass : IpsSleeve)
    (minWeight maxWeight targetWeight : ℚ) : Except Exc AllocationTarget :=
  if hmin : IsFraction minWeight then
    if hmax : IsFraction maxWeight then
      if htarget : IsFraction targetWeight then
        .ok { assetClass := assetClass
              minWeight := minWeight
              maxWeight := maxWeight
              targetWeight := targetWeight
              minFraction := hmin
              maxFraction := hmax
              targetFraction := htarget }
      else .error (.validationError "AllocationTarget" "target_weight")
    else .error (.validationError "AllocationTarget" "max_weight")
  else .error (.validationError "AllocationTarget" "min_weight")

/-- `_allocation_target`: the equity sleeve of the stressed cohort is
capped half a point under its weight. -/
def bandTarget (cohortId : String) (sleeve : IpsSleeve) (weight band : ℚ) :
    Except Exc AllocationTarget :=
  if cohortId = "concentrated_stress" ∧ sleeve = .equity then
    let maxWeight := quantize 7 (weight - 5 / 1000)
    let minWeight := quantize 7 (max 0 (maxWeight - band))
    AllocationTarget.create sleeve minWeight maxWeight maxWeight
  else
    let targetWeight := quantize 7 weight
    let minWeight := quantize 7 (max 0 (targetWeight - band))
    let maxWeight := quantize 7 (min 1 (targetWeight + band))
    AllocationTarget.create sleeve minWeight maxWeight targetWeight

/-- The names a household may not trade: only from the fourth rung, with the
cohort's probability. -/
def sampleRestrictedSecurities (rng : SeededRandom) (cohortId : String)
    (seed rung : Int) : List String :=
  if rung < 4 then []
  else if cohortId = "uhnw_inherited" ∧ rng.random (seed + 1000) 0 < 3 / 10
    then ["VTI"]
  else if cohortId = "founder_executive" ∧ rng.random (seed + 1000) 0 < 4 / 10
    then ["BND"]
  else []

/-- The statement's constructor, with its validation. -/
def InvestmentPolicyStatement.create (ipsId householdId : String)
    (version : Int) (effectiveDate : String)
    (allocationTargets : List AllocationTarget)
    (restrictedSecurities : List String) (concentrationLimitPct : ℚ)
    (liquidityTierMinPct turnoverBudgetPct : Option ℚ) :
    Except Exc InvestmentPolicyStatement :=
  if hconcentration : IsFraction concentrationLimitPct then
    if hliquidity : ∀ q ∈ liquidityTierMinPct, IsFraction q then
      if hturnover : ∀ q ∈ turnoverBudgetPct, IsFraction q then
        .ok { ipsId := ipsId
              householdId := householdId
              version := version
              effectiveDate := effectiveDate
              allocationTargets := allocationTargets
              restrictedSecurities := restrictedSecurities
              concentrationLimitPct := concentrationLimitPct
              liquidityTierMinPct := liquidityTierMinPct
              turnoverBudgetPct := turnoverBudgetPct
              concentrationFraction := hconcentration
              liquidityFraction := hliquidity
              turnoverFraction := hturnover }
      else .error (.validationError "InvestmentPolicyStatement"
        "turnover_budget_pct")
    else .error (.validationError "InvestmentPolicyStatement"
      "liquidity_tier_min_pct")
  else .error (.validationError "InvestmentPolicyStatement"
    "concentration_limit_pct")

/-- The classes a statement has targets for: those with a weight, in the
order of their values. -/
def targetClasses (weights : Dict RiskClass ℚ) : List RiskClass :=
  (weights.keys.mergeSort fun c c' => decide (c.value ≤ c'.value)).filter
    fun c => 0 < (weights.get? c).getD 0

/-- Build IPS allocation bands from sleeve weights + cohort priors. -/
def emitIpsForCohort (rng : SeededRandom) (cohortId : String) (seed : Int)
    (householdId : String) (weights : Dict RiskClass ℚ) (rung : Int) :
    Except Exc InvestmentPolicyStatement := do
  let priors ← cohortIpsPriors cohortId
  let concentration ←
    resolveConcentrationLimit rng cohortId priors seed weights
  let targets ← (targetClasses weights).mapM fun c =>
    bandTarget cohortId (assetToIpsSleeve c) ((weights.get? c).getD 0)
      priors.allocationBandPct
  if targets = [] then
    throw (.valueError ("no positive sleeve weights for cohort " ++ cohortId
      ++ " seed " ++ toString seed))
  else
    InvestmentPolicyStatement.create ("ips_" ++ householdId ++ "_v1")
      householdId 1 defaultIpsEffectiveDate targets
      (sampleRestrictedSecurities rng cohortId seed rung) concentration
      (some priors.liquidityTierMinPct) priors.turnoverBudgetPct

-- ============================================================== validation

/-- What validating a fixture against its policy reports. -/
structure IpsValidationResult where
  ok : Bool
  bindingConstraints : List String := []
  warnings : List String := []
  deriving DecidableEq

/-- `_SLEEVE_PROXY_TICKERS`. -/
def sleeveProxyTickers : List String := ["VTI", "BND", "CASH", "DBC", "SYNPE"]

/-- The tier of a lot, by its class alone. -/
def lotLiquidityTier (lot : SyntheticLot) : Except Exc Nat := do
  let assetClass ← RiskClass.ofValue lot.assetClass
  if assetClass = .alternatives then return 3
  else if assetClass = .commodities ∨ assetClass = .fx then return 2
  else return 1

/-- The weights of a manifest by IPS sleeve: of two slots of one sleeve the
later is kept. -/
def shapeASleeveWeights (portfolio : AssetPortfolio) : Dict IpsSleeve ℚ :=
  Dict.ofPairs (portfolio.allocations.map fun slot =>
    (assetToIpsSleeve slot.assetClass, slot.weight))

/-- The issuer a lot counts against; a sleeve proxy has none. -/
def lotIssuer (lot : SyntheticLot) : Option String :=
  if truthy lot.concentrationIssuer then lot.concentrationIssuer
  else if lot.ticker ∈ sleeveProxyTickers then none
  else some lot.ticker

/-- What a lot adds to its issuer's market value. -/
def addIssuer (byIssuer : Dict String ℚ) (lot : SyntheticLot) :
    Dict String ℚ :=
  match lotIssuer lot with
  | none => byIssuer
  | some issuer => byIssuer.add issuer lot.marketValue

/-- Issuer weights over NAV, in order of first appearance. -/
def issuerWeights (fixture : HouseholdFixture) : Dict String ℚ :=
  let nav := fixture.totalNavUsd
  if nav ≤ 0 then Dict.empty
  else
    (fixture.lots.foldl addIssuer Dict.empty).mapValues (· / nav)

/-- What a lot adds to the liquid market value. -/
def addLiquid (mv : ℚ) (lot : SyntheticLot) : Except Exc ℚ := do
  let tier ← lotLiquidityTier lot
  return if tier ≤ 2 then mv + lot.marketValue else mv

/-- The liquid share of NAV and uncalled commitments together. -/
def liquidTierShare (fixture : HouseholdFixture) : Except Exc ℚ := do
  let unfunded := (fixture.alternativeHoldings.map (·.unfundedCapital)).sum
  let denominator := fixture.totalNavUsd + unfunded
  if denominator ≤ 0 then return 0
  else
    let liquidMv ← fixture.lots.foldlM addLiquid 0
    return liquidMv / denominator

/-- The two comparisons of a target. -/
def targetBindings (weights : Dict IpsSleeve ℚ) (target : AllocationTarget) :
    List String :=
  let current := (weights.get? target.assetClass).getD 0
  (if current < target.minWeight then
      ["sleeve_below_min:" ++ target.assetClass.value ++ "="
        ++ formatFixed 4 current ++ "<" ++ formatFixed 4 target.minWeight]
    else [])
    ++ (if current > target.maxWeight then
      ["sleeve_above_max:" ++ target.assetClass.value ++ "="
        ++ formatFixed 4 current ++ ">" ++ formatFixed 4 target.maxWeight]
    else [])

/-- The targets whose band the manifest's weight is outside of. -/
def sleeveBindingConstraints (weights : Dict IpsSleeve ℚ)
    (ips : InvestmentPolicyStatement) : List String :=
  ips.allocationTargets.flatMap (targetBindings weights)

/-- The issuers above the concentration limit. -/
def concentrationBindingConstraints (fixture : HouseholdFixture)
    (ips : InvestmentPolicyStatement) : List String :=
  (issuerWeights fixture).entries.filterMap fun (issuer, weight) =>
    if weight > ips.concentrationLimitPct then
      some ("concentration:" ++ issuer ++ "=" ++ formatFixed 4 weight ++ ">"
        ++ formatFixed 4 ips.concentrationLimitPct)
    else none

/-- The liquidity floor, where the policy has one and the book misses it. -/
def liquidityBindingConstraints (fixture : HouseholdFixture)
    (ips : InvestmentPolicyStatement) : Except Exc (List String) :=
  match ips.liquidityTierMinPct with
  | none => .ok []
  | some floor => do
      let share ← liquidTierShare fixture
      if share < floor then
        return ["liquidity_tier_1_2=" ++ formatFixed 4 share ++ "<"
          ++ formatFixed 4 floor]
      else return []

/-- The verdict on what binds: the stressed cohort must be bound, the
others must not. -/
def validationVerdict (cohortId : String) (binding : List String) :
    IpsValidationResult :=
  if cohortId = "concentrated_stress" then
    if binding = [] then
      { ok := false
        warnings := ["concentrated_stress requires binding constraints"] }
    else { ok := true, bindingConstraints := binding }
  else { ok := binding = [], bindingConstraints := binding }

/-- Check Shape A sleeves, concentration, and liquidity vs IPS policy. -/
def validateIps (fixture : HouseholdFixture)
    (ips : InvestmentPolicyStatement) : Except Exc IpsValidationResult := do
  if ips.householdId ≠ fixture.householdId then
    return { ok := false
             warnings := ["household_id mismatch: " ++ ips.householdId] }
  else
    let portfolio ← match fixture.assetPortfolio with
      | some portfolio => pure portfolio
      | none => projectToAssetPortfolio fixture
    let liquidity ← liquidityBindingConstraints fixture ips
    return validationVerdict fixture.provenance.cohortId
      (sleeveBindingConstraints (shapeASleeveWeights portfolio) ips
        ++ concentrationBindingConstraints fixture ips ++ liquidity)

-- ============================================================== households

/-- Co-generated Shape B fixture + IPS + validation gate result. -/
structure SyntheticHouseholdBundle where
  fixture : HouseholdFixture
  ips : InvestmentPolicyStatement
  validation : IpsValidationResult

/-- `IpsValidationError(result)`. -/
def ipsValidationError (result : IpsValidationResult) : Exc :=
  let shown := if result.bindingConstraints ≠ [] then result.bindingConstraints
    else result.warnings
  let detail := ", ".intercalate shown
  .ipsValidation ("IPS validation failed: "
    ++ if detail ≠ "" then detail else "unknown")

/-- The policy's id, hashed into the provenance. -/
def sealIpsProvenance (rt : SyntheticRuntime) (fixture : HouseholdFixture)
    (ipsId : String) : HouseholdFixture :=
  { fixture with provenance :=
    { fixture.provenance with stageHashes :=
        fixture.provenance.stageHashes ++ [stageHash rt "ips" ipsId] } }

/-- Emit Shape B fixture + co-generated IPS; validate before sealing. -/
def emitSyntheticHousehold (rt : SyntheticRuntime) (cohortId : String)
    (seed rung : Int) (householdId : Option String) (navUsd : ℚ)
    (validate : Bool) (weights : Option (Dict RiskClass ℚ)) :
    Except Exc SyntheticHouseholdBundle := do
  let fixture ← emitHnwFixture rt cohortId seed rung householdId navUsd weights
  let portfolio ← match fixture.assetPortfolio with
    | some portfolio => pure portfolio
    | none => projectToAssetPortfolio fixture
  let ips ← emitIpsForCohort rt.toSeededRandom cohortId seed
    fixture.householdId (shapeAWeights portfolio) rung
  let validation ← validateIps fixture ips
  if validate ∧ validation.ok = false then
    throw (ipsValidationError validation)
  else
    return { fixture := sealIpsProvenance rt fixture ips.ipsId
             ips := ips
             validation := validation }

end Warehouse
