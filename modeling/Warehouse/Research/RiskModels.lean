/-
The risk plane's inputs (`research/risk/models.py`), and the portfolio it
builds from a household's holdings (`research/risk/portfolio_builder.py`).

A slot and a portfolio carry the constraints they are validated with.

A slot may leave its duration, beta and mode open; `auto` is resolved later,
by class and tier. Weights need to sum to one within a basis point only, so
nothing here divides by their sum.
-/
import Warehouse.Data.Ledger
import Warehouse.Lib.Dict
import Warehouse.Research.Assumptions

namespace Warehouse

open Lib

/-- `MeasurementMode`: `auto` is resolved by class and tier. -/
inductive MeasurementMode where
  | measurable
  | fermi
  | auto
  deriving DecidableEq, Repr

/-- The mode as payloads spell it. -/
def MeasurementMode.value : MeasurementMode → String
  | measurable => "measurable"
  | fermi => "fermi"
  | auto => "auto"

/-- `MeasurementMode(text)`, of a mode's value. -/
def MeasurementMode.ofValue : String → MeasurementMode
  | "measurable" => measurable
  | "fermi" => fermi
  | _ => auto

/-- An optional magnitude that is absent. -/
theorem nonneg_none : ∀ q ∈ (none : Option ℚ), 0 ≤ q := nofun

/-- The most liquid tier is one. -/
theorem tierOne : 1 ≤ 1 ∧ 1 ≤ 3 := by decide

/-- `AllocationSlot`, its bounds as fields. -/
structure AllocationSlot where
  assetClass : RiskClass
  weight : ℚ
  durationYears : Option ℚ := none
  beta : Option ℚ := none
  liquidityTier : Nat := 1
  measurement : MeasurementMode := .auto
  label : Option String := none
  weightFraction : IsFraction weight
  durationNonneg : ∀ d ∈ durationYears, 0 ≤ d := by
    first | exact nonneg_none | simp
  betaNonneg : ∀ b ∈ beta, 0 ≤ b := by first | exact nonneg_none | simp
  tierInRange : 1 ≤ liquidityTier ∧ liquidityTier ≤ 3 := by
    first | exact tierOne | decide

/-- The constructor's validation. -/
def AllocationSlot.validated (assetClass : RiskClass) (weight : ℚ)
    (durationYears : Option ℚ := none) (liquidityTier : Nat := 1) :
    Except Exc AllocationSlot :=
  if hw : IsFraction weight then
    if hd : ∀ d ∈ durationYears, 0 ≤ d then
      if ht : 1 ≤ liquidityTier ∧ liquidityTier ≤ 3 then
        .ok { assetClass := assetClass
              weight := weight
              durationYears := durationYears
              liquidityTier := liquidityTier
              weightFraction := hw
              durationNonneg := hd
              tierInRange := ht }
      else .error (.validationError "AllocationSlot" "liquidity_tier")
    else .error (.validationError "AllocationSlot" "duration_years")
  else .error (.validationError "AllocationSlot" "weight")

/-- Arguments within their constraints validate. -/
theorem AllocationSlot.validated_ok {assetClass : RiskClass} {weight : ℚ}
    {durationYears : Option ℚ} {liquidityTier : Nat}
    (hw : IsFraction weight) (hd : ∀ d ∈ durationYears, 0 ≤ d)
    (ht : 1 ≤ liquidityTier ∧ liquidityTier ≤ 3) :
    ∃ slot, validated assetClass weight durationYears liquidityTier = .ok slot
      ∧ slot.assetClass = assetClass ∧ slot.weight = weight := by
  unfold validated
  rw [dif_pos hw, dif_pos hd, dif_pos ht]
  exact ⟨_, rfl, rfl, rfl⟩

/-- The constructor with every field given. -/
def AllocationSlot.create (assetClass : RiskClass) (weight : ℚ)
    (durationYears beta : Option ℚ) (liquidityTier : Nat)
    (measurement : MeasurementMode) (label : Option String) :
    Except Exc AllocationSlot :=
  if hw : IsFraction weight then
    if hd : ∀ d ∈ durationYears, 0 ≤ d then
      if hb : ∀ b ∈ beta, 0 ≤ b then
        if ht : 1 ≤ liquidityTier ∧ liquidityTier ≤ 3 then
          .ok { assetClass := assetClass
                weight := weight
                durationYears := durationYears
                beta := beta
                liquidityTier := liquidityTier
                measurement := measurement
                label := label
                weightFraction := hw
                durationNonneg := hd
                betaNonneg := hb
                tierInRange := ht }
        else .error (.validationError "AllocationSlot" "liquidity_tier")
      else .error (.validationError "AllocationSlot" "beta")
    else .error (.validationError "AllocationSlot" "duration_years")
  else .error (.validationError "AllocationSlot" "weight")

section Create

variable {assetClass : RiskClass} {weight : ℚ}
  {durationYears beta : Option ℚ} {liquidityTier : Nat}
  {measurement : MeasurementMode} {label : Option String}

/-- Values within their bounds make a slot. -/
theorem AllocationSlot.create_ok (hw : IsFraction weight)
    (hd : ∀ d ∈ durationYears, 0 ≤ d) (hb : ∀ b ∈ beta, 0 ≤ b)
    (ht : 1 ≤ liquidityTier ∧ liquidityTier ≤ 3) :
    ∃ slot, create assetClass weight durationYears beta liquidityTier
      measurement label = .ok slot := by
  unfold create
  rw [dif_pos hw, dif_pos hd, dif_pos hb, dif_pos ht]
  exact ⟨_, rfl⟩

/-- A slot has the class and the weight it was made with. -/
theorem AllocationSlot.create_reads {slot : AllocationSlot}
    (h : create assetClass weight durationYears beta liquidityTier
      measurement label = .ok slot) :
    (slot.assetClass, slot.weight) = (assetClass, weight) := by
  unfold create at h
  split at h
  · split at h
    · split at h
      · split at h
        · cases h
          rfl
        · cases h
      · cases h
    · cases h
  · cases h

end Create

/-- Weights sum to one, within a basis point. -/
def WeightsSumToOne (slots : List AllocationSlot) : Prop :=
  |(slots.map (·.weight)).sum - 1| ≤ 1 / 10 ^ 4

instance (slots : List AllocationSlot) : Decidable (WeightsSumToOne slots) :=
  inferInstanceAs (Decidable (_ ≤ _))

/-- `AssetPortfolio`: at least one slot, and weights that sum to one. -/
structure AssetPortfolio where
  portfolioId : Option String
  allocations : List AllocationSlot
  source : String := "synthetic"
  complexity : Option Int := none
  cohortId : Option String := none
  generatorVersion : Option String := none
  seed : Option Int := none
  tensionTags : List String := []
  nonempty : allocations ≠ []
  budget : WeightsSumToOne allocations

/-- The constructor: the two checks, or a validation error. -/
def AssetPortfolio.validated (portfolioId : Option String)
    (allocations : List AllocationSlot) : Except Exc AssetPortfolio :=
  if hne : allocations ≠ [] then
    if hsum : WeightsSumToOne allocations then
      .ok { portfolioId := portfolioId
            allocations := allocations
            nonempty := hne
            budget := hsum }
    else .error (.validationError "AssetPortfolio" "allocations")
  else .error (.validationError "AssetPortfolio" "allocations")

/-- The constructor of a generated portfolio. -/
def AssetPortfolio.create (portfolioId : Option String)
    (allocations : List AllocationSlot) (source : String)
    (complexity : Option Int) (cohortId generatorVersion : Option String)
    (seed : Option Int) (tensionTags : List String) :
    Except Exc AssetPortfolio :=
  if hne : allocations ≠ [] then
    if hsum : WeightsSumToOne allocations then
      .ok { portfolioId := portfolioId
            allocations := allocations
            source := source
            complexity := complexity
            cohortId := cohortId
            generatorVersion := generatorVersion
            seed := seed
            tensionTags := tensionTags
            nonempty := hne
            budget := hsum }
    else .error (.validationError "AssetPortfolio" "allocations")
  else .error (.validationError "AssetPortfolio" "allocations")

/-- Slots that sum to one make a portfolio. -/
theorem AssetPortfolio.create_ok (portfolioId : Option String)
    {allocations : List AllocationSlot} (source : String)
    (complexity : Option Int) (cohortId generatorVersion : Option String)
    (seed : Option Int) (tensionTags : List String)
    (hne : allocations ≠ []) (hsum : WeightsSumToOne allocations) :
    ∃ portfolio, create portfolioId allocations source complexity cohortId
        generatorVersion seed tensionTags = .ok portfolio
      ∧ portfolio.allocations = allocations := by
  unfold create
  rw [dif_pos hne, dif_pos hsum]
  exact ⟨_, rfl, rfl⟩

/-- `RiskHorizon`: positive, at most fifty years. -/
structure RiskHorizon where
  years : ℚ
  inRange : 0 < years ∧ years ≤ 50

-- ================================================= household holdings

/-- `_TICKER_MAP`, with `_DEFAULT_EQUITY` for every other ticker. -/
def tickerClass (ticker : Option String) : RiskClass × Nat :=
  match ticker.getD "" with
  | "VTI" => (.equity, 1)
  | "AAPL" => (.equity, 1)
  | "BND" => (.fixedIncome, 1)
  | _ => (.equity, 1)

/-- Market value and liquidity tier by class, as gathered so far. -/
structure ClassHoldings where
  classMv : Dict RiskClass ℚ := Dict.empty
  liquidity : Dict RiskClass Nat := Dict.empty

/-- What one lot adds: nothing without a positive market value. -/
def ClassHoldings.addPosition (held : ClassHoldings) (pos : LotPositionView) :
    ClassHoldings :=
  match pos.marketValue with
  | none => held
  | some marketValue =>
      if marketValue ≤ 0 then held
      else
        let (assetClass, tier) := tickerClass pos.ticker
        { classMv := held.classMv.add assetClass marketValue
          liquidity := held.liquidity.set assetClass
            (min ((held.liquidity.get? assetClass).getD tier) tier) }

/-- What one holding adds, at tier three: nothing without a positive NAV. -/
def ClassHoldings.addAlternative (held : ClassHoldings)
    (alt : AlternativeHoldingView) : ClassHoldings :=
  if alt.currentNav ≤ 0 then held
  else
    { classMv := held.classMv.add .alternatives alt.currentNav
      liquidity := held.liquidity.set .alternatives 3 }

/-- The duration a built slot carries. -/
def builtDuration : RiskClass → Option ℚ
  | .fixedIncome => some (65 / 10)
  | .alternatives => some 7
  | _ => none

/-- `build_portfolio_from_holdings`: lots first, then holdings, one slot a
class. -/
def buildPortfolioFromHoldings (householdId : String)
    (positions : List LotPositionView)
    (altHoldings : List AlternativeHoldingView) :
    Except Exc AssetPortfolio := do
  let held := altHoldings.foldl ClassHoldings.addAlternative
    (positions.foldl ClassHoldings.addPosition {})
  let total := held.classMv.values.sum
  if total ≤ 0 then
    throw (.valueError "No markable household value for risk evaluation")
  else
    let classes := held.classMv.keys.mergeSort fun c c' =>
      decide (c.value ≤ c'.value)
    let allocations ← classes.mapM fun assetClass =>
      AllocationSlot.validated assetClass
        ((held.classMv.get? assetClass).getD 0 / total)
        (builtDuration assetClass)
        ((held.liquidity.get? assetClass).getD 1)
    AssetPortfolio.validated (some householdId) allocations

end Warehouse
