/-
Shape B households: the compositional generator
(`research/synthetic/models.py`, `cohort.py`, `pipeline.py`) and its
projection to Shape A (`manifest.py`).

A household is sampled as sleeve weights, each sleeve is emitted as lots
or as an alternative holding, and the marks are aggregated again into an
`AssetPortfolio`. Arithmetic is exact. What a seeded `random.Random` draws
is the runtime's to say, within the range that was asked for.

# Rungs

Below the fourth rung a sleeve is one lot of its proxy; on the fourth the
equity sleeve of some cohorts is split into a concentrated position and the
rest. Alternatives are a holding with scheduled calls on either. What no lot
and no holding stands for is not in the projection.
-/
import Warehouse.Research.RiskModels

namespace Warehouse

open Lib

-- ================================================================== models

/-- One account of an emitted household. -/
structure SyntheticAccount where
  accountId : String
  householdId : String
  name : String
  accountType : String
  deriving DecidableEq

/-- One lot of an emitted household. -/
structure SyntheticLot where
  lotId : String
  accountId : String
  ticker : String
  assetClass : String
  quantity : ℚ
  costBasisPerShare : ℚ
  marketPrice : ℚ
  acquisitionDate : Date
  isLossLot : Bool := false
  concentrationIssuer : Option String := none
  deriving DecidableEq

/-- One scheduled capital call of a holding. -/
structure SyntheticAltCall where
  eventId : String
  holdingId : String
  eventDate : Date
  amount : ℚ
  deriving DecidableEq

/-- One holding of private markets, with its scheduled calls. -/
structure SyntheticAltHolding where
  holdingId : String
  householdId : String
  entityId : String
  name : String
  assetType : String
  committedCapital : ℚ
  calledCapital : ℚ
  unfundedCapital : ℚ
  currentNav : ℚ
  lastMarkDate : Date
  liquidityTier : Nat := 3
  scheduledCalls : List SyntheticAltCall := []
  deriving DecidableEq

/-- Replay fingerprint. -/
structure ProvenanceManifest where
  generatorVersion : String
  seed : Int
  cohortId : String
  axiomSetHash : String
  rung : Int
  ipsScope : String := "investable"
  tensionTags : List String := []
  stageHashes : List String := []
  deriving DecidableEq

/-- Shape B. -/
structure HouseholdFixture where
  householdId : String
  provenance : ProvenanceManifest
  accounts : List SyntheticAccount
  lots : List SyntheticLot
  alternativeHoldings : List SyntheticAltHolding
  assetPortfolio : Option AssetPortfolio := none
  totalNavUsd : ℚ

-- ================================================================= runtime

/-- `random.Random(seed)`: what it draws, by the place of the draw. -/
structure SeededRandom where
  random : Int → Nat → ℚ
  uniform : Int → Nat → ℚ → ℚ → ℚ
  randint : Int → Nat → Int → Int → Int
  randomRange : ∀ seed i, 0 ≤ random seed i ∧ random seed i < 1
  uniformRange : ∀ seed i low high, low ≤ high →
    low ≤ uniform seed i low high ∧ uniform seed i low high ≤ high
  randintRange : ∀ seed i low high, low ≤ high →
    low ≤ randint seed i low high ∧ randint seed i low high ≤ high

/-- What the generator takes from outside: the draws, SHA-256 and the text
of a list of weights. -/
structure SyntheticRuntime extends SeededRandom where
  sha256 : String → String
  itemsText : List (RiskClass × ℚ) → String

-- ================================================================= cohorts

/-- `GENERATOR_VERSION`: part of every provenance record. -/
def generatorVersion : String := "2026.03"

/-- The label of the generator's axiom set. -/
def axiomSetHash : String := "hnw-sdg-v1"

/-- `_SLEEVE_RANGES`, each cohort's in the order of its dictionary. -/
def sleeveRanges : String → Option (List (RiskClass × ℚ × ℚ))
  | "general_hnw" => some
      [(.equity, 45 / 100, 65 / 100),
       (.fixedIncome, 15 / 100, 30 / 100),
       (.cash, 5 / 100, 15 / 100),
       (.alternatives, 5 / 100, 15 / 100)]
  | "uhnw_inherited" => some
      [(.equity, 35 / 100, 50 / 100),
       (.alternatives, 20 / 100, 35 / 100),
       (.fixedIncome, 10 / 100, 20 / 100),
       (.cash, 5 / 100, 10 / 100),
       (.commodities, 2 / 100, 8 / 100)]
  | "founder_executive" => some
      [(.equity, 50 / 100, 80 / 100),
       (.alternatives, 5 / 100, 20 / 100),
       (.fixedIncome, 5 / 100, 15 / 100),
       (.cash, 5 / 100, 15 / 100)]
  | "concentrated_stress" => some
      [(.equity, 70 / 100, 90 / 100),
       (.fixedIncome, 5 / 100, 15 / 100),
       (.cash, 5 / 100, 10 / 100)]
  | _ => none

/-- The draws of a cohort, one for each of its sleeves. -/
def rawWeights (rng : SeededRandom) (seed : Int)
    (ranges : List (RiskClass × ℚ × ℚ)) : List (RiskClass × ℚ) :=
  ranges.zipIdx.map fun (range, i) =>
    (range.1, rng.uniform seed i range.2.1 range.2.2)

/-- The loop over the draws: every sleeve takes its rounded share of the
total, the last one what is left. -/
def shareOut (total assigned : ℚ) :
    List (RiskClass × ℚ) → List (RiskClass × ℚ)
  | [] => []
  | [(assetClass, _)] => [(assetClass, 1 - assigned)]
  | (assetClass, raw) :: next :: rest =>
      let weight := quantize 7 (raw / total)
      (assetClass, weight) :: shareOut total (assigned + weight) (next :: rest)

/-- One weight a class drawn within the cohort's ranges, normalised; an unknown
cohort is a `KeyError`. -/
def sampleSleeveWeights (rng : SeededRandom) (cohortId : String)
    (seed : Int) : Except Exc (Dict RiskClass ℚ) :=
  match sleeveRanges cohortId with
  | none => .error (.keyError ("unknown cohort_id: " ++ cohortId))
  | some ranges =>
      let raw := rawWeights rng seed ranges
      .ok (Dict.ofPairs (shareOut (raw.map Prod.snd).sum 0 raw))

/-- What a cohort is meant to put under tension. -/
def tensionTagsFor (cohortId : String) : List String :=
  if cohortId = "concentrated_stress" then
    ["concentration_cap", "liquidity_mismatch"]
  else if cohortId = "founder_executive" then ["issuer_concentration"]
  else if cohortId = "uhnw_inherited" then
    ["illiquid_alts", "trust_structure"]
  else ["ips_drift_headroom"]

-- ================================================================== emission

/-- `_BASE_DATE`. -/
def baseDate : Date := dateOf 2024 1 15

/-- Twelve characters of the digest of one stage. -/
def stageHash (rt : SyntheticRuntime) (stage payload : String) : String :=
  String.ofList ((rt.sha256 (stage ++ ":" ++ payload)).toList.take 12)

/-- The accounts a cohort's household holds. -/
def buildAccounts (householdId cohortId : String) : List SyntheticAccount :=
  let account suffix name accountType : SyntheticAccount :=
    { accountId := householdId ++ suffix
      householdId := householdId
      name := name
      accountType := accountType }
  [account "-taxable" "Taxable" "taxable"]
    ++ (if cohortId = "uhnw_inherited" ∨ cohortId = "founder_executive" then
      [account "-trust" "Irrevocable Trust" "trust"] else [])
    ++ [account "-ira" "IRA" "ira"]

/-- `nav * weights.get(asset_class, Decimal("0"))`. -/
def sleeveNav (weights : Dict RiskClass ℚ) (nav : ℚ) (assetClass : RiskClass) :
    ℚ := nav * (weights.get? assetClass).getD 0

/-- The single-name lots of a concentrated cohort, the first at a loss. -/
def concentratedLots (householdId accountId : String) (perLot : ℚ)
    (lotCount : Nat) : List SyntheticLot :=
  (List.range lotCount).map fun (idx : Nat) =>
    let isLoss := idx == 0
    { lotId := householdId ++ "-aapl-" ++ toString idx
      accountId := accountId
      ticker := "AAPL"
      assetClass := RiskClass.equity.value
      quantity := perLot / 180
      costBasisPerShare := if isLoss then 210 else 150
      marketPrice := 180
      acquisitionDate := dateOf (2020 + (idx : Int)) 3 1
      isLossLot := isLoss
      concentrationIssuer := some "AAPL" }

/-- The broad equity lot, for what the concentrated position leaves. -/
def diversifiedLot (householdId accountId : String) (nav : ℚ) :
    SyntheticLot where
  lotId := householdId ++ "-vti-0"
  accountId := accountId
  ticker := "VTI"
  assetClass := RiskClass.equity.value
  quantity := nav / 220
  costBasisPerShare := 200
  marketPrice := 220
  acquisitionDate := dateOf 2021 6 1

/-- The equity sleeve of `_split_public_lots`. -/
def splitEquityLots (rng : SeededRandom) (householdId accountId : String)
    (equityNav : ℚ) (seed : Int) (cohortId : String) : List SyntheticLot :=
  if cohortId = "founder_executive" ∨ cohortId = "concentrated_stress" then
    let concentrate : ℚ :=
      if cohortId = "concentrated_stress" then 40 / 100 else 25 / 100
    let concentratedNav := equityNav * concentrate
    let diversifiedNav := equityNav - concentratedNav
    let lotCount := rng.randint (seed + 1) 0 3 5
    concentratedLots householdId accountId (concentratedNav / lotCount)
        lotCount.toNat
      ++ (if diversifiedNav > 0 then
        [diversifiedLot householdId accountId diversifiedNav] else [])
  else [diversifiedLot householdId accountId equityNav]

/-- Rung 4. -/
def splitPublicLots (rng : SeededRandom) (householdId accountId : String)
    (weights : Dict RiskClass ℚ) (nav : ℚ) (seed : Int) (cohortId : String) :
    List SyntheticLot :=
  let equityNav := sleeveNav weights nav .equity
  let fiNav := sleeveNav weights nav .fixedIncome
  let cashNav := sleeveNav weights nav .cash
  let commNav := sleeveNav weights nav .commodities
  (if equityNav > 0 then
      splitEquityLots rng householdId accountId equityNav seed cohortId
    else [])
    ++ (if fiNav > 0 then
      [{ lotId := householdId ++ "-bnd-0"
         accountId := accountId
         ticker := "BND"
         assetClass := RiskClass.fixedIncome.value
         quantity := fiNav / 75
         costBasisPerShare := 72
         marketPrice := 75
         acquisitionDate := dateOf 2022 1 1 }] else [])
    ++ (if cashNav > 0 then
      [{ lotId := householdId ++ "-cash-0"
         accountId := accountId
         ticker := "CASH"
         assetClass := RiskClass.cash.value
         quantity := cashNav
         costBasisPerShare := 1
         marketPrice := 1
         acquisitionDate := baseDate }] else [])
    ++ (if commNav > 0 then
      [{ lotId := householdId ++ "-comm-0"
         accountId := accountId
         ticker := "DBC"
         assetClass := RiskClass.commodities.value
         quantity := commNav / 25
         costBasisPerShare := 24
         marketPrice := 25
         acquisitionDate := dateOf 2023 4 1 }] else [])

/-- The specs of `_sleeve_only_lots`: class, ticker, price and basis. -/
def sleeveSpecs : List (RiskClass × String × ℚ × ℚ) :=
  [(.equity, "VTI", 220, 200),
   (.fixedIncome, "BND", 75, 72),
   (.cash, "CASH", 1, 1),
   (.commodities, "DBC", 25, 24)]

/-- Rung 3 — one representative lot per sleeve (no concentration split). -/
def sleeveOnlyLots (householdId accountId : String)
    (weights : Dict RiskClass ℚ) (nav : ℚ) : List SyntheticLot :=
  sleeveSpecs.filterMap fun (assetClass, ticker, price, basis) =>
    let sleeveNav := sleeveNav weights nav assetClass
    if sleeveNav ≤ 0 then none
    else some
      { lotId := householdId ++ "-" ++ lower ticker ++ "-0"
        accountId := accountId
        ticker := ticker
        assetClass := assetClass.value
        quantity := sleeveNav / price
        costBasisPerShare := basis
        marketPrice := price
        acquisitionDate := baseDate }

/-- The loop over the months a call may fall in. -/
structure CallSchedule where
  remaining : ℚ
  draws : Nat := 0
  calls : List SyntheticAltCall := []

/-- One turn: a month is skipped when nothing remains, which draws
nothing, or when the draw says so. -/
def CallSchedule.turn (rng : SeededRandom) (seed : Int) (householdId : String)
    (committed : ℚ) (sched : CallSchedule) (idx : Nat) : CallSchedule :=
  if sched.remaining ≤ 0 then sched
  else if rng.random (seed + 2) sched.draws > 6 / 10 then
    { sched with draws := sched.draws + 1 }
  else
    let amount := min sched.remaining (committed * (10 / 100))
    { remaining := sched.remaining - amount
      draws := sched.draws + 1
      calls := sched.calls ++
        [{ eventId := householdId ++ "-call-" ++ toString idx
           holdingId := householdId ++ "-pe-1"
           eventDate := dateOf 2026 (3 + min (6 * idx) 9) 1
           amount := amount }] }

/-- The alternative holdings of a household: none where the class has no weight. -/
def buildAlts (rng : SeededRandom) (householdId entityId : String)
    (weights : Dict RiskClass ℚ) (nav : ℚ) (seed : Int) :
    List SyntheticAltHolding :=
  let altWeight := (weights.get? .alternatives).getD 0
  if altWeight ≤ 0 then []
  else
    let committed := nav * altWeight * (12 / 10)
    let called := nav * altWeight
    let unfunded := committed - called
    let sched := (List.range 4).foldl
      (CallSchedule.turn rng seed householdId committed)
      { remaining := unfunded }
    [{ holdingId := householdId ++ "-pe-1"
       householdId := householdId
       entityId := entityId
       name := "Synthetic PE Fund I"
       assetType := "private_equity"
       committedCapital := committed
       calledCapital := called
       unfundedCapital := unfunded
       currentNav := called
       lastMarkDate := baseDate
       scheduledCalls := sched.calls }]

-- ================================================================= Shape A

/-- `AssetClass(value)`. -/
def RiskClass.ofValue : String → Except Exc RiskClass
  | "equity" => .ok equity
  | "fixed_income" => .ok fixedIncome
  | "commodities" => .ok commodities
  | "fx" => .ok fx
  | "alternatives" => .ok alternatives
  | "cash" => .ok cash
  | value => .error (.valueError
      (reprText value ++ " is not a valid AssetClass"))

theorem RiskClass.ofValue_value (c : RiskClass) : ofValue c.value = .ok c := by
  cases c <;> rfl

/-- The class of a lot: its own, else by ticker. -/
def lotAssetClass (lot : SyntheticLot) : Except Exc RiskClass :=
  if lot.assetClass ≠ "" then RiskClass.ofValue lot.assetClass
  else
    match lot.ticker with
    | "VTI" => .ok .equity
    | "AAPL" => .ok .equity
    | "BND" => .ok .fixedIncome
    | "SYNPE" => .ok .alternatives
    | _ => .ok .equity

/-- The tier of a class: three for estimates and alternatives, two for
commodities and currencies, else one. -/
def classLiquidityTier (assetClass : RiskClass) (fermi : Bool) : Nat :=
  if fermi ∨ assetClass = .alternatives then 3
  else if assetClass = .commodities ∨ assetClass = .fx then 2
  else 1

/-- `lot.quantity * lot.market_price`. -/
def SyntheticLot.marketValue (lot : SyntheticLot) : ℚ :=
  lot.quantity * lot.marketPrice

/-- Marks by class, as aggregated so far. -/
structure ShapeMarks where
  classMv : Dict RiskClass ℚ := Dict.empty
  liquidity : Dict RiskClass Nat := Dict.empty
  fermiClasses : List RiskClass := []

/-- What one lot adds to the marks of a manifest. -/
def ShapeMarks.addLot (marks : ShapeMarks) (lot : SyntheticLot) :
    Except Exc ShapeMarks := do
  let assetClass ← lotAssetClass lot
  let tier := classLiquidityTier assetClass false
  return { marks with
    classMv := marks.classMv.add assetClass lot.marketValue
    liquidity := marks.liquidity.set assetClass
      (min ((marks.liquidity.get? assetClass).getD tier) tier) }

/-- What one holding adds: value, tier three and the estimate flag. -/
def ShapeMarks.addAlternative (marks : ShapeMarks)
    (alt : SyntheticAltHolding) : ShapeMarks where
  classMv := marks.classMv.add .alternatives alt.currentNav
  liquidity := marks.liquidity.set .alternatives 3
  fermiClasses := marks.fermiClasses.insert .alternatives

/-- The duration a slot of the class is given. -/
def slotDuration : RiskClass → Option ℚ
  | .fixedIncome => some (65 / 10)
  | .alternatives => some 7
  | _ => none

/-- The beta a slot of the class is given; the fourth rung's equity is the
riskier one. -/
def slotBeta (rung : Int) : RiskClass → Option ℚ
  | .equity => some (if rung ≥ 4 then 11 / 10 else 1)
  | _ => none

/-- The label a slot of the class is given. -/
def slotLabel : RiskClass → Option String
  | .alternatives => some "private_markets"
  | _ => none

/-- A class's slot. -/
def ShapeMarks.slot (marks : ShapeMarks) (total : ℚ) (rung : Int)
    (assetClass : RiskClass) : Except Exc AllocationSlot :=
  let measurement : MeasurementMode :=
    if assetClass = .alternatives ∨ assetClass ∈ marks.fermiClasses then .fermi
    else .auto
  AllocationSlot.create assetClass
    ((marks.classMv.get? assetClass).getD 0 / total) (slotDuration assetClass)
    (slotBeta rung assetClass) ((marks.liquidity.get? assetClass).getD 1)
    measurement (slotLabel assetClass)

/-- Aggregate lot marks + alt NAV into sleeve weights (Σ lots = NAV). -/
def projectToAssetPortfolio (fixture : HouseholdFixture) :
    Except Exc AssetPortfolio := do
  let marks ← fixture.lots.foldlM ShapeMarks.addLot {}
  let marks := fixture.alternativeHoldings.foldl ShapeMarks.addAlternative
    marks
  let total := marks.classMv.values.sum
  if total ≤ 0 then
    throw (.valueError "fixture has no markable NAV for Shape A projection")
  else
    let classes := marks.classMv.keys.mergeSort fun c c' =>
      decide (c.value ≤ c'.value)
    let allocations ← classes.mapM
      (marks.slot total fixture.provenance.rung)
    AssetPortfolio.create (some fixture.householdId) allocations "synthetic"
      (some fixture.provenance.rung) (some fixture.provenance.cohortId)
      (some generatorVersion) (some fixture.provenance.seed)
      fixture.provenance.tensionTags

-- ================================================================= fixtures

/-- `household_id or f"synthetic-{cohort_id}-s{seed}"`. -/
def householdIdOr (householdId : Option String) (cohortId : String)
    (seed : Int) : String :=
  match householdId with
  | some given =>
      if given ≠ "" then given
      else "synthetic-" ++ cohortId ++ "-s" ++ toString seed
  | none => "synthetic-" ++ cohortId ++ "-s" ++ toString seed

/-- The fixture before its projection. -/
def assembleFixture (rt : SyntheticRuntime) (cohortId : String)
    (seed rung : Int) (hhId : String) (navUsd : ℚ)
    (weights : Dict RiskClass ℚ) : HouseholdFixture :=
  let accounts := buildAccounts hhId cohortId
  let taxable := (accounts.map (·.accountId)).headD ""
  let entityId := (accounts.map (·.accountId)).getLastD ""
  let lots :=
    if rung = 3 then sleeveOnlyLots hhId taxable weights navUsd
    else splitPublicLots rt.toSeededRandom hhId taxable weights navUsd seed
      cohortId
  let alts := buildAlts rt.toSeededRandom hhId entityId weights navUsd seed
  let lotNav := (lots.map SyntheticLot.marketValue).sum
  let altNav := (alts.map (·.currentNav)).sum
  let items := weights.entries.mergeSort fun e e' =>
    decide (e.1.value ≤ e'.1.value)
  { householdId := hhId
    provenance :=
      { generatorVersion := generatorVersion
        seed := seed
        cohortId := cohortId
        axiomSetHash := axiomSetHash
        rung := rung
        tensionTags := tensionTagsFor cohortId
        stageHashes :=
          [stageHash rt "cohort" cohortId,
           stageHash rt "weights" (rt.itemsText items),
           stageHash rt "lots" (toString lots.length),
           stageHash rt "alts" (toString alts.length)] }
    accounts := accounts
    lots := lots
    alternativeHoldings := alts
    totalNavUsd := lotNav + altNav }

/-- Emit Shape B fixture at rung 3 or 4. -/
def emitHnwFixture (rt : SyntheticRuntime) (cohortId : String)
    (seed rung : Int) (householdId : Option String) (navUsd : ℚ)
    (weights : Option (Dict RiskClass ℚ)) : Except Exc HouseholdFixture := do
  if rung ≠ 3 ∧ rung ≠ 4 then
    throw (.valueError "emit_hnw_fixture supports rung 3 or 4 only")
  else
    let resolved ← match weights with
      | some given => pure given
      | none => sampleSleeveWeights rt.toSeededRandom cohortId seed
    let fixture := assembleFixture rt cohortId seed rung
      (householdIdOr householdId cohortId seed) navUsd resolved
    let shapeA ← projectToAssetPortfolio fixture
    return { fixture with assetPortfolio := some shapeA }

/-- `_weights_from_shape_a`, of a portfolio. -/
def shapeAWeights (portfolio : AssetPortfolio) : Dict RiskClass ℚ :=
  Dict.ofPairs (portfolio.allocations.map fun slot =>
    (slot.assetClass, slot.weight))

end Warehouse
