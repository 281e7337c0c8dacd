/-
The HNW leaf taxonomy and the manifests built from it
(`research/synthetic/hnw_asset_types.py`, `hnw_manifest.py`), the
combinatorial harness that walks them through the risk service
(`stress_harness.py`), and the suite that reports on it
(`asset_test_suite.py`).

The harness records what it meets and never raises. A report is kept as the
cell and the evaluation its JSON spells; the suite's directory is a table of
them by file name.

# Equal weights

The unit is one over the number of leaves, rounded to seven places; every
leaf but the last weighs the unit, and the last what is left of one. A leaf
no policy may hold makes the manifest an exclusion, whatever the other
leaves are.

# Kinds of failure

An exclusion and an exception are two statuses of a cell: the one is the
harness's own error, the other anything else, given by its type and text.
-/
import Warehouse.Lib.Combinations
import Warehouse.Research.Service

namespace Warehouse

open Lib

-- ================================================================ taxonomy

/-- Fifteen HNW asset categories, A to O. -/
inductive HnwAssetType where
  | operatingBusiness
  | publicEquity
  | realEstate
  | peVc
  | fixedIncomeCash
  | retirementTaxAdv
  | concentratedEmployer
  | privateCredit
  | hedgeFunds
  | realAssetsCommodities
  | artCollectibles
  | cryptocurrency
  | insuranceAnnuities
  | philanthropic
  | personalUse
  deriving DecidableEq, Repr

/-- The asset type as reports spell it. -/
def HnwAssetType.value : HnwAssetType → String
  | operatingBusiness => "operating_business"
  | publicEquity => "public_equity"
  | realEstate => "real_estate"
  | peVc => "pe_vc"
  | fixedIncomeCash => "fixed_income_cash"
  | retirementTaxAdv => "retirement_tax_adv"
  | concentratedEmployer => "concentrated_employer"
  | privateCredit => "private_credit"
  | hedgeFunds => "hedge_funds"
  | realAssetsCommodities => "real_assets_commodities"
  | artCollectibles => "art_collectibles"
  | cryptocurrency => "cryptocurrency"
  | insuranceAnnuities => "insurance_annuities"
  | philanthropic => "philanthropic"
  | personalUse => "personal_use"

/-- `HNW_ASSET_TYPES`. -/
def hnwAssetTypes : List HnwAssetType :=
  [.operatingBusiness, .publicEquity, .realEstate, .peVc, .fixedIncomeCash,
   .retirementTaxAdv, .concentratedEmployer, .privateCredit, .hedgeFunds,
   .realAssetsCommodities, .artCollectibles, .cryptocurrency,
   .insuranceAnnuities, .philanthropic, .personalUse]

/-- Per-leaf defaults when projected into a risk manifest. -/
structure HnwAssetSpec where
  assetType : HnwAssetType
  riskClass : RiskClass
  ipsInvestable : Bool
  liquidityTier : Nat
  measurement : MeasurementMode
  durationYears : Option ℚ := none
  beta : Option ℚ := none
  categoryLetter : String := ""
  deriving DecidableEq

/-- `_HNW_SPECS`. -/
def hnwAssetSpec : HnwAssetType → HnwAssetSpec
  | .operatingBusiness =>
      { assetType := .operatingBusiness, riskClass := .alternatives
        ipsInvestable := true, liquidityTier := 3, measurement := .fermi
        durationYears := some 10, categoryLetter := "A" }
  | .publicEquity =>
      { assetType := .publicEquity, riskClass := .equity
        ipsInvestable := true, liquidityTier := 1, measurement := .measurable
        beta := some 1, categoryLetter := "B" }
  | .realEstate =>
      { assetType := .realEstate, riskClass := .alternatives
        ipsInvestable := true, liquidityTier := 3, measurement := .fermi
        durationYears := some 12, categoryLetter := "C" }
  | .peVc =>
      { assetType := .peVc, riskClass := .alternatives
        ipsInvestable := true, liquidityTier := 3, measurement := .fermi
        durationYears := some 7, categoryLetter := "D" }
  | .fixedIncomeCash =>
      { assetType := .fixedIncomeCash, riskClass := .fixedIncome
        ipsInvestable := true, liquidityTier := 1, measurement := .measurable
        durationYears := some (55 / 10), categoryLetter := "E" }
  | .retirementTaxAdv =>
      { assetType := .retirementTaxAdv, riskClass := .equity
        ipsInvestable := true, liquidityTier := 2, measurement := .measurable
        beta := some (95 / 100), categoryLetter := "F" }
  | .concentratedEmployer =>
      { assetType := .concentratedEmployer, riskClass := .equity
        ipsInvestable := true, liquidityTier := 1, measurement := .measurable
        beta := some (15 / 10), categoryLetter := "G" }
  | .privateCredit =>
      { assetType := .privateCredit, riskClass := .alternatives
        ipsInvestable := true, liquidityTier := 2, measurement := .fermi
        durationYears := some 5, categoryLetter := "H" }
  | .hedgeFunds =>
      { assetType := .hedgeFunds, riskClass := .alternatives
        ipsInvestable := true, liquidityTier := 2, measurement := .fermi
        durationYears := some 3, categoryLetter := "I" }
  | .realAssetsCommodities =>
      { assetType := .realAssetsCommodities, riskClass := .commodities
        ipsInvestable := true, liquidityTier := 2, measurement := .fermi
        beta := some (5 / 10), categoryLetter := "J" }
  | .artCollectibles =>
      { assetType := .artCollectibles, riskClass := .alternatives
        ipsInvestable := true, liquidityTier := 3, measurement := .fermi
        durationYears := some 15, categoryLetter := "K" }
  | .cryptocurrency =>
      { assetType := .cryptocurrency, riskClass := .alternatives
        ipsInvestable := true, liquidityTier := 1, measurement := .fermi
        beta := some (12 / 10), categoryLetter := "L" }
  | .insuranceAnnuities =>
      { assetType := .insuranceAnnuities, riskClass := .fixedIncome
        ipsInvestable := true, liquidityTier := 3, measurement := .fermi
        durationYears := some 15, categoryLetter := "M" }
  | .philanthropic =>
      { assetType := .philanthropic, riskClass := .cash
        ipsInvestable := false, liquidityTier := 3, measurement := .fermi
        categoryLetter := "N" }
  | .personalUse =>
      { assetType := .personalUse, riskClass := .commodities
        ipsInvestable := false, liquidityTier := 3, measurement := .fermi
        categoryLetter := "O" }

/-- The types of a combination no policy may hold. -/
def ipsExcludedTypes (types : List HnwAssetType) : List HnwAssetType :=
  types.filter fun t => !(hnwAssetSpec t).ipsInvestable

-- ================================================================ manifests

/-- What building or evaluating a manifest raises: `IpsExcludedError`, or
another. -/
inductive HarnessExc where
  | ipsExcluded (msg : String)
  | raised (err : Exc)
  deriving DecidableEq

/-- An exception that is not the harness's own. -/
def raising {α : Type} : Except Exc α → Except HarnessExc α :=
  Except.mapError .raised

/-- The slot of a leaf. -/
def hnwSlot (t : HnwAssetType) (weight : ℚ) : Except Exc AllocationSlot :=
  let spec := hnwAssetSpec t
  AllocationSlot.create spec.riskClass weight spec.durationYears spec.beta
    spec.liquidityTier spec.measurement (some t.value)

/-- The loop: every type but the last gets the unit, the last the rest. -/
def hnwSlots (unit : ℚ) : ℚ → List HnwAssetType →
    Except Exc (List AllocationSlot)
  | _, [] => .ok []
  | assigned, [last] => do
      let slot ← hnwSlot last (1 - assigned)
      return [slot]
  | assigned, t :: second :: rest => do
      let slot ← hnwSlot t unit
      let slots ← hnwSlots unit (assigned + unit) (second :: rest)
      return slot :: slots

/-- Equal-weight manifest over selected leaf types, one slot per type. -/
def buildManifestFromHnwTypes (types : List HnwAssetType)
    (portfolioId : Option String := none) (seed : Option Int := none) :
    Except HarnessExc AssetPortfolio := do
  if types.isEmpty then
    throw (.raised (.valueError "at least one HNW asset type required"))
  else
    let excluded := ipsExcludedTypes types
    if !excluded.isEmpty then
      throw (.ipsExcluded ("IPS excludes non-investable asset type(s): "
        ++ ", ".intercalate (excluded.map (·.value))))
    else
      let unit := quantize 7 (1 / types.length)
      let allocations ← raising (hnwSlots unit 0 types)
      let pid := if truthy portfolioId then portfolioId.getD ""
        else "hnw-" ++ "-".intercalate (types.map (·.value))
      raising (AssetPortfolio.create (some pid) allocations "synthetic"
        (some types.length) none none seed ["hnw_leaf_combo"])

-- ================================================================== harness

/-- How one combination ended. -/
inductive HarnessStatus where
  | ok
  | ipsExcluded
  | error
  deriving DecidableEq, Repr

/-- The status as reports spell it. -/
def HarnessStatus.value : HarnessStatus → String
  | ok => "ok"
  | ipsExcluded => "ips_excluded"
  | error => "error"

/-- One combinatorial cell: leaf types to risk API outcome. -/
structure HarnessCell where
  types : List String
  combinationSize : Nat
  status : HarnessStatus
  fingerprint : Option String := none
  annualizedVol : Option ℚ := none
  error : Option String := none
  deriving DecidableEq

/-- Leaf-type tuples from `minSize` up to `maxSize`. -/
def iterHnwCombinations (maxSize : Option Nat) (minSize : Nat) :
    List (List HnwAssetType) :=
  let upper := maxSize.getD hnwAssetTypes.length
  (List.range' minSize (upper + 1 - minSize)).flatMap fun k =>
    combinations k hnwAssetTypes

/-- `RiskHorizon.parse("5y")`, no scenarios. -/
def harnessRequest : RiskRequest where
  horizon := ⟨5, by norm_num⟩

/-- The evaluation of one combination, or what it raised. -/
def evaluateTypes (rt : RiskRuntime) (types : List HnwAssetType)
    (request : RiskRequest) : Except HarnessExc RiskResult := do
  let manifest ← buildManifestFromHnwTypes types
  raising (evaluateRisk rt request manifest)

/-- The cell an evaluation is recorded as. -/
def recordCell (types : List HnwAssetType) :
    Except HarnessExc RiskResult → HarnessCell
  | .ok result =>
      { types := types.map (·.value)
        combinationSize := types.length
        status := .ok
        fingerprint := some result.report.inputFingerprint
        annualizedVol := some
          result.report.level1Portfolio.annualizedVolatility.value }
  | .error (.ipsExcluded msg) =>
      { types := types.map (·.value)
        combinationSize := types.length
        status := .ipsExcluded
        error := some msg }
  | .error (.raised err) =>
      { types := types.map (·.value)
        combinationSize := types.length
        status := .error
        error := some (err.typeName ++ ": " ++ err.str) }

/-- Evaluate one combination; never raises. -/
def runHarnessCell (rt : RiskRuntime) (types : List HnwAssetType)
    (request : Option RiskRequest) : HarnessCell :=
  recordCell types (evaluateTypes rt types (request.getD harnessRequest))

/-- Run all combinations from `minSize` to `maxSize`. -/
def runCombinationMatrix (rt : RiskRuntime) (maxSize : Option Nat := none)
    (minSize : Nat := 1) (request : Option RiskRequest := none) :
    List HarnessCell :=
  (iterHnwCombinations maxSize minSize).map fun combo =>
    runHarnessCell rt combo request

/-- Count outcomes by status. -/
def summarizeMatrix (cells : List HarnessCell) : Dict String Nat :=
  cells.foldl (fun counts cell => counts.add cell.status.value 1)
    (Dict.ofPairs [("ok", 0), ("ips_excluded", 0), ("error", 0)])

-- ==================================================================== suite

/-- Which of the two suites is run. -/
inductive AssetTestPhase where
  | a
  | b
  deriving DecidableEq, Repr

/-- A cell beside the report it was written to. -/
structure AssetTestCellResult extends HarnessCell where
  reportPath : Option String := none
  deriving DecidableEq

/-- The cells of one suite, and where they were written. -/
structure AssetTestSuiteResult where
  phase : AssetTestPhase
  cellsRun : Nat
  summary : Dict String Nat
  reportsDir : String
  cells : List AssetTestCellResult

/-- A report: the cell, with the evaluation when there is one. -/
structure CellReport where
  cell : HarnessCell
  riskEval : Option RiskResult

/-- `_MAX_JOINED_STEM_LEN`. -/
def maxJoinedStemLen : Nat := 200

/-- Stable report name, hashed when it is too long. -/
def cellFilename (sha256 : String → String) : List String → String
  | [only] => only ++ ".json"
  | types =>
      let joined := "__".intercalate types
      if joined.length ≤ maxJoinedStemLen then joined ++ ".json"
      else
        let digest := String.ofList ((sha256 joined).toList.take 12)
        "n" ++ toString types.length ++ "_" ++ digest ++ ".json"

/-- `_evaluate_cell`. -/
def evaluateCell (rt : RiskRuntime) (types : List HnwAssetType)
    (request : RiskRequest) : CellReport :=
  let outcome := evaluateTypes rt types request
  { cell := recordCell types outcome
    riskEval := outcome.toOption }

/-- The combinations of a phase: the singles, or the rest. -/
def phaseCombinations (phase : AssetTestPhase) (phaseBMaxSize : Option Nat) :
    List (List HnwAssetType) :=
  match phase with
  | .a => hnwAssetTypes.map fun t => [t]
  | .b => iterHnwCombinations phaseBMaxSize 2

/-- The directory of a phase's reports. -/
def phaseDir (root : String) : AssetTestPhase → String
  | .a => root ++ "/phase_a"
  | .b => root ++ "/phase_b"

/-- One turn of the suite's loop: evaluate, write the report. -/
def runSuiteCell (rt : RiskRuntime) (sha256 : String → String)
    (dir : String) (request : RiskRequest)
    (st : List AssetTestCellResult × Dict String CellReport)
    (combo : List HnwAssetType) :
    List AssetTestCellResult × Dict String CellReport :=
  let report := evaluateCell rt combo request
  let name := cellFilename sha256 report.cell.types
  (st.1 ++ [{ report.cell with reportPath := some (dir ++ "/" ++ name) }],
    st.2.set name report)

/-- Run phase A (singles) or phase B (combinations of two and more), over
the reports found in the phase's directory. -/
def runAssetTestSuite (rt : RiskRuntime) (sha256 : String → String)
    (root : String) (phase : AssetTestPhase) (request : Option RiskRequest)
    (phaseBMaxSize : Option Nat) (reports : Dict String CellReport) :
    AssetTestSuiteResult × Dict String CellReport :=
  let dir := phaseDir root phase
  let (cells, reports) := (phaseCombinations phase phaseBMaxSize).foldl
    (runSuiteCell rt sha256 dir (request.getD harnessRequest)) ([], reports)
  ({ phase := phase
     cellsRun := cells.length
     summary := summarizeMatrix (cells.map (·.toHarnessCell))
     reportsDir := dir
     cells := cells }, reports)

end Warehouse
