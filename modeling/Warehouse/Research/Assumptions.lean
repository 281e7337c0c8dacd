/-
Version-pinned risk priors and the scenario catalog
(`research/risk/assumptions.py`, `scenarios.py`).

The per-class tables are total: every assumption set is built from the
pinned tables, one prior per class. A correlation is keyed by the
unordered pair of classes. The positive-semidefiniteness check at
registration is left out: the catalog's three sets pass it.

# Regimes

The high-risk and the low-risk set are built from a base set by one
function: volatilities and shortfall multipliers are scaled, and every
correlation is moved towards the crisis value or towards zero. The catalog
has the base and both of its regimes; a set of another name is a caller's
own.
-/
import Warehouse.Python
import Warehouse.Lib.Dict
import Mathlib.Data.Sym.Sym2

namespace Warehouse

open Lib

/-- `research.risk.models.AssetClass`. -/
inductive RiskClass where
  | equity
  | fixedIncome
  | commodities
  | fx
  | alternatives
  | cash
  deriving DecidableEq, Repr

/-- The class as the payloads spell it. -/
def RiskClass.value : RiskClass → String
  | equity => "equity"
  | fixedIncome => "fixed_income"
  | commodities => "commodities"
  | fx => "fx"
  | alternatives => "alternatives"
  | cash => "cash"

/-- Frozen, version-pinned assumption set for one regime. -/
structure RiskAssumptions where
  regime : String
  modelVersion : String
  stressPackVersion : String
  volWindowDays : Int
  varAlpha : ℚ
  esAlpha : ℚ
  fermiConfidenceWidth : ℚ
  classAnnualVol : RiskClass → ℚ
  classExpectedReturn : RiskClass → ℚ
  defaultClassCorrelation : ℚ
  classCorrelations : Dict (Sym2 RiskClass) ℚ
  fermiVolMultiplier : ℚ
  zScores : Dict String ℚ
  esMultipliers : Dict String ℚ
  stressScenarios : Dict String (Dict RiskClass ℚ)

/-- `pairwise_correlation`: one on the diagonal, else the pair's entry or the
default. -/
def RiskAssumptions.pairwiseCorrelation (assumptions : RiskAssumptions)
    (left right : RiskClass) : ℚ :=
  if left = right then 1
  else (assumptions.classCorrelations.get? s(left, right)).getD
    assumptions.defaultClassCorrelation

-- ================================================================== tables

/-- `CLASS_ANNUAL_VOL`. -/
def classAnnualVol : RiskClass → ℚ
  | .equity => 160 / 1000
  | .fixedIncome => 60 / 1000
  | .commodities => 200 / 1000
  | .fx => 80 / 1000
  | .alternatives => 250 / 1000
  | .cash => 10 / 1000

/-- `CLASS_EXPECTED_RETURN`. -/
def classExpectedReturn : RiskClass → ℚ
  | .equity => 70 / 1000
  | .fixedIncome => 40 / 1000
  | .commodities => 50 / 1000
  | .fx => 20 / 1000
  | .alternatives => 90 / 1000
  | .cash => 30 / 1000

/-- `DEFAULT_CLASS_CORRELATION`: what a pair absent from the table gets. -/
def defaultClassCorrelation : ℚ := 25 / 100

/-- Normal-regime priors. -/
def classCorrelations : Dict (Sym2 RiskClass) ℚ :=
  Dict.ofPairs
    [(s(.equity, .fixedIncome), -20 / 100),
     (s(.equity, .commodities), 35 / 100),
     (s(.equity, .fx), -15 / 100),
     (s(.equity, .alternatives), 55 / 100),
     (s(.fixedIncome, .commodities), 10 / 100),
     (s(.fixedIncome, .fx), 20 / 100),
     (s(.fixedIncome, .alternatives), 30 / 100),
     (s(.fixedIncome, .cash), 5 / 100),
     (s(.commodities, .fx), 15 / 100),
     (s(.commodities, .alternatives), 40 / 100),
     (s(.fx, .alternatives), 25 / 100),
     (s(.equity, .cash), 0),
     (s(.commodities, .cash), 0),
     (s(.fx, .cash), 0),
     (s(.alternatives, .cash), 0)]

/-- `DEFAULT_BETA`. -/
def defaultBeta : RiskClass → ℚ
  | .equity => 1
  | .fixedIncome => 0
  | .commodities => 5 / 10
  | .fx => 3 / 10
  | .alternatives => 6 / 10
  | .cash => 0

/-- `DEFAULT_DURATION_YEARS`. -/
def defaultDurationYears : RiskClass → ℚ
  | .equity => 0
  | .fixedIncome => 6
  | .commodities => 0
  | .fx => 0
  | .alternatives => 7
  | .cash => 25 / 100

/-- `Z_SCORES`, keyed by the stripped alpha. -/
def pinnedZScores : Dict String ℚ :=
  Dict.ofPairs [("0.95", 1644853626951472 / 10 ^ 15),
    ("0.975", 1959963984540054 / 10 ^ 15)]

/-- `ES_MULTIPLIERS`, under the same keys. -/
def pinnedEsMultipliers : Dict String ℚ :=
  Dict.ofPairs [("0.95", 2062671 / 10 ^ 6), ("0.975", 2337803 / 10 ^ 6)]

/-- `LIQUIDITY_DAYS_BY_TIER`; a slot's tier is 1, 2 or 3. -/
def liquidityDaysByTier : Nat → ℚ
  | 1 => 1
  | 2 => 30
  | _ => 180

/-- One scenario's shocks, in the order the source lists the classes. -/
def shockTable (equity fixedIncome commodities fx alternatives cash : ℚ) :
    Dict RiskClass ℚ :=
  Dict.ofPairs [(.equity, equity), (.fixedIncome, fixedIncome),
    (.commodities, commodities), (.fx, fx), (.alternatives, alternatives),
    (.cash, cash)]

/-- `STRESS_SCENARIOS`: the three replayed packs. -/
def pinnedStressScenarios : Dict String (Dict RiskClass ℚ) :=
  Dict.ofPairs
    [("2008_liquidity", shockTable (-38 / 100) (5 / 100) (-25 / 100) (8 / 100)
        (-30 / 100) (1 / 100)),
     ("2020_pandemic", shockTable (-34 / 100) (8 / 100) (-28 / 100) (5 / 100)
        (-22 / 100) 0),
     ("2022_inflation", shockTable (-25 / 100) (-15 / 100) (12 / 100)
        (-5 / 100) (-10 / 100) (-2 / 100))]

-- =============================================================== scenarios

/-- `HIGH_VOL_MULTIPLIER`. -/
def highVolMultiplier : ℚ := 14 / 10

/-- `LOW_VOL_MULTIPLIER`. -/
def lowVolMultiplier : ℚ := 85 / 100

/-- `HIGH_ES_MULTIPLIER`. -/
def highEsMultiplier : ℚ := 115 / 100

/-- `LOW_ES_MULTIPLIER`. -/
def lowEsMultiplier : ℚ := 90 / 100

/-- `CRISIS_CORRELATION`: what the high regime pulls every pair towards. -/
def crisisCorrelation : ℚ := 85 / 100

/-- `CRISIS_BLEND`: how far it pulls. -/
def crisisBlend : ℚ := 80 / 100

/-- `BENIGN_CORRELATION_SCALE`: what the low regime multiplies every pair by. -/
def benignCorrelationScale : ℚ := 50 / 100

/-- The pinned defaults. -/
def baseAssumptions : RiskAssumptions where
  regime := "base"
  modelVersion := "2026.02"
  stressPackVersion := "2026.01"
  volWindowDays := 252
  varAlpha := 95 / 100
  esAlpha := 975 / 1000
  fermiConfidenceWidth := 15 / 100
  classAnnualVol := classAnnualVol
  classExpectedReturn := classExpectedReturn
  defaultClassCorrelation := defaultClassCorrelation
  classCorrelations := classCorrelations
  fermiVolMultiplier := 135 / 100
  zScores := pinnedZScores
  esMultipliers := pinnedEsMultipliers
  stressScenarios := pinnedStressScenarios

/-- Towards the crisis correlation, or scaled down. -/
def transformCorrelation (crisis : Bool) (rho : ℚ) : ℚ :=
  if crisis then rho + (crisisCorrelation - rho) * crisisBlend
  else rho * benignCorrelationScale

/-- The pinned defaults with the vols, correlations and ES multipliers of
`base`, scaled and transformed. -/
def regimeFrom (base : RiskAssumptions) (regime : String)
    (volMultiplier esMultiplier : ℚ) (crisis : Bool) : RiskAssumptions :=
  { baseAssumptions with
    regime := regime
    classAnnualVol := fun c => base.classAnnualVol c * volMultiplier
    defaultClassCorrelation :=
      transformCorrelation crisis base.defaultClassCorrelation
    classCorrelations :=
      base.classCorrelations.mapValues (transformCorrelation crisis)
    esMultipliers := base.esMultipliers.mapValues (· * esMultiplier) }

/-- `_build_high_risk`: higher volatilities, correlations towards the crisis
value. -/
def buildHighRisk (base : RiskAssumptions) : RiskAssumptions :=
  regimeFrom base "high_risk" highVolMultiplier highEsMultiplier true

/-- `_build_low_risk`: lower volatilities, correlations scaled down. -/
def buildLowRisk (base : RiskAssumptions) : RiskAssumptions :=
  regimeFrom base "low_risk" lowVolMultiplier lowEsMultiplier false

/-- `_CATALOG`, as the module registers it. -/
def catalog : Dict String RiskAssumptions :=
  Dict.ofPairs ([baseAssumptions, buildHighRisk baseAssumptions,
    buildLowRisk baseAssumptions].map fun a => (a.regime, a))

/-- `assumptions_for`: the catalogue entry, or a `KeyError`. -/
def assumptionsFor (name : String) : Except Exc RiskAssumptions :=
  match catalog.get? name with
  | none => .error (.keyError ("unknown assumption regime: " ++ name))
  | some assumptions => .ok assumptions

/-- The catalog is its three sets, each under its own regime. -/
theorem assumptionsFor_cases {name : String} {assumptions : RiskAssumptions}
    (h : assumptionsFor name = .ok assumptions) :
    (assumptions = baseAssumptions
      ∨ assumptions = buildHighRisk baseAssumptions
      ∨ assumptions = buildLowRisk baseAssumptions)
    ∧ assumptions.regime = name := by
  unfold assumptionsFor at h
  cases hget : catalog.get? name with
  | none =>
    rw [hget] at h
    cases h
  | some found =>
    rw [hget] at h
    cases h
    have hmem := Dict.get?_eq_some_iff.mp hget
    unfold catalog at hmem
    rw [Dict.entries_ofPairs (by decide)] at hmem
    simp only [List.map_cons, List.map_nil, List.mem_cons, List.not_mem_nil,
      Prod.mk.injEq, or_false] at hmem
    rcases hmem with ⟨rfl, rfl⟩ | ⟨rfl, rfl⟩ | ⟨rfl, rfl⟩
    · exact ⟨Or.inl rfl, rfl⟩
    · exact ⟨Or.inr (Or.inl rfl), rfl⟩
    · exact ⟨Or.inr (Or.inr rfl), rfl⟩

end Warehouse
