/-
IPS persistence and loading (`decision/ips/store.py`, and `IpsPolicyRow`
of `infra/db/models.py`).

Stored decimals are texts, so a statement is taken here as it is spelled:
`SpelledStatement` has the numerals, its `statement` their values. A JSON
column holds the value its text spells: dumping and loading strings,
lists and string-keyed objects of them is the identity. Of several
invalid fields of a record the first is the one named.

The row order is what the engine does with ties of `ORDER BY version`.
-/
import Warehouse.Decision.Ips
import Warehouse.Lib.Decimal
import Warehouse.Lib.Runs
import Mathlib.Data.List.Sort

namespace Warehouse

open Lib

-- ================================================================= records

/-- A sleeve target as it is spelled. -/
structure SpelledTarget where
  assetClass : IpsSleeve
  minWeight : Decimal
  maxWeight : Decimal
  targetWeight : Decimal
  minFraction : IsFraction minWeight.value
  maxFraction : IsFraction maxWeight.value
  targetFraction : IsFraction targetWeight.value

/-- A policy statement as it is spelled. -/
structure SpelledStatement where
  ipsId : String
  householdId : String
  version : Int
  effectiveDate : String
  allocationTargets : List SpelledTarget
  restrictedSecurities : List String
  concentrationLimitPct : Decimal
  liquidityTierMinPct : Option Decimal
  turnoverBudgetPct : Option Decimal
  concentrationFraction : IsFraction concentrationLimitPct.value
  liquidityFraction : ∀ d ∈ liquidityTierMinPct, IsFraction d.value
  turnoverFraction : ∀ d ∈ turnoverBudgetPct, IsFraction d.value

/-- The target without the spelling of its weights. -/
def SpelledTarget.target (t : SpelledTarget) : AllocationTarget where
  assetClass := t.assetClass
  minWeight := t.minWeight.value
  maxWeight := t.maxWeight.value
  targetWeight := t.targetWeight.value
  minFraction := t.minFraction
  maxFraction := t.maxFraction
  targetFraction := t.targetFraction

theorem isFraction_map_value {d : Option Decimal}
    (h : ∀ x ∈ d, IsFraction x.value) :
    ∀ q ∈ d.map Decimal.value, IsFraction q := by
  intro q hq
  obtain ⟨x, hx, rfl⟩ := Option.map_eq_some_iff.mp hq
  exact h x hx

/-- The statement the numerals spell. -/
def SpelledStatement.statement (s : SpelledStatement) :
    InvestmentPolicyStatement where
  ipsId := s.ipsId
  householdId := s.householdId
  version := s.version
  effectiveDate := s.effectiveDate
  allocationTargets := s.allocationTargets.map SpelledTarget.target
  restrictedSecurities := s.restrictedSecurities
  concentrationLimitPct := s.concentrationLimitPct.value
  liquidityTierMinPct := s.liquidityTierMinPct.map Decimal.value
  turnoverBudgetPct := s.turnoverBudgetPct.map Decimal.value
  concentrationFraction := s.concentrationFraction
  liquidityFraction := isFraction_map_value s.liquidityFraction
  turnoverFraction := isFraction_map_value s.turnoverFraction

/-- A row of `ips_policies`. -/
structure IpsPolicyRow where
  ipsId : String
  householdId : String
  version : Int
  effectiveDate : String
  allocation : List (Dict String String)
  restricted : List String := []
  constraints : Dict String (Option String) := Dict.empty

-- ================================================================= writing

/-- `AllocationTarget.model_dump(mode="json")`. -/
def SpelledTarget.modelDump (t : SpelledTarget) : Dict String String :=
  Dict.ofPairs
    [("asset_class", t.assetClass.value),
     ("min_weight", t.minWeight.str),
     ("max_weight", t.maxWeight.str),
     ("target_weight", t.targetWeight.str)]

/-- A limit is written where the statement has one. -/
def setIfPresent (payload : Dict String (Option String)) (key : String)
    (limit : Option Decimal) : Dict String (Option String) :=
  match limit with
  | none => payload
  | some d => payload.set key (some d.str)

/-- `_constraints_to_json`: the limits as text, the optional ones only where
set. -/
def constraintsToJson (ips : SpelledStatement) : Dict String (Option String) :=
  let payload := Dict.ofPairs
    [("concentration_limit_pct", some ips.concentrationLimitPct.str)]
  let payload := setIfPresent payload "liquidity_tier_min_pct"
    ips.liquidityTierMinPct
  setIfPresent payload "turnover_budget_pct" ips.turnoverBudgetPct

/-- The row a statement is saved as. -/
def ipsPolicyRow (ips : SpelledStatement) : IpsPolicyRow where
  ipsId := ips.ipsId
  householdId := ips.householdId
  version := ips.version
  effectiveDate := ips.effectiveDate
  allocation := ips.allocationTargets.map SpelledTarget.modelDump
  restricted := ips.restrictedSecurities
  constraints := constraintsToJson ips

-- ================================================================= reading

/-- `IpsSleeve(value)`. -/
def IpsSleeve.ofValue (value : String) : Except Exc IpsSleeve :=
  match IpsSleeve.all.find? fun s => s.value = value with
  | some s => .ok s
  | none => .error (.valueError (reprText value ++ " is not a valid IpsSleeve"))

/-- Load sleeve from persisted JSON; map legacy demo values. -/
def parseIpsSleeve (value : String) : Except Exc IpsSleeve :=
  if value = "etf" then .ok .equity else IpsSleeve.ofValue value

/-- `Field(ge=0, le=1)` on a decimal. -/
def checkFraction (model field : String) (d : Decimal) :
    Except Exc { d : Decimal // IsFraction d.value } :=
  if h : IsFraction d.value then .ok ⟨d, h⟩
  else .error (.validationError model field)

/-- A weight of a stored target; a target without it, or with a text that
spells no decimal, is not valid. -/
def readWeight (item : Dict String String) (field : String) :
    Except Exc { d : Decimal // IsFraction d.value } :=
  match (item.get? field).bind Decimal.parse with
  | none => .error (.validationError "AllocationTarget" field)
  | some d => checkFraction "AllocationTarget" field d

/-- `AllocationTarget(**{**item, "asset_class": ...})`. -/
def allocationTarget (item : Dict String String) :
    Except Exc SpelledTarget := do
  match item.get? "asset_class" with
  | none => .error (.keyError "asset_class")
  | some value =>
      let assetClass ← parseIpsSleeve value
      let minWeight ← readWeight item "min_weight"
      let maxWeight ← readWeight item "max_weight"
      let targetWeight ← readWeight item "target_weight"
      return {
        assetClass := assetClass
        minWeight := minWeight.val
        maxWeight := maxWeight.val
        targetWeight := targetWeight.val
        minFraction := minWeight.property
        maxFraction := maxWeight.property
        targetFraction := targetWeight.property }

/-- `_decimal_or_none`: text that is no decimal raises. -/
def decimalOrNone : Option String → Except Exc (Option Decimal)
  | none => .ok none
  | some text =>
      match Decimal.parse text with
      | none => .error (.invalidOperation
          "[<class 'decimal.ConversionSyntax'>]")
      | some d => .ok (some d)

/-- One of `_CONSTRAINT_KEYS`; a key the column does not have reads as
one whose value is null. -/
def readLimit (data : Dict String (Option String)) (key : String) :
    Except Exc (Option Decimal) :=
  decimalOrNone ((data.get? key).getD none)

/-- The limit of a row that states none. -/
def defaultConcentrationLimit : Decimal where
  coefficient := 25
  exponent := -2

theorem fractions_none : ∀ x ∈ (none : Option Decimal), IsFraction x.value :=
  nofun

theorem fractions_some {d : Decimal} (h : IsFraction d.value) :
    ∀ x ∈ some d, IsFraction x.value := by
  intro x hx
  cases hx
  exact h

/-- The constructor's check of an optional fraction. -/
def checkOptional (model field : String) : Option Decimal →
    Except Exc { d : Option Decimal // ∀ x ∈ d, IsFraction x.value }
  | none => .ok ⟨none, fractions_none⟩
  | some d => do
      let d ← checkFraction model field d
      return ⟨some d.val, fractions_some d.property⟩

/-- The statement a row is read back as, validated again. -/
def rowToIps (row : IpsPolicyRow) : Except Exc SpelledStatement := do
  let rawConcentration ← readLimit row.constraints "concentration_limit_pct"
  let liquidity ← readLimit row.constraints "liquidity_tier_min_pct"
  let turnover ← readLimit row.constraints "turnover_budget_pct"
  let concentration := rawConcentration.getD defaultConcentrationLimit
  let targets ← row.allocation.mapM allocationTarget
  let concentration ← checkFraction "InvestmentPolicyStatement"
    "concentration_limit_pct" concentration
  let liquidity ← checkOptional "InvestmentPolicyStatement"
    "liquidity_tier_min_pct" liquidity
  let turnover ← checkOptional "InvestmentPolicyStatement"
    "turnover_budget_pct" turnover
  return {
    ipsId := row.ipsId
    householdId := row.householdId
    version := row.version
    effectiveDate := row.effectiveDate
    allocationTargets := targets
    restrictedSecurities := row.restricted
    concentrationLimitPct := concentration.val
    liquidityTierMinPct := liquidity.val
    turnoverBudgetPct := turnover.val
    concentrationFraction := concentration.property
    liquidityFraction := liquidity.property
    turnoverFraction := turnover.property }

-- =============================================================== the table

/-- `ips_policies`, under its primary key. -/
structure IpsTable where
  rows : Dict String IpsPolicyRow
  keyed : ∀ e ∈ rows.entries, e.2.ipsId = e.1

theorem IpsTable.keyed_empty :
    ∀ e ∈ (Dict.empty : Dict String IpsPolicyRow).entries, e.2.ipsId = e.1 :=
  List.forall_mem_nil _

/-- The table before the first upsert. -/
def IpsTable.empty : IpsTable := ⟨Dict.empty, IpsTable.keyed_empty⟩

theorem IpsTable.keyed_set (table : IpsTable) (row : IpsPolicyRow) :
    ∀ e ∈ (table.rows.set row.ipsId row).entries, e.2.ipsId = e.1 := by
  rintro ⟨key, entry⟩ he
  rw [Dict.mem_entries_set] at he
  split at he
  · next hkey =>
    subst he
    exact hkey.symm
  · exact table.keyed _ he

/-- `session.merge(row)`: the row under its primary key is overwritten,
whatever household and version it had. -/
def IpsTable.merge (table : IpsTable) (row : IpsPolicyRow) : IpsTable :=
  ⟨table.rows.set row.ipsId row, table.keyed_set row⟩

/-- One saved statement, committed. -/
def saveIps (table : IpsTable) (ips : SpelledStatement) : IpsTable :=
  table.merge (ipsPolicyRow ips)

/-- The table after a sequence of committed saves on a new database. -/
def ipsTableAfter (saves : List SpelledStatement) : IpsTable :=
  Runs.run saveIps IpsTable.empty saves

/-- The order the engine finds a household's rows in. -/
structure IpsRowOrder where
  rows : List IpsPolicyRow → List IpsPolicyRow
  rowsPerm : ∀ found, (rows found).Perm found

/-- The order a household's policies are listed in. -/
def newestVersion (a b : IpsPolicyRow) : Prop := b.version ≤ a.version

instance : DecidableRel newestVersion := fun a b =>
  inferInstanceAs (Decidable (b.version ≤ a.version))

/-- The household's policy of highest version, read back. -/
def loadIps (order : IpsRowOrder) (table : IpsTable) (householdId : String) :
    Except Exc (Option SpelledStatement) :=
  let found := table.rows.values.filter fun row =>
    row.householdId = householdId
  match ((order.rows found).insertionSort newestVersion).head? with
  | none => .ok none
  | some row => (rowToIps row).map some

end Warehouse
