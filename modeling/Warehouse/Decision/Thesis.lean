/-
Falsifiable theses and the kill-criteria monitor
(`decision/analyst/thesis.py`, and its records of `models.py`).

A thesis is keyed account × instrument, and the store carries that: under
a key there is only a thesis of that key. Breaches are alerts, nothing is
sold.
-/
import Warehouse.Decision.Attribution
import Warehouse.Lib.Dict

namespace Warehouse

open Lib

/-- The four pre-committed kill tests. -/
inductive KillCriterion where
  | drawdownVsCost
  | residualCap
  | liquidityFloor
  | horizon
  deriving DecidableEq, Repr

/-- Pre-specified falsification thresholds; an unset limit is not
evaluated. -/
structure KillCriteria where
  maxDrawdownVsCost : Option ℚ := none
  maxActiveResidual : Option ℚ := none
  minLiquidityTier : Option Int := none
  maxHoldingYears : Option ℚ := none
  deriving DecidableEq

/-- Falsifiable, effective-dated thesis for an instrument in an account. -/
structure PositionThesis where
  accountId : String
  instrument : String
  mechanism : String
  effectiveDate : Date
  killCriteria : KillCriteria
  configVersion : String
  deriving DecidableEq

/-- One tripped kill criterion. -/
structure KillBreach where
  accountId : String
  instrument : String
  criterion : KillCriterion
  observed : ℚ
  threshold : ℚ
  detail : String
  deriving DecidableEq

/-- The instrument of a lot — ticker, else security id. -/
def instrumentKey (position : LotPositionView) : String :=
  match position.ticker with
  | none => position.securityId
  | some ticker => if ticker = "" then position.securityId else ticker

-- =============================================================== the store

/-- In-memory thesis registry keyed `(account_id, instrument)`. -/
structure ThesisStore where
  byKey : Dict (String × String) PositionThesis
  keyed : ∀ e ∈ byKey.entries, (e.2.accountId, e.2.instrument) = e.1

namespace ThesisStore

theorem keyed_empty :
    ∀ e ∈ (Dict.empty : Dict (String × String) PositionThesis).entries,
      (e.2.accountId, e.2.instrument) = e.1 := List.forall_mem_nil _

/-- No thesis is documented. -/
def empty : ThesisStore := ⟨Dict.empty, keyed_empty⟩

theorem keyed_set (store : ThesisStore) (thesis : PositionThesis) :
    ∀ e ∈ (store.byKey.set (thesis.accountId, thesis.instrument)
      thesis).entries, (e.2.accountId, e.2.instrument) = e.1 := by
  rintro ⟨key, entry⟩ he
  rw [Dict.mem_entries_set] at he
  split at he
  · next hkey =>
    subst he
    exact hkey.symm
  · exact store.keyed _ he

/-- Documents a position; the later thesis of a key replaces the earlier. -/
def add (store : ThesisStore) (thesis : PositionThesis) : ThesisStore :=
  ⟨store.byKey.set (thesis.accountId, thesis.instrument) thesis,
    store.keyed_set thesis⟩

/-- Theses documented one after the other. -/
def fromTheses (theses : List PositionThesis) : ThesisStore :=
  theses.foldl add empty

/-- The thesis of a position. -/
def get (store : ThesisStore) (accountId instrument : String) :
    Option PositionThesis :=
  store.byKey.get? (accountId, instrument)

/-- How many positions are documented. -/
def length (store : ThesisStore) : Nat := store.byKey.entries.length

end ThesisStore

-- ============================================================ the four tests

/-- The loss against cost has reached the criterion. -/
def drawdownBreaches (accountId instrument : String) (kc : KillCriteria)
    (totalReturn : ℚ) : List KillBreach :=
  match kc.maxDrawdownVsCost with
  | none => []
  | some limit =>
      if totalReturn ≤ limit then
        [{ accountId := accountId
           instrument := instrument
           criterion := .drawdownVsCost
           observed := totalReturn
           threshold := limit
           detail := "drawdown " ++ formatPercent 2 totalReturn ++ " ≤ kill "
             ++ formatPercent 2 limit }]
      else []

/-- The active return, if there is one, has reached the cap on either side. -/
def residualBreaches (accountId instrument : String) (kc : KillCriteria)
    (activeReturn : Option ℚ) : List KillBreach :=
  match kc.maxActiveResidual, activeReturn with
  | some cap, some active =>
      if |active| ≥ cap then
        [{ accountId := accountId
           instrument := instrument
           criterion := .residualCap
           observed := active
           threshold := cap
           detail := "|active return| " ++ formatPercent 2 |active| ++ " ≥ cap "
             ++ formatPercent 2 cap }]
      else []
  | _, _ => []

/-- The position is at a worse tier than the criterion allows. -/
def liquidityBreaches (accountId instrument : String) (kc : KillCriteria)
    (liquidityTier : Nat) : List KillBreach :=
  match kc.minLiquidityTier with
  | none => []
  | some floor =>
      if (liquidityTier : Int) > floor then
        [{ accountId := accountId
           instrument := instrument
           criterion := .liquidityFloor
           observed := liquidityTier
           threshold := floor
           detail := "liquidity tier " ++ toString liquidityTier
             ++ " worse than floor " ++ toString floor }]
      else []

/-- The position is held for longer than the criterion allows. -/
def horizonBreaches (ctx : DecimalContext) (accountId instrument : String)
    (kc : KillCriteria) (holdingYears : ℚ) : List KillBreach :=
  match kc.maxHoldingYears with
  | none => []
  | some limit =>
      if holdingYears > limit then
        [{ accountId := accountId
           instrument := instrument
           criterion := .horizon
           observed := quantize 2 holdingYears
           threshold := limit
           detail := "held " ++ formatFixed 2 holdingYears ++ "y past horizon "
             ++ ctx.str limit ++ "y" }]
      else []

/-- `_breaches`. -/
def killBreaches (ctx : DecimalContext) (accountId instrument : String)
    (killCriteria : KillCriteria) (totalReturn holdingYears : ℚ)
    (liquidityTier : Nat) (activeReturn : Option ℚ) : List KillBreach :=
  drawdownBreaches accountId instrument killCriteria totalReturn
    ++ residualBreaches accountId instrument killCriteria activeReturn
    ++ liquidityBreaches accountId instrument killCriteria liquidityTier
    ++ horizonBreaches ctx accountId instrument killCriteria holdingYears

-- ================================================================ the paths

/-- Kill-criteria breaches for one lot. It raises on a thesis that does
not key to the lot or post-dates its acquisition, and on a lot without a
market value or a positive cost. -/
def evaluateKillCriteria (ctx : DecimalContext) (position : LotPositionView)
    (thesis : PositionThesis) (asOf : Date) (activeReturn : Option ℚ) :
    Except Exc (List KillBreach) :=
  let key := instrumentKey position
  if thesis.accountId ≠ position.accountId ∨ thesis.instrument ≠ key then
    .error (.thesisError ("thesis (" ++ thesis.accountId ++ ", "
      ++ thesis.instrument ++ ") does not key to lot " ++ position.lotId
      ++ " (" ++ position.accountId ++ ", " ++ key ++ ")"))
  else if thesis.effectiveDate > position.acquisitionDate then
    .error (.thesisError ("thesis for " ++ thesis.instrument ++ " effective "
      ++ isoformat thesis.effectiveDate ++ " post-dates lot "
      ++ position.lotId ++ " acquired "
      ++ isoformat position.acquisitionDate
      ++ " — pre-commitment violation (axiom 2)"))
  else
    match position.marketValue, position.unrealizedGain with
    | some _, some unrealizedGain =>
        if position.totalCostBasis ≤ 0 then
          .error (.thesisError ("lot " ++ position.lotId
            ++ " has non-positive cost basis; cannot compute drawdown vs "
            ++ "cost"))
        else
          let totalReturn := unrealizedGain / position.totalCostBasis
          let days := max (asOf - position.acquisitionDate) 0
          let holdingYears := days / daysPerYear
          .ok (killBreaches ctx position.accountId key thesis.killCriteria
            totalReturn holdingYears position.liquidityTier activeReturn)
    | _, _ => .error (.thesisError ("lot " ++ position.lotId
        ++ " has no market value; cannot monitor kill criteria"))

/-- Kill breaches for an attribution row, from the figures on the row. -/
def breachesForAttribution (ctx : DecimalContext) (pa : PositionAttribution)
    (thesis : PositionThesis) : List KillBreach :=
  killBreaches ctx pa.accountId (pa.ticker.getD "") thesis.killCriteria
    pa.totalReturn pa.holdingYears pa.liquidityTier (some pa.activeReturn)

end Warehouse
