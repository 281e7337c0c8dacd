/-
Portfolio Analyst — non-performing-asset flags (`decision/analyst/npa.py`,
and its records of `models.py`).

Four rules over public lots, the alternatives sleeve and the policy. Flags
are alerts; a lot acquired or an alternative marked after the day they are
read on is a lookahead, and raises.
-/
import Mathlib.Data.List.Sort
import Mathlib.Data.Prod.Lex
import Mathlib.Data.String.Basic
import Warehouse.Decision.Constraints
import Warehouse.Decision.Thesis

namespace Warehouse

/-- What a flag is raised against. -/
inductive NpaSubject where
  | position
  | alternative
  | manifest
  deriving DecidableEq, Repr

/-- `NpaReason`: why a position is flagged. -/
inductive NpaReason where
  | sustainedDrawdown
  | staleAltMark
  | missedCapitalCall
  | ipsLiquidityBreach
  deriving DecidableEq, Repr

/-- The reason as the report spells it. -/
def NpaReason.value : NpaReason → String
  | sustainedDrawdown => "sustained_drawdown"
  | staleAltMark => "stale_alt_mark"
  | missedCapitalCall => "missed_capital_call"
  | ipsLiquidityBreach => "ips_liquidity_breach"

/-- One reason-coded flag. -/
structure NpaFlag where
  subject : NpaSubject
  subjectId : String
  label : String
  reason : NpaReason
  observed : ℚ
  threshold : ℚ
  detail : String
  deriving DecidableEq

/-- Non-performing-asset snapshot across positions and alternatives. -/
structure NpaFlags where
  householdId : String
  asOfDate : Date
  configVersion : String
  flags : List NpaFlag
  limitations : List String

/-- What the monitor raises. -/
structure NpaError where
  msg : String
  deriving DecidableEq

/-- A scheduled capital call, as the rules read it. -/
structure ScheduledCallLike where
  eventDate : Date

/-- An alternative holding, as the rules read it. -/
structure AltHoldingLike where
  holdingId : String
  name : String
  unfundedCapital : ℚ
  lastMarkDate : Date
  scheduledCalls : List ScheduledCallLike

/-- The limits a caller passes. -/
structure NpaLimits where
  staleMarkDays : Int
  drawdownPct : ℚ
  sustainedYears : ℚ

/-- What the monitor says it does not cover. -/
def npaLimitations : List String :=
  ["Sustained drawdown is unrealized point-in-time vs cost — holding age "
    ++ "stands in for the duration the lot has been underwater (no price "
    ++ "path).",
   "Missed capital call is a v0 heuristic — SyntheticAltCall carries no "
    ++ "funded flag, so a scheduled call due on/before as_of with capital "
    ++ "still unfunded is treated as missed.",
   "IPS liquidity share covers public lots only (liquidity tiers on "
    ++ "positions); the alternatives sleeve is not yet folded into the "
    ++ "liquid-share denominator.",
   "Advisory only — flags feed the dashboard and the approval gate, never "
    ++ "optimizer constraints or staged trades (human gate)."]

/-- The last tier that counts as liquid. -/
def liquidMaxTier : Nat := 2

-- ================================================================= the rules

/-- A loop that extends its result by what each turn finds, and stops at the
first that raises. -/
def extendEach {ε α β : Type} (find : α → Except ε (List β)) :
    List α → Except ε (List β)
  | [] => .ok []
  | x :: rest => do
      let found ← find x
      let more ← extendEach find rest
      return found ++ more

section Rules

variable (ctx : DecimalContext) (limits : NpaLimits) (asOf : Date)

/-- One turn over the lots. Without a mark or a cost there is no return. -/
def sustainedDrawdownFlag (pos : LotPositionView) :
    Except NpaError (List NpaFlag) :=
  if pos.acquisitionDate > asOf then
    .error ⟨"lot " ++ pos.lotId ++ " acquired " ++ isoformat pos.acquisitionDate
      ++ " after as_of " ++ isoformat asOf ++ " — walk-forward violation"⟩
  else
    match pos.marketValue, pos.unrealizedGain with
    | some _, some unrealizedGain =>
        if pos.totalCostBasis ≤ 0 then .ok []
        else
          let totalReturn := unrealizedGain / pos.totalCostBasis
          let days := asOf - pos.acquisitionDate
          let holdingYears := days / daysPerYear
          if totalReturn ≤ limits.drawdownPct
              ∧ holdingYears ≥ limits.sustainedYears then
            let label := instrumentKey pos
            .ok
              [{ subject := .position
                 subjectId := pos.lotId
                 label := label
                 reason := .sustainedDrawdown
                 observed := quantize 4 totalReturn
                 threshold := limits.drawdownPct
                 detail := label ++ " " ++ formatPercent 1 totalReturn
                   ++ " below cost, held " ++ formatFixed 1 holdingYears
                   ++ "y past the " ++ ctx.str limits.sustainedYears
                   ++ "y sustained window" }]
          else .ok []
    | _, _ => .ok []

/-- The drawdown flags of a book, in position order; the first error ends the
scan. -/
def sustainedDrawdownFlags (positions : List LotPositionView) :
    Except NpaError (List NpaFlag) :=
  extendEach (sustainedDrawdownFlag ctx limits asOf) positions

/-- The calls due by now. -/
def missedCalls (alt : AltHoldingLike) : List Date :=
  (alt.scheduledCalls.map (·.eventDate)).filter (· ≤ asOf)

/-- `min(dates)`, of some. -/
def earliest : List Date → Date
  | [] => 0
  | first :: rest => rest.foldl min first

/-- The mark is older than the limit, strictly. -/
def staleMarkFlag (alt : AltHoldingLike) : List NpaFlag :=
  let markAge := asOf - alt.lastMarkDate
  if markAge > limits.staleMarkDays then
    [{ subject := .alternative
       subjectId := alt.holdingId
       label := alt.name
       reason := .staleAltMark
       observed := markAge
       threshold := limits.staleMarkDays
       detail := alt.name ++ " last marked " ++ isoformat alt.lastMarkDate
         ++ " — " ++ toString markAge ++ "d old (> "
         ++ toString limits.staleMarkDays ++ "d floor); NAV is suspect" }]
  else []

/-- A call fell due and capital is still uncalled. -/
def missedCallFlag (alt : AltHoldingLike) : List NpaFlag :=
  let missed := missedCalls asOf alt
  if missed ≠ [] ∧ alt.unfundedCapital > 0 then
    [{ subject := .alternative
       subjectId := alt.holdingId
       label := alt.name
       reason := .missedCapitalCall
       observed := alt.unfundedCapital
       threshold := 0
       detail := alt.name ++ " — " ++ toString missed.length
         ++ " capital call(s) due on/before " ++ isoformat asOf
         ++ " (earliest " ++ isoformat (earliest missed) ++ "); $"
         ++ formatGrouped 0 alt.unfundedCapital ++ " still unfunded" }]
  else []

/-- One turn over the alternatives. -/
def altFlag (alt : AltHoldingLike) : Except NpaError (List NpaFlag) :=
  if alt.lastMarkDate > asOf then
    .error ⟨"alt " ++ alt.holdingId ++ " marked " ++ isoformat alt.lastMarkDate
      ++ " after as_of " ++ isoformat asOf ++ " — walk-forward violation"⟩
  else .ok (staleMarkFlag limits asOf alt ++ missedCallFlag asOf alt)

/-- The flags of the holdings, in order: the stale mark before the missed call. -/
def altFlags (alts : List AltHoldingLike) : Except NpaError (List NpaFlag) :=
  extendEach (altFlag limits asOf) alts

/-- The flag of the household as a whole. -/
def liquidityFlag (positions : List LotPositionView)
    (ips : Option InvestmentPolicyStatement) : Option NpaFlag :=
  match ips with
  | none => none
  | some ips =>
      match ips.liquidityTierMinPct with
      | none => none
      | some floor =>
          if positions = [] then none
          else
            let share := liquidTierNavShare positions liquidMaxTier
            if share ≥ floor then none
            else some
              { subject := .manifest
                subjectId := ips.householdId
                label := "IPS liquidity floor"
                reason := .ipsLiquidityBreach
                observed := quantize 4 share
                threshold := floor
                detail := "liquid tier 1+" ++ toString liquidMaxTier
                  ++ " NAV share " ++ formatPercent 1 share
                  ++ " below IPS floor " ++ formatPercent 1 floor }

/-- `(reason, subject_id, label)`, in the order flags are listed in. -/
def NpaFlag.key (flag : NpaFlag) : String ×ₗ String ×ₗ String :=
  toLex (flag.reason.value, toLex (flag.subjectId, flag.label))

/-- Return reason-coded flags. -/
def flagNonPerforming (positions : List LotPositionView)
    (alts : List AltHoldingLike) (ips : Option InvestmentPolicyStatement)
    (householdId configVersion : String) : Except NpaError NpaFlags := do
  let drawdowns ← sustainedDrawdownFlags ctx limits asOf positions
  let sleeve ← altFlags limits asOf alts
  let flags := drawdowns ++ sleeve ++ (liquidityFlag positions ips).toList
  return {
    householdId := householdId
    asOfDate := asOf
    configVersion := configVersion
    flags := flags.insertionSort fun f g => f.key ≤ g.key
    limitations := npaLimitations }

end Rules

end Warehouse
