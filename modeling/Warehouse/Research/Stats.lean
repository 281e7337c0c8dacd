/-
Daily statistics engine (`research/stats/__init__.py`, `models.py`).

`sqrt` is what `math.sqrt` answers on a number that is not negative. The
source computes returns, volatilities and scores in floats; here they are
exact rationals, with no rounding and no underflow to zero between the
marks and the quantized figures.

# What is quantized

Every figure of a move and of an attribution row is quantized before it is
reported, and `Decimal.quantize` raises where the figure would need more
than the 28 digits of the default context (`Stats.q`). A long flat stretch
brings a volatility near zero, and the score of the move that ends it past
them.
-/
import Warehouse.Decision.Attribution
import Warehouse.Decision.Pm
import Warehouse.Research.WalkForward

namespace Warehouse

open Lib

-- ================================================================== records

/-- One dated mark for a security. -/
structure PriceObservation where
  securityId : String
  asOfDate : Date
  price : ℚ
  deriving DecidableEq

/-- A security's daily move, against the conditional distribution. -/
structure DailyMove where
  securityId : String
  asOfDate : Date
  ret : ℚ
  ewmaVol : ℚ
  zscore : ℚ
  significant : Bool
  deriving DecidableEq

/-- The statistics of one day: the moves, the correlation note and what is not
covered. -/
structure DailyStatsReport where
  asOfDate : Date
  statsConfigVersion : String
  moves : List DailyMove
  rollingCorrNote : String
  attribution : List PositionAttribution
  limitations : List String
  deriving DecidableEq

/-- One security's marks, by date. -/
abbrev PriceSeries := List (Date × ℚ)

/-- The decimals of a z-score. -/
def zPlaces : Nat := 4

/-- The decimals of a volatility. -/
def volPlaces : Nat := 6

/-- The decimals of a return. -/
def retPlaces : Nat := 6

/-- What `Decimal.quantize` raises on a figure of more than 28 digits. -/
def tooManyDigits : Exc :=
  .invalidOperation "[<class 'decimal.InvalidOperation'>]"

/-- `_q`, and `Decimal.quantize` of a decimal: half-even to some places, in
the 28 digits of the default context. -/
def Stats.q (value : ℚ) (places : Nat) : Except Exc ℚ :=
  if 10 ^ 28 ≤ |quantize places value| * 10 ^ places then
    .error tooManyDigits
  else .ok (quantize places value)

-- ================================================================ the series

/-- The index of the last date at or before `asOf`, −1 without one. -/
def cutoffIndex (allDates : List Date) (asOf : Date) : Int :=
  allDates.zipIdx.foldl (fun cutoff p =>
    if p.1 ≤ asOf then (p.2 : Int) else cutoff) (-1)

/-- Group and sort marks per security; a mark after `asOf` raises. -/
def seriesBySecurity (priceHistory : List PriceObservation) (asOf : Date) :
    Except Exc (Dict String PriceSeries) := do
  let allDates := ((priceHistory.map (·.asOfDate)).dedup).insertionSort (· ≤ ·)
  if allDates ≠ [] then
    assertSeriesCutoff (allDates.length - 1) (cutoffIndex allDates asOf)
      "price series"
  return (Dict.groupBy (·.securityId) priceHistory).mapValues fun series =>
    (series.map fun obs => (obs.asOfDate, obs.price)).insertionSort
      fun row row' => row.1 ≤ row'.1

/-- Returns between neighbours; a zero price starts none. -/
def returnsOf (prices : List ℚ) : List ℚ :=
  (prices.zip prices.tail).filterMap fun p =>
    if p.1 = 0 then none else some (p.2 / p.1 - 1)

-- =============================================================== volatility

/-- `math.sqrt(x)`. -/
def mathSqrt (sqrt : ℚ → ℚ) (x : ℚ) : Except Exc ℚ :=
  if x < 0 then .error (.valueError "math domain error") else .ok (sqrt x)

/-- EWMA volatility; 0 of no returns. -/
def ewmaVol (sqrt : ℚ → ℚ) (returns : List ℚ) (window : Int) :
    Except Exc ℚ :=
  match returns with
  | [] => .ok 0
  | first :: rest =>
      if window + 1 = 0 then .error (.zeroDivision "float division by zero")
      else
        let alpha : ℚ := 2 / (window + 1)
        mathSqrt sqrt (rest.foldl (fun var r =>
          alpha * r ^ 2 + (1 - alpha) * var) (first ^ 2))

/-- The mean, in exact arithmetic. -/
def mean (xs : List ℚ) : ℚ := xs.sum / xs.length

/-- The population deviation, zero below two returns. -/
def realizedVol (sqrt : ℚ → ℚ) (returns : List ℚ) : Except Exc ℚ :=
  if returns.length < 2 then .ok 0
  else
    mathSqrt sqrt ((returns.map fun r => (r - mean returns) ^ 2).sum
      / returns.length)

-- ============================================================== correlation

/-- `xs[-n:]`, for a positive `n`. -/
def lastN {α : Type*} (n : Nat) (xs : List α) : List α :=
  xs.drop (xs.length - n)

/-- Correlation of the last returns the two have both. -/
def pairwiseCorr (sqrt : ℚ → ℚ) (a b : List ℚ) : Option ℚ :=
  let n := min a.length b.length
  if n < 2 then none
  else
    let a := lastN n a
    let b := lastN n b
    let cov := ((a.zip b).map fun p => (p.1 - mean a) * (p.2 - mean b)).sum
    let va := (a.map fun x => (x - mean a) ^ 2).sum
    let vb := (b.map fun y => (y - mean b) ^ 2).sum
    if va ≤ 0 ∨ vb ≤ 0 then none else some (cov / sqrt (va * vb))

/-- Every pair of two items, the earlier first. -/
def pairsOf {α : Type*} : List α → List (α × α)
  | [] => []
  | x :: rest => rest.map (fun y => (x, y)) ++ pairsOf rest

/-- `format(q, "+.2f")`. -/
def signedFixed (q : ℚ) : String :=
  (if q < 0 then "" else "+") ++ formatFixed 2 q

/-- Average pairwise correlation in a prior against a recent window. -/
def corrNote (sqrt : ℚ → ℚ) (returnsBySec : List (List ℚ)) : String :=
  let series := returnsBySec.filter fun r => 4 ≤ r.length
  if series.length < 2 then
    "not_computed — need ≥2 securities with ≥4 overlapping returns "
      ++ "for a correlation-shift read (¬PS2)"
  else
    let length := ((series.map List.length).min?).getD 0
    let half := length / 2
    if half < 2 then
      "not_computed — insufficient overlapping history for a "
        ++ "correlation-shift read (¬PS2)"
    else
      let windows := (pairsOf series).map fun p =>
        (lastN length p.1, lastN length p.2)
      let priorPairs := windows.filterMap fun p =>
        pairwiseCorr sqrt (p.1.take half) (p.2.take half)
      let recentPairs := windows.filterMap fun p =>
        pairwiseCorr sqrt (p.1.drop half) (p.2.drop half)
      if priorPairs = [] ∨ recentPairs = [] then
        "not_computed — degenerate (flat) returns in the window; "
          ++ "no correlation-shift read (¬PS2)"
      else
        let prior := mean priorPairs
        let recent := mean recentPairs
        "avg pairwise ρ " ++ signedFixed prior ++ " → " ++ signedFixed recent
          ++ " (Δ " ++ signedFixed (recent - prior)
          ++ "); correlations are regime-dependent "
          ++ "(¬PS2 watch) — a spike toward 1 collapses diversification "
          ++ "exactly when it is needed"

-- ==================================================================== moves

/-- The last move against the volatility of the returns before it, and the
returns. -/
def moveFor (sqrt : ℚ → ℚ) (securityId : String) (series : PriceSeries)
    (window : Int) (zThreshold : ℚ) :
    Except Exc (Option DailyMove × List ℚ) := do
  let returns := returnsOf (series.map Prod.snd)
  match returns.getLast?, series.getLast? with
  | some lastRet, some (lastDate, _) =>
      let conditional ← ewmaVol sqrt returns.dropLast window
      let condVol ←
        if conditional ≤ 0 then realizedVol sqrt returns
        else .ok conditional
      let zscore := if condVol > 0 then lastRet / condVol else 0
      let move : DailyMove :=
        { securityId := securityId
          asOfDate := lastDate
          ret := ← Stats.q lastRet retPlaces
          ewmaVol := ← Stats.q condVol volPlaces
          zscore := ← Stats.q zscore zPlaces
          significant := |zscore| > zThreshold }
      return (some move, returns)
  | _, _ => return (none, [])

-- ============================================================== attribution

/-- A position's P&L over its series, with no annualized leg. -/
def attributionRow (pos : LotPositionView) (series : PriceSeries)
    (classExpected : RiskClass → ℚ) :
    Except Exc (Option PositionAttribution) :=
  match series.head?, series.getLast? with
  | some (firstDate, firstPrice), some (lastDate, lastPrice) =>
      if firstPrice ≤ 0 then .ok none
      else do
        let totalReturn := lastPrice / firstPrice - 1
        let windowDays := max (lastDate - firstDate) 0
        let windowYears := windowDays / daysPerYear
        let riskClass := pos.securityAssetClass.riskClassFor
        let ce := classExpected riskClass
        let expectedCumulative ← Stats.q (ce * windowYears) retPlaces
        let marketValue :=
          match pos.marketValue with
          | some value => if value ≠ 0 then value else pos.quantity * lastPrice
          | none => pos.quantity * lastPrice
        return some
          { lotId := pos.lotId
            accountId := pos.accountId
            ticker := pos.ticker
            securityAssetClass := pos.securityAssetClass
            riskClass := riskClass
            liquidityTier := pos.liquidityTier
            holdingYears := ← Stats.q windowYears yearsPlaces
            marketValue := marketValue
            totalReturn := ← Stats.q totalReturn retPlaces
            classExpected := ce
            expectedCumulative := expectedCumulative
            activeReturn :=
              ← Stats.q (totalReturn - expectedCumulative) retPlaces
            activeAnnualized := none }
  | _, _ => .ok none

/-- A position's series, when it has two marks. -/
def scoredSeries (bySec : Dict String PriceSeries) (pos : LotPositionView) :
    Option PriceSeries :=
  (bySec.get? pos.securityId).filter fun series => 2 ≤ series.length

/-- What the report says it does not cover. -/
def statsLimitations (unscored : Nat) : List String :=
  (if unscored ≠ 0 then
    [toString unscored ++ " security(ies) with <2 marks not scored "
      ++ "(no return series) — coverage gap surfaced, not hidden"]
  else [])
  ++ ["factor/idiosyncratic attribution leg not_computed "
    ++ "(no realized class-return series to strip); daily active_annualized "
    ++ "is None, never a fake zero (¬Composite Sufficiency)"]

/-- Daily statistics for the book: returns, volatility, z-scores,
attribution. -/
def statsDaily (sqrt : ℚ → ℚ) (settings : Settings) (book : PmAdvisePayload)
    (asOf : Date) (priceHistory : List PriceObservation) :
    Except Exc DailyStatsReport := do
  let bySec ← seriesBySecurity priceHistory asOf
  let scored ← (bySec.entries.insertionSort fun e e' => e.1 ≤ e'.1).mapM
    fun e => moveFor sqrt e.1 e.2 settings.statsEwmaWindow
      settings.statsZscoreSignificantThreshold
  let assumptions ← assumptionsFor "base"
  let attribution ← book.positions.mapM fun pos =>
    (scoredSeries bySec pos).elim (.ok none) fun series =>
      attributionRow pos series assumptions.classExpectedReturn
  let unscored := ((book.positions.filter fun pos =>
    (scoredSeries bySec pos).isNone).map (·.securityId)).dedup
  return {
    asOfDate := asOf
    statsConfigVersion := settings.statsConfigVersion
    moves := scored.filterMap Prod.fst
    rollingCorrNote := corrNote sqrt
      ((scored.filter fun p => p.1.isSome).map Prod.snd)
    attribution := attribution.reduceOption
    limitations := statsLimitations unscored.length }

end Warehouse
