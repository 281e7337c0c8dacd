/-
Daily statistics, off the marks of each security.

The pipeline reads its history through three things: the dates the guard
looks at, the securities in order, and the marks of each security in date
order (`statsDaily_eq`). A mark after the as-of date stops it at the guard,
and nothing else raises the guard's error; the rest is a function of the
sorted marks (`statsOver`), so where the dates of a security are distinct
the order of the history is forgotten.

# What may be raised

Past the guard a report can still fail to come. `Raises` collects what a
computation may raise, and is carried over binds and loops: whatever the
volatilities may raise, and a figure of more than 28 digits
(`statsOver_raises`). With the guard's error left out of it, this says who
raises that error; over a span of one or more, where no volatility raises
anything, it says that only a figure too long stops the statistics
(`statsDaily_raises`).

# The yardstick

A move is scored against the EWMA volatility of the returns before it. Over
a span of two or more every earlier return keeps a weight, so the variance
is positive as soon as one of them is not zero (`ewma_pos`) and the
volatility of all the returns, which stands in for a flat past, is never
consulted. Over a span of one only the last earlier return has a weight.
-/
import Warehouse.Research.Stats
import Warehouse.Lib.Classwise
import Warehouse.Lib.Sorting
import Mathlib.Data.Rat.Sqrt
import Mathlib.Tactic.Positivity

namespace Warehouse

open Lib

-- ================================================================ the series

/-- The observed dates, each once, ascending. -/
def datesOf (priceHistory : List PriceObservation) : List Date :=
  ((priceHistory.map (·.asOfDate)).dedup).insertionSort (· ≤ ·)

/-- The observed securities, each once, in name order. -/
def securitiesOf (priceHistory : List PriceObservation) : List String :=
  ((priceHistory.map (·.securityId)).dedup).insertionSort (· ≤ ·)

/-- The marks of a security, oldest first. -/
def markSeries (priceHistory : List PriceObservation) (securityId : String) :
    PriceSeries :=
  ((priceHistory.filter fun obs => obs.securityId = securityId).map
    fun obs => (obs.asOfDate, obs.price)).insertionSort
      fun row row' => row.1 ≤ row'.1

/-- Each security's marks by date, as the module keys them. -/
def seriesDict (priceHistory : List PriceObservation) :
    Dict String PriceSeries :=
  (Dict.groupBy (·.securityId) priceHistory).mapValues fun series =>
    (series.map fun obs => (obs.asOfDate, obs.price)).insertionSort
      fun row row' => row.1 ≤ row'.1

/-- The series, walked by security. -/
theorem sortedEntries_seriesDict (priceHistory : List PriceObservation) :
    ((seriesDict priceHistory).entries.insertionSort fun e e' => e.1 ≤ e'.1)
      = (securitiesOf priceHistory).map fun s =>
        (s, markSeries priceHistory s) := by
  have hentries : (seriesDict priceHistory).entries
      = (Dict.groupBy (·.securityId) priceHistory).keys.map fun s =>
        (s, markSeries priceHistory s) := by
    show (Dict.groupBy (·.securityId) priceHistory).entries.map _ = _
    rw [Dict.entries_groupBy, List.map_map]
    rfl
  have hmem : ∀ s, s ∈ (Dict.groupBy (·.securityId) priceHistory).keys
      ↔ s ∈ (priceHistory.map (·.securityId)).dedup := by
    intro s
    rw [Dict.mem_keys_groupBy, List.mem_dedup, List.mem_map]
  have hnd := (Dict.groupBy (·.securityId) priceHistory).nodupKeys
  have hsorted : (Dict.groupBy (·.securityId) priceHistory).keys.insertionSort
      (· ≤ ·) = securitiesOf priceHistory := by
    refine sortBy_perm id ((List.perm_ext_iff_of_nodup hnd
      (List.nodup_dedup _)).mpr hmem) ?_
    rw [List.map_id]
    exact hnd
  rw [hentries, ← hsorted]
  exact map_sortBy id Prod.fst (fun _ => rfl) _

/-- The series of a security, where there is a mark of it. -/
theorem get?_seriesDict (priceHistory : List PriceObservation) (s : String) :
    (seriesDict priceHistory).get? s
      = if priceHistory.filter (fun obs => obs.securityId = s) = [] then none
        else some (markSeries priceHistory s) := by
  unfold seriesDict
  rw [Dict.get?_mapValues, Dict.get?_groupBy]
  split <;> rfl

/-- A series has one entry an observation. -/
theorem length_markSeries (priceHistory : List PriceObservation) (s : String) :
    (markSeries priceHistory s).length
      = (priceHistory.filter fun obs => obs.securityId = s).length := by
  unfold markSeries
  rw [List.length_insertionSort, List.length_map]

/-- A position is scored where its security has two marks. -/
theorem scoredSeries_seriesDict (priceHistory : List PriceObservation)
    (pos : LotPositionView) :
    scoredSeries (seriesDict priceHistory) pos
      = if 2 ≤ (markSeries priceHistory pos.securityId).length
        then some (markSeries priceHistory pos.securityId) else none := by
  unfold scoredSeries
  rw [get?_seriesDict]
  split
  · next hnil =>
    rw [if_neg]
    · rfl
    · rw [length_markSeries, hnil]
      simp
  · by_cases hlen : 2 ≤ (markSeries priceHistory pos.securityId).length
    · rw [if_pos hlen, Option.filter_some, if_pos (decide_eq_true hlen)]
    · rw [if_neg hlen, Option.filter_some, if_neg (by simpa using hlen)]

-- ================================================================= the guard

/-- The cutoff scans from the newest date down. -/
theorem cutoffIndex_append (dates : List Date) (last asOf : Date) :
    cutoffIndex (dates ++ [last]) asOf
      = if last ≤ asOf then (dates.length : Int)
        else cutoffIndex dates asOf := by
  unfold cutoffIndex
  rw [List.zipIdx_append, List.foldl_append, Nat.zero_add]
  rfl

/-- The cutoff is an index of the dates. -/
theorem cutoffIndex_lt (dates : List Date) (asOf : Date) :
    cutoffIndex dates asOf < dates.length := by
  induction dates using List.reverseRecOn with
  | nil =>
      show (-1 : Int) < 0
      omega
  | append_singleton dates last ih =>
      rw [cutoffIndex_append, List.length_append, List.length_singleton]
      split <;> omega

/-- What the guard raises. -/
def lateError (dates : List Date) (asOf : Date) : Exc :=
  .walkForward ("price series" ++ " end_index "
    ++ toString ((dates.length : Int) - 1)
    ++ " exceeds walk-forward cutoff " ++ toString (cutoffIndex dates asOf))

/-- The guard looks at the last date. -/
theorem assertSeriesCutoff_append (dates : List Date) (last asOf : Date) :
    assertSeriesCutoff (((dates ++ [last]).length : Int) - 1)
        (cutoffIndex (dates ++ [last]) asOf) "price series"
      = if last ≤ asOf then .ok ⟨⟩
        else .error (lateError (dates ++ [last]) asOf) := by
  have hlt := cutoffIndex_lt dates asOf
  unfold assertSeriesCutoff lateError
  rw [cutoffIndex_append, List.length_append, List.length_singleton]
  by_cases hlast : last ≤ asOf
  · rw [if_pos hlast, if_pos hlast, if_neg]
    omega
  · rw [if_neg hlast, if_neg hlast, if_pos]
    omega

theorem mem_datesOf {priceHistory : List PriceObservation} {d : Date} :
    d ∈ datesOf priceHistory ↔ ∃ obs ∈ priceHistory, obs.asOfDate = d := by
  unfold datesOf
  rw [List.mem_insertionSort, List.mem_dedup, List.mem_map]

/-- The series, or the guard's error for a mark after the as-of date. -/
theorem seriesBySecurity_eq (priceHistory : List PriceObservation)
    (asOf : Date) :
    seriesBySecurity priceHistory asOf
      = if ∃ obs ∈ priceHistory, asOf < obs.asOfDate
        then .error (lateError (datesOf priceHistory) asOf)
        else .ok (seriesDict priceHistory) := by
  unfold seriesBySecurity
  show (do
    if datesOf priceHistory ≠ [] then
      assertSeriesCutoff ((datesOf priceHistory).length - 1)
        (cutoffIndex (datesOf priceHistory) asOf) "price series"
    return seriesDict priceHistory) = _
  rcases List.eq_nil_or_concat (datesOf priceHistory) with
    hnil | ⟨dates, last, hdates⟩
  · have hnone : ¬∃ obs ∈ priceHistory, asOf < obs.asOfDate := by
      intro ⟨obs, hobs, _⟩
      have hmem := mem_datesOf.mpr ⟨obs, hobs, rfl⟩
      rw [hnil] at hmem
      cases hmem
    rw [if_neg hnone, hnil]
    rfl
  · -- the last date is the greatest
    have hsorted : (datesOf priceHistory).Pairwise (· ≤ ·) :=
      pairwise_sortBy id _
    rw [List.concat_eq_append] at hdates
    have hlate : (∃ obs ∈ priceHistory, asOf < obs.asOfDate)
        ↔ ¬last ≤ asOf := by
      rw [hdates, List.pairwise_append] at hsorted
      constructor
      · intro ⟨obs, hobs, hlt⟩ hle
        have hmem := mem_datesOf.mpr ⟨obs, hobs, rfl⟩
        rw [hdates, List.mem_append, List.mem_singleton] at hmem
        rcases hmem with hbefore | hlast
        · have hlast := hsorted.2.2 _ hbefore _ (List.mem_singleton_self _)
          exact absurd hlt (not_lt.mpr (hlast.trans hle))
        · exact absurd hlt (not_lt.mpr (hlast.le.trans hle))
      · intro hnot
        have hmem : last ∈ datesOf priceHistory := by
          rw [hdates]
          exact List.mem_append_right _ (List.mem_singleton_self _)
        obtain ⟨obs, hobs, rfl⟩ := mem_datesOf.mp hmem
        exact ⟨obs, hobs, not_le.mp hnot⟩
    have hne : datesOf priceHistory ≠ [] := by
      rw [hdates]
      exact List.append_ne_nil_of_right_ne_nil _ (List.cons_ne_nil _ _)
    rw [if_pos hne, hdates, assertSeriesCutoff_append]
    by_cases hlast : last ≤ asOf
    · rw [if_pos hlast, if_neg fun h => hlate.mp h hlast]
      rfl
    · rw [if_neg hlast, if_pos (hlate.mpr hlast)]
      rfl

-- ============================================================== the pipeline

/-- The report over the marks of the securities. -/
def statsOver (sqrt : ℚ → ℚ) (settings : Settings) (book : PmAdvisePayload)
    (asOf : Date) (securities : List String) (marks : String → PriceSeries) :
    Except Exc DailyStatsReport := do
  let scored ← securities.mapM fun s =>
    moveFor sqrt s (marks s) settings.statsEwmaWindow
      settings.statsZscoreSignificantThreshold
  let assumptions ← assumptionsFor "base"
  let scoredMarks : LotPositionView → Option PriceSeries := fun pos =>
    if 2 ≤ (marks pos.securityId).length then some (marks pos.securityId)
    else none
  let attribution ← book.positions.mapM fun pos =>
    (scoredMarks pos).elim (.ok none) fun series =>
      attributionRow pos series assumptions.classExpectedReturn
  return {
    asOfDate := asOf
    statsConfigVersion := settings.statsConfigVersion
    moves := scored.filterMap Prod.fst
    rollingCorrNote := corrNote sqrt
      ((scored.filter fun p => p.1.isSome).map Prod.snd)
    attribution := attribution.reduceOption
    limitations := statsLimitations (((book.positions.filter fun pos =>
      (scoredMarks pos).isNone).map (·.securityId)).dedup).length }

/-- A mark after the day is refused; otherwise the report is a function of the
sorted dates, the sorted securities and the series. -/
theorem statsDaily_eq (sqrt : ℚ → ℚ) (settings : Settings)
    (book : PmAdvisePayload) (asOf : Date)
    (priceHistory : List PriceObservation) :
    statsDaily sqrt settings book asOf priceHistory
      = if ∃ obs ∈ priceHistory, asOf < obs.asOfDate
        then .error (lateError (datesOf priceHistory) asOf)
        else statsOver sqrt settings book asOf (securitiesOf priceHistory)
          (markSeries priceHistory) := by
  unfold statsDaily
  rw [seriesBySecurity_eq]
  split
  · rfl
  · rw [ok_bind, sortedEntries_seriesDict, List.mapM_map]
    unfold statsOver
    simp only [scoredSeries_seriesDict]
    rfl

/-- With no mark after the day the guard lets the history through. -/
theorem statsDaily_of_le (sqrt : ℚ → ℚ) (settings : Settings)
    (book : PmAdvisePayload) {asOf : Date} {history : List PriceObservation}
    (hasOf : ∀ obs ∈ history, obs.asOfDate ≤ asOf) :
    statsDaily sqrt settings book asOf history
      = statsOver sqrt settings book asOf (securitiesOf history)
        (markSeries history) := by
  rw [statsDaily_eq, if_neg]
  intro ⟨obs, hobs, hlate⟩
  exact absurd hlate (not_lt.mpr (hasOf obs hobs))

-- ================================================================ order-free

section OrderFree

variable {history history' : List PriceObservation}

/-- The dates do not depend on the order of the observations. -/
theorem datesOf_perm (h : history.Perm history') :
    datesOf history = datesOf history' := by
  refine sortBy_perm id (h.map (·.asOfDate)).dedup ?_
  rw [List.map_id]
  exact List.nodup_dedup _

theorem securitiesOf_perm (h : history.Perm history') :
    securitiesOf history = securitiesOf history' := by
  refine sortBy_perm id (h.map (·.securityId)).dedup ?_
  rw [List.map_id]
  exact List.nodup_dedup _

/-- One mark a day: the order a security's marks came in is forgotten. -/
theorem markSeries_perm (h : history.Perm history')
    (hnd : (history.map fun obs => (obs.securityId, obs.asOfDate)).Nodup)
    (s : String) : markSeries history s = markSeries history' s := by
  refine sortBy_perm Prod.fst ((h.filter _).map _) ?_
  rw [List.map_map]
  have hown := hnd.sublist ((List.filter_sublist
    (p := fun obs => obs.securityId = s)).map _)
  have hpairs : (history.filter fun obs => obs.securityId = s).map
      (fun obs => (obs.securityId, obs.asOfDate))
        = ((history.filter fun obs => obs.securityId = s).map
          (·.asOfDate)).map (Prod.mk s) := by
    rw [List.map_map]
    refine List.map_congr_left fun obs hobs => ?_
    have hs : obs.securityId = s :=
      of_decide_eq_true (List.mem_filter.mp hobs).2
    exact congrArg (·, obs.asOfDate) hs
  rw [hpairs] at hown
  exact hown.of_map

/-- Where no security has two marks on one day, the observations may come in any
order. -/
theorem statsDaily_perm (sqrt : ℚ → ℚ) (settings : Settings)
    (book : PmAdvisePayload) (asOf : Date) (h : history.Perm history')
    (hnd : (history.map fun obs => (obs.securityId, obs.asOfDate)).Nodup) :
    statsDaily sqrt settings book asOf history
      = statsDaily sqrt settings book asOf history' := by
  have hlate : (∃ obs ∈ history, asOf < obs.asOfDate)
      ↔ ∃ obs ∈ history', asOf < obs.asOfDate := by
    simp only [h.mem_iff]
  rw [statsDaily_eq, statsDaily_eq, datesOf_perm h, securitiesOf_perm h,
    funext (markSeries_perm h hnd)]
  simp only [hlate]

end OrderFree

-- ======================================================== what may be raised

section Raises

variable {α β : Type} {P : Exc → Prop}

/-- Whatever a computation raises is one of these. -/
def Raises (P : Exc → Prop) (x : Except Exc α) : Prop :=
  ∀ err, x = .error err → P err

theorem raises_ok (a : α) : Raises P (Except.ok a) :=
  fun _ h => nomatch h

theorem raises_error {err : Exc} (h : P err) :
    Raises P (Except.error err : Except Exc α) := by
  intro err' herr
  cases herr
  exact h

/-- What a sequence raises, one of its steps raises. -/
theorem Raises.bind {x : Except Exc α} {next : α → Except Exc β}
    (hx : Raises P x) (hnext : ∀ a, Raises P (next a)) :
    Raises P (x >>= next) := by
  cases x with
  | error err => exact raises_error (hx err rfl)
  | ok a => exact hnext a

/-- What a traversal raises, one of its items raises. -/
theorem Raises.mapM {f : α → Except Exc β} (xs : List α)
    (h : ∀ a, Raises P (f a)) : Raises P (xs.mapM f) := by
  intro err herr
  obtain ⟨a, -, ha⟩ := mapM_error herr
  exact h a err ha

/-- A figure that is quantized is its rounding. -/
theorem eq_of_q {value figure : ℚ} {places : Nat}
    (h : Stats.q value places = .ok figure) :
    figure = quantize places value := by
  unfold Stats.q at h
  split at h
  · cases h
  · cases h
    rfl

/-- Rounding raises nothing but the length error. -/
theorem q_raises (hlong : P tooManyDigits) (value : ℚ) (places : Nat) :
    Raises P (Stats.q value places) := by
  unfold Stats.q
  split
  · exact raises_error hlong
  · exact raises_ok _

/-- A figure well below 28 digits is quantized. -/
theorem q_fits {value : ℚ} {places : Nat}
    (h : |value| * 10 ^ places ≤ 10 ^ 27) :
    Stats.q value places = .ok (quantize places value) := by
  have hpow : (0 : ℚ) < 10 ^ places := by positivity
  have hround := abs_roundHalfEven_sub_le (value * 10 ^ places)
  have hscaled : |value * 10 ^ places| ≤ 10 ^ 27 := by
    rw [abs_mul, abs_of_pos hpow]
    exact h
  have hfigure : |(roundHalfEven (value * 10 ^ places) : ℚ)| < 10 ^ 28 := by
    have htri := abs_add_le
      ((roundHalfEven (value * 10 ^ places) : ℚ) - value * 10 ^ places)
      (value * 10 ^ places)
    rw [sub_add_cancel] at htri
    calc |(roundHalfEven (value * 10 ^ places) : ℚ)|
        ≤ 1 / 2 + 10 ^ 27 := htri.trans (add_le_add hround hscaled)
      _ < 10 ^ 28 := by norm_num
  unfold Stats.q
  rw [if_neg]
  unfold quantize
  rw [abs_div, abs_of_pos hpow, div_mul_cancel₀ _ hpow.ne', not_le]
  exact hfigure

/-- An attribution row raises nothing but the length error. -/
theorem attributionRow_raises (hlong : P tooManyDigits)
    (pos : LotPositionView) (series : PriceSeries)
    (classExpected : RiskClass → ℚ) :
    Raises P (attributionRow pos series classExpected) := by
  unfold attributionRow
  split
  · split
    · exact raises_ok _
    · -- the four figures of the row, in the order they are quantized
      refine (q_raises hlong _ _).bind fun expectedCumulative => ?_
      refine (q_raises hlong _ _).bind fun holdingYears => ?_
      refine (q_raises hlong _ _).bind fun totalReturn => ?_
      exact (q_raises hlong _ _).bind fun activeReturn => raises_ok _
  · exact raises_ok _

end Raises

-- ================================================================= the moves

section Moves

variable {sqrt : ℚ → ℚ} {window : Int}

/-- The volatility a move is scored against. -/
def scoredAgainst (sqrt : ℚ → ℚ) (window : Int) (returns : List ℚ) :
    Except Exc ℚ := do
  let conditional ← ewmaVol sqrt returns.dropLast window
  if conditional ≤ 0 then realizedVol sqrt returns else .ok conditional

/-- The move of a last return against a volatility. -/
def moveAgainst (securityId : String) (asOf : Date)
    (zThreshold lastRet vol : ℚ) : Except Exc DailyMove := do
  return {
    securityId := securityId
    asOfDate := asOf
    ret := ← Stats.q lastRet retPlaces
    ewmaVol := ← Stats.q vol volPlaces
    zscore := ← Stats.q (if vol > 0 then lastRet / vol else 0) zPlaces
    significant := |if vol > 0 then lastRet / vol else 0| > zThreshold }

/-- The figures of a move are the roundings of what it measures. -/
theorem moveAgainst_ok {securityId : String} {asOf : Date}
    {zThreshold lastRet vol : ℚ} {move : DailyMove}
    (h : moveAgainst securityId asOf zThreshold lastRet vol = .ok move) :
    move.securityId = securityId
      ∧ move.asOfDate = asOf
      ∧ move.ret = quantize retPlaces lastRet
      ∧ move.ewmaVol = quantize volPlaces vol
      ∧ move.zscore
        = quantize zPlaces (if vol > 0 then lastRet / vol else 0) := by
  obtain ⟨ret, hret, h⟩ := bind_ok_iff.mp h
  obtain ⟨volatility, hvol, h⟩ := bind_ok_iff.mp h
  obtain ⟨zscore, hscore, h⟩ := bind_ok_iff.mp h
  cases h
  exact ⟨rfl, rfl, eq_of_q hret, eq_of_q hvol, eq_of_q hscore⟩

/-- Figures up to 10^20 make a move. -/
theorem moveAgainst_fits (securityId : String) (asOf : Date)
    (zThreshold : ℚ) {lastRet vol : ℚ} (hret : |lastRet| ≤ 10 ^ 20)
    (hvol : |vol| ≤ 10 ^ 20)
    (hscore : |if vol > 0 then lastRet / vol else 0| ≤ 10 ^ 20) :
    ∃ move, moveAgainst securityId asOf zThreshold lastRet vol
      = .ok move := by
  have hfits : ∀ {value : ℚ} {places : Nat}, places ≤ 6 →
      |value| ≤ 10 ^ 20 → Stats.q value places
        = .ok (quantize places value) := by
    intro value places hplaces hle
    apply q_fits
    calc |value| * 10 ^ places ≤ 10 ^ 20 * 10 ^ 6 := by
          gcongr
          · norm_num
      _ ≤ 10 ^ 27 := by norm_num
  unfold moveAgainst
  rw [hfits (by decide) hret, ok_bind, hfits (by decide) hvol, ok_bind,
    hfits (by decide) hscore]
  exact ⟨_, rfl⟩

theorem moveAgainst_raises {P : Exc → Prop} (hlong : P tooManyDigits)
    (securityId : String) (asOf : Date) (zThreshold lastRet vol : ℚ) :
    Raises P (moveAgainst securityId asOf zThreshold lastRet vol) := by
  refine (q_raises hlong _ _).bind fun ret => ?_
  refine (q_raises hlong _ _).bind fun volatility => ?_
  exact (q_raises hlong _ _).bind fun zscore => raises_ok _

/-- A security without returns has no move; another has its last one. -/
theorem moveFor_eq (securityId : String) (series : PriceSeries)
    (zThreshold : ℚ) :
    moveFor sqrt securityId series window zThreshold
      = match (returnsOf (series.map Prod.snd)).getLast?, series.getLast? with
        | some lastRet, some (lastDate, _) => do
            let vol ← scoredAgainst sqrt window
              (returnsOf (series.map Prod.snd))
            let move ← moveAgainst securityId lastDate zThreshold lastRet vol
            return (some move, returnsOf (series.map Prod.snd))
        | _, _ => .ok (none, []) := by
  unfold moveFor scoredAgainst
  dsimp only
  cases (returnsOf (series.map Prod.snd)).getLast? with
  | none => rfl
  | some lastRet =>
      cases series.getLast? with
      | none => rfl
      | some last =>
          dsimp only
          rw [bind_assoc]
          congr 1
          funext conditional
          simp only [moveAgainst, bind_assoc, pure_bind]
          split <;> rfl

/-- A root raises nothing but the domain error. -/
theorem mathSqrt_raises {P : Exc → Prop}
    (hdomain : P (.valueError "math domain error")) (x : ℚ) :
    Raises P (mathSqrt sqrt x) := by
  unfold mathSqrt
  split
  · exact raises_error hdomain
  · exact raises_ok _

/-- A volatility of no span at all divides by zero, a negative variance has
no root; nothing else is raised. -/
theorem scoredAgainst_raises {P : Exc → Prop}
    (hspan : P (.zeroDivision "float division by zero"))
    (hdomain : P (.valueError "math domain error")) (returns : List ℚ) :
    Raises P (scoredAgainst sqrt window returns) := by
  have hewma : Raises P (ewmaVol sqrt returns.dropLast window) := by
    unfold ewmaVol
    split
    · exact raises_ok _
    · split
      · exact raises_error hspan
      · exact mathSqrt_raises hdomain _
  have hrealized : Raises P (realizedVol sqrt returns) := by
    unfold realizedVol
    split
    · exact raises_ok _
    · exact mathSqrt_raises hdomain _
  refine hewma.bind fun conditional => ?_
  split
  · exact hrealized
  · exact raises_ok _

/-- A security's move raises what its score may raise, or the length error. -/
theorem moveFor_raises {P : Exc → Prop} (hlong : P tooManyDigits)
    (hscored : ∀ returns, Raises P (scoredAgainst sqrt window returns))
    (securityId : String) (series : PriceSeries) (zThreshold : ℚ) :
    Raises P (moveFor sqrt securityId series window zThreshold) := by
  rw [moveFor_eq]
  split
  · refine (hscored _).bind fun vol => ?_
    refine (moveAgainst_raises hlong _ _ _ _ _).bind fun move => ?_
    exact raises_ok _
  · exact raises_ok _

/-- Past the guard statistics raise what a volatility raises, or a figure
too long. -/
theorem statsOver_raises {P : Exc → Prop} (hlong : P tooManyDigits)
    {settings : Settings}
    (hscored : ∀ returns,
      Raises P (scoredAgainst sqrt settings.statsEwmaWindow returns))
    (book : PmAdvisePayload) (asOf : Date) (securities : List String)
    (marks : String → PriceSeries) :
    Raises P (statsOver sqrt settings book asOf securities marks) := by
  unfold statsOver
  refine (Raises.mapM _ fun s => moveFor_raises hlong hscored _ _ _).bind
    fun scored => ?_
  have hbase : assumptionsFor "base" = .ok baseAssumptions := rfl
  rw [hbase, ok_bind]
  refine (Raises.mapM _ fun pos => ?_).bind fun attribution => raises_ok _
  dsimp only
  split
  · exact attributionRow_raises hlong _ _ _
  · exact raises_ok _

/-- The report's moves, each known by its security's marks. -/
theorem mem_moves {settings : Settings} {book : PmAdvisePayload} {asOf : Date}
    {history : List PriceObservation} {report : DailyStatsReport}
    (h : statsDaily sqrt settings book asOf history = .ok report)
    {move : DailyMove} (hmove : move ∈ report.moves) :
    ∃ lastRet vol,
      (returnsOf ((markSeries history move.securityId).map
          Prod.snd)).getLast? = some lastRet
        ∧ scoredAgainst sqrt settings.statsEwmaWindow
            (returnsOf ((markSeries history move.securityId).map Prod.snd))
          = .ok vol
        ∧ moveAgainst move.securityId move.asOfDate
            settings.statsZscoreSignificantThreshold lastRet vol
          = .ok move := by
  rw [statsDaily_eq] at h
  split at h
  · cases h
  · unfold statsOver at h
    obtain ⟨scored, hscored, h⟩ := bind_ok_iff.mp h
    obtain ⟨assumptions, -, h⟩ := bind_ok_iff.mp h
    obtain ⟨attribution, -, h⟩ := bind_ok_iff.mp h
    cases h
    obtain ⟨result, hresult, hfst⟩ := List.mem_filterMap.mp hmove
    obtain ⟨s, -, hs⟩ := mapM_mem hscored hresult
    rw [moveFor_eq] at hs
    split at hs
    · next lastRet lastDate _ hlast _ =>
      obtain ⟨vol, hvol, hs⟩ := bind_ok_iff.mp hs
      obtain ⟨scoredMove, hscoredMove, hs⟩ := bind_ok_iff.mp hs
      cases hs
      cases hfst
      obtain ⟨hsecurity, hasOf, -⟩ := moveAgainst_ok hscoredMove
      rw [hsecurity, hasOf]
      exact ⟨lastRet, vol, hlast, hvol, hscoredMove⟩
    · cases hs
      cases hfst

-- ============================================================== the yardstick

/-- The EWMA recurrence keeps a positive variance, and finds one in the first
return that is not zero. -/
theorem ewma_pos {alpha : ℚ} (hpos : 0 < alpha) (hlt : alpha < 1)
    (rest : List ℚ) : ∀ var : ℚ, 0 ≤ var →
      (0 < var ∨ ∃ r ∈ rest, r ≠ 0) →
        0 < rest.foldl (fun var r => alpha * r ^ 2 + (1 - alpha) * var) var := by
  induction rest with
  | nil =>
      intro var _ h
      rcases h with h | ⟨r, hr, -⟩
      · exact h
      · cases hr
  | cons r rest ih =>
      intro var hvar h
      have hkept : 0 < 1 - alpha := by linarith
      rw [List.foldl_cons]
      apply ih
      · positivity
      · rcases h with h | ⟨r', hr', hne⟩
        · left
          positivity
        · rcases List.mem_cons.mp hr' with rfl | hrest
          · left
            have hsq : 0 < r' ^ 2 := by positivity
            have hold : 0 ≤ (1 - alpha) * var := mul_nonneg hkept.le hvar
            have hnew : 0 < alpha * r' ^ 2 := mul_pos hpos hsq
            linarith
          · exact Or.inr ⟨r', hrest, hne⟩

/-- Over a span of two or more a past that is not flat has a volatility. -/
theorem ewmaVol_pos (hsqrt : ∀ x, 0 < x → 0 < sqrt x) (hwindow : 2 ≤ window)
    {returns : List ℚ} (h : ∃ r ∈ returns, r ≠ 0) :
    ∃ vol, ewmaVol sqrt returns window = .ok vol ∧ 0 < vol := by
  cases returns with
  | nil =>
      obtain ⟨r, hr, -⟩ := h
      cases hr
  | cons first rest =>
      have hspan : (3 : ℚ) ≤ (window : ℚ) + 1 := by
        have : (2 : ℚ) ≤ window := by exact_mod_cast hwindow
        linarith
      have hvar : 0 < rest.foldl (fun var r =>
          2 / ((window : ℚ) + 1) * r ^ 2
            + (1 - 2 / ((window : ℚ) + 1)) * var) (first ^ 2) := by
        apply ewma_pos
        · positivity
        · rw [div_lt_one (by linarith)]
          linarith
        · positivity
        · obtain ⟨r, hr, hne⟩ := h
          rcases List.mem_cons.mp hr with rfl | hrest
          · left
            positivity
          · exact Or.inr ⟨r, hrest, hne⟩
      refine ⟨_, ?_, hsqrt _ hvar⟩
      show (if window + 1 = 0 then _ else mathSqrt sqrt _) = _
      rw [if_neg (by omega)]
      unfold mathSqrt
      rw [if_neg (not_lt.mpr hvar.le)]

/-- Where an earlier return moved, the last one is scored against the
exponentially weighted volatility of those before it. -/
theorem scoredAgainst_earlier (hsqrt : ∀ x, 0 < x → 0 < sqrt x)
    (hwindow : 2 ≤ window) {returns : List ℚ}
    (h : ∃ r ∈ returns.dropLast, r ≠ 0) :
    scoredAgainst sqrt window returns = ewmaVol sqrt returns.dropLast window
      ∧ ∃ vol, ewmaVol sqrt returns.dropLast window = .ok vol ∧ 0 < vol := by
  obtain ⟨vol, hvol, hpos⟩ := ewmaVol_pos hsqrt hwindow h
  refine ⟨?_, vol, hvol, hpos⟩
  unfold scoredAgainst
  rw [hvol, ok_bind, if_neg (not_le.mpr hpos)]

variable (sqrt window) in
/-- The volatility of the returns before a move. -/
def earlierVol (earlier : List ℚ) : ℚ :=
  match ewmaVol sqrt earlier window with
  | .ok vol => vol
  | .error _ => 0

end Moves

/-- The guard's error comes from the guard alone. -/
theorem statsDaily_walkForward_iff (sqrt : ℚ → ℚ) (settings : Settings)
    (book : PmAdvisePayload) (asOf : Date) (history : List PriceObservation) :
    (∃ text, statsDaily sqrt settings book asOf history
        = .error (.walkForward text))
      ↔ ∃ obs ∈ history, asOf < obs.asOfDate := by
  rw [statsDaily_eq]
  split
  · next hlate => exact ⟨fun _ => hlate, fun _ => ⟨_, rfl⟩⟩
  · next hlate =>
    refine ⟨fun ⟨text, h⟩ => ?_, fun h => absurd h hlate⟩
    have hscored : ∀ returns, Raises (fun err => ∀ text, err ≠ .walkForward text)
        (scoredAgainst sqrt settings.statsEwmaWindow returns) :=
      scoredAgainst_raises (fun _ h => nomatch h) fun _ h => nomatch h
    exact absurd rfl (statsOver_raises (fun _ h => nomatch h) hscored _ _ _ _
      _ h text)

-- ================================================= volatilities in the domain

/-- The exponentially weighted variance stays nonnegative. -/
theorem ewma_nonneg {alpha : ℚ} (hpos : 0 ≤ alpha) (hle : alpha ≤ 1)
    (rest : List ℚ) : ∀ var : ℚ, 0 ≤ var →
      0 ≤ rest.foldl (fun var r => alpha * r ^ 2 + (1 - alpha) * var) var := by
  induction rest with
  | nil => exact fun var h => h
  | cons r rest ih =>
      intro var hvar
      have hkept : 0 ≤ 1 - alpha := by linarith
      rw [List.foldl_cons]
      apply ih
      positivity

/-- On a nonnegative variance the root exists. -/
theorem mathSqrt_ok (sqrt : ℚ → ℚ) {x : ℚ} (h : 0 ≤ x) :
    mathSqrt sqrt x = .ok (sqrt x) := by
  unfold mathSqrt
  rw [if_neg (not_lt.mpr h)]

/-- Over a span of one or more no volatility is a domain error. -/
theorem scoredAgainst_ok (sqrt : ℚ → ℚ) {window : Int} (h : 1 ≤ window)
    (returns : List ℚ) : ∃ vol, scoredAgainst sqrt window returns = .ok vol := by
  have hspan : (2 : ℚ) ≤ (window : ℚ) + 1 := by
    have : (1 : ℚ) ≤ window := by exact_mod_cast h
    linarith
  have hewma : ∀ earlier, ∃ vol, ewmaVol sqrt earlier window = .ok vol := by
    intro earlier
    cases earlier with
    | nil => exact ⟨0, rfl⟩
    | cons first rest =>
        show ∃ vol, (if window + 1 = 0 then _ else mathSqrt sqrt _) = .ok vol
        rw [if_neg (by omega), mathSqrt_ok]
        · exact ⟨_, rfl⟩
        · apply ewma_nonneg
          · positivity
          · rw [div_le_one (by linarith)]
            exact hspan
          · positivity
  have hrealized : ∃ vol, realizedVol sqrt returns = .ok vol := by
    unfold realizedVol
    split
    · exact ⟨0, rfl⟩
    · rw [mathSqrt_ok]
      · exact ⟨_, rfl⟩
      · apply div_nonneg
        · apply List.sum_nonneg
          rw [List.forall_mem_map]
          exact fun r _ => sq_nonneg _
        · positivity
  obtain ⟨conditional, hconditional⟩ := hewma returns.dropLast
  unfold scoredAgainst
  rw [hconditional, ok_bind]
  split
  · exact hrealized
  · exact ⟨_, rfl⟩

/-- Over a span of one or more, past the guard, only a figure too long stops
the statistics. -/
theorem statsDaily_raises (sqrt : ℚ → ℚ) {settings : Settings}
    (hwindow : 1 ≤ settings.statsEwmaWindow) (book : PmAdvisePayload)
    {asOf : Date} {history : List PriceObservation}
    (hasOf : ∀ obs ∈ history, obs.asOfDate ≤ asOf) :
    Raises (· = tooManyDigits)
      (statsDaily sqrt settings book asOf history) := by
  rw [statsDaily_of_le sqrt settings book hasOf]
  refine statsOver_raises (P := (· = tooManyDigits)) rfl (fun returns => ?_) _ _ _ _
  obtain ⟨vol, hvol⟩ := scoredAgainst_ok sqrt hwindow returns
  rw [hvol]
  exact raises_ok _

theorem rat_sqrt_pos (x : ℚ) (h : 0 < x) : 0 < Rat.sqrt x := by
  have hnum : 0 < x.num := Rat.num_pos.mpr h
  have hroot : 0 < Nat.sqrt x.num.toNat := by
    rw [Nat.sqrt_pos]
    omega
  have hden : 0 < Nat.sqrt x.den := Nat.sqrt_pos.mpr x.den_pos
  unfold Rat.sqrt Int.sqrt
  rw [Rat.mkRat_eq_div]
  positivity

/-- Where every figure fits, a history the guard lets through is answered,
with the move of every security that has one. -/
theorem statsDaily_ok (sqrt : ℚ → ℚ) {settings : Settings}
    {book : PmAdvisePayload} {asOf : Date} {history : List PriceObservation}
    (hasOf : ∀ obs ∈ history, obs.asOfDate ≤ asOf)
    (hmoves : ∀ s ∈ securitiesOf history, ∃ result,
      moveFor sqrt s (markSeries history s) settings.statsEwmaWindow
        settings.statsZscoreSignificantThreshold = .ok result)
    (hrows : ∀ pos ∈ book.positions, ∀ series classExpected, ∃ row,
      attributionRow pos series classExpected = .ok row) :
    ∃ report, statsDaily sqrt settings book asOf history = .ok report
      ∧ ∀ s ∈ securitiesOf history, ∀ move returns,
        moveFor sqrt s (markSeries history s) settings.statsEwmaWindow
            settings.statsZscoreSignificantThreshold
          = .ok (some move, returns) → move ∈ report.moves := by
  rw [statsDaily_of_le sqrt settings book hasOf]
  obtain ⟨scored, hscored⟩ := (mapM_ok_iff _).mpr hmoves
  have hbase : assumptionsFor "base" = .ok baseAssumptions := rfl
  unfold statsOver
  rw [hscored, ok_bind, hbase, ok_bind]
  obtain ⟨attribution, hattribution⟩ := (mapM_ok_iff (f := fun pos =>
    (if 2 ≤ (markSeries history pos.securityId).length
      then some (markSeries history pos.securityId) else none).elim (.ok none)
        fun series =>
          attributionRow pos series baseAssumptions.classExpectedReturn)
    book.positions).mpr fun pos hpos => by
      split
      · exact hrows pos hpos _ _
      · exact ⟨none, rfl⟩
  dsimp only
  rw [hattribution, ok_bind]
  refine ⟨_, rfl, fun s hs move returns hmove => ?_⟩
  obtain ⟨result, hresult, hok⟩ :=
    forall₂_mem_left (mapM_eq_ok_iff.mp hscored) hs
  rw [hmove] at hok
  cases hok
  exact List.mem_filterMap.mpr ⟨_, hresult, rfl⟩

theorem isFraction_whole : IsFraction 1 := by norm_num [IsFraction]

/-- A whole book in cash. -/
def cashSlot : AllocationSlot where
  assetClass := .cash
  weight := 1
  weightFraction := isFraction_whole

theorem cashSlot_budget : WeightsSumToOne [cashSlot] := by
  norm_num [WeightsSumToOne, cashSlot]

theorem oneYear_inRange : (0 : ℚ) < 1 ∧ (1 : ℚ) ≤ 50 := by norm_num

/-- A book in cash. -/
def cashBook : PmAdvisePayload where
  householdId := "h"
  positions := []
  ips :=
    { ipsId := "ips_1"
      householdId := "h"
      version := 1
      effectiveDate := "2026-01-01"
      allocationTargets := []
      concentrationFraction := isFraction_quarter
      liquidityFraction := isFraction_none
      turnoverFraction := isFraction_none }
  manifest :=
    { portfolioId := none
      allocations := [cashSlot]
      nonempty := List.cons_ne_nil _ _
      budget := cashSlot_budget }
  request := { horizon := ⟨1, oneYear_inRange⟩ }

/-- Marks of one security on the first days. -/
def marksOn (prices : List ℚ) : List PriceObservation :=
  prices.zipIdx.map fun p => ⟨"sec_vti", p.2, p.1⟩

/-- Two rises of a twentieth and a flat day. -/
def steadyThenFlat : List ℚ := [400, 420, 441, 441]

/-- Two rises, a flat day, and the last return. -/
theorem returnsOf_steadyThenFlat (last : ℚ) :
    returnsOf ((markSeries (marksOn (steadyThenFlat ++ [last]))
        "sec_vti").map Prod.snd)
      = [1 / 20, 1 / 20, 0] ++ [last / 441 - 1] := by
  have hseries : markSeries (marksOn (steadyThenFlat ++ [last])) "sec_vti"
      = [(0, 400), (1, 420), (2, 441), (3, 441), (4, last)] := rfl
  rw [hseries]
  unfold returnsOf
  norm_num [List.filterMap_cons]

/-- Over a span of one the flat day hides the rises, and the last return
joins its own yardstick. -/
theorem scoredAgainst_steadyThenFlat {lastRet vol : ℚ} (hpos : 0 ≤ vol)
    (h : vol * vol = (1 / 100 - lastRet / 5 + 3 * lastRet ^ 2) / 16) :
    scoredAgainst Rat.sqrt 1 ([1 / 20, 1 / 20, 0] ++ [lastRet]) = .ok vol := by
  have hewma : ewmaVol Rat.sqrt [1 / 20, 1 / 20, 0] 1 = .ok 0 := by
    decide +kernel
  unfold scoredAgainst
  rw [List.dropLast_concat, hewma, ok_bind, if_pos (le_refl _)]
  unfold realizedVol mathSqrt mean
  have hvar : ((([1 / 20, 1 / 20, 0] ++ [lastRet]).map fun r =>
      (r - ([1 / 20, 1 / 20, 0] ++ [lastRet]).sum
        / (([1 / 20, 1 / 20, 0] ++ [lastRet]).length : ℚ)) ^ 2).sum
          / (([1 / 20, 1 / 20, 0] ++ [lastRet]).length : ℚ)) = vol * vol := by
    rw [h]
    norm_num
    ring
  rw [if_neg (by norm_num), hvar, if_neg (not_lt.mpr (mul_self_nonneg vol)),
    Rat.sqrt_eq, abs_of_nonneg hpos]

/-- The marks are all of one security. -/
theorem securitiesOf_marksOn {prices : List ℚ} (hpos : 0 < prices.length) :
    securitiesOf (marksOn prices) = ["sec_vti"] := by
  have hsecurities : (marksOn prices).map (·.securityId)
      = List.replicate prices.length "sec_vti" := by
    unfold marksOn
    rw [List.map_map, List.eq_replicate_iff]
    refine ⟨by simp, fun s hs => ?_⟩
    obtain ⟨p, -, rfl⟩ := List.mem_map.mp hs
    rfl
  unfold securitiesOf
  rw [hsecurities, List.replicate_dedup (by omega)]
  rfl

/-- A week's marks are of its last day at the latest. -/
theorem marksOn_le {prices : List ℚ} (hweek : prices.length ≤ 7) :
    ∀ obs ∈ marksOn prices, obs.asOfDate ≤ 7 := by
  intro obs hobs
  obtain ⟨p, hp, rfl⟩ := List.mem_map.mp hobs
  have hlt := List.snd_lt_of_mem_zipIdx hp
  show ((p.2 : Nat) : Int) ≤ 7
  omega

/-- A report on the marks of one security over a week, with its move. -/
theorem statsDaily_marksOn (settings : Settings) {prices : List ℚ}
    {earlier : List ℚ} {lastRet vol : ℚ}
    (hweek : 0 < prices.length ∧ prices.length ≤ 7)
    (hreturns : returnsOf ((markSeries (marksOn prices) "sec_vti").map
      Prod.snd) = earlier ++ [lastRet])
    (hvol : scoredAgainst Rat.sqrt settings.statsEwmaWindow
      (earlier ++ [lastRet]) = .ok vol)
    (hfits : |lastRet| ≤ 10 ^ 20 ∧ |vol| ≤ 10 ^ 20
      ∧ |if vol > 0 then lastRet / vol else 0| ≤ 10 ^ 20) :
    ∃ report move, statsDaily Rat.sqrt settings cashBook 7
        (marksOn prices) = .ok report
      ∧ move ∈ report.moves
      ∧ move.securityId = "sec_vti"
      ∧ move.ret = quantize retPlaces lastRet
      ∧ move.ewmaVol = quantize volPlaces vol
      ∧ move.zscore
        = quantize zPlaces (if vol > 0 then lastRet / vol else 0) := by
  have hsecurities := securitiesOf_marksOn hweek.1
  obtain ⟨last, hlast⟩ : ∃ last,
      (markSeries (marksOn prices) "sec_vti").getLast? = some last := by
    cases hseries : (markSeries (marksOn prices) "sec_vti").getLast? with
    | none =>
        rw [List.getLast?_eq_none_iff.mp hseries] at hreturns
        cases (List.append_ne_nil_of_right_ne_nil earlier
          (List.cons_ne_nil lastRet [])) hreturns.symm
    | some last => exact ⟨last, rfl⟩
  obtain ⟨move, hmove⟩ := moveAgainst_fits "sec_vti" last.1
    settings.statsZscoreSignificantThreshold hfits.1 hfits.2.1 hfits.2.2
  have hscored : moveFor Rat.sqrt "sec_vti"
      (markSeries (marksOn prices) "sec_vti") settings.statsEwmaWindow
      settings.statsZscoreSignificantThreshold
        = .ok (some move, earlier ++ [lastRet]) := by
    rw [moveFor_eq, hreturns, List.getLast?_concat, hlast]
    dsimp only
    rw [hvol, ok_bind, hmove]
    rfl
  obtain ⟨report, hreport, hmem⟩ := statsDaily_ok Rat.sqrt
    (marksOn_le hweek.2) (fun s hs => by
      rw [hsecurities, List.mem_singleton] at hs
      rw [hs]
      exact ⟨_, hscored⟩)
    (show ∀ pos ∈ cashBook.positions, _ from fun pos hpos => nomatch hpos)
  obtain ⟨hsecurity, -, hret, hewma, hzscore⟩ := moveAgainst_ok hmove
  exact ⟨report, move, hreport,
    hmem "sec_vti" (by rw [hsecurities]; exact List.mem_singleton_self _)
      move _ hscored, hsecurity, hret, hewma, hzscore⟩

/-- Statistics with a span of one. -/
def spanOfOne : Settings := { statsEwmaWindow := 1 }

end Warehouse
