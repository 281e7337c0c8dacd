/-
Which returns the correlation note pairs.

`datedReturns` keeps with each return the interval it was made over. The
note drops the intervals before it takes the last returns of each history,
so `averaged` carries them along: the windows whose correlations the note
averages, with their dates (`corrNote_cases`).

# The condition

Two windows of one length have a correlation exactly when both move
(`windowCorr_isSome`), so the averaged pairs of a half are the pairs of its
movers (`averagedIn_eq`). They pair the returns of one interval with each
other exactly when the movers of the half keep one calendar
(`paired_iff_calendar`).

Returns and variances are exact here. In floats the variance of returns that
are all equal need not come out as zero, so a window that does not move may
be averaged all the same; the condition speaks of the exact returns only.
-/
import Warehouse.Proofs.DailyStats

namespace Warehouse

open Lib

-- ============================================================= dated returns

/-- A return and the interval it was made over. -/
structure DatedReturn where
  interval : Date × Date
  ret : ℚ
  deriving DecidableEq

/-- The returns of a series, dated. -/
def datedReturns (series : PriceSeries) : List DatedReturn :=
  (series.zip series.tail).filterMap fun p =>
    if p.1.2 = 0 then none
    else some ⟨(p.1.1, p.2.1), p.2.2 / p.1.2 - 1⟩

/-- The returns without their dates. -/
def DatedReturn.values (returns : List DatedReturn) : List ℚ :=
  returns.map (·.ret)

/-- Without their dates the returns are the module's. -/
theorem values_datedReturns (series : PriceSeries) :
    DatedReturn.values (datedReturns series)
      = returnsOf (series.map Prod.snd) := by
  unfold DatedReturn.values datedReturns returnsOf
  rw [← List.map_tail, List.zip_map, List.map_filterMap, List.filterMap_map]
  refine List.filterMap_congr fun p _ => ?_
  show Option.map _ (if p.1.2 = 0 then _ else _)
    = if p.1.2 = 0 then _ else _
  split <;> rfl

/-- The dated returns of every security of a history, by security. -/
def datedHistories (history : List PriceObservation) :
    List (List DatedReturn) :=
  (securitiesOf history).map fun s => datedReturns (markSeries history s)

-- ===================================================================== pairs

section Pairs

variable {α β : Type*}

theorem pairsOf_map (f : α → β) (xs : List α) :
    pairsOf (xs.map f) = (pairsOf xs).map fun p => (f p.1, f p.2) := by
  induction xs with
  | nil => rfl
  | cons x rest ih =>
      rw [List.map_cons, pairsOf, pairsOf, ih, List.map_append, List.map_map,
        List.map_map]
      rfl

/-- The pairs of the items kept are the pairs with both items kept. -/
theorem pairsOf_filter (keep : α → Bool) (xs : List α) :
    pairsOf (xs.filter keep)
      = (pairsOf xs).filter fun p => keep p.1 && keep p.2 := by
  induction xs with
  | nil => rfl
  | cons x rest ih =>
      rw [pairsOf, List.filter_append, List.filter_map]
      cases hx : keep x with
      | true =>
          rw [List.filter_cons_of_pos hx, pairsOf, ih]
          congr 2
          refine List.filter_congr fun y _ => ?_
          show keep y = (keep x && keep y)
          rw [hx, Bool.true_and]
      | false =>
          have hnone : rest.filter ((fun p : α × α => keep p.1 && keep p.2)
              ∘ fun y => (x, y)) = [] := by
            rw [List.filter_eq_nil_iff]
            intro y _
            show ¬(keep x && keep y) = true
            simp [hx]
          rw [List.filter_cons_of_neg (by simp [hx]), ih, hnone]
          rfl

theorem pairsOf_eq_nil_iff (xs : List α) :
    pairsOf xs = [] ↔ xs.length < 2 := by
  cases xs with
  | nil => simp [pairsOf]
  | cons x rest =>
      cases rest with
      | nil => simp [pairsOf]
      | cons y rest => simp [pairsOf]

/-- A relation on all pairs is a pairwise relation. -/
theorem forall_mem_pairsOf {R : α → α → Prop} (xs : List α) :
    (∀ p ∈ pairsOf xs, R p.1 p.2) ↔ xs.Pairwise R := by
  induction xs with
  | nil => simp [pairsOf]
  | cons x rest ih =>
      rw [pairsOf, List.forall_mem_append, ih, List.forall_mem_map,
        List.pairwise_cons]

theorem mem_of_mem_pairsOf {xs : List α} {p : α × α} (h : p ∈ pairsOf xs) :
    p.1 ∈ xs ∧ p.2 ∈ xs := by
  induction xs with
  | nil => cases h
  | cons x rest ih =>
      rw [pairsOf, List.mem_append, List.mem_map] at h
      rcases h with ⟨y, hy, rfl⟩ | hrest
      · exact ⟨List.mem_cons_self .., List.mem_cons_of_mem _ hy⟩
      · exact ⟨List.mem_cons_of_mem _ (ih hrest).1,
          List.mem_cons_of_mem _ (ih hrest).2⟩

/-- Items that agree two by two share one value. -/
theorem pairwise_eq_iff [Inhabited β] (f : α → β) (xs : List α) :
    xs.Pairwise (fun x y => f x = f y) ↔ ∃ b, ∀ x ∈ xs, f x = b := by
  constructor
  · intro h
    cases xs with
    | nil => exact ⟨default, List.forall_mem_nil _⟩
    | cons x rest =>
        refine ⟨f x, List.forall_mem_cons.mpr ⟨rfl, fun y hy => ?_⟩⟩
        exact ((List.pairwise_cons.mp h).1 y hy).symm
  · intro ⟨b, hb⟩
    exact List.pairwise_of_forall_mem_list fun x hx y hy =>
      (hb x hx).trans (hb y hy).symm

end Pairs

-- ================================================================== variance

/-- A list varies exactly when two of its numbers differ. -/
theorem variation_pos_iff (xs : List ℚ) :
    0 < (xs.map fun x => (x - mean xs) ^ 2).sum
      ↔ ∃ x ∈ xs, ∃ y ∈ xs, x ≠ y := by
  have hnonneg : ∀ s ∈ xs.map fun x => (x - mean xs) ^ 2, 0 ≤ s := by
    rw [List.forall_mem_map]
    exact fun x _ => sq_nonneg _
  constructor
  · intro hpos
    by_contra hsame
    push Not at hsame
    -- one value throughout is its own mean
    have hmean : ∀ x ∈ xs, mean xs = x := by
      intro x hx
      have hne : (xs.length : ℚ) ≠ 0 := by
        exact_mod_cast (List.length_pos_of_mem hx).ne'
      unfold mean
      rw [List.sum_eq_card_nsmul xs x fun y hy => hsame y hy x hx,
        nsmul_eq_mul, mul_div_cancel_left₀ _ hne]
    have hzero : (xs.map fun x => (x - mean xs) ^ 2).sum = 0 := by
      apply List.sum_eq_zero
      rw [List.forall_mem_map]
      intro x hx
      rw [hmean x hx, sub_self]
      norm_num
    rw [hzero] at hpos
    exact lt_irrefl _ hpos
  · intro ⟨x, hx, y, hy, hne⟩
    refine lt_of_le_of_ne (List.sum_nonneg hnonneg) fun hzero => hne ?_
    have hmean : ∀ z ∈ xs, z = mean xs := by
      intro z hz
      have hsq := List.all_zero_of_le_zero_le_of_sum_eq_zero hnonneg
        hzero.symm (List.mem_map_of_mem hz)
      exact sub_eq_zero.mp (pow_eq_zero_iff two_ne_zero |>.mp hsq)
    rw [hmean x hx, hmean y hy]

/-- The last `n` items are `n`, where there are as many. -/
theorem length_lastN {α : Type*} {n : Nat} {xs : List α}
    (h : n ≤ xs.length) : (lastN n xs).length = n := by
  unfold lastN
  rw [List.length_drop]
  omega

theorem lastN_length {α : Type*} (xs : List α) :
    lastN xs.length xs = xs := by
  unfold lastN
  rw [Nat.sub_self, List.drop_zero]

theorem map_lastN {α β : Type*} (f : α → β) (n : Nat) (xs : List α) :
    (lastN n xs).map f = lastN n (xs.map f) := by
  unfold lastN
  rw [List.map_drop, List.length_map]

theorem mem_of_mem_lastN {α : Type*} {n : Nat} {xs : List α} {x : α}
    (h : x ∈ lastN n xs) : x ∈ xs := List.mem_of_mem_drop h

/-- Two windows of one length have a correlation exactly when both vary. -/
theorem pairwiseCorr_isSome (sqrt : ℚ → ℚ) {a b : List ℚ}
    (hlength : a.length = b.length) (htwo : 2 ≤ b.length) :
    (pairwiseCorr sqrt a b).isSome
      ↔ (∃ x ∈ a, ∃ y ∈ a, x ≠ y) ∧ ∃ x ∈ b, ∃ y ∈ b, x ≠ y := by
  unfold pairwiseCorr
  have hmin : min a.length b.length = b.length := by omega
  have ha : lastN b.length a = a := by
    rw [← hlength, lastN_length]
  dsimp only
  rw [hmin, if_neg (by omega), ha, lastN_length, ← variation_pos_iff,
    ← variation_pos_iff]
  split
  · next hflat =>
    simp only [Option.isSome_none, Bool.false_eq_true, false_iff]
    rcases hflat with h | h
    · exact fun hpos => absurd hpos.1 (not_lt.mpr h)
    · exact fun hpos => absurd hpos.2 (not_lt.mpr h)
  · next hmoves =>
    push Not at hmoves
    exact ⟨fun _ => hmoves, fun _ => rfl⟩

-- ================================================================= the windows

section Windows

variable (dated : List (List DatedReturn))

/-- The histories the note reads: at least four returns. -/
def scoredHistories : List (List DatedReturn) :=
  dated.filter fun r => 4 ≤ r.length

/-- The length of the shortest of them. -/
def commonLength : Nat :=
  (((scoredHistories dated).map List.length).min?).getD 0

/-- Their last returns over the common length, the earlier half. -/
def priorWindows : List (List DatedReturn) :=
  (scoredHistories dated).map fun r =>
    (lastN (commonLength dated) r).take (commonLength dated / 2)

/-- The recent half of every scored history, as the module cuts it: by position,
not by date. -/
def recentWindows : List (List DatedReturn) :=
  (scoredHistories dated).map fun r =>
    (lastN (commonLength dated) r).drop (commonLength dated / 2)

variable {dated}

/-- The common length is at least four, and no scored history is shorter. -/
theorem commonLength_le {r : List DatedReturn}
    (hr : r ∈ scoredHistories dated) :
    4 ≤ commonLength dated ∧ commonLength dated ≤ r.length := by
  unfold commonLength
  cases hmin : ((scoredHistories dated).map List.length).min? with
  | none =>
      rw [List.min?_eq_none_iff, List.map_eq_nil_iff] at hmin
      rw [hmin] at hr
      cases hr
  | some n =>
      rw [List.min?_eq_some_iff] at hmin
      obtain ⟨hmem, hle⟩ := hmin
      obtain ⟨shortest, hshortest, hn⟩ := List.mem_map.mp hmem
      have hfour : 4 ≤ shortest.length :=
        of_decide_eq_true (List.mem_filter.mp hshortest).2
      have hr' := hle r.length (List.mem_map_of_mem hr)
      show 4 ≤ n ∧ n ≤ r.length
      omega

/-- The windows of a half are of one length, two returns or more. -/
structure Windows (windows : List (List DatedReturn)) (length : Nat) :
    Prop where
  two : windows ≠ [] → 2 ≤ length
  length : ∀ w ∈ windows, w.length = length

/-- A half of the last returns over the common length. -/
theorem windows_half {half : List DatedReturn → List DatedReturn}
    {length : Nat} (htwo : 4 ≤ commonLength dated → 2 ≤ length)
    (hlength : ∀ r : List DatedReturn, r.length = commonLength dated →
      (half r).length = length) :
    Windows ((scoredHistories dated).map fun r =>
      half (lastN (commonLength dated) r)) length where
  two hne := by
    obtain ⟨w, hw⟩ := List.exists_mem_of_ne_nil _ hne
    obtain ⟨r, hr, -⟩ := List.mem_map.mp hw
    exact htwo (commonLength_le hr).1
  length w hw := by
    obtain ⟨r, hr, rfl⟩ := List.mem_map.mp hw
    exact hlength _ (length_lastN (commonLength_le hr).2)

/-- The prior halves are windows of one length. -/
theorem windows_prior :
    Windows (priorWindows dated) (commonLength dated / 2) := by
  refine windows_half (fun hfour => by omega) fun r hr => ?_
  rw [List.length_take, hr]
  omega

theorem windows_recent :
    Windows (recentWindows dated)
      (commonLength dated - commonLength dated / 2) := by
  refine windows_half (fun hfour => by omega) fun r hr => ?_
  rw [List.length_drop, hr]

end Windows

-- ============================================================ what is averaged

section Averaged

variable (sqrt : ℚ → ℚ)

/-- The correlation of a pair of windows. -/
def windowCorr (p : List DatedReturn × List DatedReturn) : Option ℚ :=
  pairwiseCorr sqrt (DatedReturn.values p.1) (DatedReturn.values p.2)

/-- The pairs of windows that have one. -/
def averagedIn (windows : List (List DatedReturn)) :
    List (List DatedReturn × List DatedReturn) :=
  (pairsOf windows).filter fun p => (windowCorr sqrt p).isSome

/-- The pairs of windows whose correlations the note averages: none where
it has none to average in one of the halves. -/
def averaged (dated : List (List DatedReturn)) :
    List (List DatedReturn × List DatedReturn) :=
  if averagedIn sqrt (priorWindows dated) = []
      ∨ averagedIn sqrt (recentWindows dated) = [] then []
  else averagedIn sqrt (priorWindows dated)
    ++ averagedIn sqrt (recentWindows dated)

/-- The returns a correlation pairs: the last ones of both windows. -/
def paired (p : List DatedReturn × List DatedReturn) :
    List (DatedReturn × DatedReturn) :=
  let n := min p.1.length p.2.length
  (lastN n p.1).zip (lastN n p.2)

/-- The note says that no breakdown was computed. -/
def NotComputed (note : String) : Prop :=
  "not_computed".toList <+: note.toList

/-- The note of two averages. -/
def shiftNote (prior recent : ℚ) : String :=
  "avg pairwise ρ " ++ signedFixed prior ++ " → " ++ signedFixed recent
    ++ " (Δ " ++ signedFixed (recent - prior)
    ++ "); correlations are regime-dependent "
    ++ "(¬PS2 watch) — a spike toward 1 collapses diversification "
    ++ "exactly when it is needed"

/-- The correlations of a half. -/
def correlations (windows : List (List DatedReturn)) : List ℚ :=
  (averagedIn sqrt windows).filterMap (windowCorr sqrt)

/-- The correlations of the windows are the module's, date by date. -/
theorem filterMap_windowCorr (windows : List (List DatedReturn)) :
    (pairsOf windows).filterMap (windowCorr sqrt)
      = correlations sqrt windows := by
  unfold correlations averagedIn
  rw [List.filterMap_filter]
  refine List.filterMap_congr fun p _ => ?_
  cases hcorr : windowCorr sqrt p with
  | none => rfl
  | some rho => rfl

/-- There is no correlation exactly when no pair is averaged. -/
theorem correlations_eq_nil_iff (windows : List (List DatedReturn)) :
    correlations sqrt windows = [] ↔ averagedIn sqrt windows = [] := by
  constructor
  · intro h
    unfold correlations at h
    rw [List.filterMap_eq_nil_iff] at h
    rw [List.eq_nil_iff_forall_not_mem]
    intro p hp
    have hsome : (windowCorr sqrt p).isSome := (List.mem_filter.mp hp).2
    rw [h p hp] at hsome
    cases hsome
  · intro h
    unfold correlations
    rw [h, List.filterMap_nil]

theorem length_values (returns : List DatedReturn) :
    (DatedReturn.values returns).length = returns.length := List.length_map _

/-- The scored histories are the returns of length four or more. -/
theorem filter_values (dated : List (List DatedReturn)) :
    (dated.map DatedReturn.values).filter (fun r => 4 ≤ r.length)
      = (scoredHistories dated).map DatedReturn.values := by
  rw [List.filter_map]
  congr 1
  refine List.filter_congr fun r _ => ?_
  show decide (4 ≤ (DatedReturn.values r).length) = decide (4 ≤ r.length)
  rw [length_values]

/-- A half of the returns, dated or not. -/
theorem correlations_windows (half : List ℚ → List ℚ)
    (half' : List DatedReturn → List DatedReturn)
    (hhalf : ∀ r, DatedReturn.values (half' r) = half (DatedReturn.values r))
    (series : List (List DatedReturn)) :
    (pairsOf (series.map DatedReturn.values)).filterMap
        (fun p => pairwiseCorr sqrt (half p.1) (half p.2))
      = correlations sqrt (series.map half') := by
  rw [← filterMap_windowCorr, pairsOf_map, pairsOf_map, List.filterMap_map,
    List.filterMap_map]
  refine List.filterMap_congr fun p _ => ?_
  show pairwiseCorr sqrt (half (DatedReturn.values p.1))
      (half (DatedReturn.values p.2))
    = windowCorr sqrt (half' p.1, half' p.2)
  rw [← hhalf, ← hhalf]
  rfl

/-- The note by its three guards, in the order the module makes them. -/
theorem corrNote_eq (dated : List (List DatedReturn)) :
    corrNote sqrt (dated.map DatedReturn.values)
      = if (scoredHistories dated).length < 2 then
          "not_computed — need ≥2 securities with ≥4 overlapping returns "
            ++ "for a correlation-shift read (¬PS2)"
        else if commonLength dated / 2 < 2 then
          "not_computed — insufficient overlapping history for a "
            ++ "correlation-shift read (¬PS2)"
        else if correlations sqrt (priorWindows dated) = []
            ∨ correlations sqrt (recentWindows dated) = [] then
          "not_computed — degenerate (flat) returns in the window; "
            ++ "no correlation-shift read (¬PS2)"
        else shiftNote (mean (correlations sqrt (priorWindows dated)))
          (mean (correlations sqrt (recentWindows dated))) := by
  have hlengths : ((scoredHistories dated).map DatedReturn.values).map
      List.length = (scoredHistories dated).map List.length := by
    rw [List.map_map]
    exact List.map_congr_left fun r _ => length_values r
  have hprior := correlations_windows sqrt
    (fun r => (lastN (commonLength dated) r).take (commonLength dated / 2))
    (fun r => (lastN (commonLength dated) r).take (commonLength dated / 2))
    (fun r => by
      unfold DatedReturn.values
      rw [List.map_take, map_lastN]) (scoredHistories dated)
  have hrecent := correlations_windows sqrt
    (fun r => (lastN (commonLength dated) r).drop (commonLength dated / 2))
    (fun r => (lastN (commonLength dated) r).drop (commonLength dated / 2))
    (fun r => by
      unfold DatedReturn.values
      rw [List.map_drop, map_lastN]) (scoredHistories dated)
  unfold priorWindows recentWindows
  rw [← hprior, ← hrecent]
  unfold corrNote
  dsimp only
  rw [filter_values, hlengths, List.length_map, List.filterMap_map,
    List.filterMap_map]
  rfl

/-- The note is not computed and averages nothing, or averages the
correlations of the averaged pairs, half by half. -/
theorem corrNote_cases (dated : List (List DatedReturn)) :
    (averaged sqrt dated = []
        ∧ NotComputed (corrNote sqrt (dated.map DatedReturn.values)))
      ∨ (averaged sqrt dated = averagedIn sqrt (priorWindows dated)
            ++ averagedIn sqrt (recentWindows dated)
        ∧ averagedIn sqrt (priorWindows dated) ≠ []
        ∧ averagedIn sqrt (recentWindows dated) ≠ []
        ∧ corrNote sqrt (dated.map DatedReturn.values)
          = shiftNote (mean (correlations sqrt (priorWindows dated)))
            (mean (correlations sqrt (recentWindows dated)))) := by
  rw [corrNote_eq]
  simp only [correlations_eq_nil_iff]
  unfold averaged
  by_cases hnone : averagedIn sqrt (priorWindows dated) = []
      ∨ averagedIn sqrt (recentWindows dated) = []
  · left
    rw [if_pos hnone, if_pos hnone]
    refine ⟨rfl, ?_⟩
    unfold NotComputed
    split
    · decide
    · split <;> decide
  · right
    rw [if_neg hnone, if_neg hnone]
    have hne := not_or.mp hnone
    have hlength : ¬(scoredHistories dated).length < 2 := by
      intro hshort
      apply hne.1
      unfold averagedIn
      rw [(pairsOf_eq_nil_iff _).mpr, List.filter_nil]
      unfold priorWindows
      rw [List.length_map]
      exact hshort
    have hhalf : ¬commonLength dated / 2 < 2 := by
      cases hscored : scoredHistories dated with
      | nil =>
          rw [hscored] at hlength
          simp at hlength
      | cons r rest =>
          have hr : r ∈ scoredHistories dated := by
            rw [hscored]
            exact List.mem_cons_self ..
          have := commonLength_le hr
          omega
    rw [if_neg hlength, if_neg hhalf]
    exact ⟨rfl, hne.1, hne.2, rfl⟩

-- ================================================================ the movers

/-- Returns that are not all equal. -/
def Moves (returns : List DatedReturn) : Prop :=
  ∃ x ∈ returns, ∃ y ∈ returns, x.ret ≠ y.ret

instance (returns : List DatedReturn) : Decidable (Moves returns) :=
  inferInstanceAs (Decidable (∃ x ∈ returns, ∃ y ∈ returns, x.ret ≠ y.ret))

/-- The windows of a half that move. -/
def movers (windows : List (List DatedReturn)) : List (List DatedReturn) :=
  windows.filter fun w => Moves w

variable {windows : List (List DatedReturn)} {length : Nat}

/-- A pair has a correlation exactly when both windows move. -/
theorem windowCorr_isSome (h : Windows windows length)
    {p : List DatedReturn × List DatedReturn} (hp : p ∈ pairsOf windows) :
    (windowCorr sqrt p).isSome = (decide (Moves p.1) && decide (Moves p.2)) := by
  obtain ⟨hfst, hsnd⟩ := mem_of_mem_pairsOf hp
  have htwo := h.two (List.ne_nil_of_mem hfst)
  have hvalues : ∀ w : List DatedReturn,
      (∃ x ∈ DatedReturn.values w, ∃ y ∈ DatedReturn.values w, x ≠ y)
        ↔ Moves w := by
    intro w
    unfold DatedReturn.values Moves
    simp only [List.mem_map, exists_exists_and_eq_and]
  rw [Bool.eq_iff_iff, Bool.and_eq_true, decide_eq_true_eq, decide_eq_true_eq,
    ← hvalues, ← hvalues]
  apply pairwiseCorr_isSome
  · rw [length_values, length_values, h.length _ hfst, h.length _ hsnd]
  · rw [length_values, h.length _ hsnd]
    exact htwo

/-- The averaged pairs of a half are the pairs of its movers. -/
theorem averagedIn_eq (h : Windows windows length) :
    averagedIn sqrt windows = pairsOf (movers windows) := by
  unfold movers averagedIn
  rw [pairsOf_filter]
  exact List.filter_congr fun p hp => windowCorr_isSome sqrt h hp

/-- The movers of a half were marked on one calendar. -/
def OnOneCalendar (windows : List (List DatedReturn)) : Prop :=
  ∃ calendar, ∀ w ∈ movers windows, w.map (·.interval) = calendar

/-- A pair of windows of one length pairs each return with the one of the
same interval exactly when the windows have the same intervals. -/
theorem paired_iff {a b : List DatedReturn} (h : a.length = b.length) :
    (∀ q ∈ paired (a, b), q.1.interval = q.2.interval)
      ↔ a.map (·.interval) = b.map (·.interval) := by
  have hpaired : paired (a, b) = a.zip b := by
    show (lastN (min a.length b.length) a).zip
      (lastN (min a.length b.length) b) = _
    rw [h, min_self, lastN_length]
    conv_lhs => rw [← h, lastN_length]
  rw [hpaired]
  clear hpaired
  induction a generalizing b with
  | nil =>
      cases b with
      | nil => simp
      | cons y b => simp at h
  | cons x a ih =>
      cases b with
      | nil => simp at h
      | cons y b =>
          have hrest := ih (by simpa using h : a.length = b.length)
          rw [List.zip_cons_cons, List.forall_mem_cons, List.map_cons,
            List.map_cons, List.cons.injEq]
          exact and_congr_right' hrest

/-- The averaged pairs pair equal days exactly when the moving windows share one
calendar. -/
theorem paired_iff_calendar (h : Windows windows length) :
    (∀ p ∈ averagedIn sqrt windows, ∀ q ∈ paired p,
        q.1.interval = q.2.interval)
      ↔ OnOneCalendar windows := by
  unfold OnOneCalendar
  rw [averagedIn_eq sqrt h, ← pairwise_eq_iff, ← forall_mem_pairsOf]
  refine forall₂_congr fun p hp => ?_
  obtain ⟨hfst, hsnd⟩ := mem_of_mem_pairsOf hp
  apply paired_iff
  rw [h.length _ (List.mem_filter.mp hfst).1,
    h.length _ (List.mem_filter.mp hsnd).1]

end Averaged

-- ================================================================== the report

/-- Histories too short to be scored do not change the note. -/
theorem corrNote_congr (sqrt : ℚ → ℚ) {xs ys : List (List ℚ)}
    (h : xs.filter (fun r => 4 ≤ r.length)
      = ys.filter fun r => 4 ≤ r.length) :
    corrNote sqrt xs = corrNote sqrt ys := by
  unfold corrNote
  rw [h]

/-- A security without a move has no returns. -/
theorem moveFor_returns {sqrt : ℚ → ℚ} {securityId : String}
    {series : PriceSeries} {window : Int} {zThreshold : ℚ}
    {result : Option DailyMove × List ℚ}
    (h : moveFor sqrt securityId series window zThreshold = .ok result) :
    result.2 = returnsOf (series.map Prod.snd)
      ∧ (result.1 = none → result.2 = []) := by
  rw [moveFor_eq] at h
  split at h
  · obtain ⟨vol, -, h⟩ := bind_ok_iff.mp h
    obtain ⟨move, -, h⟩ := bind_ok_iff.mp h
    cases h
    exact ⟨rfl, fun h => nomatch h⟩
  · next hnone =>
    cases h
    refine ⟨?_, fun _ => rfl⟩
    cases hlast : (returnsOf (series.map Prod.snd)).getLast? with
    | none => exact (List.getLast?_eq_none_iff.mp hlast).symm
    | some lastRet =>
        cases hseries : series.getLast? with
        | none =>
            rw [List.getLast?_eq_none_iff.mp hseries]
            rfl
        | some last => exact absurd hseries (hnone lastRet last.1 last.2 hlast)

/-- The report's note reads the dated histories, dates aside. -/
theorem rollingCorrNote_eq {sqrt : ℚ → ℚ} {settings : Settings}
    {book : PmAdvisePayload} {asOf : Date} {history : List PriceObservation}
    {report : DailyStatsReport}
    (h : statsDaily sqrt settings book asOf history = .ok report) :
    report.rollingCorrNote
      = corrNote sqrt ((datedHistories history).map DatedReturn.values) := by
  rw [statsDaily_eq] at h
  split at h
  · cases h
  · unfold statsOver at h
    obtain ⟨scored, hscored, h⟩ := bind_ok_iff.mp h
    obtain ⟨assumptions, -, h⟩ := bind_ok_iff.mp h
    obtain ⟨attribution, -, h⟩ := bind_ok_iff.mp h
    cases h
    have hreturns : scored.map Prod.snd
        = (datedHistories history).map DatedReturn.values := by
      unfold datedHistories
      rw [List.map_map]
      exact mapM_map_eq hscored fun s result hresult => by
        rw [(moveFor_returns hresult).1]
        exact (values_datedReturns _).symm
    have hempty : ∀ result ∈ scored, result.1.isSome = false →
        result.2 = [] := by
      intro result hmem hnone
      obtain ⟨s, -, hs⟩ := mapM_mem hscored hmem
      exact (moveFor_returns hs).2 (by simpa using hnone)
    rw [← hreturns]
    apply corrNote_congr
    rw [List.filter_map, List.filter_map, List.filter_filter]
    congr 1
    refine List.filter_congr fun result hmem => ?_
    show (decide (4 ≤ result.2.length) && result.1.isSome)
      = decide (4 ≤ result.2.length)
    cases hmove : result.1.isSome with
    | true => rw [Bool.and_true]
    | false =>
        rw [hempty result hmem hmove]
        rfl

-- =============================================================== the condition

/-- The note pairs simultaneous returns: every correlation averaged into it
pairs returns over identical intervals, and without a common interval it is
not computed. -/
structure CorrSimultaneous (sqrt : ℚ → ℚ) (history : List PriceObservation)
    (report : DailyStatsReport) : Prop where
  paired : ∀ p ∈ averaged sqrt (datedHistories history), ∀ q ∈ paired p,
    q.1.interval = q.2.interval
  disjoint : (datedHistories history).Pairwise
      (fun a b => ∀ x ∈ a, ∀ y ∈ b, x.interval ≠ y.interval) →
    NotComputed report.rollingCorrNote

/-- In one half at most one window moves, or in both the windows that move
were marked on one calendar. A window moves where its exact returns are not
all equal. -/
def MoversAligned (dated : List (List DatedReturn)) : Prop :=
  (movers (priorWindows dated)).length < 2
    ∨ (movers (recentWindows dated)).length < 2
    ∨ (OnOneCalendar (priorWindows dated) ∧ OnOneCalendar (recentWindows dated))

/-- Both halves pair equal days exactly when the movers are aligned. -/
theorem forall_averaged_iff (sqrt : ℚ → ℚ) (dated : List (List DatedReturn)) :
    (∀ p ∈ averaged sqrt dated, ∀ q ∈ paired p,
        q.1.interval = q.2.interval)
      ↔ MoversAligned dated := by
  have hnone : ∀ {windows : List (List DatedReturn)} {length : Nat},
      Windows windows length →
        (averagedIn sqrt windows = [] ↔ (movers windows).length < 2) := by
    intro windows length h
    rw [averagedIn_eq sqrt h, pairsOf_eq_nil_iff]
  unfold averaged MoversAligned
  rw [← hnone windows_prior, ← hnone windows_recent, ← or_assoc]
  by_cases hempty : averagedIn sqrt (priorWindows dated) = []
      ∨ averagedIn sqrt (recentWindows dated) = []
  · rw [if_pos hempty]
    exact iff_of_true (List.forall_mem_nil _) (Or.inl hempty)
  · rw [if_neg hempty, List.forall_mem_append,
      paired_iff_calendar sqrt windows_prior,
      paired_iff_calendar sqrt windows_recent]
    exact (or_iff_right hempty).symm

/-- Simultaneous pairs need a common interval. -/
theorem not_computed_of_disjoint (sqrt : ℚ → ℚ)
    (dated : List (List DatedReturn))
    (hpaired : ∀ p ∈ averaged sqrt dated, ∀ q ∈ paired p,
      q.1.interval = q.2.interval)
    (hdisjoint : dated.Pairwise
      fun a b => ∀ x ∈ a, ∀ y ∈ b, x.interval ≠ y.interval) :
    NotComputed (corrNote sqrt (dated.map DatedReturn.values)) := by
  rcases corrNote_cases sqrt dated with ⟨-, h⟩ | ⟨hall, hprior, -, -⟩
  · exact h
  · -- a pair averaged in the prior half shares its first interval
    exfalso
    obtain ⟨p, hp⟩ := List.exists_mem_of_ne_nil _ hprior
    have hpairs : p ∈ pairsOf (priorWindows dated) :=
      (List.mem_filter.mp hp).1
    have hmem : p ∈ averaged sqrt dated := by
      rw [hall]
      exact List.mem_append_left _ hp
    have hapart : (priorWindows dated).Pairwise
        fun a b => ∀ x ∈ a, ∀ y ∈ b, x.interval ≠ y.interval := by
      unfold priorWindows
      rw [List.pairwise_map]
      refine (hdisjoint.sublist List.filter_sublist).imp ?_
      intro a b hab x hx y hy
      exact hab x (mem_of_mem_lastN (List.mem_of_mem_take hx)) y
        (mem_of_mem_lastN (List.mem_of_mem_take hy))
    obtain ⟨hfst, hsnd⟩ := mem_of_mem_pairsOf hpairs
    have hlength : p.1.length = p.2.length := by
      rw [windows_prior.length _ hfst, windows_prior.length _ hsnd]
    have hintervals := (paired_iff hlength).mp (hpaired p hmem)
    have htwo := windows_prior.two (List.ne_nil_of_mem hfst)
    cases hp1 : p.1 with
    | nil =>
        have := windows_prior.length _ hfst
        rw [hp1, List.length_nil] at this
        omega
    | cons x a =>
        cases hp2 : p.2 with
        | nil =>
            rw [hp1, hp2] at hlength
            cases hlength
        | cons y b =>
            rw [hp1, hp2, List.map_cons, List.map_cons] at hintervals
            have happart := (forall_mem_pairsOf _).mpr hapart p hpairs
            rw [hp1, hp2] at happart
            exact happart x (List.mem_cons_self ..) y (List.mem_cons_self ..)
              (List.cons.inj hintervals).1

/-- In exact arithmetic: the note averages the correlations of the averaged
windows, and these pair simultaneous returns exactly when, in each half, the
windows that move keep one calendar, or one half has fewer than two that
move. -/
theorem corr_note_simultaneous_iff {sqrt : ℚ → ℚ} {settings : Settings}
    {book : PmAdvisePayload} {asOf : Date} {history : List PriceObservation}
    {report : DailyStatsReport}
    (h : statsDaily sqrt settings book asOf history = .ok report) :
    ((averaged sqrt (datedHistories history) = []
          ∧ NotComputed report.rollingCorrNote)
        ∨ (averaged sqrt (datedHistories history)
              = averagedIn sqrt (priorWindows (datedHistories history))
                ++ averagedIn sqrt (recentWindows (datedHistories history))
          ∧ averagedIn sqrt (priorWindows (datedHistories history)) ≠ []
          ∧ averagedIn sqrt (recentWindows (datedHistories history)) ≠ []
          ∧ report.rollingCorrNote = shiftNote
            (mean (correlations sqrt (priorWindows (datedHistories history))))
            (mean (correlations sqrt
              (recentWindows (datedHistories history))))))
      ∧ (CorrSimultaneous sqrt history report
        ↔ MoversAligned (datedHistories history)) := by
  rw [rollingCorrNote_eq h]
  refine ⟨corrNote_cases sqrt _, ?_⟩
  rw [← forall_averaged_iff sqrt]
  refine ⟨fun hsimultaneous => hsimultaneous.paired,
    fun hpaired => ⟨hpaired, fun hdisjoint => ?_⟩⟩
  rw [rollingCorrNote_eq h]
  exact not_computed_of_disjoint sqrt _ hpaired hdisjoint

-- ============================================================ two histories

/-- Two securities marked up and down for a week, each from a day of its
own. -/
def zigzags (first second : Int) : List PriceObservation :=
  ([100, 110, 100, 110, 100] : List ℚ).zipIdx.flatMap fun p =>
    [⟨"sec_vti", first + p.2, p.1⟩, ⟨"sec_bnd", second + p.2, p.1⟩]

/-- Where both moves fit, the two weeks have a report on their last day. -/
theorem statsDaily_zigzags (first second : Int)
    (hfits : ∀ s ∈ securitiesOf (zigzags first second),
      (moveFor Rat.sqrt s (markSeries (zigzags first second) s)
        ({} : Settings).statsEwmaWindow
        ({} : Settings).statsZscoreSignificantThreshold).isOk) :
    ∃ report, statsDaily Rat.sqrt {} cashBook (max first second + 4)
      (zigzags first second) = .ok report := by
  have hmoves : ∀ s ∈ securitiesOf (zigzags first second), ∃ result,
      moveFor Rat.sqrt s (markSeries (zigzags first second) s)
        ({} : Settings).statsEwmaWindow
        ({} : Settings).statsZscoreSignificantThreshold = .ok result := by
    intro s hs
    have hs := hfits s hs
    cases hmove : moveFor Rat.sqrt s (markSeries (zigzags first second) s)
        ({} : Settings).statsEwmaWindow
        ({} : Settings).statsZscoreSignificantThreshold with
    | error err =>
        rw [hmove] at hs
        cases hs
    | ok result => exact ⟨result, rfl⟩
  have hasOf : ∀ obs ∈ zigzags first second,
      obs.asOfDate ≤ max first second + 4 := by
    intro obs hobs
    obtain ⟨p, hp, hobs⟩ := List.mem_flatMap.mp hobs
    have hday := List.snd_lt_of_mem_zipIdx hp
    simp only [List.length_cons, List.length_nil] at hday
    have hfirst := le_max_left first second
    have hsecond := le_max_right first second
    simp only [List.mem_cons, List.not_mem_nil, or_false] at hobs
    rcases hobs with rfl | rfl
    · show first + (p.2 : Nat) ≤ max first second + 4
      omega
    · show second + (p.2 : Nat) ≤ max first second + 4
      omega
  obtain ⟨report, hreport, -⟩ := statsDaily_ok Rat.sqrt hasOf hmoves
    (show ∀ pos ∈ cashBook.positions, _ from fun _ h => nomatch h)
  exact ⟨report, hreport⟩

/-- Marked on the same days. -/
theorem corr_note_simultaneous_iff_sameDays :
    ∃ report, statsDaily Rat.sqrt {} cashBook (max 1 1 + 4) (zigzags 1 1)
        = .ok report
      ∧ CorrSimultaneous Rat.sqrt (zigzags 1 1) report := by
  obtain ⟨report, hreport⟩ := statsDaily_zigzags 1 1 (by decide +kernel)
  refine ⟨report, hreport, (corr_note_simultaneous_iff hreport).2.mpr ?_⟩
  exact Or.inr (Or.inr ⟨⟨[(1, 2), (2, 3)], by decide +kernel⟩,
    ⟨[(3, 4), (4, 5)], by decide +kernel⟩⟩)

/-- A computed shift never reads as `not_computed`. -/
theorem not_notComputed_shiftNote (prior recent : ℚ) :
    ¬NotComputed (shiftNote prior recent) := by
  unfold NotComputed shiftNote
  simp only [String.toList_append, List.append_assoc]
  intro ⟨rest, hrest⟩
  have hfirst := congrArg List.head? hrest
  rw [List.head?_append_of_ne_nil _ (by decide),
    List.head?_append_of_ne_nil _ (by decide)] at hfirst
  revert hfirst
  decide

/-- Marked a week apart, with no interval in common: the note is computed all
the same. -/
theorem zigzags_note_misaligned :
    ∃ report, statsDaily Rat.sqrt {} cashBook (max 1 11 + 4) (zigzags 1 11)
        = .ok report
      ∧ (datedHistories (zigzags 1 11)).Pairwise
        (fun a b => ∀ x ∈ a, ∀ y ∈ b, x.interval ≠ y.interval)
      ∧ ¬NotComputed report.rollingCorrNote
      ∧ ¬CorrSimultaneous Rat.sqrt (zigzags 1 11) report := by
  obtain ⟨report, hreport⟩ := statsDaily_zigzags 1 11 (by decide +kernel)
  have hapart : (datedHistories (zigzags 1 11)).Pairwise
      fun a b => ∀ x ∈ a, ∀ y ∈ b, x.interval ≠ y.interval := by
    decide +kernel
  have hcomputed : ¬NotComputed report.rollingCorrNote := by
    have haveraged : averaged Rat.sqrt (datedHistories (zigzags 1 11)) ≠ [] := by
      decide +kernel
    rw [rollingCorrNote_eq hreport]
    rcases corrNote_cases Rat.sqrt (datedHistories (zigzags 1 11)) with
      ⟨hnone, -⟩ | ⟨-, -, -, hnote⟩
    · exact absurd hnone haveraged
    · rw [hnote]
      exact not_notComputed_shiftNote _ _
  exact ⟨report, hreport, hapart, hcomputed,
    fun hsimultaneous => hcomputed (hsimultaneous.disjoint hapart)⟩

end Warehouse
