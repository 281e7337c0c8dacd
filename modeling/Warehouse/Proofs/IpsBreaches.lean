/-
The three IPS checks agree.

The optimizers add up ratios, the drift report takes a ratio of sums; both
accumulations are tallies of the marked positions, so each sleeve weighs
its share of NAV in all of them (`getD_sleeveWeights`,
`getD_classMarketValue`). The comparisons are then the same for every
target, and what is left is that a tag or an alert is read only one way:
the prefixes of the tags are no prefixes of each other (`append_ne`), and
an alert's sleeve is what stands before its first blank (`alertText_inj`).

# What is compared

Three paths look at one book: the heuristic and the MIP stub tag their
results, the drift report writes alerts. A sleeve is breached when its share
of NAV is strictly outside the band of one of its targets (`AboveMax`,
`BelowMin`), and each path says so of exactly these sleeves, whatever the
order of the positions, the settings and the days of the two runs. Books
worth nothing are outside: there the optimizers refuse and the report has no
weights.
-/
import Warehouse.Decision.Monitor
import Warehouse.Proofs.Mip
import Warehouse.Proofs.RiskView

namespace Warehouse

open Lib

variable {positions : List LotPositionView} {ips : InvestmentPolicyStatement}

-- ================================================================ the shares

/-- The positions with a market value. -/
def markedPositions (positions : List LotPositionView) :
    List LotPositionView :=
  positions.filter (·.marketValue.isSome)

/-- A position without a market value adds nothing. -/
theorem sum_markedPositions (s : IpsSleeve)
    (positions : List LotPositionView) :
    (((markedPositions positions).filter (ipsSleeveForPosition · = s)).map
        fun p => p.marketValue.getD 0).sum
      = valueWhere (ipsSleeveForPosition · = s) positions := by
  unfold markedPositions valueWhere totalMarketValue
  induction positions with
  | nil => rfl
  | cons p rest ih =>
      cases hvalue : p.marketValue with
      | none =>
          rw [List.filter_cons_of_neg (by simp [hvalue]), ih]
          by_cases hs : ipsSleeveForPosition p = s
          · rw [List.filter_cons_of_pos (by simpa using hs), List.map_cons,
              List.sum_cons, hvalue, Option.getD_none, zero_add]
          · rw [List.filter_cons_of_neg (by simpa using hs)]
      | some value =>
          rw [List.filter_cons_of_pos (by simp [hvalue])]
          by_cases hs : ipsSleeveForPosition p = s
          · rw [List.filter_cons_of_pos (by simpa using hs),
              List.filter_cons_of_pos (by simpa using hs), List.map_cons,
              List.sum_cons, List.map_cons, List.sum_cons, ih]
          · rw [List.filter_cons_of_neg (by simpa using hs),
              List.filter_cons_of_neg (by simpa using hs), ih]

/-- A sleeve above the maximum of one of its targets. -/
def AboveMax (positions : List LotPositionView)
    (ips : InvestmentPolicyStatement) (s : IpsSleeve) : Prop :=
  ∃ target ∈ ips.allocationTargets, target.assetClass = s
    ∧ target.maxWeight < sleeveShare positions s

/-- A sleeve below the minimum of one of its targets. -/
def BelowMin (positions : List LotPositionView)
    (ips : InvestmentPolicyStatement) (s : IpsSleeve) : Prop :=
  ∃ target ∈ ips.allocationTargets, target.assetClass = s
    ∧ sleeveShare positions s < target.minWeight

/-- The weights are a tally of shares by sleeve. -/
theorem sleeveWeights_eq_tally (totalMv : ℚ)
    (positions : List LotPositionView) :
    sleeveWeights totalMv positions
      = Dict.tally ipsSleeveForPosition
        (fun p => p.marketValue.getD 0 / totalMv)
        (markedPositions positions) := by
  unfold sleeveWeights Dict.tally markedPositions
  rw [List.foldl_filter]
  congr 1
  funext weights pos
  show _ = if pos.marketValue.isSome then weights.set _
    ((weights.get? _).getD 0 + pos.marketValue.getD 0 / totalMv) else weights
  cases pos.marketValue <;> rfl

/-- And the monitor's values a tally of values. -/
theorem classMarketValue_eq_tally (positions : List LotPositionView) :
    classMarketValue positions
      = Dict.tally ipsSleeveForPosition (fun p => p.marketValue.getD 0)
        (markedPositions positions) := by
  unfold classMarketValue Dict.tally markedPositions
  rw [List.foldl_filter]
  congr 1
  funext classMv pos
  show _ = if pos.marketValue.isSome then classMv.set _
    ((classMv.get? _).getD 0 + pos.marketValue.getD 0) else classMv
  cases pos.marketValue <;> rfl

/-- A sum of ratios is the ratio of the sum. -/
theorem getD_sleeveWeights (totalMv : ℚ) (positions : List LotPositionView)
    (s : IpsSleeve) :
    ((sleeveWeights totalMv positions).get? s).getD 0
      = valueWhere (ipsSleeveForPosition · = s) positions / totalMv := by
  have hdiv : (fun p : LotPositionView => p.marketValue.getD 0 / totalMv)
      = fun p => p.marketValue.getD 0 * totalMv⁻¹ :=
    funext fun p => div_eq_mul_inv _ _
  rw [sleeveWeights_eq_tally, Dict.getD_tally, hdiv, List.sum_map_mul_right,
    ← div_eq_mul_inv, sum_markedPositions]

/-- A sleeve's value is that of its positions. -/
theorem getD_classMarketValue (positions : List LotPositionView)
    (s : IpsSleeve) :
    ((classMarketValue positions).get? s).getD 0
      = valueWhere (ipsSleeveForPosition · = s) positions := by
  rw [classMarketValue_eq_tally, Dict.getD_tally, sum_markedPositions]

-- ================================================================= the texts

/-- Texts under prefixes that are no prefixes of each other differ. -/
theorem append_ne {p q : String} (hp : ¬p.toList <+: q.toList)
    (hq : ¬q.toList <+: p.toList) (x y : String) : p ++ x ≠ q ++ y := by
  intro h
  have hlist : p.toList ++ x.toList = q.toList ++ y.toList := by
    rw [← String.toList_append, h, String.toList_append]
  have hpre : q.toList <+: p.toList ++ x.toList := by
    rw [hlist]
    exact List.prefix_append _ _
  rcases List.prefix_or_prefix_of_prefix (List.prefix_append _ _) hpre
    with h | h
  · exact hp h
  · exact hq h

/-- Texts with one prefix differ in what follows. -/
theorem append_left_inj {p x y : String} (h : p ++ x = p ++ y) : x = y := by
  have hlist := congrArg String.toList h
  rw [String.toList_append, String.toList_append] at hlist
  exact String.toList_inj.mp (List.append_cancel_left hlist)

theorem IpsSleeve.value_injective : Function.Injective IpsSleeve.value := by
  intro s t h
  cases s <;> cases t <;> first | rfl | exact absurd h (by decide)

/-- No sleeve's name holds a blank, so it is read off the front of its alert. -/
theorem IpsSleeve.takeWhile_value (s : IpsSleeve) (rest : List Char) :
    (s.value.toList ++ ' ' :: rest).takeWhile (· ≠ ' ') = s.value.toList := by
  have hnone : ∀ c ∈ s.value.toList, decide (c ≠ ' ') = true := by
    rw [← List.all_eq_true]
    cases s <;> decide
  rw [List.takeWhile_append_of_pos hnone, List.takeWhile_cons_of_neg,
    List.append_nil]
  simp

/-- An alert on a sleeve. -/
def alertText (s : IpsSleeve) (text : String) : String :=
  s.value ++ " " ++ text

/-- An alert names its sleeve before the first blank. -/
theorem alertText_inj {s t : IpsSleeve} {x y : String}
    (h : alertText s x = alertText t y) : s = t ∧ x = y := by
  have hlist := congrArg String.toList h
  unfold alertText at hlist
  simp only [String.toList_append, List.append_assoc] at hlist
  have hvalue := congrArg (List.takeWhile (· ≠ ' ')) hlist
  have hs : s = t := by
    change (s.value.toList ++ ' ' :: x.toList).takeWhile _
      = (t.value.toList ++ ' ' :: y.toList).takeWhile _ at hvalue
    rw [s.takeWhile_value, t.takeWhile_value] at hvalue
    exact IpsSleeve.value_injective (String.toList_inj.mp hvalue)
  subst hs
  exact ⟨rfl, String.toList_inj.mp
    (List.append_cancel_left (List.append_cancel_left hlist))⟩

-- ================================================================== the tags

/-- The constraint tag of a sleeve above its band. -/
def maxTag (s : IpsSleeve) : String := "ips_max:" ++ s.value

/-- The constraint tag of a sleeve below its band. -/
def minTag (s : IpsSleeve) : String := "ips_min:" ++ s.value

theorem maxTag_inj {s t : IpsSleeve} (h : maxTag s = maxTag t) : s = t :=
  IpsSleeve.value_injective (append_left_inj h)

theorem minTag_inj {s t : IpsSleeve} (h : minTag s = minTag t) : s = t :=
  IpsSleeve.value_injective (append_left_inj h)

theorem maxTag_ne_minTag (s t : IpsSleeve) : maxTag s ≠ minTag t :=
  append_ne (by decide) (by decide) _ _

/-- A tag of the weights: a target's sleeve breaks one of its bounds. -/
theorem mem_ipsBoundTags {weights : Dict IpsSleeve ℚ} {tag : String} :
    tag ∈ ipsBoundTags weights ips
      ↔ ∃ target ∈ ips.allocationTargets,
        (target.maxWeight < (weights.get? target.assetClass).getD 0
          ∧ tag = maxTag target.assetClass)
        ∨ ((weights.get? target.assetClass).getD 0 < target.minWeight
          ∧ tag = minTag target.assetClass) := by
  unfold ipsBoundTags
  rw [List.mem_flatMap]
  refine exists_congr fun target => and_congr_right fun _ => ?_
  dsimp only
  rw [List.mem_append, List.mem_ite_nil_right, List.mem_ite_nil_right,
    List.mem_singleton, List.mem_singleton]
  rfl

/-- The optimizers' tag stands exactly where the sleeve is above its band. -/
theorem maxTag_mem_ipsBoundTags (s : IpsSleeve) :
    maxTag s ∈ ipsBoundTags (sleeveWeights (totalMarketValue positions)
        positions) ips ↔ AboveMax positions ips s := by
  rw [mem_ipsBoundTags]
  refine exists_congr fun target => and_congr_right fun _ => ?_
  rw [getD_sleeveWeights]
  constructor
  · intro h
    rcases h with ⟨habove, htag⟩ | ⟨-, htag⟩
    · obtain rfl := maxTag_inj htag
      exact ⟨rfl, habove⟩
    · exact absurd htag (maxTag_ne_minTag _ _)
  · intro h
    obtain ⟨rfl, habove⟩ := h
    exact .inl ⟨habove, rfl⟩

theorem minTag_mem_ipsBoundTags (s : IpsSleeve) :
    minTag s ∈ ipsBoundTags (sleeveWeights (totalMarketValue positions)
        positions) ips ↔ BelowMin positions ips s := by
  rw [mem_ipsBoundTags]
  refine exists_congr fun target => and_congr_right fun _ => ?_
  rw [getD_sleeveWeights]
  constructor
  · intro h
    rcases h with ⟨-, htag⟩ | ⟨hbelow, htag⟩
    · exact absurd htag.symm (maxTag_ne_minTag _ _)
    · obtain rfl := minTag_inj htag
      exact ⟨rfl, hbelow⟩
  · intro h
    obtain ⟨rfl, hbelow⟩ := h
    exact .inr ⟨hbelow, rfl⟩

/-- A prefix no other tag of a run has. -/
structure OwnPrefix (p : String) : Prop where
  lots : ∀ q ∈ ["do_not_sell_lot:", "restricted_security:", "wash_sale_30d:"],
    ¬p.toList <+: q.toList ∧ ¬q.toList <+: p.toList
  noAction : ∀ tag ∈ noActionTags, ¬p.toList <+: tag.toList

theorem ownPrefix_max : OwnPrefix "ips_max:" := ⟨by decide, by decide⟩

theorem ownPrefix_min : OwnPrefix "ips_min:" := ⟨by decide, by decide⟩

/-- No lot has a tag under the prefix. -/
theorem OwnPrefix.notMem_harvestTags {p : String} (h : OwnPrefix p)
    (today : Date) (lot : LotPositionView) (x : String) :
    p ++ x ∉ harvestTags positions ips today lot := by
  have hlots := h.lots
  simp only [List.forall_mem_cons] at hlots
  obtain ⟨hown, hsecurity, hwash, -⟩ := hlots
  intro hmem
  rcases List.mem_append.mp hmem with hmem | hmem
  · unfold evaluateLotSellAllowed at hmem
    split at hmem
    · rw [List.mem_singleton] at hmem
      exact append_ne hown.1 hown.2 _ _ hmem
    · split at hmem
      · rw [List.mem_singleton] at hmem
        exact append_ne hsecurity.1 hsecurity.2 _ _ hmem
      · cases hmem
  · split at hmem
    · unfold evaluateWashSaleRisk at hmem
      obtain ⟨other, -, hother⟩ := List.mem_filterMap.mp hmem
      split at hother
      · cases hother
      · split at hother
        · cases hother
        · split at hother
          · simp only [Option.some.injEq, String.append_assoc] at hother
            exact append_ne hwash.1 hwash.2 _ _ hother.symm
          · cases hother
    · cases hmem

/-- Of a run's tags, only those of the weights are under the prefix. -/
theorem OwnPrefix.mem_binding {p : String} (h : OwnPrefix p)
    {lots : List LotPositionView} {today : Date} {extra : List String}
    (hextra : extra ⊆ noActionTags) (x : String) :
    p ++ x ∈ (bookTags positions lots ips today ++ extra).dedup.mergeSort
        (· ≤ ·)
      ↔ p ++ x ∈ ipsBoundTags (sleeveWeights (totalMarketValue positions)
        positions) ips := by
  have hlots : p ++ x ∉ lots.flatMap (harvestTags positions ips today) := by
    intro hmem
    obtain ⟨lot, -, hlot⟩ := List.mem_flatMap.mp hmem
    exact h.notMem_harvestTags today lot x hlot
  have hnone : p ++ x ∉ extra := by
    intro hmem
    refine h.noAction _ (hextra hmem) ?_
    rw [String.toList_append]
    exact List.prefix_append _ _
  unfold bookTags
  rw [List.mem_mergeSort, List.mem_dedup, List.mem_append, List.mem_append]
  tauto

-- ================================================================ the alerts

/-- An alert that a sleeve is above its maximum. -/
def AboveMaxAlert (s : IpsSleeve) (alert : String) : Prop :=
  ∃ rest, alert = s.value ++ " above max (" ++ rest

/-- An alert that a sleeve is below its minimum. -/
def BelowMinAlert (s : IpsSleeve) (alert : String) : Prop :=
  ∃ rest, alert = s.value ++ " below min (" ++ rest

/-- An alert above a band is the sleeve's name and the fixed text. -/
theorem aboveMaxAlert_iff {s : IpsSleeve} {alert : String} :
    AboveMaxAlert s alert
      ↔ ∃ rest, alert = alertText s ("above max (" ++ rest) := by
  unfold AboveMaxAlert alertText
  simp only [String.append_assoc]
  rfl

theorem belowMinAlert_iff {s : IpsSleeve} {alert : String} :
    BelowMinAlert s alert
      ↔ ∃ rest, alert = alertText s ("below min (" ++ rest) := by
  unfold BelowMinAlert alertText
  simp only [String.append_assoc]
  rfl

/-- What a target adds to the alerts. -/
theorem mem_driftVsIps {weights : Dict IpsSleeve ℚ} {alert : String} :
    alert ∈ driftVsIps weights ips
      ↔ ∃ target ∈ ips.allocationTargets,
        ((weights.get? target.assetClass).getD 0 < target.minWeight
          ∧ alert = alertText target.assetClass ("below min ("
            ++ (formatPercent 1 ((weights.get? target.assetClass).getD 0)
              ++ (" < " ++ (formatPercent 1 target.minWeight ++ ")")))))
        ∨ (target.maxWeight < (weights.get? target.assetClass).getD 0
          ∧ alert = alertText target.assetClass ("above max ("
            ++ (formatPercent 1 ((weights.get? target.assetClass).getD 0)
              ++ (" > " ++ (formatPercent 1 target.maxWeight ++ ")")))))
        ∨ (5 / 100 < |(weights.get? target.assetClass).getD 0
              - target.targetWeight|
          ∧ alert = alertText target.assetClass ("drift "
            ++ (formatPercent 1 |(weights.get? target.assetClass).getD 0
                - target.targetWeight|
              ++ (" from target " ++ formatPercent 1 target.targetWeight)))) := by
  unfold driftVsIps
  rw [List.mem_flatMap]
  refine exists_congr fun target => and_congr_right fun _ => ?_
  dsimp only
  rw [List.mem_append, List.mem_append, List.mem_ite_nil_right,
    List.mem_ite_nil_right, List.mem_ite_nil_right, List.mem_singleton,
    List.mem_singleton, List.mem_singleton, or_assoc]
  unfold alertText
  simp only [String.append_assoc]
  rfl

/-- The report weighs each target's sleeve at its share of NAV. -/
theorem getD_reportWeights (hnav : 0 < totalMarketValue positions)
    {target : AllocationTarget} (h : target ∈ ips.allocationTargets) :
    ((Dict.ofPairs (ips.allocationTargets.map fun target =>
        (target.assetClass, targetWeightNow (totalMarketValue positions)
          (classMarketValue positions) target))).get?
        target.assetClass).getD 0
      = sleeveShare positions target.assetClass := by
  have hweights : ∀ pair ∈ ips.allocationTargets.map (fun target =>
      (target.assetClass, targetWeightNow (totalMarketValue positions)
        (classMarketValue positions) target)),
      pair.2 = sleeveShare positions pair.1 := by
    intro pair hpair
    obtain ⟨t, -, rfl⟩ := List.mem_map.mp hpair
    show targetWeightNow _ _ t = sleeveShare positions t.assetClass
    unfold targetWeightNow sleeveShare
    dsimp only
    rw [if_pos hnav, getD_classMarketValue]
  have hmem : target.assetClass ∈ (ips.allocationTargets.map fun target =>
      (target.assetClass, targetWeightNow (totalMarketValue positions)
        (classMarketValue positions) target)).map Prod.fst :=
    List.mem_map_of_mem (List.mem_map_of_mem h)
  unfold Dict.ofPairs
  rw [Dict.get?_setAll _ hweights, if_pos hmem, Option.getD_some]

/-- A liquidity alert is no sleeve's. -/
theorem liquidity_ne_alertText {alert : String} {s : IpsSleeve} {x : String}
    (h : alert ∈ liquidityVsIps positions ips) : alert ≠ alertText s x := by
  unfold liquidityVsIps at h
  split at h
  · cases h
  · next floor hfloor =>
    dsimp only at h
    split at h
    · rw [List.mem_singleton] at h
      subst h
      unfold alertText
      simp only [String.append_assoc]
      cases s <;> exact append_ne (by decide) (by decide) _ _
    · cases h

/-- The report's alerts of a sleeve are those of its targets. -/
theorem alertText_mem_alerts (householdId : String) {s : IpsSleeve}
    {x : String} (hnav : 0 < totalMarketValue positions) :
    alertText s x
        ∈ (buildIpsDriftReportFromViews householdId positions ips).alerts
      ↔ ∃ target ∈ ips.allocationTargets, target.assetClass = s
        ∧ ((sleeveShare positions s < target.minWeight
            ∧ x = "below min (" ++ (formatPercent 1 (sleeveShare positions s)
              ++ (" < " ++ (formatPercent 1 target.minWeight ++ ")"))))
          ∨ (target.maxWeight < sleeveShare positions s
            ∧ x = "above max (" ++ (formatPercent 1 (sleeveShare positions s)
              ++ (" > " ++ (formatPercent 1 target.maxWeight ++ ")"))))
          ∨ (5 / 100 < |sleeveShare positions s - target.targetWeight|
            ∧ x = "drift " ++ (formatPercent 1
                |sleeveShare positions s - target.targetWeight|
              ++ (" from target " ++ formatPercent 1 target.targetWeight)))) := by
  constructor
  · intro hmem
    rcases List.mem_append.mp hmem with hmem | hmem
    · obtain ⟨target, htarget, hcase⟩ := mem_driftVsIps.mp hmem
      rw [getD_reportWeights hnav htarget] at hcase
      rcases hcase with ⟨hunder, htext⟩ | ⟨hover, htext⟩ | ⟨hdrift, htext⟩
      · obtain ⟨rfl, hx⟩ := alertText_inj htext
        exact ⟨target, htarget, rfl, .inl ⟨hunder, hx⟩⟩
      · obtain ⟨rfl, hx⟩ := alertText_inj htext
        exact ⟨target, htarget, rfl, .inr (.inl ⟨hover, hx⟩)⟩
      · obtain ⟨rfl, hx⟩ := alertText_inj htext
        exact ⟨target, htarget, rfl, .inr (.inr ⟨hdrift, hx⟩)⟩
    · exact absurd rfl (liquidity_ne_alertText hmem)
  · intro ⟨target, htarget, hs, hcase⟩
    subst hs
    refine List.mem_append_left _ (mem_driftVsIps.mpr ⟨target, htarget, ?_⟩)
    rw [getD_reportWeights hnav htarget]
    rcases hcase with ⟨hunder, hx⟩ | ⟨hover, hx⟩ | ⟨hdrift, hx⟩
    · exact .inl ⟨hunder, by rw [hx]⟩
    · exact .inr (.inl ⟨hover, by rw [hx]⟩)
    · exact .inr (.inr ⟨hdrift, by rw [hx]⟩)

/-- The monitor alerts on a sleeve exactly where it is above its band. -/
theorem exists_aboveMaxAlert (householdId : String) (s : IpsSleeve)
    (hnav : 0 < totalMarketValue positions) :
    (∃ alert ∈ (buildIpsDriftReportFromViews householdId positions
        ips).alerts, AboveMaxAlert s alert)
      ↔ AboveMax positions ips s := by
  constructor
  · intro hexists
    obtain ⟨alert, hmem, habove⟩ := hexists
    obtain ⟨rest, rfl⟩ := aboveMaxAlert_iff.mp habove
    obtain ⟨target, htarget, hs, hcase⟩ :=
      (alertText_mem_alerts householdId hnav).mp hmem
    rcases hcase with ⟨-, htext⟩ | ⟨hover, -⟩ | ⟨-, htext⟩
    · exact absurd htext (append_ne (by decide) (by decide) _ _)
    · exact ⟨target, htarget, hs, hover⟩
    · exact absurd htext (append_ne (by decide) (by decide) _ _)
  · intro habove
    obtain ⟨target, htarget, hs, hover⟩ := habove
    exact ⟨_, (alertText_mem_alerts householdId hnav).mpr
      ⟨target, htarget, hs, .inr (.inl ⟨hover, rfl⟩)⟩,
      aboveMaxAlert_iff.mpr ⟨_, rfl⟩⟩

theorem exists_belowMinAlert (householdId : String) (s : IpsSleeve)
    (hnav : 0 < totalMarketValue positions) :
    (∃ alert ∈ (buildIpsDriftReportFromViews householdId positions
        ips).alerts, BelowMinAlert s alert)
      ↔ BelowMin positions ips s := by
  constructor
  · intro hexists
    obtain ⟨alert, hmem, hbelow⟩ := hexists
    obtain ⟨rest, rfl⟩ := belowMinAlert_iff.mp hbelow
    obtain ⟨target, htarget, hs, hcase⟩ :=
      (alertText_mem_alerts householdId hnav).mp hmem
    rcases hcase with ⟨hunder, -⟩ | ⟨-, htext⟩ | ⟨-, htext⟩
    · exact ⟨target, htarget, hs, hunder⟩
    · exact absurd htext (append_ne (by decide) (by decide) _ _)
    · exact absurd htext (append_ne (by decide) (by decide) _ _)
  · intro hbelow
    obtain ⟨target, htarget, hs, hunder⟩ := hbelow
    exact ⟨_, (alertText_mem_alerts householdId hnav).mpr
      ⟨target, htarget, hs, .inl ⟨hunder, rfl⟩⟩,
      belowMinAlert_iff.mpr ⟨_, rfl⟩⟩

-- =============================================================== the theorem

/-- The trade loop leaves the tags alone. -/
theorem foldl_mipTrade_binding (settings : Settings) (today : Date)
    (candidates : List (ℚ × LotPositionView)) (st : HarvestState) :
    (candidates.foldl (mipTrade settings today) st).binding = st.binding := by
  induction candidates generalizing st with
  | nil => rfl
  | cons candidate rest ih =>
      rw [List.foldl_cons, ih]
      obtain ⟨score, lot⟩ := candidate
      unfold mipTrade
      dsimp only
      split <;> rfl

/-- The tags of a run of the stub, however many trades it may make. -/
theorem runMipOptimizer_tags (householdId : String)
    (ips : InvestmentPolicyStatement) (settings : Settings)
    (asOf : Option Date) (clockToday : Date)
    (hnav : 0 < totalMarketValue positions) :
    ∃ result extra, runMipOptimizer householdId positions ips settings asOf
        clockToday = .ok result
      ∧ extra ⊆ noActionTags
      ∧ result.bindingConstraints
        = (bookTags positions (positions.filter isLossLot) ips
          (asOf.getD clockToday) ++ extra).dedup.mergeSort (· ≤ ·) := by
  unfold runMipOptimizer
  dsimp only
  rw [if_neg (not_le.mpr hnav), mip_candidates, foldl_mipTrade_binding]
  dsimp only
  rw [List.nil_append]
  split
  · refine ⟨_, [_], rfl, ?_, rfl⟩
    simp [noActionTags]
  · refine ⟨_, [], rfl, List.nil_subset _, ?_⟩
    rw [List.append_nil]
    rfl

/-- On a book worth something the two optimizers return, and say of the
same sleeves that they are above their maximum or below their minimum as
the drift report does. -/
theorem ips_breaches_agree (positions : List LotPositionView)
    (ips : InvestmentPolicyStatement) (householdId : String)
    (settings mipSettings : Settings) (asOf mipAsOf : Option Date)
    (clockToday mipToday : Date) (hnav : 0 < totalMarketValue positions) :
    ∃ heuristic mip,
      runTaxAwareOptimizer householdId positions ips settings asOf clockToday
        = .ok heuristic
      ∧ runMipOptimizer householdId positions ips mipSettings mipAsOf mipToday
        = .ok mip
      ∧ ∀ s : IpsSleeve,
        ("ips_max:" ++ s.value ∈ heuristic.bindingConstraints
          ↔ "ips_max:" ++ s.value ∈ mip.bindingConstraints)
        ∧ ("ips_max:" ++ s.value ∈ heuristic.bindingConstraints
          ↔ ∃ alert ∈ (buildIpsDriftReportFromViews householdId positions
            ips).alerts, AboveMaxAlert s alert)
        ∧ ("ips_min:" ++ s.value ∈ heuristic.bindingConstraints
          ↔ "ips_min:" ++ s.value ∈ mip.bindingConstraints)
        ∧ ("ips_min:" ++ s.value ∈ heuristic.bindingConstraints
          ↔ ∃ alert ∈ (buildIpsDriftReportFromViews householdId positions
            ips).alerts, BelowMinAlert s alert) := by
  obtain ⟨heuristic, extra, hheuristic, -, -, hextra, htags⟩ :=
    runTaxAwareOptimizer_run householdId ips settings asOf clockToday hnav
  obtain ⟨mip, extra', hmip, hextra', htags'⟩ :=
    runMipOptimizer_tags householdId ips mipSettings mipAsOf mipToday hnav
  refine ⟨heuristic, mip, hheuristic, hmip, fun s => ?_⟩
  have habove : "ips_max:" ++ s.value ∈ ipsBoundTags (sleeveWeights
      (totalMarketValue positions) positions) ips ↔ AboveMax positions ips s :=
    maxTag_mem_ipsBoundTags s
  have hbelow : "ips_min:" ++ s.value ∈ ipsBoundTags (sleeveWeights
      (totalMarketValue positions) positions) ips ↔ BelowMin positions ips s :=
    minTag_mem_ipsBoundTags s
  rw [htags, htags', ownPrefix_max.mem_binding hextra,
    ownPrefix_max.mem_binding hextra', ownPrefix_min.mem_binding hextra,
    ownPrefix_min.mem_binding hextra', habove, hbelow,
    exists_aboveMaxAlert householdId s hnav,
    exists_belowMinAlert householdId s hnav]
  exact ⟨Iff.rfl, Iff.rfl, Iff.rfl, Iff.rfl⟩

/-- A book all in equities, against a policy of half and half: all three say
that equity is above its maximum and bonds are below their minimum. -/
theorem ips_breaches_agree_equities :
    ∃ heuristic mip,
      runTaxAwareOptimizer "h" [equityLot] balancedPolicy {} none 739200
        = .ok heuristic
      ∧ runMipOptimizer "h" [equityLot] balancedPolicy {} none 739200
        = .ok mip
      ∧ "ips_max:" ++ IpsSleeve.equity.value ∈ heuristic.bindingConstraints
      ∧ "ips_max:" ++ IpsSleeve.equity.value ∈ mip.bindingConstraints
      ∧ (∃ alert ∈ (buildIpsDriftReportFromViews "h" [equityLot]
        balancedPolicy).alerts, AboveMaxAlert .equity alert)
      ∧ "ips_min:" ++ IpsSleeve.fixedIncome.value
        ∈ heuristic.bindingConstraints
      ∧ "ips_min:" ++ IpsSleeve.fixedIncome.value ∈ mip.bindingConstraints
      ∧ ∃ alert ∈ (buildIpsDriftReportFromViews "h" [equityLot]
        balancedPolicy).alerts, BelowMinAlert .fixedIncome alert := by
  have hnav : 0 < totalMarketValue [equityLot] := by decide +kernel
  obtain ⟨heuristic, mip, hheuristic, hmip, hsleeves⟩ := ips_breaches_agree
    [equityLot] balancedPolicy "h" {} {} none none 739200 739200 hnav
  obtain ⟨hmaxes, hmaxAlert, -, -⟩ := hsleeves .equity
  obtain ⟨-, -, hmins, hminAlert⟩ := hsleeves .fixedIncome
  have habove : AboveMax [equityLot] balancedPolicy .equity :=
    ⟨_, List.mem_cons_self, rfl, by decide +kernel⟩
  have hbelow : BelowMin [equityLot] balancedPolicy .fixedIncome :=
    ⟨_, List.mem_cons_of_mem _ List.mem_cons_self, rfl, by decide +kernel⟩
  have hmaxAlerted := (exists_aboveMaxAlert "h" .equity hnav).mpr habove
  have hminAlerted := (exists_belowMinAlert "h" .fixedIncome hnav).mpr hbelow
  have hmaxTag := hmaxAlert.mpr hmaxAlerted
  have hminTag := hminAlert.mpr hminAlerted
  exact ⟨heuristic, mip, hheuristic, hmip, hmaxTag, hmaxes.mp hmaxTag,
    hmaxAlerted, hminTag, hmins.mp hminTag, hminAlerted⟩

end Warehouse
