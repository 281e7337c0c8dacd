/-
The risk view of a book beside its policy view.

The risk plane classifies a position by its ticker, the decision plane by
its security's class, ticker and substitute group. The two agree on every
class exactly when the book holds no cash and no alternatives and the
positions the two sides call fixed income apart from each other weigh the
same.

# Two classifications

The ticker table of the risk plane knows a handful of funds and calls every
other ticker equity; the policy plane reads the security master. The
statement compares the two class by class, as shares of one book: every
position is marked at a positive value (`Marked`), so both divide by the
same total. Values are compared as sums over selections of positions
(`valueWhere`), which makes the agreement of two classes an equation between
two selections.
-/
import Mathlib.Algebra.BigOperators.Ring.List
import Mathlib.Algebra.Order.BigOperators.Group.List
import Warehouse.Decision.Rebalance
import Warehouse.Research.RiskModels

namespace Warehouse

open Lib

variable {positions : List LotPositionView}

/-- Every position has a positive mark. -/
def Marked (positions : List LotPositionView) : Prop :=
  ∀ pos ∈ positions, ∃ marketValue ∈ pos.marketValue, 0 < marketValue

/-- The value of the positions that satisfy `p`. -/
def valueWhere (p : LotPositionView → Prop) [DecidablePred p]
    (positions : List LotPositionView) : ℚ :=
  totalMarketValue (positions.filter p)

/-- What a portfolio puts into a risk class. -/
def classWeight (portfolio : AssetPortfolio) (c : RiskClass) : ℚ :=
  ((portfolio.allocations.filter (·.assetClass = c)).map (·.weight)).sum

/-- A policy sleeve's share of a book. -/
def sleeveShare (positions : List LotPositionView) (s : IpsSleeve) : ℚ :=
  valueWhere (ipsSleeveForPosition · = s) positions
    / totalMarketValue positions

-- ================================================================== values

/-- A marked position is worth something. -/
theorem Marked.value_pos (h : Marked positions) {pos : LotPositionView}
    (hpos : pos ∈ positions) : 0 < pos.marketValue.getD 0 := by
  obtain ⟨marketValue, hmv, hlt⟩ := h pos hpos
  rw [Option.mem_def.mp hmv]
  exact hlt

theorem Marked.filter (h : Marked positions) (p : LotPositionView → Bool) :
    Marked (positions.filter p) :=
  fun pos hpos => h pos (List.mem_filter.mp hpos).1

/-- A marked book is worth nothing less than nothing. -/
theorem Marked.total_nonneg (h : Marked positions) :
    0 ≤ totalMarketValue positions := by
  apply List.sum_nonneg
  intro value hvalue
  obtain ⟨pos, hpos, rfl⟩ := List.mem_map.mp hvalue
  exact (h.value_pos hpos).le

/-- A marked book is worth nothing only when it is empty. -/
theorem Marked.total_eq_zero_iff (h : Marked positions) :
    totalMarketValue positions = 0 ↔ positions = [] := by
  constructor
  · intro hzero
    cases positions with
    | nil => rfl
    | cons pos rest =>
      have hrest : Marked rest := fun q hq => h q (List.mem_cons_of_mem _ hq)
      have hnonneg := hrest.total_nonneg
      have hpos := h.value_pos (List.mem_cons_self ..)
      have hsum : totalMarketValue (pos :: rest)
          = pos.marketValue.getD 0 + totalMarketValue rest := by
        simp [totalMarketValue]
      linarith
  · rintro rfl
    rfl

/-- Some of a marked book is worth nothing exactly when it is empty. -/
theorem Marked.valueWhere_eq_zero_iff (h : Marked positions)
    (p : LotPositionView → Prop) [DecidablePred p] :
    valueWhere p positions = 0 ↔ ∀ pos ∈ positions, ¬ p pos := by
  rw [valueWhere, (h.filter _).total_eq_zero_iff, List.filter_eq_nil_iff]
  simp

/-- A part of a book is worth what its own two parts are. -/
theorem valueWhere_split (p q : LotPositionView → Prop) [DecidablePred p]
    [DecidablePred q] (positions : List LotPositionView) :
    valueWhere p positions
      = valueWhere (fun pos => p pos ∧ q pos) positions
        + valueWhere (fun pos => p pos ∧ ¬ q pos) positions := by
  unfold valueWhere totalMarketValue
  induction positions with
  | nil => simp
  | cons pos rest ih =>
      by_cases hp : p pos
      · by_cases hq : q pos
        · simp [hp, hq, ih, add_assoc]
        · simp [hp, hq, ih, add_left_comm]
      · simp [hp, ih]

/-- What is worth the same is the same selection. -/
theorem valueWhere_congr {p q : LotPositionView → Prop} [DecidablePred p]
    [DecidablePred q] (h : ∀ pos ∈ positions, p pos ↔ q pos) :
    valueWhere p positions = valueWhere q positions := by
  unfold valueWhere
  congr 1
  refine List.filter_congr fun pos hpos => ?_
  simp [h pos hpos]

-- ============================================================ the builder

/-- The class the builder puts a position into. -/
def holdingClass (pos : LotPositionView) : RiskClass :=
  (tickerClass pos.ticker).1

theorem tickerClass_tier (ticker : Option String) :
    (tickerClass ticker).2 = 1 := by
  unfold tickerClass
  split <;> rfl

/-- Fixed income by the ticker alone; every other ticker is equity. -/
theorem holdingClass_eq (pos : LotPositionView) :
    holdingClass pos
      = if pos.ticker = some "BND" then .fixedIncome else .equity := by
  unfold holdingClass tickerClass
  cases pos.ticker with
  | none => rfl
  | some ticker =>
    simp only [Option.getD_some, Option.some.injEq]
    split
    · decide
    · decide
    · rfl
    · next hbnd => rw [if_neg hbnd]

/-- Over marked positions the loop is a tally by class, and every tier it
records is 1. -/
theorem addPosition_foldl (h : Marked positions) :
    (positions.foldl ClassHoldings.addPosition {}).classMv
        = Dict.tally holdingClass (fun pos => pos.marketValue.getD 0)
            positions
      ∧ ∀ c, ((positions.foldl ClassHoldings.addPosition {}).liquidity.get?
          c).getD 1 = 1 := by
  induction positions using List.reverseRecOn with
  | nil => exact ⟨rfl, fun c => rfl⟩
  | append_singleton rest pos ih =>
      obtain ⟨hmv, htier⟩ := ih fun q hq =>
        h q (List.mem_append_left _ hq)
      obtain ⟨marketValue, hvalue, hlt⟩ := h pos (by simp)
      rw [Option.mem_def] at hvalue
      rw [List.foldl_append, List.foldl_cons, List.foldl_nil,
        ClassHoldings.addPosition, hvalue]
      simp only [not_le.mpr hlt, if_false]
      constructor
      · rw [hmv, Dict.tally_append, hvalue]
        rfl
      · intro c
        rw [Dict.get?_set, tickerClass_tier]
        split
        · rw [htier]
          rfl
        · exact htier c

/-- A class's value after the loop. -/
theorem classValue_eq (h : Marked positions) (c : RiskClass) :
    (((positions.foldl ClassHoldings.addPosition {}).classMv.get? c).getD 0)
      = valueWhere (holdingClass · = c) positions := by
  rw [(addPosition_foldl h).1, Dict.getD_tally]
  rfl

/-- The classes sum to the book. -/
theorem classTotal_eq (h : Marked positions) :
    (positions.foldl ClassHoldings.addPosition {}).classMv.values.sum
      = totalMarketValue positions := by
  rw [(addPosition_foldl h).1, Dict.sum_values_tally]
  rfl

/-- The weights of slots that answer to distinct classes, read back by
class. -/
theorem sum_classWeight {w : RiskClass → ℚ}
    {classes : List RiskClass} {slots : List AllocationSlot}
    (hslots : List.Forall₂
      (fun c slot => slot.assetClass = c ∧ slot.weight = w c) classes slots)
    (hnd : classes.Nodup) (c : RiskClass) :
    ((slots.filter (·.assetClass = c)).map (·.weight)).sum
      = if c ∈ classes then w c else 0 := by
  induction hslots with
  | nil => simp
  | cons hslot _ ih =>
    obtain ⟨hclass, hweight⟩ := hslot
    rw [List.nodup_cons] at hnd
    subst hclass
    rw [List.filter_cons]
    split
    · next hc =>
      have hc : _ = c := of_decide_eq_true hc
      subst hc
      rw [List.map_cons, List.sum_cons, ih hnd.2, if_neg hnd.1, add_zero,
        hweight, if_pos (List.mem_cons_self ..)]
    · next hc =>
      have hc : ¬ _ = c := fun heq => hc (decide_eq_true heq)
      rw [ih hnd.2]
      simp [List.mem_cons, Ne.symm hc]

/-- The sum over slots that answer to classes, read over the classes. -/
theorem map_weight {w : RiskClass → ℚ} {classes : List RiskClass}
    {slots : List AllocationSlot}
    (hslots : List.Forall₂
      (fun c slot => slot.assetClass = c ∧ slot.weight = w c) classes slots) :
    slots.map (·.weight) = classes.map w := by
  induction hslots with
  | nil => rfl
  | cons hslot _ ih => rw [List.map_cons, List.map_cons, hslot.2, ih]

/-- The durations the builder assigns pass the slot's check. -/
theorem builtDuration_nonneg (c : RiskClass) :
    ∀ d ∈ builtDuration c, 0 ≤ d := by
  intro d hd
  cases c with
  | fixedIncome =>
    cases hd
    norm_num
  | alternatives =>
    cases hd
    norm_num
  | equity => cases hd
  | commodities => cases hd
  | fx => cases hd
  | cash => cases hd

/-- The share of NAV the tickers give a class. -/
def holdingShare (positions : List LotPositionView) (c : RiskClass) : ℚ :=
  valueWhere (holdingClass · = c) positions / totalMarketValue positions

theorem Marked.total_pos (h : Marked positions) (hne : positions ≠ []) :
    0 < totalMarketValue positions :=
  lt_of_le_of_ne h.total_nonneg
    fun heq => hne (h.total_eq_zero_iff.mp heq.symm)

/-- A class's share is its value in the loop's dictionary over the
total. -/
theorem holdingShare_eq (h : Marked positions) (c : RiskClass) :
    (((positions.foldl ClassHoldings.addPosition {}).classMv.get? c).getD 0)
        / (positions.foldl ClassHoldings.addPosition {}).classMv.values.sum
      = holdingShare positions c := by
  rw [classValue_eq h, classTotal_eq h]
  rfl

theorem holdingShare_fraction (h : Marked positions) (hne : positions ≠ [])
    (c : RiskClass) : IsFraction (holdingShare positions c) := by
  rw [← holdingShare_eq h]
  apply Dict.share_fraction
  · intro c'
    rw [classValue_eq h]
    exact (h.filter _).total_nonneg
  · rw [classTotal_eq h]
    exact h.total_pos hne

/-- The shares of the classes held are the whole. -/
theorem sum_holdingShare (h : Marked positions) (hne : positions ≠ []) :
    ((positions.foldl ClassHoldings.addPosition {}).classMv.keys.map
      (holdingShare positions)).sum = 1 := by
  rw [← funext (holdingShare_eq h)]
  apply Dict.sum_shares
  rw [classTotal_eq h]
  exact (h.total_pos hne).ne'

/-- A marked book that is not empty builds, and each class weighs the
share of NAV the tickers give it. -/
theorem build_marked (householdId : String) (h : Marked positions)
    (hne : positions ≠ []) :
    ∃ portfolio, buildPortfolioFromHoldings householdId positions []
        = .ok portfolio
      ∧ ∀ c, classWeight portfolio c = holdingShare positions c := by
  let held := positions.foldl ClassHoldings.addPosition {}
  let classes := held.classMv.keys.mergeSort fun c c' =>
    decide (c.value ≤ c'.value)
  have hperm : classes.Perm held.classMv.keys := List.mergeSort_perm _ _
  have hnd : classes.Nodup := hperm.nodup_iff.mpr held.classMv.nodupKeys
  obtain ⟨slots, hslots, hmatch⟩ := mapM_forall₂
    (f := fun assetClass => AllocationSlot.validated assetClass
      ((held.classMv.get? assetClass).getD 0 / held.classMv.values.sum)
      (builtDuration assetClass) ((held.liquidity.get? assetClass).getD 1))
    (P := fun c slot =>
      slot.assetClass = c ∧ slot.weight = holdingShare positions c) classes
    (by
      intro c _
      have htier : (held.liquidity.get? c).getD 1 = 1 :=
        (addPosition_foldl h).2 c
      rw [htier, holdingShare_eq h]
      exact AllocationSlot.validated_ok (holdingShare_fraction h hne c)
        (builtDuration_nonneg c) (by decide))
  have hsum : (slots.map (·.weight)).sum = 1 := by
    rw [map_weight hmatch, (hperm.map _).sum_eq, sum_holdingShare h hne]
  have hbudget : WeightsSumToOne slots := by
    rw [WeightsSumToOne, hsum]
    norm_num
  have hslotsNe : slots ≠ [] := by
    rintro rfl
    simp at hsum
  refine ⟨{
    portfolioId := some householdId
    allocations := slots
    nonempty := hslotsNe
    budget := hbudget }, ?_, ?_⟩
  · unfold buildPortfolioFromHoldings
    have hpos : ¬ (([] : List AlternativeHoldingView).foldl
        ClassHoldings.addAlternative held).classMv.values.sum ≤ 0 := by
      rw [List.foldl_nil, classTotal_eq h, not_le]
      exact h.total_pos hne
    dsimp only
    rw [if_neg hpos]
    refine (congrArg (· >>= AssetPortfolio.validated (some householdId))
      hslots).trans ?_
    show AssetPortfolio.validated (some householdId) slots = _
    unfold AssetPortfolio.validated
    rw [dif_pos hslotsNe, dif_pos hbudget]
  · intro c
    rw [classWeight, sum_classWeight hmatch hnd]
    split
    · rfl
    · next hc =>
      have hnone : c ∉ held.classMv.keys := fun hk => hc (hperm.mem_iff.mpr hk)
      rw [← holdingShare_eq h, Dict.get?_eq_none_iff.mpr hnone]
      simp

-- =============================================================== the views

/-- The risk view puts into every class the weight of the positions the
policy view puts into its sleeve. -/
def ViewsAgree (positions : List LotPositionView)
    (portfolio : AssetPortfolio) : Prop :=
  ∀ s, classWeight portfolio (riskClassFor s) = sleeveShare positions s

/-- The rollup knows four sleeves. -/
theorem ipsSleeve_cases (pos : LotPositionView) :
    ipsSleeveForPosition pos = .equity ∨ ipsSleeveForPosition pos = .fixedIncome
      ∨ ipsSleeveForPosition pos = .cash
      ∨ ipsSleeveForPosition pos = .alternatives := by
  unfold ipsSleeveForPosition rollupSecurityToIpsSleeve
  cases pos.securityAssetClass with
  | equity => simp
  | fixedIncome => simp
  | cash => simp
  | alternative => simp
  | etf =>
    dsimp only
    split
    · simp
    · split
      · split <;> simp
      · simp

/-- The builder knows two classes. -/
theorem holdingClass_cases (pos : LotPositionView) :
    holdingClass pos = .fixedIncome ∨ holdingClass pos = .equity := by
  rw [holdingClass_eq]
  split <;> simp

/-- The two shares agree exactly when the two values do. -/
theorem share_eq_iff (h : Marked positions) (hne : positions ≠ [])
    (c : RiskClass) (s : IpsSleeve) :
    holdingShare positions c = sleeveShare positions s
      ↔ valueWhere (holdingClass · = c) positions
        = valueWhere (ipsSleeveForPosition · = s) positions :=
  div_left_inj' (h.total_pos hne).ne'

/-- The two fixed-income values agree when what only one side calls fixed
income does: what both call so cancels. -/
theorem fixedIncome_eq_iff :
    (valueWhere (holdingClass · = .fixedIncome) positions
        = valueWhere (ipsSleeveForPosition · = .fixedIncome) positions)
      ↔ valueWhere (fun pos => pos.ticker = some "BND"
            ∧ ¬ ipsSleeveForPosition pos = .fixedIncome) positions
          = valueWhere (fun pos => ipsSleeveForPosition pos = .fixedIncome
            ∧ ¬ pos.ticker = some "BND") positions := by
  have hclass : valueWhere (holdingClass · = .fixedIncome) positions
      = valueWhere (fun pos => pos.ticker = some "BND") positions := by
    refine valueWhere_congr fun pos _ => ?_
    rw [holdingClass_eq]
    split <;> simp [*]
  have hboth : valueWhere (fun pos => pos.ticker = some "BND"
        ∧ ipsSleeveForPosition pos = .fixedIncome) positions
      = valueWhere (fun pos => ipsSleeveForPosition pos = .fixedIncome
        ∧ pos.ticker = some "BND") positions :=
    valueWhere_congr fun _ _ => and_comm
  rw [hclass,
    valueWhere_split (fun pos => pos.ticker = some "BND")
      (fun pos => ipsSleeveForPosition pos = .fixedIncome),
    valueWhere_split (fun pos => ipsSleeveForPosition pos = .fixedIncome)
      (fun pos => pos.ticker = some "BND"), hboth]
  exact add_right_inj _

/-- Where both sides know two kinds only, one agrees when the other
does. -/
theorem equity_eq_of_fixedIncome_eq
    (hsleeve : ∀ pos ∈ positions, ipsSleeveForPosition pos = .equity
      ∨ ipsSleeveForPosition pos = .fixedIncome)
    (hfi : valueWhere (holdingClass · = .fixedIncome) positions
      = valueWhere (ipsSleeveForPosition · = .fixedIncome) positions) :
    valueWhere (holdingClass · = .equity) positions
      = valueWhere (ipsSleeveForPosition · = .equity) positions := by
  have hleft := valueWhere_split (fun _ => True)
    (holdingClass · = .fixedIncome) positions
  have hright := valueWhere_split (fun _ => True)
    (ipsSleeveForPosition · = .fixedIncome) positions
  simp only [true_and] at hleft hright
  have hclass : valueWhere (fun pos => ¬ holdingClass pos = .fixedIncome)
      positions = valueWhere (holdingClass · = .equity) positions := by
    refine valueWhere_congr fun pos _ => ?_
    rcases holdingClass_cases pos with hc | hc <;> simp [hc]
  have hips : valueWhere (fun pos => ¬ ipsSleeveForPosition pos = .fixedIncome)
      positions = valueWhere (ipsSleeveForPosition · = .equity) positions := by
    refine valueWhere_congr fun pos hpos => ?_
    rcases hsleeve pos hpos with hs | hs <;> simp [hs]
  rw [hclass] at hleft
  rw [hips] at hright
  linarith

/-- The builder puts nothing outside equity and fixed income. -/
theorem Marked.class_unheld (h : Marked positions) {c : RiskClass}
    (hfi : c ≠ .fixedIncome) (heq : c ≠ .equity) :
    valueWhere (holdingClass · = c) positions = 0 := by
  rw [h.valueWhere_eq_zero_iff]
  intro pos _ hpos
  rcases holdingClass_cases pos with hclass | hclass
  · exact hfi (hpos.symm.trans hclass)
  · exact heq (hpos.symm.trans hclass)

/-- A sleeve nothing rolls up to is worth nothing. -/
theorem Marked.sleeve_unheld (h : Marked positions)
    (hsleeve : ∀ pos ∈ positions, ipsSleeveForPosition pos = .equity
      ∨ ipsSleeveForPosition pos = .fixedIncome) {s : IpsSleeve}
    (heq : s ≠ .equity) (hfi : s ≠ .fixedIncome) :
    valueWhere (ipsSleeveForPosition · = s) positions = 0 := by
  rw [h.valueWhere_eq_zero_iff]
  intro pos hpos hs
  rcases hsleeve pos hpos with hsl | hsl
  · exact heq (hs.symm.trans hsl)
  · exact hfi (hs.symm.trans hsl)

/-- The two views of a marked book agree on every class exactly when the
book has no cash and no alternatives sleeve, and what only the ticker
calls fixed income is worth what only the policy does. -/
theorem viewsAgree_iff (h : Marked positions) (hne : positions ≠ [])
    {portfolio : AssetPortfolio}
    (hportfolio : ∀ c, classWeight portfolio c = holdingShare positions c) :
    ViewsAgree positions portfolio
      ↔ (∀ pos ∈ positions, ipsSleeveForPosition pos ≠ .cash
          ∧ ipsSleeveForPosition pos ≠ .alternatives)
        ∧ valueWhere (fun pos => pos.ticker = some "BND"
            ∧ ¬ ipsSleeveForPosition pos = .fixedIncome) positions
          = valueWhere (fun pos => ipsSleeveForPosition pos = .fixedIncome
            ∧ ¬ pos.ticker = some "BND") positions := by
  have hagree : ViewsAgree positions portfolio ↔ ∀ s,
      valueWhere (holdingClass · = riskClassFor s) positions
        = valueWhere (ipsSleeveForPosition · = s) positions := by
    refine forall_congr' fun s => ?_
    rw [hportfolio, share_eq_iff h hne]
  rw [hagree, ← fixedIncome_eq_iff]
  constructor
  · intro hviews
    refine ⟨fun pos hpos => ⟨?_, ?_⟩, hviews .fixedIncome⟩
    · have hcash := (hviews .cash).symm.trans
        (h.class_unheld (by decide) (by decide))
      exact (h.valueWhere_eq_zero_iff _).mp hcash pos hpos
    · have halts := (hviews .alternatives).symm.trans
        (h.class_unheld (by decide) (by decide))
      exact (h.valueWhere_eq_zero_iff _).mp halts pos hpos
  · rintro ⟨hout, hfi⟩ s
    have hsleeve : ∀ pos ∈ positions, ipsSleeveForPosition pos = .equity
        ∨ ipsSleeveForPosition pos = .fixedIncome := by
      intro pos hpos
      rcases ipsSleeve_cases pos with hs | hs | hs | hs
      · exact Or.inl hs
      · exact Or.inr hs
      · exact absurd hs (hout pos hpos).1
      · exact absurd hs (hout pos hpos).2
    cases s with
    | fixedIncome => exact hfi
    | equity => exact equity_eq_of_fixedIncome_eq hsleeve hfi
    | commodities =>
      rw [h.sleeve_unheld hsleeve (by decide) (by decide)]
      exact h.class_unheld (by decide) (by decide)
    | fx =>
      rw [h.sleeve_unheld hsleeve (by decide) (by decide)]
      exact h.class_unheld (by decide) (by decide)
    | alternatives =>
      rw [h.sleeve_unheld hsleeve (by decide) (by decide)]
      exact h.class_unheld (by decide) (by decide)
    | cash =>
      rw [h.sleeve_unheld hsleeve (by decide) (by decide)]
      exact h.class_unheld (by decide) (by decide)

/-- A marked book without alternatives builds unless it is empty, and the
risk view of it agrees with the policy view exactly when it has no cash
and no alternatives sleeve and what only the ticker calls fixed income is
worth what only the policy does. -/
theorem risk_view_agrees_iff (householdId : String)
    (positions : List LotPositionView) (h : Marked positions) :
    (positions ≠ [] → ∃ portfolio,
        buildPortfolioFromHoldings householdId positions [] = .ok portfolio)
      ∧ ((∀ portfolio, buildPortfolioFromHoldings householdId positions []
            = .ok portfolio → ViewsAgree positions portfolio)
        ↔ (∀ pos ∈ positions, ipsSleeveForPosition pos ≠ .cash
            ∧ ipsSleeveForPosition pos ≠ .alternatives)
          ∧ valueWhere (fun pos => pos.ticker = some "BND"
              ∧ ¬ ipsSleeveForPosition pos = .fixedIncome) positions
            = valueWhere (fun pos => ipsSleeveForPosition pos = .fixedIncome
              ∧ ¬ pos.ticker = some "BND") positions) := by
  by_cases hne : positions = []
  · subst hne
    refine ⟨fun hcontra => absurd rfl hcontra, ?_⟩
    constructor
    · intro _
      exact ⟨fun pos hpos => (List.not_mem_nil hpos).elim, rfl⟩
    · intro _ portfolio hbuild
      cases hbuild
  · obtain ⟨portfolio, hbuild, hshares⟩ := build_marked householdId h hne
    refine ⟨fun _ => ⟨portfolio, hbuild⟩, ?_⟩
    rw [← viewsAgree_iff h hne hshares]
    constructor
    · intro hall
      exact hall portfolio hbuild
    · intro hagree other hother
      cases hbuild.symm.trans hother
      exact hagree

-- ============================================================ concrete books

/-- A lot of this class worth `marketValue`. -/
def classLot (ticker : String) (assetClass : SecurityAssetClass)
    (marketValue : ℚ) : LotPositionView where
  lotId := "lot_" ++ ticker
  accountId := "acct_taxable"
  accountName := "Taxable"
  securityId := "sec_" ++ ticker
  ticker := some ticker
  securityName := ticker
  securityAssetClass := assetClass
  quantity := 1
  costBasisPerShare := marketValue
  totalCostBasis := marketValue
  marketPrice := some marketValue
  marketValue := some marketValue
  unrealizedGain := some 0
  acquisitionDate := 739000
  isRestricted := false
  washSaleSubstituteGroup := none

/-- Stocks and bonds under the tickers the builder knows. -/
theorem risk_view_agrees_iff_fund : ∃ portfolio,
    buildPortfolioFromHoldings "hh_1"
        [classLot "VTI" .etf 60, classLot "BND" .etf 40] [] = .ok portfolio
      ∧ ViewsAgree [classLot "VTI" .etf 60, classLot "BND" .etf 40]
        portfolio := by
  have hmarks : Marked [classLot "VTI" .etf 60, classLot "BND" .etf 40] := by
    intro pos hpos
    simp only [List.mem_cons, List.not_mem_nil, or_false] at hpos
    rcases hpos with rfl | rfl
    · exact ⟨60, rfl, by norm_num⟩
    · exact ⟨40, rfl, by norm_num⟩
  obtain ⟨hbuilds, hagree⟩ := risk_view_agrees_iff "hh_1"
    [classLot "VTI" .etf 60, classLot "BND" .etf 40] hmarks
  obtain ⟨portfolio, hbuild⟩ := hbuilds (List.cons_ne_nil _ _)
  exact ⟨portfolio, hbuild, hagree.mpr (by decide +kernel) portfolio hbuild⟩

/-- Forty of a hundred in cash: the risk view has no cash. -/
theorem cashBook_views_differ : ∃ portfolio,
    buildPortfolioFromHoldings "hh_1"
        [classLot "VTI" .etf 60, classLot "USD" .cash 40] [] = .ok portfolio
      ∧ ¬ ViewsAgree [classLot "VTI" .etf 60, classLot "USD" .cash 40]
        portfolio := by
  have hmarks : Marked
      [classLot "VTI" .etf 60, classLot "USD" .cash 40] := by
    intro pos hpos
    simp only [List.mem_cons, List.not_mem_nil, or_false] at hpos
    rcases hpos with rfl | rfl
    · exact ⟨60, rfl, by norm_num⟩
    · exact ⟨40, rfl, by norm_num⟩
  obtain ⟨portfolio, hbuild, hshares⟩ :=
    build_marked "hh_1" hmarks (List.cons_ne_nil _ _)
  refine ⟨portfolio, hbuild, fun hviews => ?_⟩
  have hcash := hviews .cash
  rw [hshares] at hcash
  revert hcash
  decide +kernel

end Warehouse
