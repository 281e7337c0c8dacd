/-
What the generator emits, read back by sleeve.

Both rungs emit the public sleeves one after another, each as lots of its
own class and tickers that are worth the sleeve (`BySleeve`), however the
equity sleeve is split. A sum over the lots that some reading puts in one
class is then a sum over the sleeves (`BySleeve.sum_filter`), and the
projection divides what each class adds up to by the total
(`projectToAssetPortfolio_ok`). No path emits the `fx` sleeve, so its
weight is the one that is lost.

# The one lost sleeve

The ranges of a cohort, or weights a caller passes in, may give currencies a
weight. Neither rung emits a lot for it: the lower one walks the public
sleeves it has tickers for, the upper one splits equity and keeps the
others. What is emitted is therefore NAV times the remaining weight
(`heldTotal_eq_mul`), and it is NAV itself exactly when currencies weigh
nothing.

# Exact values

Quantities are quotients of values by prices, and values are recovered as
products; in exact arithmetic nothing is lost between the two.
-/
import Warehouse.Research.Synthetic
import Mathlib.Algebra.BigOperators.Ring.List
import Mathlib.Algebra.Order.BigOperators.Group.List

namespace Warehouse

open Lib

-- ============================================================ the sleeves

/-- The sleeves that are emitted as lots. -/
def publicClasses : List RiskClass :=
  [.equity, .fixedIncome, .cash, .commodities]

/-- The tickers a sleeve is emitted as. -/
def sleeveTickers : RiskClass → List String
  | .equity => ["AAPL", "VTI"]
  | .fixedIncome => ["BND"]
  | .cash => ["CASH"]
  | .commodities => ["DBC"]
  | _ => []

theorem aapl_mem : "AAPL" ∈ sleeveTickers .equity := by decide

theorem vti_mem : "VTI" ∈ sleeveTickers .equity := by decide

theorem bnd_mem : "BND" ∈ sleeveTickers .fixedIncome := by decide

theorem cash_mem : "CASH" ∈ sleeveTickers .cash := by decide

theorem dbc_mem : "DBC" ∈ sleeveTickers .commodities := by decide

/-- Lots of one sleeve, worth `value` together. -/
structure HoldsOnly (c : RiskClass) (value : ℚ) (lots : List SyntheticLot) :
    Prop where
  ofClass : ∀ lot ∈ lots, lot.assetClass = c.value
  ofTicker : ∀ lot ∈ lots, lot.ticker ∈ sleeveTickers c
  worth : (lots.map SyntheticLot.marketValue).sum = value

theorem HoldsOnly.nil (c : RiskClass) : HoldsOnly c 0 [] :=
  ⟨nofun, nofun, rfl⟩

theorem HoldsOnly.one {c : RiskClass} {value : ℚ} {lot : SyntheticLot}
    (hclass : lot.assetClass = c.value) (hticker : lot.ticker ∈ sleeveTickers c)
    (hworth : lot.marketValue = value) : HoldsOnly c value [lot] where
  ofClass := by
    intro lot' hlot
    rw [List.mem_singleton.mp hlot]
    exact hclass
  ofTicker := by
    intro lot' hlot
    rw [List.mem_singleton.mp hlot]
    exact hticker
  worth := by
    rw [List.map_singleton, List.sum_singleton]
    exact hworth

/-- Lots of one class, worth their sum. -/
theorem HoldsOnly.append {c : RiskClass} {value value' : ℚ}
    {lots lots' : List SyntheticLot} (h : HoldsOnly c value lots)
    (h' : HoldsOnly c value' lots') :
    HoldsOnly c (value + value') (lots ++ lots') where
  ofClass := by
    intro lot hlot
    rcases List.mem_append.mp hlot with hlot | hlot
    · exact h.ofClass lot hlot
    · exact h'.ofClass lot hlot
  ofTicker := by
    intro lot hlot
    rcases List.mem_append.mp hlot with hlot | hlot
    · exact h.ofTicker lot hlot
    · exact h'.ofTicker lot hlot
  worth := by
    rw [List.map_append, List.sum_append, h.worth, h'.worth]

/-- A sleeve is emitted when it is worth something. -/
theorem HoldsOnly.whenPositive {c : RiskClass} {value : ℚ}
    {lots : List SyntheticLot} (h : 0 < value → HoldsOnly c value lots) :
    HoldsOnly c (max value 0) (if value > 0 then lots else []) := by
  by_cases hpos : value > 0
  · rw [if_pos hpos, max_eq_left hpos.le]
    exact h hpos
  · rw [if_neg hpos, max_eq_right (not_lt.mp hpos)]
    exact HoldsOnly.nil c

/-- Lots sleeve by sleeve. -/
def BySleeve (value : RiskClass → ℚ) (lots : List SyntheticLot) : Prop :=
  ∃ segment : RiskClass → List SyntheticLot,
    lots = publicClasses.flatMap segment
      ∧ ∀ c ∈ publicClasses, HoldsOnly c (value c) (segment c)

/-- A book in four segments, one class each. -/
theorem BySleeve.of_segments {value : RiskClass → ℚ}
    {equity fixedIncome cash commodities : List SyntheticLot}
    (hequity : HoldsOnly .equity (value .equity) equity)
    (hfixedIncome : HoldsOnly .fixedIncome (value .fixedIncome) fixedIncome)
    (hcash : HoldsOnly .cash (value .cash) cash)
    (hcommodities : HoldsOnly .commodities (value .commodities) commodities) :
    BySleeve value (equity ++ fixedIncome ++ cash ++ commodities) := by
  refine ⟨fun c => match c with
    | .equity => equity
    | .fixedIncome => fixedIncome
    | .cash => cash
    | .commodities => commodities
    | _ => [], ?_, ?_⟩
  · simp [publicClasses]
  · intro c hc
    cases c with
    | equity => exact hequity
    | fixedIncome => exact hfixedIncome
    | cash => exact hcash
    | commodities => exact hcommodities
    | fx => exact absurd hc (by decide)
    | alternatives => exact absurd hc (by decide)

variable {κ : Type*} [DecidableEq κ] {value : RiskClass → ℚ}
  {lots : List SyntheticLot}

/-- A segment that a reading puts in one class is in it whole or not at
all. -/
theorem HoldsOnly.sum_filter {c : RiskClass} {worth : ℚ}
    (h : HoldsOnly c worth lots) {f : SyntheticLot → κ} {k : κ}
    (hf : ∀ lot ∈ lots, f lot = k) (x : κ) :
    ((lots.filter (f · = x)).map SyntheticLot.marketValue).sum
      = if k = x then worth else 0 := by
  by_cases hx : k = x
  · have hall : lots.filter (f · = x) = lots := by
      rw [List.filter_eq_self]
      intro lot hlot
      exact decide_eq_true ((hf lot hlot).trans hx)
    rw [if_pos hx, hall, h.worth]
  · have hnone : lots.filter (f · = x) = [] := by
      rw [List.filter_eq_nil_iff]
      intro lot hlot heq
      exact hx ((hf lot hlot).symm.trans (of_decide_eq_true heq))
    rw [if_neg hx, hnone]
    rfl

/-- A sum over the lots that a reading of class and ticker puts in one
class is a sum over the sleeves it puts there. -/
theorem BySleeve.sum_filter (h : BySleeve value lots)
    {f : SyntheticLot → κ} (g : RiskClass → κ)
    (hf : ∀ c ∈ publicClasses, ∀ lot : SyntheticLot,
      lot.assetClass = c.value → lot.ticker ∈ sleeveTickers c → f lot = g c)
    (x : κ) :
    ((lots.filter (f · = x)).map SyntheticLot.marketValue).sum
      = (publicClasses.map fun c => if g c = x then value c else 0).sum := by
  obtain ⟨segment, hlots, hholds⟩ := h
  rw [hlots, List.filter_flatMap, List.map_flatMap, List.flatMap_def,
    List.sum_flatten, List.map_map]
  congr 1
  apply List.map_congr_left
  intro c hc
  have hseg := hholds c hc
  exact hseg.sum_filter
    (fun lot hlot => hf c hc lot (hseg.ofClass lot hlot)
      (hseg.ofTicker lot hlot)) x

/-- Lots by sleeve are worth what the sleeves are. -/
theorem BySleeve.sum (h : BySleeve value lots) :
    (lots.map SyntheticLot.marketValue).sum
      = (publicClasses.map value).sum := by
  obtain ⟨segment, hlots, hholds⟩ := h
  rw [hlots, List.map_flatMap, List.flatMap_def, List.sum_flatten,
    List.map_map]
  congr 1
  apply List.map_congr_left
  intro c hc
  exact (hholds c hc).worth

/-- Every lot is of a public sleeve. -/
theorem BySleeve.mem (h : BySleeve value lots) {lot : SyntheticLot}
    (hlot : lot ∈ lots) : ∃ c ∈ publicClasses,
      lot.assetClass = c.value ∧ lot.ticker ∈ sleeveTickers c := by
  obtain ⟨segment, hlots, hholds⟩ := h
  rw [hlots] at hlot
  obtain ⟨c, hc, hlot⟩ := List.mem_flatMap.mp hlot
  exact ⟨c, hc, (hholds c hc).ofClass lot hlot, (hholds c hc).ofTicker lot hlot⟩

-- ============================================================= the emission

section Emission

variable (rng : SeededRandom) (householdId accountId : String)
  (weights : Dict RiskClass ℚ) (nav : ℚ) (seed : Int) (cohortId : String)

/-- What a sleeve's lots are worth: its share, when that is positive. -/
def emittedNav (c : RiskClass) : ℚ := max (sleeveNav weights nav c) 0

/-- A spec's lot, if its sleeve is worth something. -/
theorem holdsOnly_spec {c : RiskClass} {price : ℚ} {lot : SyntheticLot}
    (hclass : lot.assetClass = c.value) (hticker : lot.ticker ∈ sleeveTickers c)
    (hquantity : lot.quantity = sleeveNav weights nav c / price)
    (hmark : lot.marketPrice = price) (hprice : price ≠ 0) :
    HoldsOnly c (emittedNav weights nav c)
      (if sleeveNav weights nav c > 0 then [lot] else []) := by
  apply HoldsOnly.whenPositive
  intro _
  refine .one hclass hticker ?_
  unfold SyntheticLot.marketValue
  rw [hquantity, hmark, div_mul_cancel₀ _ hprice]

/-- Skipping a sleeve and emitting it are one choice. -/
theorem toList_skip (lot : SyntheticLot) (worth : ℚ) :
    (if worth ≤ 0 then none else some lot).toList
      = if worth > 0 then [lot] else [] := by
  by_cases hpos : worth > 0
  · rw [if_neg (not_le.mpr hpos), if_pos hpos]
    rfl
  · rw [if_pos (not_lt.mp hpos), if_neg hpos]
    rfl

/-- One lot a sleeve, below the fourth rung. -/
theorem bySleeve_sleeveOnlyLots :
    BySleeve (emittedNav weights nav)
      (sleeveOnlyLots householdId accountId weights nav) := by
  unfold sleeveOnlyLots
  rw [List.filterMap_eq_flatMap_toList]
  simp only [toList_skip]
  show BySleeve _ (_ ++ (_ ++ (_ ++ (_ ++ []))))
  rw [List.append_nil, ← List.append_assoc, ← List.append_assoc]
  exact .of_segments
    (holdsOnly_spec weights nav rfl vti_mem rfl rfl (by norm_num))
    (holdsOnly_spec weights nav rfl bnd_mem rfl rfl (by norm_num))
    (holdsOnly_spec weights nav rfl cash_mem rfl rfl (by norm_num))
    (holdsOnly_spec weights nav rfl dbc_mem rfl rfl (by norm_num))

/-- The concentrated lots are equity, worth their number times one. -/
theorem holdsOnly_concentratedLots (perLot : ℚ) (lotCount : Nat) :
    HoldsOnly .equity (lotCount * perLot)
      (concentratedLots householdId accountId perLot lotCount) := by
  unfold concentratedLots
  refine ⟨?_, ?_, ?_⟩
  · intro lot hlot
    obtain ⟨idx, -, rfl⟩ := List.mem_map.mp hlot
    rfl
  · intro lot hlot
    obtain ⟨idx, -, rfl⟩ := List.mem_map.mp hlot
    exact aapl_mem
  · rw [List.map_map]
    have hworth : ∀ idx ∈ List.range lotCount, perLot / 180 * 180 = perLot :=
      fun _ _ => div_mul_cancel₀ _ (by norm_num)
    calc _ = ((List.range lotCount).map fun _ => perLot).sum := by
            congr 1
            exact List.map_congr_left hworth
      _ = lotCount * perLot := by
            rw [List.map_const', List.length_range, List.sum_replicate,
              nsmul_eq_mul]

theorem holdsOnly_diversifiedLot (worth : ℚ) :
    HoldsOnly .equity worth [diversifiedLot householdId accountId worth] := by
  exact .one rfl vti_mem (div_mul_cancel₀ worth (by norm_num))

/-- However many lots the concentrated part is split over, the equity
sleeve is whole. -/
theorem holdsOnly_splitEquityLots {equityNav : ℚ} (hpos : 0 < equityNav) :
    HoldsOnly .equity equityNav
      (splitEquityLots rng householdId accountId equityNav seed cohortId) := by
  unfold splitEquityLots
  split
  · dsimp only
    obtain ⟨hlow, -⟩ := rng.randintRange (seed + 1) 0 3 5 (by norm_num)
    generalize rng.randint (seed + 1) 0 3 5 = lotCount at hlow
    have hshare : ∃ q : ℚ, 0 < q ∧ q < 1
        ∧ (if cohortId = "concentrated_stress" then 40 / 100 else 25 / 100)
          = q := by
      split
      · exact ⟨_, by norm_num, by norm_num, rfl⟩
      · exact ⟨_, by norm_num, by norm_num, rfl⟩
    obtain ⟨q, hq, hq', hshare⟩ := hshare
    rw [hshare]
    have hcount : ((lotCount.toNat : ℕ) : ℚ) = lotCount := by
      exact_mod_cast Int.toNat_of_nonneg (by omega)
    have hne : (lotCount : ℚ) ≠ 0 := by
      have : lotCount ≠ 0 := by omega
      exact_mod_cast this
    have hrest : 0 < equityNav - equityNav * q := by nlinarith
    rw [if_pos hrest]
    have hsum : equityNav = (lotCount.toNat : ℚ) * (equityNav * q / lotCount)
        + (equityNav - equityNav * q) := by
      rw [hcount, mul_div_cancel₀ _ hne]
      ring
    have happend := (holdsOnly_concentratedLots householdId accountId
      (equityNav * q / lotCount) lotCount.toNat).append
      (holdsOnly_diversifiedLot householdId accountId
        (equityNav - equityNav * q))
    rw [← hsum] at happend
    exact happend
  · exact holdsOnly_diversifiedLot householdId accountId equityNav

/-- The fourth rung splits the equity sleeve and keeps the others. -/
theorem bySleeve_splitPublicLots :
    BySleeve (emittedNav weights nav)
      (splitPublicLots rng householdId accountId weights nav seed
        cohortId) := by
  unfold splitPublicLots
  dsimp only
  refine .of_segments (.whenPositive fun hpos => ?_) (.whenPositive fun _ => ?_)
    (.whenPositive fun _ => ?_) (.whenPositive fun _ => ?_)
  · exact holdsOnly_splitEquityLots rng householdId accountId seed cohortId
      hpos
  · exact .one rfl bnd_mem (div_mul_cancel₀ _ (by norm_num))
  · exact .one rfl cash_mem (mul_one _)
  · exact .one rfl dbc_mem (div_mul_cancel₀ _ (by norm_num))

end Emission

-- ================================================================ the shares

section Shares

variable {d : Dict κ ℚ}

/-- The values of a dictionary, as shares of their sum. -/
def dictShare (d : Dict κ ℚ) (k : κ) : ℚ := (d.get? k).getD 0 / d.values.sum

/-- Shares of nonnegative values are fractions. -/
theorem dictShare_isFraction (hnonneg : ∀ k, 0 ≤ (d.get? k).getD 0)
    (hpos : 0 < d.values.sum) (k : κ) : IsFraction (dictShare d k) :=
  d.share_fraction hnonneg hpos k

theorem sum_dictShare (hpos : 0 < d.values.sum) :
    (d.keys.map (dictShare d)).sum = 1 := d.sum_shares hpos.ne'

end Shares

-- ============================================================ the projection

/-- A lot's class, where it has one. -/
def heldClass (lot : SyntheticLot) : RiskClass :=
  match lotAssetClass lot with
  | .ok c => c
  | .error _ => .equity

/-- A lot that states its class is read as that class. -/
theorem lotAssetClass_of_value {lot : SyntheticLot} {c : RiskClass}
    (h : lot.assetClass = c.value) : lotAssetClass lot = .ok c := by
  have hne : c.value ≠ "" := by cases c <;> decide
  unfold lotAssetClass
  rw [h, if_pos hne, RiskClass.ofValue_value]

theorem heldClass_of_value {lot : SyntheticLot} {c : RiskClass}
    (h : lot.assetClass = c.value) : heldClass lot = c := by
  unfold heldClass
  rw [lotAssetClass_of_value h]

/-- Every tier noted so far is one of the three. -/
def TiersInRange (liquidity : Dict RiskClass Nat) : Prop :=
  ∀ c t, liquidity.get? c = some t → 1 ≤ t ∧ t ≤ 3

theorem classLiquidityTier_range (c : RiskClass) (fermi : Bool) :
    1 ≤ classLiquidityTier c fermi ∧ classLiquidityTier c fermi ≤ 3 := by
  unfold classLiquidityTier
  split
  · omega
  · split
    · omega
    · omega

/-- Writing a tier in range keeps the map in range. -/
theorem TiersInRange.set {liquidity : Dict RiskClass Nat}
    (h : TiersInRange liquidity) (c : RiskClass) {t : Nat}
    (ht : 1 ≤ t ∧ t ≤ 3) : TiersInRange (liquidity.set c t) := by
  intro c' t' hget
  rw [Dict.get?_set] at hget
  by_cases hc : c' = c
  · rw [if_pos hc] at hget
    cases hget
    exact ht
  · rw [if_neg hc] at hget
    exact h c' t' hget

/-- Reading with a fallback in range stays in range. -/
theorem TiersInRange.getD {liquidity : Dict RiskClass Nat}
    (h : TiersInRange liquidity) (c : RiskClass) {fallback : Nat}
    (hf : 1 ≤ fallback ∧ fallback ≤ 3) :
    1 ≤ (liquidity.get? c).getD fallback
      ∧ (liquidity.get? c).getD fallback ≤ 3 := by
  cases hget : liquidity.get? c with
  | none => exact hf
  | some t => exact h c t hget

/-- Lots that have classes are added up by class. -/
theorem foldlM_addLot (lots : List SyntheticLot)
    (hclass : ∀ lot ∈ lots, lotAssetClass lot = .ok (heldClass lot)) :
    ∀ marks, TiersInRange marks.liquidity →
      ∃ marks', lots.foldlM ShapeMarks.addLot marks = .ok marks'
        ∧ marks'.classMv = lots.foldl
            (fun mv lot => mv.add (heldClass lot) lot.marketValue)
            marks.classMv
        ∧ TiersInRange marks'.liquidity := by
  induction lots with
  | nil => exact fun marks htiers => ⟨marks, rfl, rfl, htiers⟩
  | cons lot rest ih =>
      intro marks htiers
      rw [List.forall_mem_cons] at hclass
      have hturn : ShapeMarks.addLot marks lot = .ok
          { marks with
            classMv := marks.classMv.add (heldClass lot) lot.marketValue
            liquidity := marks.liquidity.set (heldClass lot)
              (min ((marks.liquidity.get? (heldClass lot)).getD
                (classLiquidityTier (heldClass lot) false))
                (classLiquidityTier (heldClass lot) false)) } := by
        unfold ShapeMarks.addLot
        rw [hclass.1]
        rfl
      have htier := classLiquidityTier_range (heldClass lot) false
      have hnoted := htiers.getD (heldClass lot) htier
      rw [List.foldlM_cons, hturn, ok_bind]
      exact ih hclass.2 _ (htiers.set _ ⟨by omega, by omega⟩)

/-- The holdings add to the alternatives' value and keep the tiers in range. -/
theorem foldl_addAlternative (alts : List SyntheticAltHolding) :
    ∀ marks : ShapeMarks, TiersInRange marks.liquidity →
      (alts.foldl ShapeMarks.addAlternative marks).classMv
          = alts.foldl (fun mv alt => mv.add .alternatives alt.currentNav)
            marks.classMv
        ∧ TiersInRange
          (alts.foldl ShapeMarks.addAlternative marks).liquidity := by
  induction alts with
  | nil => exact fun marks htiers => ⟨rfl, htiers⟩
  | cons alt rest ih =>
      intro marks htiers
      exact ih _ (htiers.set .alternatives ⟨by omega, by omega⟩)

/-- What a fixture holds of a class. -/
def heldNav (fixture : HouseholdFixture) (c : RiskClass) : ℚ :=
  ((fixture.lots.filter (heldClass · = c)).map SyntheticLot.marketValue).sum
    + if c = .alternatives
      then (fixture.alternativeHoldings.map (·.currentNav)).sum else 0

/-- Every asset class. -/
def assetClasses : List RiskClass :=
  [.equity, .fixedIncome, .commodities, .fx, .alternatives, .cash]

theorem mem_assetClasses (c : RiskClass) : c ∈ assetClasses := by
  cases c <;> decide

theorem nodup_assetClasses : assetClasses.Nodup := by decide

/-- The values of a dictionary by class, class by class. -/
theorem sum_values_eq (d : Dict RiskClass ℚ) :
    d.values.sum = (assetClasses.map fun c => (d.get? c).getD 0).sum :=
  (d.sum_getD_of_subset nodup_assetClasses fun c _ => mem_assetClasses c).symm

/-- The loops over a fixture's holdings leave what it holds. -/
theorem projected_marks {fixture : HouseholdFixture}
    (hclass : ∀ lot ∈ fixture.lots,
      lotAssetClass lot = .ok (heldClass lot)) :
    ∃ marks, fixture.lots.foldlM ShapeMarks.addLot {} = .ok marks
      ∧ (∀ c, (((fixture.alternativeHoldings.foldl ShapeMarks.addAlternative
          marks).classMv.get? c).getD 0) = heldNav fixture c)
      ∧ TiersInRange (fixture.alternativeHoldings.foldl
          ShapeMarks.addAlternative marks).liquidity := by
  obtain ⟨marks, hrun, hmv, htiers⟩ := foldlM_addLot fixture.lots hclass {}
    fun c t h => absurd h (by rw [Dict.get?_empty]; nofun)
  obtain ⟨hmv', htiers'⟩ :=
    foldl_addAlternative fixture.alternativeHoldings marks htiers
  refine ⟨marks, hrun, fun c => ?_, htiers'⟩
  rw [hmv', hmv, Dict.getD_foldl_add (fun _ => RiskClass.alternatives)
    (fun alt : SyntheticAltHolding => alt.currentNav),
    Dict.getD_foldl_add, Dict.get?_empty, Option.getD_none, zero_add]
  unfold heldNav
  congr 1
  by_cases hc : c = .alternatives
  · subst hc
    simp
  · rw [if_neg hc]
    simp [Ne.symm hc]

/-- What a fixture holds in all. -/
def heldTotal (fixture : HouseholdFixture) : ℚ :=
  (assetClasses.map (heldNav fixture)).sum

variable {fixture : HouseholdFixture}

/-- A fixture without markable NAV is not projected. -/
theorem projectToAssetPortfolio_error
    (hclass : ∀ lot ∈ fixture.lots, lotAssetClass lot = .ok (heldClass lot))
    (htotal : heldTotal fixture ≤ 0) :
    projectToAssetPortfolio fixture = .error (.valueError
      "fixture has no markable NAV for Shape A projection") := by
  obtain ⟨marks, hrun, hheld, -⟩ := projected_marks hclass
  unfold projectToAssetPortfolio
  rw [hrun, ok_bind]
  dsimp only
  rw [if_pos]
  · rfl
  · rw [sum_values_eq]
    simp only [hheld]
    exact htotal

/-- The durations the projection assigns pass the slot's check. -/
theorem slotDuration_nonneg (c : RiskClass) : ∀ d ∈ slotDuration c, 0 ≤ d := by
  intro d hd
  cases c with
  | fixedIncome =>
      cases hd
      norm_num
  | alternatives =>
      cases hd
      norm_num
  | equity => cases hd
  | commodities => cases hd
  | fx => cases hd
  | cash => cases hd

theorem slotBeta_nonneg (rung : Int) (c : RiskClass) :
    ∀ b ∈ slotBeta rung c, 0 ≤ b := by
  intro b hb
  cases c with
  | equity =>
      cases hb
      split
      · norm_num
      · norm_num
  | fixedIncome => cases hb
  | alternatives => cases hb
  | commodities => cases hb
  | fx => cases hb
  | cash => cases hb

/-- A slot whose weight is a fraction is made. -/
theorem ShapeMarks.slot_ok {marks : ShapeMarks} {total : ℚ} (rung : Int)
    {c : RiskClass} (htiers : TiersInRange marks.liquidity)
    (hw : IsFraction ((marks.classMv.get? c).getD 0 / total)) :
    ∃ slot, marks.slot total rung c = .ok slot
      ∧ (slot.assetClass, slot.weight)
        = (c, (marks.classMv.get? c).getD 0 / total) := by
  unfold ShapeMarks.slot
  dsimp only
  obtain ⟨slot, hslot⟩ := AllocationSlot.create_ok hw (slotDuration_nonneg c)
    (slotBeta_nonneg rung c) (htiers.getD c tierOne)
  exact ⟨slot, hslot, AllocationSlot.create_reads hslot⟩

/-- Slots for the classes of a dictionary, each with the class's share. -/
theorem slots_ok {marks : ShapeMarks} (rung : Int)
    (htiers : TiersInRange marks.liquidity)
    (hnonneg : ∀ c, 0 ≤ (marks.classMv.get? c).getD 0)
    (hpos : 0 < marks.classMv.values.sum) (classes : List RiskClass) :
    ∃ slots, classes.mapM (marks.slot marks.classMv.values.sum rung)
        = .ok slots
      ∧ slots.map (fun slot => (slot.assetClass, slot.weight))
        = classes.map fun c => (c, dictShare marks.classMv c) := by
  obtain ⟨slots, hslots, -⟩ := mapM_forall₂ classes fun c _ =>
    ShapeMarks.slot_ok rung htiers (dictShare_isFraction hnonneg hpos c)
  exact ⟨slots, hslots, mapM_map_eq hslots fun c slot hslot =>
    AllocationSlot.create_reads hslot⟩

/-- Slots that share out a dictionary over its keys. -/
theorem slots_shares {d : Dict RiskClass ℚ} {classes : List RiskClass}
    {slots : List AllocationSlot} (hpos : 0 < d.values.sum)
    (hperm : classes.Perm d.keys)
    (hpairs : slots.map (fun slot => (slot.assetClass, slot.weight))
      = classes.map fun c => (c, dictShare d c)) :
    slots.map (·.assetClass) = classes ∧ (slots.map (·.weight)).sum = 1 := by
  have hfst := congrArg (List.map Prod.fst) hpairs
  have hsnd := congrArg (List.map Prod.snd) hpairs
  rw [List.map_map, List.map_map] at hfst hsnd
  constructor
  · exact hfst.trans (List.map_id classes)
  · calc (slots.map (·.weight)).sum
        = (classes.map (dictShare d)).sum := congrArg List.sum hsnd
      _ = 1 := by rw [(hperm.map _).sum_eq, sum_dictShare hpos]

/-- A fixture that holds something and owes nothing is projected: every
class weighs its share, on a slot of its own. -/
theorem projectToAssetPortfolio_ok
    (hclass : ∀ lot ∈ fixture.lots, lotAssetClass lot = .ok (heldClass lot))
    (hnonneg : ∀ c, 0 ≤ heldNav fixture c) (htotal : 0 < heldTotal fixture) :
    ∃ portfolio, projectToAssetPortfolio fixture = .ok portfolio
      ∧ (portfolio.allocations.map (·.assetClass)).Nodup
      ∧ ∀ c, ((shapeAWeights portfolio).get? c).getD 0
        = heldNav fixture c / heldTotal fixture := by
  obtain ⟨marks, hrun, hheld, htiers⟩ := projected_marks hclass
  unfold projectToAssetPortfolio
  rw [hrun, ok_bind]
  dsimp only
  generalize fixture.alternativeHoldings.foldl ShapeMarks.addAlternative marks
    = projected at hheld htiers
  have hsum : projected.classMv.values.sum = heldTotal fixture := by
    rw [sum_values_eq]
    simp only [hheld]
    rfl
  have hpos : 0 < projected.classMv.values.sum := by
    rw [hsum]
    exact htotal
  rw [if_neg (not_le.mpr hpos)]
  have hperm := List.mergeSort_perm projected.classMv.keys fun c c' =>
    decide (c.value ≤ c'.value)
  generalize projected.classMv.keys.mergeSort
    (fun c c' => decide (c.value ≤ c'.value)) = classes at hperm
  have hnd : classes.Nodup :=
    hperm.nodup_iff.mpr projected.classMv.nodupKeys
  obtain ⟨slots, hslots, hpairs⟩ := slots_ok fixture.provenance.rung htiers
    (fun c => by rw [hheld]; exact hnonneg c) hpos classes
  obtain ⟨hclasses, hweights⟩ := slots_shares hpos hperm hpairs
  have hne : slots ≠ [] := by
    intro hnil
    rw [hnil] at hweights
    exact zero_ne_one hweights
  have hbudget : WeightsSumToOne slots := by
    rw [WeightsSumToOne, hweights]
    norm_num
  rw [hslots, ok_bind]
  obtain ⟨portfolio, hmade, hallocations⟩ := AssetPortfolio.create_ok
    (some fixture.householdId) "synthetic" (some fixture.provenance.rung)
    (some fixture.provenance.cohortId) (some generatorVersion)
    (some fixture.provenance.seed) fixture.provenance.tensionTags hne hbudget
  refine ⟨portfolio, hmade, ?_, fun c => ?_⟩
  · rw [hallocations, hclasses]
    exact hnd
  · have hget := Dict.get?_tabulate classes (dictShare projected.classMv) c
    unfold Dict.tabulate at hget
    unfold shapeAWeights
    rw [hallocations, hpairs, hget]
    by_cases hc : c ∈ classes
    · rw [if_pos hc, Option.getD_some]
      unfold dictShare
      rw [hheld, hsum]
    · have hzero : heldNav fixture c = 0 := by
        rw [← hheld, Dict.get?_eq_none_iff.mpr fun hk =>
          hc (hperm.mem_iff.mpr hk)]
        rfl
      rw [if_neg hc, hzero, zero_div]
      rfl

-- ============================================================= the fixtures

section Fixtures

variable (rt : SyntheticRuntime) (cohortId : String) (seed rung : Int)
  (hhId : String) (nav : ℚ) (weights : Dict RiskClass ℚ)

/-- A sleeve's weight, none if it has none. -/
def weightIn (weights : Dict RiskClass ℚ) (c : RiskClass) : ℚ :=
  (weights.get? c).getD 0

/-- The lots of an assembled fixture, on any rung, are worth what their sleeves
were drawn at. -/
theorem bySleeve_assembleFixture :
    BySleeve (emittedNav weights nav)
      (assembleFixture rt cohortId seed rung hhId nav weights).lots := by
  unfold assembleFixture
  dsimp only
  by_cases hrung : rung = 3
  · rw [if_pos hrung]
    exact bySleeve_sleeveOnlyLots ..
  · rw [if_neg hrung]
    exact bySleeve_splitPublicLots ..

/-- The alternative holding carries its sleeve, and a fifth of it on top
that is not called yet. -/
theorem sum_buildAlts (rng : SeededRandom) (entityId : String) :
    ((buildAlts rng hhId entityId weights nav seed).map (·.currentNav)).sum
        = nav * max (weightIn weights .alternatives) 0
      ∧ ((buildAlts rng hhId entityId weights nav seed).map
          (·.unfundedCapital)).sum
        = nav * max (weightIn weights .alternatives) 0 * (2 / 10) := by
  unfold buildAlts weightIn
  dsimp only
  by_cases hle : (weights.get? .alternatives).getD 0 ≤ 0
  · rw [if_pos hle, max_eq_right hle, mul_zero, zero_mul]
    exact ⟨rfl, rfl⟩
  · rw [if_neg hle, max_eq_left (not_le.mp hle).le]
    simp only [List.map_singleton, List.sum_singleton]
    constructor
    · trivial
    · ring

/-- Every lot that is emitted has a class. -/
theorem lotAssetClass_assembleFixture :
    ∀ lot ∈ (assembleFixture rt cohortId seed rung hhId nav weights).lots,
      lotAssetClass lot = .ok (heldClass lot) := by
  intro lot hlot
  obtain ⟨c, -, hvalue, -⟩ := (bySleeve_assembleFixture rt cohortId seed rung
    hhId nav weights).mem hlot
  rw [heldClass_of_value hvalue, lotAssetClass_of_value hvalue]

/-- What a fixture holds of a class is what was emitted of it; no path
emits the `fx` sleeve. -/
theorem heldNav_assembleFixture (c : RiskClass) :
    heldNav (assembleFixture rt cohortId seed rung hhId nav weights) c
      = match c with
        | .fx => 0
        | .alternatives => nav * max (weightIn weights .alternatives) 0
        | _ => max (nav * weightIn weights c) 0 := by
  have hlots := (bySleeve_assembleFixture rt cohortId seed rung hhId nav
    weights).sum_filter (f := heldClass) id
    (fun c _ lot hvalue _ => heldClass_of_value hvalue) c
  have halts := (sum_buildAlts seed hhId nav weights rt.toSeededRandom
    (((buildAccounts hhId cohortId).map (·.accountId)).getLastD "")).1
  unfold heldNav
  rw [hlots]
  unfold assembleFixture
  dsimp only
  rw [halts]
  cases c with
  | equity => simp [publicClasses, emittedNav, sleeveNav, weightIn]
  | fixedIncome => simp [publicClasses, emittedNav, sleeveNav, weightIn]
  | commodities => simp [publicClasses, emittedNav, sleeveNav, weightIn]
  | cash => simp [publicClasses, emittedNav, sleeveNav, weightIn]
  | fx => simp [publicClasses]
  | alternatives => simp [publicClasses]

/-- The total is what the classes hold. -/
theorem totalNavUsd_assembleFixture :
    (assembleFixture rt cohortId seed rung hhId nav weights).totalNavUsd
      = heldTotal
        (assembleFixture rt cohortId seed rung hhId nav weights) := by
  have hlots := (bySleeve_assembleFixture rt cohortId seed rung hhId nav
    weights).sum
  have halts := (sum_buildAlts seed hhId nav weights rt.toSeededRandom
    (((buildAccounts hhId cohortId).map (·.accountId)).getLastD "")).1
  have htotal : (assembleFixture rt cohortId seed rung hhId nav
      weights).totalNavUsd
      = (publicClasses.map (emittedNav weights nav)).sum
        + nav * max (weightIn weights .alternatives) 0 := by
    rw [← hlots, ← halts]
    rfl
  rw [htotal]
  unfold heldTotal assetClasses publicClasses
  simp only [List.map_cons, List.map_nil, List.sum_cons, List.sum_nil,
    heldNav_assembleFixture]
  unfold emittedNav sleeveNav weightIn
  ring

end Fixtures

-- ============================================================= conservation

section Conservation

variable (rt : SyntheticRuntime) (cohortId : String) (seed : Int) {rung : Int}
  (householdId : Option String) {nav : ℚ} {weights : Dict RiskClass ℚ}

/-- The weight that is emitted: the `fx` sleeve's is not. -/
def emittedWeight (weights : Dict RiskClass ℚ) : ℚ :=
  weights.values.sum - weightIn weights .fx

/-- Non-negative weights, sleeve by sleeve. -/
theorem weightIn_nonneg (hweights : ∀ q ∈ weights.values, 0 ≤ q)
    (c : RiskClass) : 0 ≤ weightIn weights c := by
  unfold weightIn
  cases hget : weights.get? c with
  | none => exact le_refl (0 : ℚ)
  | some q =>
      exact hweights q (List.mem_map_of_mem (f := Prod.snd)
        (Dict.get?_eq_some_iff.mp hget))

/-- The weights by class sum to the dict's values. -/
theorem sum_weightIn (weights : Dict RiskClass ℚ) :
    weights.values.sum = (assetClasses.map (weightIn weights)).sum :=
  sum_values_eq weights

/-- Under a NAV that is not negative a fixture holds NAV times weight of
every class but `fx`. -/
theorem heldNav_eq_mul (rung : Int) (hnav : 0 ≤ nav)
    (hweights : ∀ q ∈ weights.values, 0 ≤ q) (hhId : String)
    (c : RiskClass) :
    heldNav (assembleFixture rt cohortId seed rung hhId nav weights) c
      = nav * if c = .fx then 0 else weightIn weights c := by
  have hnonneg := weightIn_nonneg hweights
  have hpublic : ∀ c, max (nav * weightIn weights c) 0
      = nav * weightIn weights c :=
    fun c => max_eq_left (mul_nonneg hnav (hnonneg c))
  rw [heldNav_assembleFixture]
  cases c with
  | fx => rw [if_pos rfl, mul_zero]
  | alternatives => rw [if_neg (by decide), max_eq_left (hnonneg _)]
  | equity => exact hpublic _
  | fixedIncome => exact hpublic _
  | commodities => exact hpublic _
  | cash => exact hpublic _

/-- What is held is the NAV times the weights that are emitted. -/
theorem heldTotal_eq_mul (rung : Int) (hnav : 0 ≤ nav)
    (hweights : ∀ q ∈ weights.values, 0 ≤ q) (hhId : String) :
    heldTotal (assembleFixture rt cohortId seed rung hhId nav weights)
      = nav * emittedWeight weights := by
  unfold heldTotal emittedWeight
  rw [sum_weightIn]
  unfold assetClasses
  simp only [List.map_cons, List.map_nil, List.sum_cons, List.sum_nil,
    heldNav_eq_mul rt cohortId seed rung hnav hweights]
  simp only [if_true, if_false, reduceCtorEq]
  ring

/-- A NAV that is not positive leaves nothing to project. -/
theorem heldTotal_nonpos (rung : Int) (hnav : nav ≤ 0)
    (hweights : ∀ q ∈ weights.values, 0 ≤ q) (hhId : String) :
    heldTotal (assembleFixture rt cohortId seed rung hhId nav weights)
      ≤ 0 := by
  have hnonneg := weightIn_nonneg hweights
  have hpublic : ∀ c, max (nav * weightIn weights c) 0 = 0 := fun c =>
    max_eq_right (mul_nonpos_of_nonpos_of_nonneg hnav (hnonneg c))
  unfold heldTotal assetClasses
  simp only [List.map_cons, List.map_nil, List.sum_cons, List.sum_nil,
    heldNav_assembleFixture, hpublic]
  rw [max_eq_left (hnonneg _)]
  have := mul_nonpos_of_nonpos_of_nonneg hnav (hnonneg .alternatives)
  linarith

/-- At rung 3 or 4, under given weights, a fixture is assembled and
projected. -/
theorem emitHnwFixture_eq (hrung : rung = 3 ∨ rung = 4) :
    emitHnwFixture rt cohortId seed rung householdId nav (some weights)
      = (projectToAssetPortfolio (assembleFixture rt cohortId seed rung
          (householdIdOr householdId cohortId seed) nav weights)).map
        fun portfolio =>
          { assembleFixture rt cohortId seed rung
              (householdIdOr householdId cohortId seed) nav weights with
            assetPortfolio := some portfolio } := by
  unfold emitHnwFixture
  rw [if_neg (by omega)]
  show (projectToAssetPortfolio _ >>= _) = _
  cases projectToAssetPortfolio (assembleFixture rt cohortId seed rung
    (householdIdOr householdId cohortId seed) nav weights) with
  | error err => rfl
  | ok portfolio => rfl

/-- A returned fixture is an assembled one with its projection. -/
theorem emitHnwFixture_returned {fixture : HouseholdFixture}
    (hrun : emitHnwFixture rt cohortId seed rung householdId nav
      (some weights) = .ok fixture) :
    (rung = 3 ∨ rung = 4) ∧ ∃ portfolio,
      projectToAssetPortfolio (assembleFixture rt cohortId seed rung
        (householdIdOr householdId cohortId seed) nav weights) = .ok portfolio
      ∧ fixture = { assembleFixture rt cohortId seed rung
          (householdIdOr householdId cohortId seed) nav weights with
        assetPortfolio := some portfolio } := by
  by_cases hrung : rung = 3 ∨ rung = 4
  · rw [emitHnwFixture_eq rt cohortId seed householdId hrung] at hrun
    cases hproject : projectToAssetPortfolio (assembleFixture rt cohortId seed
        rung (householdIdOr householdId cohortId seed) nav weights) with
    | error err =>
        rw [hproject] at hrun
        cases hrun
    | ok portfolio =>
        rw [hproject] at hrun
        cases hrun
        exact ⟨hrung, portfolio, rfl, rfl⟩
  · unfold emitHnwFixture at hrun
    rw [if_pos (by omega)] at hrun
    cases hrun

/-- Sampled weights are as good as given ones. -/
theorem emitHnwFixture_sampled
    (hsample : sampleSleeveWeights rt.toSeededRandom cohortId seed
      = .ok weights) :
    emitHnwFixture rt cohortId seed rung householdId nav none
      = emitHnwFixture rt cohortId seed rung householdId nav
        (some weights) := by
  unfold emitHnwFixture
  dsimp only
  rw [hsample]
  rfl

/-- A positive NAV and a weight that is emitted: a fixture is returned,
and every class but `fx` weighs its share of the emitted weight. -/
theorem emitHnwFixture_ok (hrung : rung = 3 ∨ rung = 4) (hnav : 0 < nav)
    (hweights : ∀ q ∈ weights.values, 0 ≤ q)
    (hemitted : 0 < emittedWeight weights) :
    ∃ portfolio,
      emitHnwFixture rt cohortId seed rung householdId nav (some weights)
        = .ok { assembleFixture rt cohortId seed rung
            (householdIdOr householdId cohortId seed) nav weights with
          assetPortfolio := some portfolio }
      ∧ (portfolio.allocations.map (·.assetClass)).Nodup
      ∧ ∀ c, weightIn (shapeAWeights portfolio) c
        = (if c = .fx then 0 else weightIn weights c)
          / emittedWeight weights := by
  have hheld := heldNav_eq_mul rt cohortId seed rung hnav.le hweights
    (householdIdOr householdId cohortId seed)
  have htotal := heldTotal_eq_mul rt cohortId seed rung hnav.le hweights
    (householdIdOr householdId cohortId seed)
  obtain ⟨portfolio, hrun, hnd, hshares⟩ := projectToAssetPortfolio_ok
    (lotAssetClass_assembleFixture rt cohortId seed rung
      (householdIdOr householdId cohortId seed) nav weights)
    (fun c => by
      rw [hheld]
      apply mul_nonneg hnav.le
      split
      · exact le_refl 0
      · exact weightIn_nonneg hweights c)
    (by rw [htotal]; exact mul_pos hnav hemitted)
  refine ⟨portfolio, ?_, hnd, fun c => ?_⟩
  · rw [emitHnwFixture_eq rt cohortId seed householdId hrung, hrun]
    rfl
  · unfold weightIn
    rw [hshares, hheld, htotal, mul_div_mul_left _ _ hnav.ne']
    rfl

/-- What is returned was emitted at rung 3 or 4, under a positive NAV and
a weight that is emitted. -/
theorem emitHnwFixture_inv {fixture : HouseholdFixture}
    (hweights : ∀ q ∈ weights.values, 0 ≤ q)
    (hrun : emitHnwFixture rt cohortId seed rung householdId nav
      (some weights) = .ok fixture) :
    (rung = 3 ∨ rung = 4) ∧ 0 < nav ∧ 0 < emittedWeight weights := by
  obtain ⟨hrung, portfolio, hproject, -⟩ :=
    emitHnwFixture_returned rt cohortId seed householdId hrun
  have hpos : 0 < heldTotal (assembleFixture rt cohortId seed rung
      (householdIdOr householdId cohortId seed) nav weights) := by
    by_contra hle
    rw [projectToAssetPortfolio_error
      (lotAssetClass_assembleFixture rt cohortId seed rung _ nav weights)
      (not_lt.mp hle)] at hproject
    cases hproject
  have hnav : 0 < nav := by
    by_contra hle
    exact absurd (heldTotal_nonpos rt cohortId seed rung (not_lt.mp hle)
      hweights _) (not_le.mpr hpos)
  rw [heldTotal_eq_mul rt cohortId seed rung hnav.le hweights] at hpos
  exact ⟨hrung, hnav, pos_of_mul_pos_right hpos hnav.le⟩

/-- No sleeve of a fixture is dropped or counted twice. -/
structure ConservesNav (nav : ℚ) (weights : Dict RiskClass ℚ)
    (fixture : HouseholdFixture) : Prop where
  total : fixture.totalNavUsd = nav * weights.values.sum
  shapeA : ∃ portfolio, fixture.assetPortfolio = some portfolio
    ∧ (portfolio.allocations.map (·.assetClass)).Nodup
    ∧ ∀ c, weightIn (shapeAWeights portfolio) c
      = weightIn weights c / weights.values.sum

/-- The total is the NAV times the weight that is emitted. -/
theorem totalNavUsd_eq_mul (rung : Int) (hnav : 0 ≤ nav)
    (hweights : ∀ q ∈ weights.values, 0 ≤ q) (hhId : String) :
    (assembleFixture rt cohortId seed rung hhId nav weights).totalNavUsd
      = nav * emittedWeight weights := by
  rw [totalNavUsd_assembleFixture,
    heldTotal_eq_mul rt cohortId seed rung hnav hweights]

/-- A weight on the `fx` sleeve is lost from the total. -/
theorem not_conservesNav_of_fx (rung : Int) (hnav : 0 < nav)
    (hweights : ∀ q ∈ weights.values, 0 ≤ q) (hfx : weightIn weights .fx ≠ 0)
    {hhId : String} {portfolio : Option AssetPortfolio} :
    ¬ ConservesNav nav weights
      { assembleFixture rt cohortId seed rung hhId nav weights with
        assetPortfolio := portfolio } := by
  intro hconserves
  have htotal := hconserves.total
  rw [show HouseholdFixture.totalNavUsd _ = _ from
    totalNavUsd_eq_mul rt cohortId seed rung hnav.le hweights hhId] at htotal
  have hequal := mul_left_cancel₀ hnav.ne' htotal
  unfold emittedWeight at hequal
  exact hfx (by linarith)

/-- A returned fixture conserves NAV exactly when the `fx` sleeve has no
weight. -/
theorem emitHnwFixture_conserves_iff (rung : Int) (nav : ℚ)
    (weights : Dict RiskClass ℚ) (fixture : HouseholdFixture)
    (hnav : 0 < nav) (hweights : ∀ q ∈ weights.values, 0 ≤ q)
    (hrun : emitHnwFixture rt cohortId seed rung householdId nav
      (some weights) = .ok fixture) :
    ConservesNav nav weights fixture ↔ weightIn weights .fx = 0 := by
  obtain ⟨hrung, -, hemitted⟩ :=
    emitHnwFixture_inv rt cohortId seed householdId hweights hrun
  obtain ⟨portfolio, hrun', hnd, hshares⟩ :=
    emitHnwFixture_ok rt cohortId seed householdId hrung hnav hweights hemitted
  rw [hrun'] at hrun
  cases hrun
  constructor
  · intro hconserves
    by_contra hfx
    exact not_conservesNav_of_fx rt cohortId seed rung hnav hweights hfx
      hconserves
  · intro hfx
    have hwhole : emittedWeight weights = weights.values.sum := by
      unfold emittedWeight
      rw [hfx, sub_zero]
    refine ⟨?_, portfolio, rfl, hnd, fun c => ?_⟩
    · rw [← hwhole]
      exact totalNavUsd_eq_mul rt cohortId seed rung hnav.le hweights _
    · rw [hshares, hwhole]
      by_cases hc : c = .fx
      · rw [if_pos hc, hc, hfx]
      · rw [if_neg hc]

/-- Draws that are the least of their ranges. -/
def SyntheticRuntime.least : SyntheticRuntime where
  random _ _ := 0
  uniform _ _ low _ := low
  randint _ _ low _ := low
  randomRange _ _ := ⟨le_refl 0, zero_lt_one⟩
  uniformRange _ _ _ _ h := ⟨le_refl _, h⟩
  randintRange _ _ _ _ h := ⟨le_refl _, h⟩
  sha256 := id
  itemsText _ := ""

/-- Equity and cash. -/
def equityAndCash : Dict RiskClass ℚ :=
  Dict.ofPairs [(.equity, 6 / 10), (.cash, 4 / 10)]

/-- Without foreign exchange the founder's household has its NAV. -/
theorem emitHnwFixture_conserves_founder :
    ∃ fixture, emitHnwFixture .least "founder_executive" 7 4 none 10000000
        (some equityAndCash) = .ok fixture
      ∧ ConservesNav 10000000 equityAndCash fixture := by
  have hweights : ∀ q ∈ equityAndCash.values, 0 ≤ q := by decide +kernel
  obtain ⟨portfolio, hrun, -⟩ := emitHnwFixture_ok .least "founder_executive" 7
    none (.inr rfl) (by norm_num : (0 : ℚ) < 10000000) hweights
    (by decide +kernel)
  exact ⟨_, hrun, (emitHnwFixture_conserves_iff .least "founder_executive" 7
    none 4 10000000 equityAndCash _ (by norm_num) hweights hrun).mpr
      (by decide +kernel)⟩

/-- Half in equity, half in foreign exchange. -/
def equityAndFx : Dict RiskClass ℚ :=
  Dict.ofPairs [(.equity, 1 / 2), (.fx, 1 / 2)]

/-- The half in foreign exchange is lost. -/
theorem fx_sleeve_dropped :
    ∃ fixture, emitHnwFixture .least "general_hnw" 7 3 none 10000000
        (some equityAndFx) = .ok fixture
      ∧ fixture.totalNavUsd = 5000000
      ∧ ¬ ConservesNav 10000000 equityAndFx fixture := by
  have hweights : ∀ q ∈ equityAndFx.values, 0 ≤ q := by decide +kernel
  obtain ⟨portfolio, hrun, -⟩ := emitHnwFixture_ok .least "general_hnw" 7 none
    (.inl rfl) (by norm_num : (0 : ℚ) < 10000000) hweights (by decide +kernel)
  refine ⟨_, hrun, ?_, not_conservesNav_of_fx .least "general_hnw" 7 3
    (by norm_num) hweights (by decide +kernel)⟩
  refine (totalNavUsd_eq_mul .least "general_hnw" 7 3 (by norm_num) hweights
    _).trans ?_
  decide +kernel

end Conservation

end Warehouse
