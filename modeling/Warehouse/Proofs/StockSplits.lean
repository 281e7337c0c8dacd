/-
Stock splits conserve basis.

A split is a guarded step on the ledger (`guarded_applyStockSplit`): it
goes through exactly for a positive ratio and positive holdings of its
security, and rescales those. It keeps every sign, so it changes no other
split's guard, and two splits commute; runs of splits are then the
library's. What a run did is read off `foldl_splitLots`: every lot is
rescaled by the product of its security's ratios, and rescaling keeps
quantity times basis (`scaleLot_basis`).

# Any order

A ratio multiplies the quantity and divides the cost of every lot of its
security. The source divides in decimals; here quantities and costs are
exact, so that a product of ratios does not depend on the order in which
they are applied, as the statement asks of them. A guard that fails stops
the whole list: nothing is saved of the actions before it.
-/
import Warehouse.Data.CorporateActions
import Warehouse.Lib.GuardedRun
import Mathlib.Algebra.Order.BigOperators.GroupWithZero.List

namespace Warehouse

open Lib

-- ================================================================ rescaling

/-- A lot of `factor` times as many shares, at the same total basis. -/
def scaleLot (factor : ℚ) (lot : Lot) : Lot :=
  { lot with
    quantity := lot.quantity * factor
    costBasisPerShare := lot.costBasisPerShare / factor }

/-- A split of one for one changes nothing. -/
theorem scaleLot_one (lot : Lot) : scaleLot 1 lot = lot := by
  unfold scaleLot
  rw [mul_one, div_one]

theorem scaleLot_scaleLot (f g : ℚ) (lot : Lot) :
    scaleLot g (scaleLot f lot) = scaleLot (f * g) lot := by
  unfold scaleLot
  show ({ lot with
    quantity := lot.quantity * f * g
    costBasisPerShare := lot.costBasisPerShare / f / g } : Lot) = _
  rw [mul_assoc, div_div]

/-- Quantity and cost move against each other. -/
theorem scaleLot_basis {factor : ℚ} (h : factor ≠ 0) (lot : Lot) :
    (scaleLot factor lot).quantity * (scaleLot factor lot).costBasisPerShare
      = lot.quantity * lot.costBasisPerShare := by
  show lot.quantity * factor * (lot.costBasisPerShare / factor) = _
  field_simp

-- ================================================================ one split

/-- What a split does to a lot. -/
def splitLot (action : StockSplitAction) (lot : Lot) : Lot :=
  if lot.securityId = action.securityId then scaleLot action.ratio lot
  else lot

/-- A book after one split. -/
def splitLots (lots : List Lot) (action : StockSplitAction) : List Lot :=
  lots.map (splitLot action)

/-- What a split asks of the ledger. -/
def SplitAllowed (lots : List Lot) (action : StockSplitAction) : Prop :=
  0 < action.ratio
    ∧ ∀ lot ∈ lots, lot.securityId = action.securityId → 0 < lot.quantity

@[simp] theorem splitLot_securityId (action : StockSplitAction) (lot : Lot) :
    (splitLot action lot).securityId = lot.securityId := by
  unfold splitLot
  split <;> rfl

/-- A split keeps the sign of every holding. -/
theorem splitLot_quantity_pos {action : StockSplitAction}
    (h : 0 < action.ratio) (lot : Lot) :
    0 < (splitLot action lot).quantity ↔ 0 < lot.quantity := by
  unfold splitLot
  split
  · exact mul_pos_iff_of_pos_right h
  · exact Iff.rfl

/-- One turn of the loop goes through exactly for a positive holding. -/
theorem splitOne_ok_iff (ctx : DecimalContext) {action : StockSplitAction}
    (hratio : 0 < action.ratio) (lot lot' : Lot) :
    splitOne ctx action lot = .ok lot'
      ↔ (lot.securityId = action.securityId → 0 < lot.quantity)
        ∧ lot' = splitLot action lot := by
  unfold splitOne splitLot
  by_cases hid : lot.securityId = action.securityId
  · rw [if_neg (not_not.mpr hid), if_pos hid]
    unfold oracleStockSplitBasis
    rw [if_neg (not_le.mpr hratio)]
    by_cases hqty : lot.quantity * action.ratio ≤ 0
    · have hnot : ¬0 < lot.quantity := fun hpos =>
        absurd (mul_pos hpos hratio) (not_lt.mpr hqty)
      dsimp only
      rw [if_pos hqty]
      exact ⟨fun h => (nomatch h), fun h => absurd (h.1 hid) hnot⟩
    · have hpos : 0 < lot.quantity :=
        (mul_pos_iff_of_pos_right hratio).mp (not_le.mp hqty)
      dsimp only
      rw [if_neg hqty]
      constructor
      · intro h
        cases h
        exact ⟨fun _ => hpos, rfl⟩
      · rintro ⟨-, rfl⟩
        rfl
  · rw [if_pos hid, if_neg hid]
    constructor
    · intro h
      cases h
      exact ⟨fun h => absurd h hid, rfl⟩
    · rintro ⟨-, rfl⟩
      rfl

/-- A split is applied exactly when it is allowed. -/
theorem applyStockSplit_ok_iff (ctx : DecimalContext) (lots : List Lot)
    (action : StockSplitAction) (lots' : List Lot) :
    applyStockSplit ctx lots action = .ok lots'
      ↔ SplitAllowed lots action ∧ lots' = splitLots lots action := by
  unfold applyStockSplit SplitAllowed
  by_cases hratio : action.ratio ≤ 0
  · rw [if_pos hratio]
    exact ⟨fun h => (nomatch h), fun h => absurd h.1.1 (not_lt.mpr hratio)⟩
  · have hpos : 0 < action.ratio := not_le.mp hratio
    rw [if_neg hratio]
    induction lots generalizing lots' with
    | nil =>
        constructor
        · intro h
          cases h
          exact ⟨⟨hpos, List.forall_mem_nil _⟩, rfl⟩
        · rintro ⟨-, rfl⟩
          rfl
    | cons lot rest ih =>
        rw [List.mapM_cons, bind_ok_iff]
        constructor
        · rintro ⟨first, hfirst, hrest⟩
          obtain ⟨others, hothers, hall⟩ := bind_ok_iff.mp hrest
          cases hall
          obtain ⟨hqty, rfl⟩ := (splitOne_ok_iff ctx hpos lot first).mp hfirst
          obtain ⟨⟨-, hquantities⟩, rfl⟩ := (ih others).mp hothers
          exact ⟨⟨hpos, List.forall_mem_cons.mpr ⟨hqty, hquantities⟩⟩, rfl⟩
        · rintro ⟨⟨-, hquantities⟩, rfl⟩
          rw [List.forall_mem_cons] at hquantities
          refine ⟨_, (splitOne_ok_iff ctx hpos lot _).mpr
            ⟨hquantities.1, rfl⟩, bind_ok_iff.mpr ⟨_, ?_, rfl⟩⟩
          exact (ih _).mpr ⟨⟨hpos, hquantities.2⟩, rfl⟩

/-- A split asks the same after another has gone through. -/
theorem splitAllowed_splitLots {lots : List Lot} {first : StockSplitAction}
    (h : SplitAllowed lots first) (action : StockSplitAction) :
    SplitAllowed (splitLots lots first) action ↔ SplitAllowed lots action := by
  unfold SplitAllowed splitLots
  simp only [List.forall_mem_map, splitLot_securityId,
    splitLot_quantity_pos h.1]

/-- No split disturbs whether another is allowed. -/
theorem guarded_applyStockSplit (ctx : DecimalContext) :
    Guarded (applyStockSplit ctx) SplitAllowed splitLots where
  ok_iff := applyStockSplit_ok_iff ctx
  stable _ action _ h := splitAllowed_splitLots h action

/-- Splits commute. -/
theorem splitLots_comm (lots : List Lot) (a b : StockSplitAction) :
    splitLots (splitLots lots a) b = splitLots (splitLots lots b) a := by
  unfold splitLots
  rw [List.map_map, List.map_map]
  refine List.map_congr_left fun lot _ => ?_
  show splitLot b (splitLot a lot) = splitLot a (splitLot b lot)
  unfold splitLot
  by_cases ha : lot.securityId = a.securityId
  · by_cases hb : lot.securityId = b.securityId
    · rw [if_pos ha, if_pos hb]
      show (if lot.securityId = b.securityId then _ else _)
        = if lot.securityId = a.securityId then _ else _
      rw [if_pos ha, if_pos hb, scaleLot_scaleLot, scaleLot_scaleLot,
        mul_comm a.ratio]
    · rw [if_pos ha, if_neg hb, if_pos ha]
      exact if_neg hb
  · by_cases hb : lot.securityId = b.securityId
    · rw [if_neg ha, if_pos hb]
      exact (if_neg ha).symm
    · rw [if_neg ha, if_neg hb, if_neg ha]

-- ============================================================ runs of splits

/-- The product of the ratios of a security's actions. -/
def splitFactor (actions : List StockSplitAction) (securityId : String) : ℚ :=
  ((actions.filter (·.securityId = securityId)).map (·.ratio)).prod

/-- The first action's factor, and the rest's. -/
theorem splitFactor_cons (action : StockSplitAction)
    (rest : List StockSplitAction) (lot : Lot) :
    scaleLot (splitFactor (action :: rest) lot.securityId) lot
      = scaleLot (splitFactor rest lot.securityId) (splitLot action lot) := by
  unfold splitFactor splitLot
  by_cases hid : lot.securityId = action.securityId
  · rw [List.filter_cons_of_pos (by simpa using hid.symm), List.map_cons,
      List.prod_cons, if_pos hid, scaleLot_scaleLot]
  · rw [List.filter_cons_of_neg (by simpa using fun h => hid h.symm),
      if_neg hid]

/-- A run of splits rescales every lot by its security's factor. -/
theorem foldl_splitLots (lots : List Lot) (actions : List StockSplitAction) :
    actions.foldl splitLots lots = lots.map fun lot =>
      scaleLot (splitFactor actions lot.securityId) lot := by
  induction actions generalizing lots with
  | nil =>
      have hone : ∀ lot : Lot,
          scaleLot (splitFactor [] lot.securityId) lot = lot :=
        fun lot => scaleLot_one lot
      show lots = _
      rw [List.map_congr_left fun lot _ => hone lot, List.map_id']
  | cons action rest ih =>
      rw [List.foldl_cons, ih, splitLots, List.map_map]
      refine List.map_congr_left fun lot _ => ?_
      rw [splitFactor_cons]
      show scaleLot (splitFactor rest (splitLot action lot).securityId) _ = _
      rw [splitLot_securityId]

/-- Positive ratios multiply to a positive factor. -/
theorem splitFactor_pos {actions : List StockSplitAction}
    (h : ∀ action ∈ actions, 0 < action.ratio) (securityId : String) :
    0 < splitFactor actions securityId := by
  refine List.prod_pos ?_
  rintro ratio hratio
  obtain ⟨action, haction, rfl⟩ := List.mem_map.mp hratio
  exact h action (List.mem_filter.mp haction).1

/-- A security no action names keeps its lots. -/
theorem splitFactor_of_not_named {actions : List StockSplitAction}
    {securityId : String}
    (h : ∀ action ∈ actions, action.securityId ≠ securityId) :
    splitFactor actions securityId = 1 := by
  unfold splitFactor
  rw [List.filter_eq_nil_iff.mpr fun action haction => by
    simpa using h action haction]
  rfl

/-- What the whole run asks of its start. -/
def SplitsAllowed (lots : List Lot) (actions : List StockSplitAction) : Prop :=
  (∀ action ∈ actions, 0 < action.ratio)
    ∧ ∀ lot ∈ lots, (∃ action ∈ actions, action.securityId = lot.securityId) →
      0 < lot.quantity

/-- A sequence is allowed exactly when each of its actions is, by itself. -/
theorem splitsAllowed_iff (lots : List Lot)
    (actions : List StockSplitAction) :
    SplitsAllowed lots actions
      ↔ ∀ action ∈ actions, SplitAllowed lots action := by
  constructor
  · rintro ⟨hratios, hlots⟩ action haction
    exact ⟨hratios action haction, fun lot hlot hid =>
      hlots lot hlot ⟨action, haction, hid.symm⟩⟩
  · intro h
    refine ⟨fun action haction => (h action haction).1, ?_⟩
    rintro lot hlot ⟨action, haction, hid⟩
    exact (h action haction).2 lot hlot hid.symm

/-- A sequence is applied exactly when it is allowed, and scales every lot by
its security's factor. -/
theorem applyStockSplits_ok_iff (ctx : DecimalContext) (lots : List Lot)
    (actions : List StockSplitAction) (lots' : List Lot) :
    applyStockSplits ctx lots actions = .ok lots'
      ↔ SplitsAllowed lots actions
        ∧ lots' = lots.map fun lot =>
          scaleLot (splitFactor actions lot.securityId) lot := by
  unfold applyStockSplits
  rw [(guarded_applyStockSplit ctx).run_ok_iff, foldl_splitLots,
    splitsAllowed_iff]

/-- What a run of splits leaves of a lot. -/
structure SplitOf (actions : List StockSplitAction) (lot lot' : Lot) :
    Prop where
  basis : lot'.quantity * lot'.costBasisPerShare
    = lot.quantity * lot.costBasisPerShare
  quantity : lot'.quantity = lot.quantity * splitFactor actions lot.securityId
  others : lot' = { lot with
    quantity := lot'.quantity
    costBasisPerShare := lot'.costBasisPerShare }
  unnamed : (∀ action ∈ actions, action.securityId ≠ lot.securityId) →
    lot' = lot

/-- A scaled lot is a split of the original. -/
theorem splitOf_scaleLot {actions : List StockSplitAction}
    (h : ∀ action ∈ actions, 0 < action.ratio) (lot : Lot) :
    SplitOf actions lot
      (scaleLot (splitFactor actions lot.securityId) lot) where
  basis := scaleLot_basis (splitFactor_pos h lot.securityId).ne' lot
  quantity := rfl
  others := rfl
  unnamed hnone := by rw [splitFactor_of_not_named hnone, scaleLot_one]

/-- Splits go through exactly for positive ratios and positive holdings of
the securities they name; each lot then keeps its total basis and is
multiplied by its security's ratios, in any order of the actions. -/
theorem stock_splits_conserve_basis (ctx : DecimalContext) (lots : List Lot)
    (actions : List StockSplitAction) :
    ((∃ lots', applyStockSplits ctx lots actions = .ok lots')
        ↔ (∀ action ∈ actions, 0 < action.ratio)
          ∧ ∀ lot ∈ lots,
            (∃ action ∈ actions, action.securityId = lot.securityId) →
              0 < lot.quantity)
      ∧ ∀ lots', applyStockSplits ctx lots actions = .ok lots' →
        List.Forall₂ (SplitOf actions) lots lots'
          ∧ ∀ actions', actions.Perm actions' →
            applyStockSplits ctx lots actions' = .ok lots' := by
  constructor
  · constructor
    · rintro ⟨lots', hrun⟩
      exact ((applyStockSplits_ok_iff ctx lots actions lots').mp hrun).1
    · intro hallowed
      exact ⟨_, (applyStockSplits_ok_iff ctx lots actions _).mpr
        ⟨hallowed, rfl⟩⟩
  · intro lots' hrun
    obtain ⟨⟨hratios, -⟩, rfl⟩ :=
      (applyStockSplits_ok_iff ctx lots actions lots').mp hrun
    refine ⟨?_, fun actions' hperm => ?_⟩
    · rw [List.forall₂_map_right_iff, List.forall₂_same]
      exact fun lot _ => splitOf_scaleLot hratios lot
    · exact ((guarded_applyStockSplit ctx).run_perm splitLots_comm hperm
        lots _).mp hrun

/-- A holding of a hundred shares, and one no split names. -/
def splitLedger : List Lot :=
  [{ lotId := "lot_1"
     accountId := "acct_a"
     securityId := "sec_aapl"
     quantity := 100
     costBasisPerShare := 150
     acquisitionDate := 738000 },
   { lotId := "lot_2"
     accountId := "acct_a"
     securityId := "sec_vti"
     quantity := 40
     costBasisPerShare := 200
     acquisitionDate := 738000 }]

/-- Two for one, then one for two. -/
def splitAndReverse : List StockSplitAction :=
  [⟨"sec_aapl", 2⟩, ⟨"sec_aapl", 1 / 2⟩]

/-- A split and a reverse split, one after the other. -/
theorem stock_splits_conserve_basis_reversed :
    ∃ lots', applyStockSplits ⟨id, fun x _ => x, fun _ => ""⟩ splitLedger
        splitAndReverse = .ok lots'
      ∧ List.Forall₂ (SplitOf splitAndReverse) splitLedger lots' := by
  have hrun := stock_splits_conserve_basis
    ⟨id, fun x _ => x, fun _ => ""⟩ splitLedger splitAndReverse
  have hallowed : (∀ action ∈ splitAndReverse, 0 < action.ratio)
      ∧ ∀ lot ∈ splitLedger,
        (∃ action ∈ splitAndReverse, action.securityId = lot.securityId) →
          0 < lot.quantity := by
    constructor
    · decide +kernel
    · intro lot hlot _
      revert lot
      decide +kernel
  obtain ⟨lots', hlots'⟩ := hrun.1.mpr hallowed
  exact ⟨lots', hlots', (hrun.2 lots' hlots').1⟩

end Warehouse
