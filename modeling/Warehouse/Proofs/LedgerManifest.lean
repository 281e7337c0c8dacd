/-
A household's risk manifest, read off the ledger.

# The tally

The builder's two loops are one tally of the valued holdings by class
(`buildPortfolioFromHoldings_eq`): what is unmarked or worth nothing is
passed over, and the tier of a class depends on the class alone. A tally
does not see the order of its items, so neither does the manifest
(`builtFrom_perm`).

# The readers

The manifest is there exactly when something is worth something
(`builtFrom_ok`), and the service answers on any manifest. The dashboard
may ask for more: its demo overlay takes a tenth out of equity.

# What the service adds

The headline of the risk service is the engine's report on that manifest, so
it exists exactly when the manifest does. A household is worth something
(`HasValue`) when a lot with a positive market value or a holding with a
positive NAV is listed for it; what is unmarked, short or written off counts
for nothing on either side of the equation.
-/
import Mathlib.Algebra.Order.BigOperators.Group.List
import Warehouse.Lib.Classwise
import Warehouse.Proofs.Overlay
import Warehouse.Proofs.RiskService
import Warehouse.Proofs.RiskView
import Warehouse.Research.LedgerManifest

namespace Warehouse

open Lib

-- ================================================================ holdings

/-- What the builder counts a position as. -/
def valuedPosition (pos : LotPositionView) : Option (RiskClass × ℚ) :=
  match pos.marketValue with
  | none => none
  | some marketValue =>
      if marketValue ≤ 0 then none else some (holdingClass pos, marketValue)

/-- A holding at its current NAV, if it has one. -/
def valuedAlternative (alt : AlternativeHoldingView) :
    Option (RiskClass × ℚ) :=
  if alt.currentNav ≤ 0 then none else some (.alternatives, alt.currentNav)

/-- The holdings that are worth something, by class. -/
def valuedHoldings (positions : List LotPositionView)
    (alts : List AlternativeHoldingView) : List (RiskClass × ℚ) :=
  positions.filterMap valuedPosition ++ alts.filterMap valuedAlternative

/-- The value of the holdings by class. -/
def classTally (holdings : List (RiskClass × ℚ)) : Dict RiskClass ℚ :=
  Dict.tally Prod.fst Prod.snd holdings

/-- The tier the builder gives a class. -/
def builtTier : RiskClass → Nat
  | .alternatives => 3
  | _ => 1

/-- The loops' dictionaries after some holdings: the values are tallied,
and the classes seen have their tier. -/
structure Gathered (held : ClassHoldings) (holdings : List (RiskClass × ℚ)) :
    Prop where
  classMv : held.classMv = classTally holdings
  liquidity : ∀ c, held.liquidity.get? c
    = if c ∈ (classTally holdings).keys then some (builtTier c) else none

/-- The tally's keys are the classes held. -/
theorem mem_keys_classTally {holdings : List (RiskClass × ℚ)} {c : RiskClass} :
    c ∈ (classTally holdings).keys ↔ ∃ value, (c, value) ∈ holdings := by
  unfold classTally
  rw [Dict.mem_keys_tally]
  constructor
  · rintro ⟨⟨c', value⟩, hmem, rfl⟩
    exact ⟨value, hmem⟩
  · rintro ⟨value, hmem⟩
    exact ⟨_, hmem, rfl⟩

/-- A holding more. -/
theorem Gathered.snoc {held : ClassHoldings}
    {holdings : List (RiskClass × ℚ)} (h : Gathered held holdings)
    (c : RiskClass) (value : ℚ) :
    Gathered { classMv := held.classMv.add c value
               liquidity := held.liquidity.set c (builtTier c) }
      (holdings ++ [(c, value)]) := by
  have htally : classTally (holdings ++ [(c, value)])
      = (classTally holdings).add c value := Dict.tally_append ..
  constructor
  · rw [htally, h.classMv]
  · intro c'
    rw [Dict.get?_set, h.liquidity]
    by_cases hc : c' = c
    · subst hc
      rw [if_pos rfl, if_pos]
      exact mem_keys_classTally.mpr ⟨value, List.mem_append_right _
        List.mem_cons_self⟩
    · rw [if_neg hc]
      have hsame : c' ∈ (classTally (holdings ++ [(c, value)])).keys
          ↔ c' ∈ (classTally holdings).keys := by
        rw [mem_keys_classTally, mem_keys_classTally]
        simp [hc]
      simp only [hsame]

theorem gathered_empty : Gathered {} [] := ⟨rfl, fun _ => rfl⟩

/-- A position counts where its market value is positive. -/
theorem valuedPosition_eq_some {pos : LotPositionView}
    {holding : RiskClass × ℚ} :
    valuedPosition pos = some holding ↔ ∃ marketValue,
      pos.marketValue = some marketValue ∧ 0 < marketValue
        ∧ holding = (holdingClass pos, marketValue) := by
  unfold valuedPosition
  cases pos.marketValue with
  | none => simp
  | some marketValue =>
    dsimp only
    by_cases hle : marketValue ≤ 0
    · rw [if_pos hle]
      simp [not_lt.mpr hle]
    · rw [if_neg hle]
      simp [not_le.mp hle, eq_comm]

/-- A holding counts where its NAV is positive. -/
theorem valuedAlternative_eq_some {alt : AlternativeHoldingView}
    {holding : RiskClass × ℚ} :
    valuedAlternative alt = some holding ↔ 0 < alt.currentNav
      ∧ holding = (.alternatives, alt.currentNav) := by
  unfold valuedAlternative
  by_cases hle : alt.currentNav ≤ 0
  · rw [if_pos hle]
    simp [not_lt.mpr hle]
  · rw [if_neg hle]
    simp [not_le.mp hle, eq_comm]

/-- What is not counted is passed over. -/
theorem addPosition_unvalued {pos : LotPositionView}
    (h : valuedPosition pos = none) (held : ClassHoldings) :
    held.addPosition pos = held := by
  unfold valuedPosition at h
  unfold ClassHoldings.addPosition
  cases hmv : pos.marketValue with
  | none => rfl
  | some marketValue =>
    rw [hmv] at h
    dsimp only at h ⊢
    split at h
    · next hle => rw [if_pos hle]
    · cases h

/-- No position is held as alternatives, so every built tier of a position is
one. -/
theorem builtTier_holdingClass (pos : LotPositionView) :
    builtTier (holdingClass pos) = 1 := by
  rw [holdingClass_eq]
  split <;> rfl

/-- What is counted is a holding more; the tier it has is its class's,
seen before or not. -/
theorem Gathered.position {held : ClassHoldings}
    {holdings : List (RiskClass × ℚ)} (h : Gathered held holdings)
    {pos : LotPositionView} {holding : RiskClass × ℚ}
    (hvalued : valuedPosition pos = some holding) :
    Gathered (held.addPosition pos) (holdings ++ [holding]) := by
  obtain ⟨marketValue, hmv, hpos, rfl⟩ := valuedPosition_eq_some.mp hvalued
  have htier : min ((held.liquidity.get? (tickerClass pos.ticker).1).getD
      (tickerClass pos.ticker).2) (tickerClass pos.ticker).2
        = builtTier (holdingClass pos) := by
    rw [tickerClass_tier, h.liquidity, builtTier_holdingClass]
    split
    · show min (builtTier (holdingClass pos)) 1 = 1
      rw [builtTier_holdingClass, min_self]
    · rfl
  unfold ClassHoldings.addPosition
  rw [hmv]
  dsimp only
  rw [if_neg (not_le.mpr hpos), htier]
  exact h.snoc (holdingClass pos) marketValue

/-- The loop over the positions gathers those that count. -/
theorem Gathered.positions {held : ClassHoldings}
    {holdings : List (RiskClass × ℚ)} (h : Gathered held holdings)
    (positions : List LotPositionView) :
    Gathered (positions.foldl ClassHoldings.addPosition held)
      (holdings ++ positions.filterMap valuedPosition) := by
  induction positions generalizing held holdings with
  | nil =>
    rw [List.filterMap_nil, List.append_nil]
    exact h
  | cons pos rest ih =>
    rw [List.foldl_cons]
    cases hvalued : valuedPosition pos with
    | none =>
      rw [addPosition_unvalued hvalued, List.filterMap_cons_none hvalued]
      exact ih h
    | some holding =>
      rw [List.filterMap_cons_some hvalued, List.append_cons]
      exact ih (h.position hvalued)

/-- So does the loop over the holdings. -/
theorem Gathered.alternatives {held : ClassHoldings}
    {holdings : List (RiskClass × ℚ)} (h : Gathered held holdings)
    (alts : List AlternativeHoldingView) :
    Gathered (alts.foldl ClassHoldings.addAlternative held)
      (holdings ++ alts.filterMap valuedAlternative) := by
  induction alts generalizing held holdings with
  | nil =>
    rw [List.filterMap_nil, List.append_nil]
    exact h
  | cons alt rest ih =>
    rw [List.foldl_cons]
    by_cases hle : alt.currentNav ≤ 0
    · have hnone : valuedAlternative alt = none := if_pos hle
      rw [ClassHoldings.addAlternative, if_pos hle,
        List.filterMap_cons_none hnone]
      exact ih h
    · have hsome : valuedAlternative alt
          = some (.alternatives, alt.currentNav) := if_neg hle
      rw [ClassHoldings.addAlternative, if_neg hle,
        List.filterMap_cons_some hsome, List.append_cons]
      exact ih (h.snoc .alternatives alt.currentNav)

-- ================================================================= the build

/-- The builder, on the tally. -/
def builtFrom (householdId : String) (values : Dict RiskClass ℚ) :
    Except Exc AssetPortfolio :=
  if values.values.sum ≤ 0 then
    .error (.valueError "No markable household value for risk evaluation")
  else
    ((values.keys.mergeSort fun c c' => decide (c.value ≤ c'.value)).mapM
      fun c => AllocationSlot.validated c
        ((values.get? c).getD 0 / values.values.sum) (builtDuration c)
        (builtTier c))
      >>= AssetPortfolio.validated (some householdId)

/-- The manifest is a function of the tally by class. -/
theorem buildPortfolioFromHoldings_eq (householdId : String)
    (positions : List LotPositionView) (alts : List AlternativeHoldingView) :
    buildPortfolioFromHoldings householdId positions alts
      = builtFrom householdId (classTally (valuedHoldings positions alts)) := by
  have h : Gathered (alts.foldl ClassHoldings.addAlternative
      (positions.foldl ClassHoldings.addPosition {}))
      (valuedHoldings positions alts) := by
    have hgathered := (gathered_empty.positions positions).alternatives alts
    rw [List.nil_append] at hgathered
    exact hgathered
  have htier : ∀ c ∈ (classTally (valuedHoldings positions alts)).keys.mergeSort
      (fun c c' => decide (c.value ≤ c'.value)),
      ((alts.foldl ClassHoldings.addAlternative
        (positions.foldl ClassHoldings.addPosition {})).liquidity.get? c).getD 1
        = builtTier c := by
    intro c hc
    rw [List.mem_mergeSort] at hc
    rw [h.liquidity, if_pos hc]
    rfl
  unfold buildPortfolioFromHoldings builtFrom
  dsimp only
  rw [h.classMv]
  by_cases htotal : (classTally (valuedHoldings positions alts)).values.sum ≤ 0
  · rw [if_pos htotal, if_pos htotal]
    rfl
  · rw [if_neg htotal, if_neg htotal, mapM_congr fun c hc => by
      rw [htier c hc]]

/-- The build sees which classes are held and what each is worth. -/
theorem builtFrom_congr (householdId : String)
    {values values' : Dict RiskClass ℚ}
    (hkeys : ∀ c, c ∈ values.keys ↔ c ∈ values'.keys)
    (hget : ∀ c, (values.get? c).getD 0 = (values'.get? c).getD 0) :
    builtFrom householdId values = builtFrom householdId values' := by
  have hperm : values.keys.Perm values'.keys :=
    (List.perm_ext_iff_of_nodup values.nodupKeys values'.nodupKeys).mpr hkeys
  have hsum : values.values.sum = values'.values.sum := by
    rw [Dict.values_eq, Dict.values_eq, (hperm.map _).sum_eq]
    exact congrArg List.sum (List.map_congr_left fun c _ => hget c)
  have hsorted : values.keys.mergeSort (fun c c' => decide (c.value ≤ c'.value))
      = values'.keys.mergeSort fun c c' => decide (c.value ≤ c'.value) := by
    refine Dict.mergeSort_keys_eq (fun _ _ _ => decide_le_trans _ _ _)
      (fun _ _ => decide_le_total _ _) (fun a b hab hba => ?_) hkeys
    exact RiskClass.value_injective (decide_le_antisymm _ _ hab hba)
  unfold builtFrom
  rw [hsum, hsorted]
  simp only [hget]

/-- The order the holdings come in is not seen. -/
theorem builtFrom_perm (householdId : String)
    {holdings holdings' : List (RiskClass × ℚ)}
    (h : holdings.Perm holdings') :
    builtFrom householdId (classTally holdings)
      = builtFrom householdId (classTally holdings') := by
  refine builtFrom_congr householdId (fun c => ?_) fun c => ?_
  · rw [mem_keys_classTally, mem_keys_classTally]
    exact exists_congr fun value => h.mem_iff
  · unfold classTally
    rw [Dict.getD_tally, Dict.getD_tally]
    exact ((h.filter _).map _).sum_eq

/-- Every holding is worth something. -/
def Positive (holdings : List (RiskClass × ℚ)) : Prop :=
  ∀ holding ∈ holdings, 0 < holding.2

/-- What counts is worth something. -/
theorem positive_valuedHoldings (positions : List LotPositionView)
    (alts : List AlternativeHoldingView) :
    Positive (valuedHoldings positions alts) := by
  intro holding hmem
  rcases List.mem_append.mp hmem with hmem | hmem
  · obtain ⟨pos, -, hvalued⟩ := List.mem_filterMap.mp hmem
    obtain ⟨marketValue, -, hgt, rfl⟩ := valuedPosition_eq_some.mp hvalued
    exact hgt
  · obtain ⟨alt, -, hvalued⟩ := List.mem_filterMap.mp hmem
    obtain ⟨hgt, rfl⟩ := valuedAlternative_eq_some.mp hvalued
    exact hgt

/-- What the holdings of a class are worth, and all of them. -/
def classValue (holdings : List (RiskClass × ℚ)) (c : RiskClass) : ℚ :=
  ((holdings.filter (·.1 = c)).map Prod.snd).sum

/-- What a list of valued holdings is worth. -/
def holdingsValue (holdings : List (RiskClass × ℚ)) : ℚ :=
  (holdings.map Prod.snd).sum

/-- The tally's entries are the class values. -/
theorem getD_classTally (holdings : List (RiskClass × ℚ)) (c : RiskClass) :
    ((classTally holdings).get? c).getD 0 = classValue holdings c :=
  Dict.getD_tally ..

/-- They sum to what the household is worth. -/
theorem sum_classTally (holdings : List (RiskClass × ℚ)) :
    (classTally holdings).values.sum = holdingsValue holdings :=
  Dict.sum_values_tally ..

/-- A household that holds something that counts is worth something. -/
theorem Positive.holdingsValue_pos {holdings : List (RiskClass × ℚ)}
    (h : Positive holdings) (hne : holdings ≠ []) :
    0 < holdingsValue holdings := by
  apply List.sum_pos
  · intro value hvalue
    obtain ⟨holding, hmem, rfl⟩ := List.mem_map.mp hvalue
    exact h holding hmem
  · rw [ne_eq, List.map_eq_nil_iff]
    exact hne

/-- No class is worth less than nothing. -/
theorem Positive.classValue_nonneg {holdings : List (RiskClass × ℚ)}
    (h : Positive holdings) (c : RiskClass) : 0 ≤ classValue holdings c := by
  apply List.sum_nonneg
  intro value hvalue
  obtain ⟨holding, hmem, rfl⟩ := List.mem_map.mp hvalue
  exact (h holding (List.mem_filter.mp hmem).1).le

/-- Nothing held is refused. -/
theorem builtFrom_nil (householdId : String) :
    builtFrom householdId (classTally [])
      = .error (.valueError
        "No markable household value for risk evaluation") := rfl

/-- Something is worth something: a manifest, with each class at its
share. -/
theorem builtFrom_ok (householdId : String)
    {holdings : List (RiskClass × ℚ)} (h : Positive holdings)
    (hne : holdings ≠ []) :
    ∃ portfolio, builtFrom householdId (classTally holdings) = .ok portfolio
      ∧ ∀ c, classWeight portfolio c
        = classValue holdings c / holdingsValue holdings := by
  have hpos : 0 < (classTally holdings).values.sum := by
    rw [sum_classTally]
    exact h.holdingsValue_pos hne
  have hfraction : ∀ c, IsFraction (((classTally holdings).get? c).getD 0
      / (classTally holdings).values.sum) := by
    intro c
    refine Dict.share_fraction _ (fun c' => ?_) hpos c
    rw [getD_classTally]
    exact h.classValue_nonneg c'
  have hperm := List.mergeSort_perm (classTally holdings).keys
    fun c c' => decide (c.value ≤ c'.value)
  obtain ⟨slots, hslots, hmatch⟩ := mapM_forall₂
    (P := fun c (slot : AllocationSlot) => slot.assetClass = c
      ∧ slot.weight = ((classTally holdings).get? c).getD 0
        / (classTally holdings).values.sum)
    ((classTally holdings).keys.mergeSort
      fun c c' => decide (c.value ≤ c'.value)) fun c _ =>
        AllocationSlot.validated_ok (hfraction c) (builtDuration_nonneg c)
          (by cases c <;> decide : 1 ≤ builtTier c ∧ builtTier c ≤ 3)
  have hsum : (slots.map (·.weight)).sum = 1 := by
    rw [map_weight hmatch, (hperm.map _).sum_eq]
    exact Dict.sum_shares _ hpos.ne'
  have hbudget : WeightsSumToOne slots := by
    unfold WeightsSumToOne
    rw [hsum]
    norm_num
  have hslotsNe : slots ≠ [] := by
    rintro rfl
    norm_num at hsum
  refine ⟨{ portfolioId := some householdId
            allocations := slots
            nonempty := hslotsNe
            budget := hbudget }, ?_, ?_⟩
  · unfold builtFrom
    rw [if_neg (not_le.mpr hpos), hslots, ok_bind]
    unfold AssetPortfolio.validated
    rw [dif_pos hslotsNe, dif_pos hbudget]
  · intro c
    rw [classWeight, sum_classWeight hmatch
      (hperm.nodup_iff.mpr (classTally holdings).nodupKeys), ← getD_classTally,
      ← sum_classTally]
    split
    · rfl
    · next hc =>
      rw [Dict.get?_eq_none_iff.mpr fun hk => hc (hperm.mem_iff.mpr hk)]
      simp

-- ================================================================ the ledger

section Ledger

variable (order : LedgerOrder) (ledger : AlternativesLedger)
  (householdId : String)

/-- The lots a household's manifest is built from. -/
def ledgerPositions : List LotPositionView :=
  listLotPositions order.lots ledger.store (some householdId)

/-- The holdings it is built from. -/
def ledgerAlternatives : List AlternativeHoldingView :=
  listAlternativeHoldings order.holdings ledger householdId

/-- Some lot or some alternative is worth something. -/
def HasValue : Prop :=
  (∃ pos ∈ ledgerPositions order ledger householdId,
      ∃ marketValue ∈ pos.marketValue, 0 < marketValue)
    ∨ ∃ alt ∈ ledgerAlternatives order ledger householdId, 0 < alt.currentNav

/-- Both together, with their classes. -/
def ledgerHoldings : List (RiskClass × ℚ) :=
  valuedHoldings (ledgerPositions order ledger householdId)
    (ledgerAlternatives order ledger householdId)

/-- A class's share of what the ledger's holdings are worth. -/
def ledgerShare (c : RiskClass) : ℚ :=
  classValue (ledgerHoldings order ledger householdId) c
    / holdingsValue (ledgerHoldings order ledger householdId)

/-- A household is worth something exactly when something of it counts. -/
theorem hasValue_iff :
    HasValue order ledger householdId
      ↔ ledgerHoldings order ledger householdId ≠ [] := by
  have hpos : ∀ pos : LotPositionView, (∃ marketValue ∈ pos.marketValue,
      0 < marketValue) ↔ ∃ holding, valuedPosition pos = some holding := by
    intro pos
    constructor
    · rintro ⟨marketValue, hmv, hgt⟩
      exact ⟨_, valuedPosition_eq_some.mpr ⟨marketValue, hmv, hgt, rfl⟩⟩
    · rintro ⟨holding, hvalued⟩
      obtain ⟨marketValue, hmv, hgt, -⟩ := valuedPosition_eq_some.mp hvalued
      exact ⟨marketValue, hmv, hgt⟩
  have halt : ∀ alt : AlternativeHoldingView, 0 < alt.currentNav
      ↔ ∃ holding, valuedAlternative alt = some holding := by
    intro alt
    constructor
    · exact fun hgt => ⟨_, valuedAlternative_eq_some.mpr ⟨hgt, rfl⟩⟩
    · rintro ⟨holding, hvalued⟩
      exact (valuedAlternative_eq_some.mp hvalued).1
  unfold HasValue ledgerHoldings valuedHoldings
  rw [ne_eq, List.append_eq_nil_iff, not_and_or, List.filterMap_eq_nil_iff,
    List.filterMap_eq_nil_iff]
  simp only [hpos, halt, not_forall, Option.ne_none_iff_exists', exists_prop]

/-- The order of the rows does not change which positions are listed. -/
theorem ledgerPositions_perm (order' : LedgerOrder) :
    (ledgerPositions order ledger householdId).Perm
      (ledgerPositions order' ledger householdId) := by
  have hlots := (order.lotsPerm ledger.store.lots).trans
    (order'.lotsPerm ledger.store.lots).symm
  unfold ledgerPositions listLotPositions joinedLots
  refine List.Perm.map _ ?_
  split
  · exact (hlots.filterMap _).filter _
  · exact hlots.filterMap _

theorem ledgerAlternatives_perm (order' : LedgerOrder) :
    (ledgerAlternatives order ledger householdId).Perm
      (ledgerAlternatives order' ledger householdId) := by
  unfold ledgerAlternatives listAlternativeHoldings
  refine List.Perm.map _ ?_
  exact (List.mergeSort_perm _ _).trans ((order.holdingsPerm _).trans
    ((order'.holdingsPerm _).symm.trans (List.mergeSort_perm _ _).symm))

/-- The manifest is the same whatever order the engine's rows come in. -/
theorem manifestFromSession_order (order' : LedgerOrder) :
    manifestFromSession order' ledger householdId
      = manifestFromSession order ledger householdId := by
  have hpositions := ledgerPositions_perm order' ledger householdId order
  have halts := ledgerAlternatives_perm order' ledger householdId order
  have hnotional : householdNotional
        (ledgerPositions order' ledger householdId)
        (ledgerAlternatives order' ledger householdId)
      = householdNotional (ledgerPositions order ledger householdId)
        (ledgerAlternatives order ledger householdId) := by
    unfold householdNotional
    rw [(hpositions.filterMap _).sum_eq, (halts.map _).sum_eq]
  have hbuilt : buildPortfolioFromHoldings householdId
        (ledgerPositions order' ledger householdId)
        (ledgerAlternatives order' ledger householdId)
      = buildPortfolioFromHoldings householdId
        (ledgerPositions order ledger householdId)
        (ledgerAlternatives order ledger householdId) := by
    rw [buildPortfolioFromHoldings_eq, buildPortfolioFromHoldings_eq]
    exact builtFrom_perm householdId
      ((hpositions.filterMap _).append (halts.filterMap _))
  unfold ledgerPositions ledgerAlternatives at hnotional hbuilt
  unfold manifestFromSession
  dsimp only
  rw [hnotional, hbuilt]

/-- What a manifest of the ledger says. -/
structure Weighs (manifest : HouseholdRiskManifest) : Prop where
  weights : ∀ c, classWeight manifest.portfolio c
    = ledgerShare order ledger householdId c
  notional : ∀ notional, manifest.notionalUsd = some notional
    ↔ 0 < notional ∧ notional = householdNotional
      (ledgerPositions order ledger householdId)
      (ledgerAlternatives order ledger householdId)

/-- A household worth nothing has no manifest. -/
theorem manifestFromSession_unvalued
    (h : ¬ HasValue order ledger householdId) :
    manifestFromSession order ledger householdId = .error
      (.valueError "No markable household value for risk evaluation") := by
  have hnil : ledgerHoldings order ledger householdId = [] := by
    by_contra hne
    exact h ((hasValue_iff ..).mpr hne)
  have hbuilt : buildPortfolioFromHoldings householdId
      (ledgerPositions order ledger householdId)
      (ledgerAlternatives order ledger householdId) = .error
        (.valueError "No markable household value for risk evaluation") := by
    rw [buildPortfolioFromHoldings_eq]
    unfold ledgerHoldings at hnil
    rw [hnil]
    exact builtFrom_nil householdId
  unfold ledgerPositions ledgerAlternatives at hbuilt
  unfold manifestFromSession
  dsimp only
  rw [hbuilt]
  rfl

/-- Every other has one, and it weighs what the ledger says. -/
theorem manifestFromSession_valued
    (h : HasValue order ledger householdId) :
    ∃ manifest, manifestFromSession order ledger householdId = .ok manifest
      ∧ Weighs order ledger householdId manifest := by
  obtain ⟨portfolio, hok, hweights⟩ := builtFrom_ok householdId
    (positive_valuedHoldings _ _) ((hasValue_iff ..).mp h)
  have hbuilt := buildPortfolioFromHoldings_eq householdId
    (ledgerPositions order ledger householdId)
    (ledgerAlternatives order ledger householdId)
  rw [hok] at hbuilt
  unfold ledgerPositions ledgerAlternatives at hbuilt
  unfold manifestFromSession
  dsimp only
  rw [hbuilt, ok_bind]
  refine ⟨_, rfl, hweights, fun notional => ?_⟩
  dsimp only
  split
  · next hpos =>
    rw [Option.some.injEq]
    constructor
    · rintro rfl
      exact ⟨hpos, rfl⟩
    · exact fun h => h.2.symm
  · next hpos =>
    constructor
    · exact fun h => nomatch h
    · rintro ⟨hpos', rfl⟩
      exact absurd hpos' hpos

-- ================================================================= readers

variable {A : Type} (planes : Planes A RiskResult) (rt : RiskRuntime)
  (horizon : RiskHorizon)

/-- A report's risk headline is there exactly when something of the
household is worth something: the service answers on the manifest the
ledger then has, which is one manifest whatever order its rows come in. -/
theorem ledger_risk_headline :
    (HasValue order ledger householdId
      ∧ ∃ manifest result, (∀ order', manifestFromSession order' ledger
          householdId = .ok manifest)
        ∧ Weighs order ledger householdId manifest
        ∧ collectRiskHeadline (planes.onLedger rt order horizon ledger)
          ledger.store householdId = .ok result)
    ∨ (¬ HasValue order ledger householdId
      ∧ (∀ order', manifestFromSession order' ledger householdId = .error
          (.valueError "No markable household value for risk evaluation"))
      ∧ collectRiskHeadline (planes.onLedger rt order horizon ledger)
          ledger.store householdId = .error (.reportWriterError
            ("Risk headline failed for household " ++ householdId ++ ": "
              ++ "No markable household value for risk evaluation"))) := by
  have hsame : manifestFromSession order
      { ledger with store := ledger.store.planes } householdId
      = manifestFromSession order ledger householdId := rfl
  by_cases hvalue : HasValue order ledger householdId
  · left
    obtain ⟨manifest, hmanifest, hweighs⟩ :=
      manifestFromSession_valued order ledger householdId hvalue
    obtain ⟨result, hresult⟩ := (evaluateRisk_ok_iff rt
      { horizon := horizon, notionalUsd := manifest.notionalUsd }
      manifest.portfolio).mpr fun _ h => nomatch h
    refine ⟨hvalue, manifest, result, fun order' => ?_, hweighs, ?_⟩
    · rw [manifestFromSession_order order ledger householdId order', hmanifest]
    · have hplane : householdRiskResult rt order horizon
          { ledger with store := ledger.store.planes } householdId
          = .ok result := by
        unfold householdRiskResult
        rw [hsame, hmanifest, ok_bind]
        exact hresult
      unfold collectRiskHeadline Planes.onLedger
      dsimp only
      rw [hplane]
  · right
    have hnone := manifestFromSession_unvalued order ledger householdId hvalue
    refine ⟨hvalue, fun order' => ?_, ?_⟩
    · rw [manifestFromSession_order order ledger householdId order', hnone]
    · have hplane : householdRiskResult rt order horizon
          { ledger with store := ledger.store.planes } householdId
          = .error (.valueError
            "No markable household value for risk evaluation") := by
        unfold householdRiskResult
        rw [hsame, hnone]
        rfl
      unfold collectRiskHeadline Planes.onLedger
      dsimp only
      rw [hplane]
      rfl

section Shares

variable (hvalue : HasValue order ledger householdId)

include hvalue

theorem holdingsValue_ledger_pos :
    0 < holdingsValue (ledgerHoldings order ledger householdId) :=
  (positive_valuedHoldings _ _).holdingsValue_pos ((hasValue_iff ..).mp hvalue)

theorem ledgerShare_nonneg (c : RiskClass) :
    0 ≤ ledgerShare order ledger householdId c :=
  div_nonneg ((positive_valuedHoldings _ _).classValue_nonneg c)
    (holdingsValue_ledger_pos order ledger householdId hvalue).le

/-- The classes share the whole. -/
theorem classSum_ledgerShare :
    classSum (ledgerShare order ledger householdId) = 1 := by
  have htotal := holdingsValue_ledger_pos order ledger householdId hvalue
  have hsum := Dict.sum_getD_of_subset
    (classTally (ledgerHoldings order ledger householdId))
    (by decide : RiskClass.all.Nodup) fun c _ => RiskClass.mem_all c
  simp only [getD_classTally, sum_classTally] at hsum
  unfold classSum ledgerShare
  simp only [div_eq_mul_inv]
  rw [List.sum_map_mul_right, hsum, mul_inv_cancel₀ htotal.ne']

end Shares

/-- The demo overlay moves a tenth of the weight out of equity. -/
theorem demoOverlay_tilt (c : RiskClass) :
    (demoOverlay.weightTilts.get? c).getD 0
      = if c = .equity then -(1 / 10) else
        if c = .fixedIncome then 1 / 10 else 0 := by
  cases c <;> decide +kernel

/-- It runs on a manifest with a tenth in equity. -/
theorem demoOverlay_runs_iff {manifest : HouseholdRiskManifest}
    (hvalue : HasValue order ledger householdId)
    (h : Weighs order ledger householdId manifest) :
    OverlayRuns manifest.portfolio demoOverlay
      ↔ 1 / 10 ≤ ledgerShare order ledger householdId .equity := by
  have hnonneg := ledgerShare_nonneg order ledger householdId hvalue
  have hwhole := classSum_ledgerShare order ledger householdId hvalue
  have hoverlaid : ∀ c, overlaidWeight manifest.portfolio demoOverlay c
      = ledgerShare order ledger householdId c
        + (demoOverlay.weightTilts.get? c).getD 0 := by
    intro c
    rw [← h.weights]
    show classWeight manifest.portfolio c + 0 + _ = _
    rw [add_zero]
  constructor
  · intro hruns
    have hequity := (normalizable_iff manifest.portfolio demoOverlay).mp
      hruns.weights |>.1 .equity
    rw [hoverlaid, demoOverlay_tilt, if_pos rfl] at hequity
    linarith
  · intro hequity
    refine ⟨(normalizable_iff ..).mpr ⟨fun c => ?_, ?_⟩, ?_⟩
    · rw [hoverlaid, demoOverlay_tilt]
      have hc := hnonneg c
      split
      · next heq =>
        subst heq
        linarith
      · split
        · linarith
        · linarith
    · unfold totalWeight
      rw [classSum_eq] at hwhole ⊢
      simp only [hoverlaid, demoOverlay_tilt, reduceCtorEq, if_true, if_false]
      linarith
    · intro name hname
      cases hname

/-- What the service answers has deltas exactly for an overlay. -/
theorem evaluateRisk_deltas {request : RiskRequest} {portfolio : AssetPortfolio}
    {result : RiskResult} (h : evaluateRisk rt request portfolio = .ok result) :
    result.deltas.isSome = request.overlay.isSome := by
  unfold evaluateRisk at h
  obtain ⟨priors, -, h⟩ := bind_ok_iff.mp h
  obtain ⟨report, -, h⟩ := bind_ok_iff.mp h
  obtain ⟨scenarios, -, h⟩ := bind_ok_iff.mp h
  cases hoverlay : request.overlay with
  | none =>
    rw [hoverlay] at h
    cases h
    rfl
  | some overlay =>
    rw [hoverlay] at h
    obtain ⟨deltas, hdeltas, h⟩ := bind_ok_iff.mp h
    obtain ⟨given, -, rfl⟩ := map_ok_iff.mp hdeltas
    cases h
    rfl

/-- The risk dashboard shows a report exactly when the household is worth
something and, for the demo overlay, has a tenth of it in equity; it shows
deltas on a report of the overlay, and an error where there is no report. -/
theorem risk_dashboard_live_iff (riskDashboardDemoOverlay : Bool) :
    ((loadRiskDashboard rt order riskDashboardDemoOverlay horizon ledger
          householdId).report.isSome
        ↔ HasValue order ledger householdId
          ∧ (riskDashboardDemoOverlay = true →
            1 / 10 ≤ ledgerShare order ledger householdId .equity))
      ∧ (loadRiskDashboard rt order riskDashboardDemoOverlay horizon ledger
          householdId).error.isNone
        = (loadRiskDashboard rt order riskDashboardDemoOverlay horizon ledger
          householdId).report.isSome
      ∧ (loadRiskDashboard rt order riskDashboardDemoOverlay horizon ledger
          householdId).deltas.isSome
        = ((loadRiskDashboard rt order riskDashboardDemoOverlay horizon ledger
          householdId).report.isSome && riskDashboardDemoOverlay) := by
  by_cases hvalue : HasValue order ledger householdId
  · obtain ⟨manifest, hmanifest, hweighs⟩ :=
      manifestFromSession_valued order ledger householdId hvalue
    have hruns := evaluateRisk_ok_iff rt
      { horizon := horizon, notionalUsd := manifest.notionalUsd,
        overlay := if riskDashboardDemoOverlay then some demoOverlay else none }
      manifest.portfolio
    have hoverlay : (∀ overlay ∈ (if riskDashboardDemoOverlay then
          some demoOverlay else none), OverlayRuns manifest.portfolio overlay)
        ↔ (riskDashboardDemoOverlay = true →
          1 / 10 ≤ ledgerShare order ledger householdId .equity) := by
      rw [← demoOverlay_runs_iff order ledger householdId hvalue hweighs]
      cases riskDashboardDemoOverlay <;> simp
    rw [hoverlay] at hruns
    unfold loadRiskDashboard riskDashboard
    rw [hmanifest, ok_bind]
    dsimp only
    cases heval : evaluateRisk rt
        { horizon := horizon, notionalUsd := manifest.notionalUsd,
          overlay := if riskDashboardDemoOverlay then some demoOverlay
            else none } manifest.portfolio with
    | error err =>
      rw [heval] at hruns
      have hnot : ¬ (riskDashboardDemoOverlay = true →
          1 / 10 ≤ ledgerShare order ledger householdId .equity) := by
        intro hmost
        obtain ⟨result, hresult⟩ := hruns.mpr hmost
        cases hresult
      exact ⟨⟨fun h => (nomatch h), fun h => absurd h.2 hnot⟩, rfl, rfl⟩
    | ok result =>
      have hdeltas := evaluateRisk_deltas rt heval
      refine ⟨⟨fun _ => ⟨hvalue, hruns.mp ⟨result, heval⟩⟩, fun _ => rfl⟩,
        rfl, ?_⟩
      show result.deltas.isSome = riskDashboardDemoOverlay
      rw [hdeltas]
      cases riskDashboardDemoOverlay <;> rfl
  · unfold loadRiskDashboard riskDashboard
    rw [manifestFromSession_unvalued order ledger householdId hvalue]
    exact ⟨⟨fun h => (nomatch h), fun h => absurd h.1 hvalue⟩, rfl, rfl⟩

end Ledger

end Warehouse
