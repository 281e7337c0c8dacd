/-
Policy statements in and out of the table.

A row decodes to the statement it encodes (`rowToIps_ipsPolicyRow`), field
by field: a numeral by its text, a sleeve by its value, which is no legacy
alias of another. The table holds, under each id, the last statement saved
under it (`get?_ipsTableAfter`), so a load answers with the greatest
version among these.

# Ids and versions

The table is keyed by id, and nothing ties an id to a household or to a
version. So a save may lower the version under an id, or hand the id to
another household; the statement it overwrites is lost. `Current` names the
statements that are left. Between current statements of one greatest version
the engine's order decides, and the results hold under every such order.
-/
import Warehouse.Decision.IpsStore
import Warehouse.Lib.Sorting

namespace Warehouse

open Lib

-- ============================================================== round trip

theorem parseIpsSleeve_value (s : IpsSleeve) :
    parseIpsSleeve s.value = .ok s := by
  cases s <;> rfl

theorem checkFraction_ok {model field : String} {d : Decimal}
    (h : IsFraction d.value) : checkFraction model field d = .ok ⟨d, h⟩ :=
  dif_pos h

/-- A weight that was written is read back. -/
theorem readWeight_ok {item : Dict String String} {field : String}
    {d : Decimal} (hget : item.get? field = some d.str)
    (h : IsFraction d.value) : readWeight item field = .ok ⟨d, h⟩ := by
  unfold readWeight
  rw [hget, Option.bind_some, Decimal.parse_str]
  exact checkFraction_ok h

theorem allocationTarget_modelDump (t : SpelledTarget) :
    allocationTarget t.modelDump = .ok t := by
  have hclass : t.modelDump.get? "asset_class" = some t.assetClass.value := by
    simp [SpelledTarget.modelDump, Dict.ofPairs, Dict.setAll]
  have hmin : t.modelDump.get? "min_weight" = some t.minWeight.str := by
    simp [SpelledTarget.modelDump, Dict.ofPairs, Dict.setAll]
  have hmax : t.modelDump.get? "max_weight" = some t.maxWeight.str := by
    simp [SpelledTarget.modelDump, Dict.ofPairs, Dict.setAll]
  have htarget : t.modelDump.get? "target_weight" = some t.targetWeight.str := by
    simp [SpelledTarget.modelDump, Dict.ofPairs, Dict.setAll]
  unfold allocationTarget
  rw [hclass]
  dsimp only
  rw [parseIpsSleeve_value, readWeight_ok hmin t.minFraction,
    readWeight_ok hmax t.maxFraction, readWeight_ok htarget t.targetFraction]
  rfl

/-- Only a limit that is set is written. -/
theorem get?_setIfPresent (payload : Dict String (Option String))
    (key key' : String) (limit : Option Decimal) :
    ((setIfPresent payload key limit).get? key').getD none
      = if key' = key ∧ limit.isSome then limit.map Decimal.str
        else (payload.get? key').getD none := by
  unfold setIfPresent
  cases limit with
  | none => simp
  | some d => by_cases h : key' = key <;> simp [h]

/-- A limit that was written, or left out, is read back. -/
theorem readLimit_ok {data : Dict String (Option String)} {key : String}
    (limit : Option Decimal)
    (hget : (data.get? key).getD none = limit.map Decimal.str) :
    readLimit data key = .ok limit := by
  unfold readLimit
  rw [hget]
  cases limit with
  | none => rfl
  | some d =>
      show decimalOrNone (some d.str) = _
      unfold decimalOrNone
      dsimp only
      rw [Decimal.parse_str]

/-- The three limits of a written statement. -/
theorem constraintsToJson_get? (ips : SpelledStatement) :
    ((constraintsToJson ips).get? "concentration_limit_pct").getD none
        = some ips.concentrationLimitPct.str
      ∧ ((constraintsToJson ips).get? "liquidity_tier_min_pct").getD none
        = ips.liquidityTierMinPct.map Decimal.str
      ∧ ((constraintsToJson ips).get? "turnover_budget_pct").getD none
        = ips.turnoverBudgetPct.map Decimal.str := by
  unfold constraintsToJson
  simp only [get?_setIfPresent]
  refine ⟨?_, ?_, ?_⟩
  · simp [Dict.ofPairs, Dict.setAll]
  · cases ips.liquidityTierMinPct <;> simp [Dict.ofPairs, Dict.setAll]
  · cases ips.turnoverBudgetPct <;> simp [Dict.ofPairs, Dict.setAll]

theorem checkOptional_ok {model field : String} {d : Option Decimal}
    (h : ∀ x ∈ d, IsFraction x.value) :
    checkOptional model field d = .ok ⟨d, h⟩ := by
  cases d with
  | none => rfl
  | some d =>
      unfold checkOptional
      dsimp only
      rw [checkFraction_ok (h d rfl)]
      rfl

/-- A row decodes to the statement it encodes. -/
theorem rowToIps_ipsPolicyRow (ips : SpelledStatement) :
    rowToIps (ipsPolicyRow ips) = .ok ips := by
  obtain ⟨hconcentration, hliquidity, hturnover⟩ := constraintsToJson_get? ips
  unfold rowToIps ipsPolicyRow
  dsimp only
  rw [readLimit_ok (some ips.concentrationLimitPct) hconcentration,
    readLimit_ok _ hliquidity, readLimit_ok _ hturnover,
    mapM_map_ok allocationTarget_modelDump]
  show (checkFraction _ _ ips.concentrationLimitPct >>= fun _ => _) = _
  rw [checkFraction_ok ips.concentrationFraction]
  show (checkOptional _ _ ips.liquidityTierMinPct >>= fun _ => _) = _
  rw [checkOptional_ok ips.liquidityFraction]
  show (checkOptional _ _ ips.turnoverBudgetPct >>= fun _ => _) = _
  rw [checkOptional_ok ips.turnoverFraction]
  rfl

/-- The row a save leaves under the statement's id decodes to the statement,
numeral for numeral. -/
theorem rowToIps_saveIps (table : IpsTable) (ips : SpelledStatement) :
    ∃ row, (saveIps table ips).rows.get? ips.ipsId = some row
      ∧ rowToIps row = .ok ips := by
  refine ⟨ipsPolicyRow ips, ?_, rowToIps_ipsPolicyRow ips⟩
  show (table.rows.set ips.ipsId (ipsPolicyRow ips)).get? ips.ipsId = _
  rw [Dict.get?_set, if_pos rfl]

-- ================================================================ versions

/-- The last statement saved under an id. -/
def lastSaved (saves : List SpelledStatement) (ipsId : String) :
    Option SpelledStatement :=
  saves.reverse.find? fun ips => ips.ipsId = ipsId

/-- A statement no later save overwrote. -/
def Current (saves : List SpelledStatement) (ips : SpelledStatement) : Prop :=
  lastSaved saves ips.ipsId = some ips

theorem Current.mem {saves : List SpelledStatement} {ips : SpelledStatement}
    (h : Current saves ips) : ips ∈ saves :=
  List.mem_reverse.mp (List.mem_of_find?_eq_some h)

/-- Under each id the table has the last statement saved under it. -/
theorem get?_ipsTableAfter (saves : List SpelledStatement) (ipsId : String) :
    (ipsTableAfter saves).rows.get? ipsId
      = (lastSaved saves ipsId).map ipsPolicyRow := by
  induction saves using List.reverseRecOn with
  | nil => rfl
  | append_singleton saves ips ih =>
      have hstep : ipsTableAfter (saves ++ [ips])
          = saveIps (ipsTableAfter saves) ips := by
        unfold ipsTableAfter
        rw [Runs.run_append]
        rfl
      rw [hstep]
      show ((ipsTableAfter saves).rows.set ips.ipsId
        (ipsPolicyRow ips)).get? ipsId = _
      unfold lastSaved
      rw [Dict.get?_set, ih, List.reverse_append, List.reverse_singleton,
        List.singleton_append, List.find?_cons]
      by_cases h : ipsId = ips.ipsId
      · simp [h]
      · simp [h, Ne.symm h, lastSaved]

/-- The rows of the table are those of the current statements. -/
theorem mem_values_ipsTableAfter {saves : List SpelledStatement}
    {row : IpsPolicyRow} : row ∈ (ipsTableAfter saves).rows.values
      ↔ ∃ ips, Current saves ips ∧ row = ipsPolicyRow ips := by
  unfold Dict.values
  simp only [List.mem_map, Prod.exists, exists_eq_right]
  constructor
  · rintro ⟨ipsId, hmem⟩
    have hget := Dict.get?_eq_some_iff.mpr hmem
    rw [get?_ipsTableAfter, Option.map_eq_some_iff] at hget
    obtain ⟨ips, hlast, rfl⟩ := hget
    have hid : ips.ipsId = ipsId := by simpa using List.find?_some hlast
    exact ⟨ips, by rw [Current, hid]; exact hlast, rfl⟩
  · rintro ⟨ips, hcurrent, rfl⟩
    refine ⟨ips.ipsId, Dict.get?_eq_some_iff.mp ?_⟩
    rw [get?_ipsTableAfter, hcurrent]
    rfl

/-- The first of the rows sorted by version has the greatest one. -/
theorem head?_newestVersion {rows : List IpsPolicyRow} {row : IpsPolicyRow}
    (h : (rows.insertionSort newestVersion).head? = some row) :
    row ∈ rows ∧ ∀ other ∈ rows, other.version ≤ row.version := by
  have hsorted : (rows.insertionSort newestVersion).Pairwise newestVersion :=
    pairwise_sortDescending (fun row : IpsPolicyRow => row.version) rows
  have hperm := List.perm_insertionSort newestVersion rows
  cases hrows : rows.insertionSort newestVersion with
  | nil =>
      rw [hrows] at h
      cases h
  | cons first rest =>
      rw [hrows] at h hsorted hperm
      cases h
      refine ⟨hperm.mem_iff.mp (List.mem_cons_self ..), fun other hother => ?_⟩
      rcases List.mem_cons.mp (hperm.mem_iff.mpr hother) with rfl | hin
      · exact le_refl _
      · exact (List.pairwise_cons.mp hsorted).1 other hin

/-- What a load answers: of the household's current statements one with the
greatest version, or nothing where it has none. -/
theorem loadIps_cases (order : IpsRowOrder) (saves : List SpelledStatement)
    (householdId : String) :
    (∃ ips, loadIps order (ipsTableAfter saves) householdId = .ok (some ips)
      ∧ Current saves ips ∧ ips.householdId = householdId
      ∧ ∀ other, Current saves other → other.householdId = householdId →
        other.version ≤ ips.version)
    ∨ (loadIps order (ipsTableAfter saves) householdId = .ok none
      ∧ ∀ ips, Current saves ips → ips.householdId ≠ householdId) := by
  have hfound : ∀ row, row ∈ order.rows
        ((ipsTableAfter saves).rows.values.filter fun row =>
          row.householdId = householdId)
      ↔ ∃ ips, Current saves ips ∧ ips.householdId = householdId
        ∧ row = ipsPolicyRow ips := by
    intro row
    rw [(order.rowsPerm _).mem_iff, List.mem_filter, mem_values_ipsTableAfter,
      decide_eq_true_eq]
    constructor
    · rintro ⟨⟨ips, hcurrent, rfl⟩, hhousehold⟩
      exact ⟨ips, hcurrent, hhousehold, rfl⟩
    · rintro ⟨ips, hcurrent, hhousehold, rfl⟩
      exact ⟨⟨ips, hcurrent, rfl⟩, hhousehold⟩
  unfold loadIps
  dsimp only
  generalize order.rows _ = found at hfound
  cases hhead : (found.insertionSort newestVersion).head? with
  | none =>
      right
      refine ⟨rfl, fun ips hcurrent hhousehold => ?_⟩
      have hmem := (hfound _).mpr ⟨ips, hcurrent, hhousehold, rfl⟩
      rw [← (List.perm_insertionSort newestVersion found).mem_iff,
        List.head?_eq_none_iff.mp hhead] at hmem
      cases hmem
  | some row =>
      left
      obtain ⟨hmem, hgreatest⟩ := head?_newestVersion hhead
      obtain ⟨ips, hcurrent, hhousehold, rfl⟩ := (hfound row).mp hmem
      refine ⟨ips, ?_, hcurrent, hhousehold, fun other hother hown => ?_⟩
      · show (rowToIps (ipsPolicyRow ips)).map some = _
        rw [rowToIps_ipsPolicyRow]
        rfl
      · exact hgreatest _ ((hfound _).mpr ⟨other, hother, hown, rfl⟩)

/-- A statement of the household with the greatest version ever saved for
it. -/
structure GreatestSaved (saves : List SpelledStatement) (householdId : String)
    (ips : SpelledStatement) : Prop where
  saved : ips ∈ saves
  household : ips.householdId = householdId
  greatest : ∀ other ∈ saves, other.householdId = householdId →
    other.version ≤ ips.version

/-- A load answers with the greatest version among the statements last saved
under their ids, and so with the greatest ever saved exactly when a statement
of that version is among them. -/
theorem loadIps_greatest_current (order : IpsRowOrder)
    (saves : List SpelledStatement) (householdId : String) :
    ((∃ ips, loadIps order (ipsTableAfter saves) householdId = .ok (some ips)
        ∧ Current saves ips ∧ ips.householdId = householdId
        ∧ ∀ other, Current saves other → other.householdId = householdId →
          other.version ≤ ips.version)
      ∨ (loadIps order (ipsTableAfter saves) householdId = .ok none
        ∧ ∀ ips, Current saves ips → ips.householdId ≠ householdId))
    ∧ ((∃ ips, loadIps order (ipsTableAfter saves) householdId
          = .ok (some ips) ∧ GreatestSaved saves householdId ips)
      ↔ ∃ ips, Current saves ips ∧ GreatestSaved saves householdId ips) := by
  have hcases := loadIps_cases order saves householdId
  refine ⟨hcases, ?_⟩
  constructor
  · rintro ⟨ips, hload, hgreatest⟩
    rcases hcases with ⟨found, hfound, hcurrent, -, -⟩ | ⟨hnone, -⟩
    · rw [hfound] at hload
      cases hload
      exact ⟨ips, hcurrent, hgreatest⟩
    · rw [hnone] at hload
      cases hload
  · rintro ⟨ips, hcurrent, hgreatest⟩
    rcases hcases with ⟨found, hfound, hfcurrent, hown, hle⟩ | ⟨-, hnone⟩
    · refine ⟨found, hfound, hfcurrent.mem, hown, fun other hother hhousehold => ?_⟩
      exact (hgreatest.greatest other hother hhousehold).trans
        (hle ips hcurrent hgreatest.household)
    · exact absurd hgreatest.household (hnone ips hcurrent)

theorem isFraction_quarterText : IsFraction defaultConcentrationLimit.value := by
  norm_num [IsFraction, Decimal.value, defaultConcentrationLimit]

/-- A policy without targets, always under one id. -/
def policyVersion (householdId : String) (version : Int) : SpelledStatement where
  ipsId := "ips_1"
  householdId := householdId
  version := version
  effectiveDate := "2026-01-01"
  allocationTargets := []
  restrictedSecurities := []
  concentrationLimitPct := defaultConcentrationLimit
  liquidityTierMinPct := none
  turnoverBudgetPct := none
  concentrationFraction := isFraction_quarterText
  liquidityFraction := fractions_none
  turnoverFraction := fractions_none

/-- Rows read in insertion order. -/
def IpsRowOrder.insertion : IpsRowOrder where
  rows found := found
  rowsPerm _ := List.Perm.refl _

/-- Version 2 of a household's policy, and then version 1 under its id, or
another household's: the greatest version saved is not loaded. -/
theorem saved_version_overwritten :
    (¬∃ ips, loadIps .insertion
        (ipsTableAfter [policyVersion "h" 2, policyVersion "h" 1]) "h"
          = .ok (some ips)
      ∧ GreatestSaved [policyVersion "h" 2, policyVersion "h" 1] "h" ips)
    ∧ ¬∃ ips, loadIps .insertion
        (ipsTableAfter [policyVersion "h" 2, policyVersion "g" 3]) "h"
          = .ok (some ips)
      ∧ GreatestSaved [policyVersion "h" 2, policyVersion "g" 3] "h" ips := by
  have hlast : ∀ (last ips : SpelledStatement), last.ipsId = "ips_1" →
      Current [policyVersion "h" 2, last] ips → ips = last := by
    intro last ips hid hcurrent
    have hips : ips.ipsId = "ips_1" := by
      rcases List.mem_cons.mp hcurrent.mem with rfl | hmem
      · rfl
      · rw [List.mem_singleton.mp hmem, hid]
    unfold Current lastSaved at hcurrent
    rw [hips] at hcurrent
    simp only [List.reverse_cons, List.reverse_nil, List.nil_append,
      List.singleton_append, List.find?_cons, hid, decide_true,
      Option.some.injEq] at hcurrent
    exact hcurrent.symm
  constructor
  · rintro ⟨ips, hload, hgreatest⟩
    rcases loadIps_cases .insertion _ "h" with ⟨found, hfound, hcurrent, -⟩ | ⟨hnone, -⟩
    · rw [hfound] at hload
      cases hload
      have hold := hgreatest.greatest (policyVersion "h" 2) (by simp) rfl
      rw [hlast _ _ rfl hcurrent] at hold
      exact absurd hold (by decide)
    · rw [hnone] at hload
      cases hload
  · rintro ⟨ips, hload, hgreatest⟩
    rcases loadIps_cases .insertion _ "h" with ⟨found, hfound, hcurrent, -⟩ | ⟨hnone, -⟩
    · rw [hfound] at hload
      cases hload
      have hown := hgreatest.household
      rw [hlast _ _ rfl hcurrent] at hown
      exact absurd hown (by decide)
    · rw [hnone] at hload
      cases hload

end Warehouse
