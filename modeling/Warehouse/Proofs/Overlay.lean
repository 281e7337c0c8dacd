/-
What an overlay makes of a manifest.

The three passes over the weights come to one formula a class
(`overlaidWeight`), whatever the drops, adds and tilts share: a drop voids
only what the manifest held, an added slot counts after a drop of its
class, and a tilt counts on any class. The manifest that is returned has
one slot a class, each at its class's share of the total.

# Refusals

The source subtracts nothing and clips nothing: it adds the tilts up, looks
for a negative class, then for a total that is not positive, and divides. So
an overlay is refused exactly for one of the two, in terms of
`overlaidWeight` and `totalWeight`, and the error is known before the
manifest is rebuilt. What is rebuilt validates: no weight is negative, they
sum to one, and each slot is its class's template with another weight.
-/
import Warehouse.Lib.Keyed
import Warehouse.Lib.Sorting
import Warehouse.Proofs.PsdGate

namespace Warehouse

open Lib

variable (manifest : AssetPortfolio) (overlay : ManifestOverlay)

-- ============================================================ class weights

/-- What some slots hold of a class. -/
def slotsOf (slots : List AllocationSlot) (c : RiskClass) : ℚ :=
  ((slots.filter (·.assetClass = c)).map (·.weight)).sum

/-- The manifest's slots of the class, unless it is dropped, the added slots
and the tilt. -/
def overlaidWeight (c : RiskClass) : ℚ :=
  (if c ∈ overlay.dropSleeves then 0 else slotsOf manifest.allocations c)
    + slotsOf overlay.addSleeves c + (overlay.weightTilts.get? c).getD 0

/-- What the overlaid weights sum to before they are renormalised. -/
def totalWeight : ℚ := classSum (overlaidWeight manifest overlay)

/-- The class is kept, added or tilted. -/
def Involved (c : RiskClass) : Prop :=
  (c ∉ overlay.dropSleeves ∧ ∃ s ∈ manifest.allocations, s.assetClass = c)
    ∨ (∃ s ∈ overlay.addSleeves, s.assetClass = c)
    ∨ c ∈ overlay.weightTilts.keys

-- ============================================================== the passes

/-- The manifest's slots tally by class. -/
theorem weights_foldl_keepSlot (slots : List AllocationSlot)
    (st : OverlayState) : (slots.foldl OverlayState.keepSlot st).weights
      = slots.foldl (fun d s => d.add s.assetClass s.weight) st.weights :=
  (List.foldl_hom OverlayState.weights fun _ _ => rfl).symm

theorem weights_foldl_dropSleeve (classes : List RiskClass)
    (st : OverlayState) : (classes.foldl OverlayState.dropSleeve st).weights
      = classes.foldl Dict.erase st.weights :=
  (List.foldl_hom OverlayState.weights fun _ _ => rfl).symm

theorem weights_foldl_addSleeve (slots : List AllocationSlot)
    (st : OverlayState) : (slots.foldl OverlayState.addSleeve st).weights
      = slots.foldl (fun d s => d.add s.assetClass s.weight) st.weights :=
  (List.foldl_hom OverlayState.weights fun _ _ => rfl).symm

theorem weights_foldl_tiltWeight (tilts : List (RiskClass × ℚ))
    (st : OverlayState) : (tilts.foldl OverlayState.tiltWeight st).weights
      = tilts.foldl (fun d t => d.add t.1 t.2) st.weights :=
  (List.foldl_hom OverlayState.weights fun _ _ => rfl).symm

/-- The weights after the three passes. -/
theorem weights_overlayState : (overlayState manifest overlay).weights
    = overlay.weightTilts.entries.foldl (fun d t => d.add t.1 t.2)
      (overlay.addSleeves.foldl (fun d s => d.add s.assetClass s.weight)
        (overlay.dropSleeves.foldl Dict.erase
          (Dict.tally (·.assetClass) (·.weight) manifest.allocations))) := by
  unfold overlayState
  dsimp only
  rw [weights_foldl_tiltWeight, weights_foldl_addSleeve,
    weights_foldl_dropSleeve, weights_foldl_keepSlot]
  rfl

/-- The state holds the overlaid weights. -/
theorem getD_overlayState (c : RiskClass) :
    ((overlayState manifest overlay).weights.get? c).getD 0
      = overlaidWeight manifest overlay c := by
  have htilt : ((overlay.weightTilts.entries.filter fun t => t.1 = c).map
      Prod.snd).sum = (overlay.weightTilts.get? c).getD 0 := by
    rw [Dict.filter_entries]
    cases overlay.weightTilts.get? c <;> simp
  have hkept : (((overlay.dropSleeves.foldl Dict.erase
        (Dict.tally (·.assetClass) (·.weight) manifest.allocations)).get?
          c).getD 0)
      = if c ∈ overlay.dropSleeves then 0
        else slotsOf manifest.allocations c := by
    rw [Dict.get?_foldl_erase]
    split
    · rfl
    · exact Dict.getD_tally ..
  rw [weights_overlayState, Dict.getD_foldl_add, Dict.getD_foldl_add, htilt,
    hkept]
  rfl

theorem mem_keys_overlayState (c : RiskClass) :
    c ∈ (overlayState manifest overlay).weights.keys
      ↔ Involved manifest overlay c := by
  have hkept : c ∈ (overlay.dropSleeves.foldl Dict.erase
        (Dict.tally (·.assetClass) (·.weight) manifest.allocations)).keys
      ↔ c ∉ overlay.dropSleeves
        ∧ ∃ s ∈ manifest.allocations, s.assetClass = c := by
    rw [← not_iff_not, ← Dict.get?_eq_none_iff, Dict.get?_foldl_erase]
    split
    · next hdrop => simp [hdrop]
    · next hdrop =>
      rw [Dict.get?_eq_none_iff, Dict.mem_keys_tally]
      simp [hdrop]
  have htilt : (∃ t ∈ overlay.weightTilts.entries, t.1 = c)
      ↔ c ∈ overlay.weightTilts.keys := by
    unfold Dict.keys
    rw [List.mem_map]
  rw [weights_overlayState, Dict.mem_keys_foldl_add, Dict.mem_keys_foldl_add,
    hkept, htilt, or_assoc]
  rfl

theorem RiskClass.mem_all (c : RiskClass) : c ∈ all := by cases c <;> decide

theorem sum_overlayState : (overlayState manifest overlay).weights.values.sum
    = totalWeight manifest overlay := by
  rw [← Dict.sum_getD_of_subset _ (by decide : RiskClass.all.Nodup)
    fun c _ => RiskClass.mem_all c]
  unfold totalWeight classSum
  simp only [getD_overlayState]

/-- A class no pass touches weighs nothing. -/
theorem overlaidWeight_eq_zero {c : RiskClass}
    (h : ¬Involved manifest overlay c) : overlaidWeight manifest overlay c = 0 := by
  rw [← mem_keys_overlayState, ← Dict.get?_eq_none_iff] at h
  rw [← getD_overlayState, h]
  rfl

/-- The weights renormalise unless a class is negative or the total is not
positive. -/
theorem normalizable_iff : Normalizable (overlayState manifest overlay).weights
    ↔ (∀ c, 0 ≤ overlaidWeight manifest overlay c)
      ∧ 0 < totalWeight manifest overlay := by
  constructor
  · intro h
    refine ⟨fun c => ?_, sum_overlayState manifest overlay ▸ h.total⟩
    by_cases hc : Involved manifest overlay c
    · rw [← getD_overlayState]
      apply h.nonneg
      rw [Dict.values_eq]
      exact List.mem_map_of_mem
        ((mem_keys_overlayState manifest overlay c).mpr hc)
    · exact (overlaidWeight_eq_zero manifest overlay hc).ge
  · rintro ⟨hneg, htotal⟩
    refine ⟨fun w hw => ?_, (sum_overlayState manifest overlay).symm ▸ htotal⟩
    rw [Dict.values_eq] at hw
    obtain ⟨c, -, rfl⟩ := List.mem_map.mp hw
    rw [getD_overlayState]
    exact hneg c

-- =============================================================== templates

/-- Every template is a slot of its class. -/
def OverlayState.TemplatesOwn (st : OverlayState) : Prop :=
  ∀ c t, st.slotTemplates.get? c = some t → t.assetClass = c

variable {st : OverlayState}

/-- A kept slot is its class's template. -/
theorem OverlayState.TemplatesOwn.keepSlot (h : st.TemplatesOwn)
    (slot : AllocationSlot) : (st.keepSlot slot).TemplatesOwn := by
  intro c t ht
  unfold OverlayState.keepSlot at ht
  dsimp only at ht
  split at ht
  · exact h c t ht
  · rw [Dict.get?_set] at ht
    split at ht
    · next hc =>
      cases ht
      exact hc.symm
    · exact h c t ht

/-- Dropping a class leaves the others their templates. -/
theorem OverlayState.TemplatesOwn.dropSleeve (h : st.TemplatesOwn)
    (assetClass : RiskClass) : (st.dropSleeve assetClass).TemplatesOwn := by
  intro c t ht
  unfold OverlayState.dropSleeve at ht
  dsimp only at ht
  rw [Dict.get?_erase] at ht
  split at ht
  · cases ht
  · exact h c t ht

/-- An added slot is its class's template. -/
theorem OverlayState.TemplatesOwn.addSleeve (h : st.TemplatesOwn)
    (slot : AllocationSlot) : (st.addSleeve slot).TemplatesOwn := by
  intro c t ht
  unfold OverlayState.addSleeve at ht
  dsimp only at ht
  rw [Dict.get?_set] at ht
  split at ht
  · next hc =>
    cases ht
    exact hc.symm
  · exact h c t ht

/-- A tilt makes no template. -/
theorem OverlayState.TemplatesOwn.tiltWeight (h : st.TemplatesOwn)
    (tilt : RiskClass × ℚ) : (st.tiltWeight tilt).TemplatesOwn := h

/-- Every template is of the class it is kept under. -/
theorem templatesOwn_overlayState :
    (overlayState manifest overlay).TemplatesOwn := by
  unfold overlayState
  have hstart : OverlayState.TemplatesOwn {} := by
    intro c t ht
    cases ht
  have hkept : (manifest.allocations.foldl OverlayState.keepSlot
      {}).TemplatesOwn :=
    List.foldlRecOn _ _ hstart fun _ h slot _ => h.keepSlot slot
  have hdropped := List.foldlRecOn overlay.dropSleeves OverlayState.dropSleeve
    hkept fun _ h c _ => h.dropSleeve c
  have hadded := List.foldlRecOn overlay.addSleeves OverlayState.addSleeve
    hdropped fun _ h slot _ => h.addSleeve slot
  exact List.foldlRecOn overlay.weightTilts.entries OverlayState.tiltWeight
    hadded fun _ h tilt _ => h.tiltWeight tilt

theorem normalizedSlot_class (hown : st.TemplatesOwn)
    (h : Normalizable st.weights) (c : RiskClass) :
    (normalizedSlot h c).assetClass = c := by
  unfold normalizedSlot
  split
  · next t ht => exact hown c t ht
  · rfl

-- ============================================================ the manifest

/-- Sorted, with no class twice. -/
theorem sortedClasses_pairwise (weights : Dict RiskClass ℚ) :
    (sortedClasses weights).Pairwise fun c c' => c.value < c'.value := by
  have hsorted : (sortedClasses weights).Pairwise
      fun c c' => c.value ≤ c'.value := pairwise_sortBy RiskClass.value _
  have hnodup : (sortedClasses weights).Nodup :=
    (List.perm_insertionSort _ _).nodup_iff.mpr weights.nodupKeys
  refine (hsorted.and hnodup).imp ?_
  rintro c c' ⟨hle, hne⟩
  exact lt_of_le_of_ne hle fun h => hne (RiskClass.value_injective h)

/-- One slot per class that is kept, added or tilted, in class order, at its
class's share of the total; and the rest of the manifest. -/
structure WellRebuilt (derived : AssetPortfolio) : Prop where
  sorted : (derived.allocations.map (·.assetClass)).Pairwise
    fun c c' => c.value < c'.value
  classes : ∀ c, c ∈ derived.allocations.map (·.assetClass)
    ↔ Involved manifest overlay c
  nonneg : ∀ slot ∈ derived.allocations, 0 ≤ slot.weight
  total : (derived.allocations.map (·.weight)).sum = 1
  proportional : ∀ slot ∈ derived.allocations, slot.weight
    = overlaidWeight manifest overlay slot.assetClass
      / totalWeight manifest overlay
  others : { derived with
      allocations := manifest.allocations
      nonempty := manifest.nonempty
      budget := manifest.budget } = manifest

variable {manifest overlay} in
theorem WellRebuilt.nodup {derived : AssetPortfolio}
    (h : WellRebuilt manifest overlay derived) :
    (derived.allocations.map (·.assetClass)).Nodup := by
  refine h.sorted.imp ?_
  rintro c _ hlt rfl
  exact lt_irrefl c.value hlt

theorem wellRebuilt_renormalised
    (h : Normalizable (overlayState manifest overlay).weights) :
    WellRebuilt manifest overlay (renormalised manifest h) := by
  have hown := templatesOwn_overlayState manifest overlay
  have hclasses : (renormalised manifest h).allocations.map (·.assetClass)
      = sortedClasses (overlayState manifest overlay).weights := by
    show ((sortedClasses _).map (normalizedSlot h)).map (·.assetClass) = _
    rw [List.map_map]
    refine (List.map_congr_left fun c _ => ?_).trans (List.map_id _)
    exact normalizedSlot_class hown h c
  constructor
  case sorted =>
    rw [hclasses]
    exact sortedClasses_pairwise _
  case classes =>
    intro c
    rw [hclasses, ← mem_keys_overlayState]
    exact List.mem_insertionSort _
  case nonneg =>
    intro slot _
    exact slot.weightFraction.1
  case total => exact sum_normalizedSlots h
  case proportional =>
    intro slot hslot
    obtain ⟨c, -, rfl⟩ := List.mem_map.mp hslot
    rw [normalizedSlot_weight, normalizedSlot_class hown]
    unfold normalizedWeight
    rw [getD_overlayState, sum_overlayState]
  case others => rfl

section Classes

variable {manifest overlay}
  (h : Normalizable (overlayState manifest overlay).weights) {c : RiskClass}

/-- A class that is kept, added or tilted has its one slot. -/
theorem filter_renormalised (hc : Involved manifest overlay c) :
    (renormalised manifest h).allocations.filter (·.assetClass = c)
      = [normalizedSlot h c] := by
  have hrebuilt := wellRebuilt_renormalised manifest overlay h
  obtain ⟨slot, hslot, hclass⟩ := List.mem_map.mp ((hrebuilt.classes c).mpr hc)
  obtain ⟨d, -, rfl⟩ := List.mem_map.mp hslot
  rw [normalizedSlot_class (templatesOwn_overlayState manifest overlay)]
    at hclass
  subst hclass
  have hown := Keyed.filter_own hrebuilt.nodup hslot
  rw [normalizedSlot_class (templatesOwn_overlayState manifest overlay)] at hown
  exact hown

/-- And another class has none. -/
theorem filter_renormalised_of_not (hc : ¬Involved manifest overlay c) :
    (renormalised manifest h).allocations.filter (·.assetClass = c) = [] := by
  have hrebuilt := wellRebuilt_renormalised manifest overlay h
  rw [List.filter_eq_nil_iff]
  intro s hs hsc
  exact hc ((hrebuilt.classes c).mp
    (List.mem_map.mpr ⟨s, hs, of_decide_eq_true hsc⟩))

end Classes

/-- An overlay is refused exactly when it leaves a class negative or no total
weight, and otherwise the manifest is well rebuilt. -/
theorem applyOverlay_well_formed (ctx : DecimalContext) :
    ((∃ e, applyOverlay ctx manifest overlay = .error e)
      ↔ (∃ c, overlaidWeight manifest overlay c < 0)
        ∨ totalWeight manifest overlay ≤ 0)
    ∧ ∀ derived, applyOverlay ctx manifest overlay = .ok derived →
        WellRebuilt manifest overlay derived := by
  have hrefused : ¬Normalizable (overlayState manifest overlay).weights
      ↔ (∃ c, overlaidWeight manifest overlay c < 0)
        ∨ totalWeight manifest overlay ≤ 0 := by
    rw [normalizable_iff, not_and_or, not_forall, not_lt]
    simp only [not_le]
  rw [← hrefused]
  rcases applyOverlay_cases ctx manifest overlay with
    ⟨h, hrun⟩ | ⟨h, msg, hrun⟩
  · rw [hrun]
    refine ⟨⟨fun ⟨_, he⟩ => (nomatch he), fun hnot => absurd h hnot⟩, ?_⟩
    rintro derived ⟨⟩
    exact wellRebuilt_renormalised manifest overlay h
  · rw [hrun]
    exact ⟨⟨fun _ => h, fun _ => ⟨_, rfl⟩⟩, fun _ he => nomatch he⟩

end Warehouse
