/-
Manifest overlays and report deltas (`research/risk/overlay.py`, and the
request models it reads).

An overlaid manifest is rebuilt without validation in the source; here it
carries its constraints, which the two refusals before it guarantee.
-/
import Warehouse.Research.RiskReport
import Mathlib.Algebra.BigOperators.Ring.List
import Mathlib.Algebra.Order.BigOperators.Group.List
import Mathlib.Data.List.Sort
import Mathlib.Data.String.Basic

namespace Warehouse

open Lib

/-- Declarative perturbation — NOT a second full manifest. -/
structure ManifestOverlay where
  weightTilts : Dict RiskClass ℚ := Dict.empty
  addSleeves : List AllocationSlot := []
  dropSleeves : List RiskClass := []
  stressPack : Option String := none
  label : Option String := none

/-- One headline figure, before and after. -/
structure MetricDelta where
  metric : String
  baseline : ℚ
  proposed : ℚ
  delta : ℚ
  pctChange : Option ℚ := none
  deriving DecidableEq

/-- What an overlay changes: the headline figures and the variance shares by
class. -/
structure RiskDeltas where
  overlayLabel : Option String
  baselineFingerprint : String
  proposedFingerprint : String
  headline : List MetricDelta
  byClassVarianceDelta : Dict RiskClass ℚ

-- ============================================================ the overlay

/-- Class weights and the slot each class is modelled on. -/
structure OverlayState where
  weights : Dict RiskClass ℚ := Dict.empty
  slotTemplates : Dict RiskClass AllocationSlot := Dict.empty

/-- A manifest slot: the first of its class is the template. -/
def OverlayState.keepSlot (st : OverlayState) (slot : AllocationSlot) :
    OverlayState where
  weights := st.weights.add slot.assetClass slot.weight
  slotTemplates :=
    if slot.assetClass ∈ st.slotTemplates.keys then st.slotTemplates
    else st.slotTemplates.set slot.assetClass slot

/-- A dropped class loses its weight and its template. -/
def OverlayState.dropSleeve (st : OverlayState) (assetClass : RiskClass) :
    OverlayState where
  weights := st.weights.erase assetClass
  slotTemplates := st.slotTemplates.erase assetClass

/-- An added slot: the last of its class is the template. -/
def OverlayState.addSleeve (st : OverlayState) (slot : AllocationSlot) :
    OverlayState where
  weights := st.weights.add slot.assetClass slot.weight
  slotTemplates := st.slotTemplates.set slot.assetClass slot

/-- A tilt is added to the class's weight. -/
def OverlayState.tiltWeight (st : OverlayState) (tilt : RiskClass × ℚ) :
    OverlayState :=
  { st with weights := st.weights.add tilt.1 tilt.2 }

/-- The three passes over the manifest's slots. -/
def overlayState (manifest : AssetPortfolio) (overlay : ManifestOverlay) :
    OverlayState :=
  let kept := manifest.allocations.foldl OverlayState.keepSlot {}
  let dropped := overlay.dropSleeves.foldl OverlayState.dropSleeve kept
  let added := overlay.addSleeves.foldl OverlayState.addSleeve dropped
  overlay.weightTilts.entries.foldl OverlayState.tiltWeight added

-- ======================================================== renormalisation

/-- Weights that can be renormalised: none negative, a positive total. -/
structure Normalizable (weights : Dict RiskClass ℚ) : Prop where
  nonneg : ∀ w ∈ weights.values, 0 ≤ w
  total : 0 < weights.values.sum

/-- What the two refusals leave. -/
theorem normalizable_of_passes {weights : Dict RiskClass ℚ}
    (hneg : weights.entries.find? (fun e => e.2 < 0) = none)
    (htotal : ¬ weights.values.sum ≤ 0) : Normalizable weights where
  nonneg := by
    intro w hw
    obtain ⟨e, he, rfl⟩ := List.mem_map.mp hw
    simpa using List.find?_eq_none.mp hneg e he
  total := not_le.mp htotal

/-- A class's share of the total. -/
def normalizedWeight (weights : Dict RiskClass ℚ) (assetClass : RiskClass) :
    ℚ :=
  (weights.get? assetClass).getD 0 / weights.values.sum

theorem Normalizable.fraction {weights : Dict RiskClass ℚ}
    (h : Normalizable weights) (assetClass : RiskClass) :
    IsFraction (normalizedWeight weights assetClass) := by
  unfold IsFraction normalizedWeight
  cases hget : weights.get? assetClass with
  | none => simp
  | some w =>
    have hmem : w ∈ weights.values :=
      List.mem_map_of_mem (f := Prod.snd) (Dict.get?_eq_some_iff.mp hget)
    have hle : w ≤ weights.values.sum :=
      List.single_le_sum h.nonneg w hmem
    rw [Option.getD_some, div_le_one h.total]
    exact ⟨div_nonneg (h.nonneg w hmem) h.total.le, hle⟩

/-- `sorted(weights, key=lambda ac: ac.value)`. -/
def sortedClasses (weights : Dict RiskClass ℚ) : List RiskClass :=
  weights.keys.insertionSort fun c c' => c.value ≤ c'.value

/-- The slot a class gets: its template reweighted, or a plain one. -/
def normalizedSlot {st : OverlayState} (h : Normalizable st.weights)
    (assetClass : RiskClass) : AllocationSlot :=
  match st.slotTemplates.get? assetClass with
  | some template =>
      { template with
        weight := normalizedWeight st.weights assetClass
        weightFraction := h.fraction assetClass }
  | none =>
      { assetClass := assetClass
        weight := normalizedWeight st.weights assetClass
        weightFraction := h.fraction assetClass }

/-- A rebuilt slot has the normalised weight. -/
theorem normalizedSlot_weight {st : OverlayState}
    (h : Normalizable st.weights) (assetClass : RiskClass) :
    (normalizedSlot h assetClass).weight
      = normalizedWeight st.weights assetClass := by
  unfold normalizedSlot
  split <;> rfl

/-- The shares add up to one. -/
theorem sum_normalizedSlots {st : OverlayState}
    (h : Normalizable st.weights) :
    (((sortedClasses st.weights).map (normalizedSlot h)).map
      (·.weight)).sum = 1 := by
  have hweights : ((sortedClasses st.weights).map (normalizedSlot h)).map
      (·.weight) = (sortedClasses st.weights).map
        (normalizedWeight st.weights) := by
    rw [List.map_map]
    exact List.map_congr_left fun c _ => normalizedSlot_weight h c
  have hshares : ((sortedClasses st.weights).map
      (normalizedWeight st.weights)).sum
        = (st.weights.keys.map (normalizedWeight st.weights)).sum :=
    ((List.perm_insertionSort _ st.weights.keys).map _).sum_eq
  have hscaled : st.weights.keys.map (normalizedWeight st.weights)
      = st.weights.keys.map fun c =>
        (st.weights.get? c).getD 0 * st.weights.values.sum⁻¹ :=
    List.map_congr_left fun c _ => div_eq_mul_inv _ _
  rw [hweights, hshares, hscaled, List.sum_map_mul_right, ← Dict.values_eq]
  exact mul_inv_cancel₀ h.total.ne'

/-- The manifest with its slots rebuilt, one per class. -/
def renormalised (manifest : AssetPortfolio) {st : OverlayState}
    (h : Normalizable st.weights) : AssetPortfolio :=
  { manifest with
    allocations := (sortedClasses st.weights).map (normalizedSlot h)
    nonempty := by
      intro hnil
      have hsum := sum_normalizedSlots h
      rw [hnil] at hsum
      simp at hsum
    budget := by
      unfold WeightsSumToOne
      rw [sum_normalizedSlots h]
      norm_num }

/-- Apply overlay tilts/adds/drops and re-normalize weights to 1. -/
def applyOverlay (ctx : DecimalContext) (manifest : AssetPortfolio)
    (overlay : ManifestOverlay) : Except Exc AssetPortfolio :=
  let st := overlayState manifest overlay
  match hneg : st.weights.entries.find? fun e => e.2 < 0 with
  | some (assetClass, weight) =>
      .error (.valueError ("overlay produced negative weight for "
        ++ assetClass.value ++ ": " ++ ctx.str weight))
  | none =>
      if htotal : st.weights.values.sum ≤ 0 then
        .error (.valueError "overlay produced zero total weight")
      else
        .ok (renormalised manifest (normalizable_of_passes hneg htotal))

-- ================================================================= deltas

/-- `_pct_change`: none from zero. -/
def pctChange (baseline proposed : ℚ) : Option ℚ :=
  if baseline = 0 then none else some ((proposed - baseline) / baseline)

/-- `_metric_delta`: the difference of two figures, absolute and relative. -/
def metricDelta (metric : String) (baseline proposed : ℚ) : MetricDelta where
  metric := metric
  baseline := baseline
  proposed := proposed
  delta := proposed - baseline
  pctChange := pctChange baseline proposed

/-- A dollar metric is compared where both reports have one. -/
def dollarDelta (metric : String) (baseline proposed : Option RiskMetric) :
    List MetricDelta :=
  match baseline, proposed with
  | some b, some p => [metricDelta metric b.value p.value]
  | _, _ => []

/-- Variance shares by class: of several rows of one class, the last. -/
def varianceByClass (report : PortfolioRiskReport) : Dict RiskClass ℚ :=
  Dict.ofPairs (report.level2Contributions.byClass.map fun row =>
    (row.assetClass, row.pctVarianceContribution))

/-- Diff baseline vs proposed Level 1 metrics and L2 variance shares. The
classes are a set in the source; their order says nothing. -/
def diffReports (baseline proposed : PortfolioRiskReport)
    (overlayLabel : Option String := none) : RiskDeltas :=
  let b1 := baseline.level1Portfolio
  let p1 := proposed.level1Portfolio
  let baselineVar := varianceByClass baseline
  let proposedVar := varianceByClass proposed
  let classes := baselineVar.keys
    ++ proposedVar.keys.filter fun c => c ∉ baselineVar.keys
  { overlayLabel := overlayLabel
    baselineFingerprint := baseline.inputFingerprint
    proposedFingerprint := proposed.inputFingerprint
    headline :=
      [metricDelta "annualized_volatility" b1.annualizedVolatility.value
          p1.annualizedVolatility.value,
       metricDelta "parametric_var" b1.parametricVar.value
          p1.parametricVar.value,
       metricDelta "parametric_es" b1.parametricEs.value
          p1.parametricEs.value]
      ++ dollarDelta "dollar_var" b1.dollarVar p1.dollarVar
      ++ dollarDelta "dollar_es" b1.dollarEs p1.dollarEs
    byClassVarianceDelta := Dict.tabulate classes fun c =>
      (proposedVar.get? c).getD 0 - (baselineVar.get? c).getD 0 }

end Warehouse
