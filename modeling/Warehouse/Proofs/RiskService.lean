/-
When the risk service answers.

Under the catalog's priors every tail the engine looks up is there, so a
report fails only for a stress pack nobody pinned. `evaluate_risk` asks
for one only through an overlay, which must also leave weights that
renormalise.
-/
import Warehouse.Research.Service

namespace Warehouse

open Lib

variable {priors : RiskAssumptions}

-- ================================================================= overlay

/-- An overlay is applied exactly when its weights renormalise. -/
theorem applyOverlay_cases (ctx : DecimalContext) (manifest : AssetPortfolio)
    (overlay : ManifestOverlay) :
    (∃ h : Normalizable (overlayState manifest overlay).weights,
      applyOverlay ctx manifest overlay = .ok (renormalised manifest h))
    ∨ (¬ Normalizable (overlayState manifest overlay).weights
      ∧ ∃ msg, applyOverlay ctx manifest overlay
        = .error (.valueError msg)) := by
  unfold applyOverlay
  dsimp only
  split
  · next assetClass weight hneg =>
    right
    refine ⟨fun h => ?_, _, rfl⟩
    have hmem : (assetClass, weight)
        ∈ (overlayState manifest overlay).weights.entries :=
      List.mem_of_find?_eq_some hneg
    have hlt : weight < 0 := by
      simpa using List.find?_some hneg
    have hge := h.nonneg weight (List.mem_map_of_mem (f := Prod.snd) hmem)
    exact absurd hlt (not_lt.mpr hge)
  · next hneg =>
    split
    · next htotal =>
      right
      exact ⟨fun h => absurd h.total (not_lt.mpr htotal), _, rfl⟩
    · next htotal =>
      exact Or.inl ⟨normalizable_of_passes hneg htotal, rfl⟩

-- ================================================================== report

/-- The tables have the tails the engine looks up. -/
structure RiskAssumptions.Quoted (priors : RiskAssumptions) : Prop where
  var : (priors.zScores.get? (alphaKey priors.varAlpha)).isSome
  es : (priors.esMultipliers.get? (alphaKey priors.esAlpha)).isSome

/-- Every set of the catalog has them, and the pinned stress packs. -/
theorem assumptionsFor_quoted {name : String}
    (h : assumptionsFor name = .ok priors) :
    priors.Quoted ∧ priors.stressScenarios = pinnedStressScenarios := by
  rcases (assumptionsFor_cases h).1 with rfl | rfl | rfl
  · exact ⟨⟨by decide +kernel, by decide +kernel⟩, rfl⟩
  · exact ⟨⟨by decide +kernel, by decide +kernel⟩, rfl⟩
  · exact ⟨⟨by decide +kernel, by decide +kernel⟩, rfl⟩

/-- The packs a filter may name. -/
def StressKnown (priors : RiskAssumptions) (stressFilter : Option String) :
    Prop :=
  ∀ name ∈ stressFilter, name ∈ priors.stressScenarios.keys

/-- A stress section exists exactly when its pack is known. -/
theorem evaluateStress_ok_iff (slots : List AllocationSlot)
    (notionalUsd : Option ℚ) (markSource : String)
    (stressFilter : Option String) :
    (∃ stress, evaluateStress slots notionalUsd markSource priors stressFilter
      = .ok stress) ↔ StressKnown priors stressFilter := by
  unfold evaluateStress stressPacks StressKnown
  cases stressFilter with
  | none =>
    constructor
    · intro _ name hname
      cases hname
    · intro _
      exact ⟨_, rfl⟩
  | some name =>
    simp only [Option.mem_some_iff, forall_eq']
    cases hget : priors.stressScenarios.get? name with
    | none =>
      constructor
      · rintro ⟨stress, hrun⟩
        cases hrun
      · intro hmem
        exact absurd hmem (Dict.get?_eq_none_iff.mp hget)
    | some shocks =>
      constructor
      · intro _
        exact Dict.mem_keys_of_mem_entries (Dict.get?_eq_some_iff.mp hget)
      · intro _
        exact ⟨_, rfl⟩

/-- Quoted priors report, unless the stress filter names no pack. -/
theorem evaluateReport_ok_iff (rt : RiskRuntime) (manifest : AssetPortfolio)
    (request : RiskRequest) (hquoted : priors.Quoted)
    (stressFilter : Option String) :
    (∃ report, evaluateReport rt manifest request priors stressFilter
      = .ok report) ↔ StressKnown priors stressFilter := by
  obtain ⟨z, hz⟩ := Option.isSome_iff_exists.mp hquoted.var
  obtain ⟨m, hm⟩ := Option.isSome_iff_exists.mp hquoted.es
  unfold evaluateReport evaluatePortfolioRisk parametricVar parametricEs
    parametricTail
  dsimp only [Option.getD_some]
  rw [hz, hm, ← evaluateStress_ok_iff manifest.allocations request.notionalUsd
    "model_prior" stressFilter]
  simp only [bind, Except.bind]
  cases evaluateStress manifest.allocations request.notionalUsd "model_prior"
      priors stressFilter with
  | error e => exact ⟨fun ⟨_, h⟩ => (nomatch h), fun ⟨_, h⟩ => (nomatch h)⟩
  | ok stress => exact ⟨fun _ => ⟨stress, rfl⟩, fun _ => ⟨_, rfl⟩⟩

-- ================================================================= service

/-- The overlay can be applied, and its stress pack is a pinned one. -/
structure OverlayRuns (manifest : AssetPortfolio) (overlay : ManifestOverlay) :
    Prop where
  weights : Normalizable (overlayState manifest overlay).weights
  stressPack : ∀ name ∈ overlay.stressPack, name ∈ pinnedStressScenarios.keys

/-- The deltas exist exactly when the overlay applies and its pack is known. -/
theorem evaluateDeltas_ok_iff (rt : RiskRuntime) (request : RiskRequest)
    (manifest : AssetPortfolio) (hquoted : priors.Quoted)
    (hpacks : priors.stressScenarios = pinnedStressScenarios)
    (baseline : PortfolioRiskReport) (overlay : ManifestOverlay) :
    (∃ deltas, evaluateDeltas rt baseline request overlay manifest priors
      = .ok deltas) ↔ OverlayRuns manifest overlay := by
  unfold evaluateDeltas
  rcases applyOverlay_cases rt.decimal manifest overlay with
    ⟨hweights, happly⟩ | ⟨hweights, msg, happly⟩
  · rw [happly]
    have hreport := evaluateReport_ok_iff rt (renormalised manifest hweights)
      request hquoted overlay.stressPack
    constructor
    · rintro ⟨deltas, hrun⟩
      obtain ⟨derived, hderived, hrun⟩ := bind_ok_iff.mp hrun
      obtain rfl := Except.ok.inj hderived
      obtain ⟨proposed, hproposed, -⟩ := bind_ok_iff.mp hrun
      have hknown := hreport.mp ⟨proposed, hproposed⟩
      unfold StressKnown at hknown
      rw [hpacks] at hknown
      exact ⟨hweights, hknown⟩
    · intro hruns
      have hknown : StressKnown priors overlay.stressPack := by
        unfold StressKnown
        rw [hpacks]
        exact hruns.stressPack
      obtain ⟨proposed, hproposed⟩ := hreport.mpr hknown
      exact ⟨_, bind_ok_iff.mpr ⟨_, rfl,
        bind_ok_iff.mpr ⟨proposed, hproposed, rfl⟩⟩⟩
  · rw [happly]
    exact ⟨fun ⟨_, h⟩ => (nomatch h), fun h => absurd h.weights hweights⟩

/-- The scenarios of a request are in the catalog, and report. -/
theorem scenarioReports_ok (rt : RiskRuntime) (manifest : AssetPortfolio)
    (request : RiskRequest) (runScenarios : ScenarioSet) :
    ∃ reports, (scenarioRegimes runScenarios).mapM
      (scenarioReport rt manifest request) = .ok reports := by
  rw [mapM_ok_iff]
  intro regime hregime
  have hnamed : regime = "high_risk" ∨ regime = "low_risk" := by
    cases runScenarios with
    | none => cases hregime
    | highRisk => exact Or.inl (List.mem_singleton.mp hregime)
    | lowRisk => exact Or.inr (List.mem_singleton.mp hregime)
    | all => simpa [scenarioRegimes] using hregime
  obtain ⟨alt, halt⟩ : ∃ alt, assumptionsFor regime = .ok alt := by
    rcases hnamed with rfl | rfl
    · exact ⟨_, rfl⟩
    · exact ⟨_, rfl⟩
  obtain ⟨report, hreport⟩ := (evaluateReport_ok_iff rt manifest request
    (assumptionsFor_quoted halt).1 none).mpr fun _ h => nomatch h
  unfold scenarioReport
  rw [halt]
  simp only [bind, Except.bind, hreport]
  exact ⟨_, rfl⟩

/-- On the catalog's base priors the service answers every request whose
overlay, if any, runs. -/
theorem evaluateRisk_ok_iff (rt : RiskRuntime) (request : RiskRequest)
    (manifest : AssetPortfolio) :
    (∃ result, evaluateRisk rt request manifest = .ok result)
      ↔ ∀ overlay ∈ request.overlay, OverlayRuns manifest overlay := by
  have hbase : assumptionsFor "base" = .ok baseAssumptions := rfl
  obtain ⟨hquoted, hpacks⟩ := assumptionsFor_quoted hbase
  obtain ⟨report, hreport⟩ := (evaluateReport_ok_iff rt manifest request
    hquoted none).mpr fun _ h => nomatch h
  obtain ⟨scenarios, hscenarios⟩ :=
    scenarioReports_ok rt manifest request request.runScenarios
  unfold evaluateRisk resolveAssumptions
  simp only [bind, Except.bind, hbase, hreport, hscenarios]
  cases hoverlay : request.overlay with
  | none => exact ⟨fun _ _ h => (nomatch h), fun _ => ⟨_, rfl⟩⟩
  | some overlay =>
    simp only [Option.mem_some_iff, forall_eq']
    rw [← evaluateDeltas_ok_iff rt request manifest hquoted hpacks report]
    cases evaluateDeltas rt report request overlay manifest baseAssumptions with
    | error e => exact ⟨fun ⟨_, h⟩ => (nomatch h), fun ⟨_, h⟩ => (nomatch h)⟩
    | ok deltas => exact ⟨fun _ => ⟨deltas, rfl⟩, fun _ => ⟨_, rfl⟩⟩

end Warehouse
