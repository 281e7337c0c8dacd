/-
Replaying the portfolio manager's advice.

Every leg of `pm.advise` reads the payload alone but one: the optimizer's
payload has no date, so its harvester runs on the day of the dispatch.
That day reaches the advice through a candidate lot's holding period and
through its wash window, and through nothing else. A dispatch that one of
the other legs refuses is refused alike on every day.

# Where the day enters

`harvestLot` asks two things of the day: how long a candidate has been held,
which picks its rate, and whether a substantially identical lot was acquired
within the wash window, which blocks it. A candidate to which neither can
matter on any day is `ClockBlind`. Where some candidate is not, two days are
exhibited that are advised differently, one pair by the rate and one by the
window. A leg that refuses does so before the day is read, so a payload
nobody can answer (`Answerable`) is replayable too.
-/
import Warehouse.Messaging.Advice
import Warehouse.Proofs.Rebalance
import Warehouse.Proofs.RiskReplay
import Warehouse.Proofs.RiskService
import Warehouse.Proofs.WashSafe

namespace Warehouse

open Lib

variable {positions : List LotPositionView} {ips : InvestmentPolicyStatement}
  {settings : Settings} {lot : LotPositionView}

-- ========================================================== the harvester

/-- A loss lot is marked below its cost. -/
theorem isLossLot_iff : isLossLot lot
    ↔ ∃ gain, lot.unrealizedGain = some gain ∧ gain < 0 := by
  unfold isLossLot
  cases lot.unrealizedGain with
  | none => simp
  | some gain => simp

/-- A loss lot the harvester may sell, wash window apart. -/
def harvestCandidate (ips : InvestmentPolicyStatement)
    (lot : LotPositionView) : Bool :=
  isLossLot lot && (evaluateLotSellAllowed lot ips).1
    && lot.marketValue.isSome

/-- The day of a harvest never matters to a lot: both holding periods have
one rate, and no other lot is substantially identical to it. -/
structure ClockBlind (settings : Settings) (positions : List LotPositionView)
    (lot : LotPositionView) : Prop where
  oneRate : settings.fedStcgRate = settings.fedLtcgRate
  alone : ∀ other ∈ positions, other.lotId ≠ lot.lotId →
    substantiallyIdentical lot other = false

/-- A lot the clock cannot matter to has no wash risk on any day. -/
theorem ClockBlind.clear (h : ClockBlind settings positions lot)
    (today : Date) : evaluateWashSaleRisk lot positions today = [] := by
  apply (evaluateWashSaleRisk_eq_nil_iff ..).mpr
  intro other hother
  unfold riskyReplacement
  by_cases hid : other.lotId = lot.lotId
  · simp [hid]
  · simp [h.alone other hother hid]

theorem ClockBlind.rate (h : ClockBlind settings positions lot)
    (acquisitionDate today : Date) :
    holdingPeriodRate acquisitionDate today settings
      = settings.fedLtcgRate := by
  unfold holdingPeriodRate
  dsimp only
  split
  · rfl
  · exact h.oneRate

/-- One turn of the loop, on two days. -/
theorem harvestLot_clock (hloss : isLossLot lot)
    (hblind : harvestCandidate ips lot → ClockBlind settings positions lot)
    (today today' : Date) (st : HarvestState) :
    harvestLot positions ips settings today st lot
      = harvestLot positions ips settings today' st lot := by
  unfold harvestLot
  cases hallowed : (evaluateLotSellAllowed lot ips).1 with
  | false => simp [hallowed]
  | true =>
    cases hmv : lot.marketValue with
    | none => simp [hallowed]
    | some marketValue =>
      have h := hblind (by simp [harvestCandidate, hloss, hallowed, hmv])
      simp only [h.clear, h.rate]

/-- What the harvest of a payload's loss lots gathers. -/
def harvested (settings : Settings) (p : PmAdvisePayload) (today : Date) :
    HarvestState :=
  (lossLots p.positions).foldl
    (harvestLot p.positions p.ips settings today) {}

/-- The loss lots are the positions with a loss. -/
theorem mem_lossLots : lot ∈ lossLots positions
    ↔ lot ∈ positions ∧ isLossLot lot := by
  unfold lossLots
  rw [List.mem_mergeSort, List.mem_filter]

/-- Lots the day does not matter to are harvested alike on every day. -/
theorem harvested_clock {p : PmAdvisePayload}
    (hblind : ∀ lot ∈ p.positions, harvestCandidate p.ips lot →
      ClockBlind settings p.positions lot) (today today' : Date) :
    harvested settings p today = harvested settings p today' := by
  have hturns : ∀ ls : List LotPositionView,
      (∀ lot ∈ ls, lot ∈ p.positions ∧ isLossLot lot) → ∀ st : HarvestState,
      ls.foldl (harvestLot p.positions p.ips settings today) st
        = ls.foldl (harvestLot p.positions p.ips settings today') st := by
    intro ls
    induction ls with
    | nil =>
      intro _ st
      rw [List.foldl_nil, List.foldl_nil]
    | cons lot rest ih =>
      intro hls st
      obtain ⟨hlot, hloss⟩ := hls lot (List.mem_cons_self ..)
      rw [List.foldl_cons, List.foldl_cons,
        harvestLot_clock hloss (hblind lot hlot) today today' st]
      exact ih (fun lot h => hls lot (List.mem_cons_of_mem _ h)) _
  unfold harvested
  exact hturns (lossLots p.positions) (fun lot h => mem_lossLots.mp h) {}

-- ================================================================ two days

/-- A day well before every date, and one well after. -/
theorem exists_far_days (before after : Int) (dates : List Int) :
    ∃ early late : Int, ∀ d ∈ dates, early + before < d ∧ d + after ≤ late := by
  induction dates with
  | nil => exact ⟨0, 0, fun _ h => nomatch h⟩
  | cons d rest ih =>
    obtain ⟨early, late, hrest⟩ := ih
    refine ⟨min early (d - before - 1), max late (d + after), fun e he => ?_⟩
    rcases List.mem_cons.mp he with rfl | he
    · omega
    · have h := hrest e he
      omega

/-- A day no purchase's window reaches. -/
def Quiet (positions : List LotPositionView) (today : Date) : Prop :=
  ∀ q ∈ positions, constraintWashSaleWindowDays < |q.acquisitionDate - today|

/-- In a quiet book no lot has a wash risk. -/
theorem Quiet.clear {today : Date} (h : Quiet positions today)
    (lot : LotPositionView) :
    evaluateWashSaleRisk lot positions today = [] := by
  apply (evaluateWashSaleRisk_eq_nil_iff ..).mpr
  intro other hother
  have hfar : ¬ |other.acquisitionDate - today| ≤ constraintWashSaleWindowDays :=
    not_le.mpr (h other hother)
  simp [riskyReplacement, hfar]

/-- One turn's share of the tax delta. -/
theorem harvestLot_taxDelta (today : Date) (st : HarvestState)
    (lot : LotPositionView) :
    (harvestLot positions ips settings today st lot).taxDelta
      = st.taxDelta + if harvestable positions ips today lot then
          lot.unrealizedGain.getD 0
            * holdingPeriodRate lot.acquisitionDate today settings
        else 0 := by
  obtain ⟨rationale, h⟩ :=
    harvestLot_spec positions ips settings today st lot
  rw [h]

/-- The fold adds up the tax of the lots it harvests. -/
theorem harvest_taxDelta (today : Date) (ls : List LotPositionView) :
    ∀ st : HarvestState,
      (ls.foldl (harvestLot positions ips settings today) st).taxDelta
        = st.taxDelta + ((ls.filter (harvestable positions ips today)).map
          fun lot => lot.unrealizedGain.getD 0
            * holdingPeriodRate lot.acquisitionDate today settings).sum := by
  induction ls with
  | nil => intro st; simp
  | cons lot rest ih =>
    intro st
    rw [List.foldl_cons, ih, harvestLot_taxDelta]
    cases h : harvestable positions ips today lot with
    | false => simp [h]
    | true => simp [h, add_assoc]

variable {p : PmAdvisePayload} {today : Date}

/-- The candidates, largest loss first. -/
def harvestCandidates (p : PmAdvisePayload) : List LotPositionView :=
  (lossLots p.positions).filter (harvestCandidate p.ips)

/-- The candidates are the lots that pass every test but the window. -/
theorem mem_harvestCandidates : lot ∈ harvestCandidates p
    ↔ lot ∈ p.positions ∧ harvestCandidate p.ips lot := by
  unfold harvestCandidates
  rw [List.mem_filter, mem_lossLots]
  constructor
  · rintro ⟨⟨hlot, -⟩, hcand⟩
    exact ⟨hlot, hcand⟩
  · rintro ⟨hlot, hcand⟩
    refine ⟨⟨hlot, ?_⟩, hcand⟩
    simp only [harvestCandidate, Bool.and_eq_true] at hcand
    exact hcand.1.1

/-- A loss lot is harvested when it is a candidate in the clear. -/
theorem filter_harvestable (p : PmAdvisePayload) (today : Date) :
    (lossLots p.positions).filter (harvestable p.positions p.ips today)
      = (harvestCandidates p).filter fun lot =>
        (evaluateWashSaleRisk lot p.positions today).isEmpty := by
  unfold harvestCandidates
  rw [List.filter_filter]
  refine List.filter_congr fun lot hlot => ?_
  have hloss := (mem_lossLots.mp hlot).2
  obtain ⟨gain, hgain, -⟩ := isLossLot_iff.mp hloss
  simp only [harvestable, harvestCandidate, hgain, hloss, Option.isSome_some,
    Bool.true_and, Bool.and_true]
  exact Bool.and_comm ..

/-- One trade a candidate outside the window. -/
theorem harvested_length (settings : Settings) (p : PmAdvisePayload)
    (today : Date) : (harvested settings p today).trades.length
      = ((harvestCandidates p).filter fun lot =>
        (evaluateWashSaleRisk lot p.positions today).isEmpty).length := by
  have hids : ((harvested settings p today).trades.map (·.lotId)).length
      = _ := congrArg List.length
        (harvest_lotIds p.ips settings today (lossLots p.positions) {})
  rw [filter_harvestable] at hids
  simpa [harvested] using hids

/-- On a quiet day every candidate is harvested. -/
theorem harvested_quiet (hquiet : Quiet p.positions today) :
    (lossLots p.positions).filter (harvestable p.positions p.ips today)
      = harvestCandidates p := by
  rw [filter_harvestable]
  refine List.filter_eq_self.mpr fun lot _ => ?_
  rw [hquiet.clear]
  rfl

/-- What the candidates lose. -/
def candidateLoss (p : PmAdvisePayload) : ℚ :=
  ((harvestCandidates p).map fun lot => lot.unrealizedGain.getD 0).sum

/-- On a quiet day with one rate for all, the delta is the loss at that
rate. -/
theorem taxDelta_quiet (hquiet : Quiet p.positions today) {rate : ℚ}
    (hrate : ∀ q ∈ p.positions,
      holdingPeriodRate q.acquisitionDate today settings = rate) :
    (harvested settings p today).taxDelta = candidateLoss p * rate := by
  unfold harvested candidateLoss
  rw [harvest_taxDelta, harvested_quiet hquiet, ← List.sum_map_mul_right]
  have hterms : (harvestCandidates p).map (fun lot =>
      lot.unrealizedGain.getD 0
        * holdingPeriodRate lot.acquisitionDate today settings)
      = (harvestCandidates p).map fun lot =>
        lot.unrealizedGain.getD 0 * rate := by
    refine List.map_congr_left fun lot hlot => ?_
    rw [hrate lot (mem_harvestCandidates.mp hlot).1]
  rw [hterms]
  exact zero_add _

/-- Some candidate makes the loss negative. -/
theorem candidateLoss_neg (hlot : lot ∈ harvestCandidates p) :
    candidateLoss p < 0 := by
  have hneg : ∀ x ∈ (harvestCandidates p).map
      (fun lot => -lot.unrealizedGain.getD 0), 0 < x := by
    intro x hx
    obtain ⟨q, hq, rfl⟩ := List.mem_map.mp hx
    have hloss := (mem_lossLots.mp (List.mem_filter.mp hq).1).2
    obtain ⟨gain, hgain, hneg⟩ := isLossLot_iff.mp hloss
    rw [hgain]
    exact neg_pos.mpr hneg
  have hpos := List.sum_pos _ hneg
    (List.ne_nil_of_mem (List.mem_map_of_mem hlot))
  have hsum : ((harvestCandidates p).map
      fun lot => -lot.unrealizedGain.getD 0).sum = -candidateLoss p := by
    unfold candidateLoss
    rw [List.sum_neg, List.map_map]
    rfl
  rw [hsum] at hpos
  exact neg_pos.mp hpos

/-- A candidate is not harvested on the day an identical lot was bought. -/
theorem harvested_length_lt (settings : Settings) {other : LotPositionView}
    (hlot : lot ∈ harvestCandidates p) (hother : other ∈ p.positions)
    (hid : other.lotId ≠ lot.lotId)
    (hsame : substantiallyIdentical lot other = true) :
    (harvested settings p other.acquisitionDate).trades.length
      < (harvestCandidates p).length := by
  rw [harvested_length, List.length_filter_lt_length_iff_exists]
  refine ⟨lot, hlot, fun hclear => ?_⟩
  have hrisky := (evaluateWashSaleRisk_eq_nil_iff ..).mp
    (List.isEmpty_iff.mp hclear) other hother
  simp [riskyReplacement, hid, hsame, constraintWashSaleWindowDays] at hrisky

/-- Harvests that agree on every two days have blind candidates only. -/
theorem clockBlind_of_harvested
    (hsame : ∀ today today', (harvested settings p today).trades.length
          = (harvested settings p today').trades.length
        ∧ (harvested settings p today).taxDelta
          = (harvested settings p today').taxDelta)
    (hlot : lot ∈ p.positions) (hcand : harvestCandidate p.ips lot) :
    ClockBlind settings p.positions lot := by
  have hmem : lot ∈ harvestCandidates p :=
    mem_harvestCandidates.mpr ⟨hlot, hcand⟩
  obtain ⟨early, late, hfar⟩ := exists_far_days constraintWashSaleWindowDays
    365 (p.positions.map (·.acquisitionDate))
  have hfar' : ∀ q ∈ p.positions,
      early + constraintWashSaleWindowDays < q.acquisitionDate
        ∧ q.acquisitionDate + 365 ≤ late := fun q hq =>
    hfar _ (List.mem_map_of_mem hq)
  have hearly : Quiet p.positions early := by
    intro q hq
    have h := (hfar' q hq).1
    rw [lt_abs]
    left
    linarith
  have hlate : Quiet p.positions late := by
    intro q hq
    have h := (hfar' q hq).2
    rw [lt_abs]
    right
    unfold constraintWashSaleWindowDays
    linarith
  constructor
  · have hshort : ∀ q ∈ p.positions, holdingPeriodRate q.acquisitionDate early
        settings = settings.fedStcgRate := by
      intro q hq
      have h := (hfar' q hq).1
      unfold constraintWashSaleWindowDays at h
      exact if_neg (by linarith)
    have hlong : ∀ q ∈ p.positions, holdingPeriodRate q.acquisitionDate late
        settings = settings.fedLtcgRate := by
      intro q hq
      have h := (hfar' q hq).2
      exact if_pos (by linarith)
    have hdelta := (hsame early late).2
    rw [taxDelta_quiet hearly hshort, taxDelta_quiet hlate hlong] at hdelta
    exact mul_left_cancel₀ (candidateLoss_neg hmem).ne hdelta
  · intro other hother hid
    by_contra hident
    rw [Bool.not_eq_false] at hident
    have hlt := harvested_length_lt settings hmem hother hid hident
    rw [(hsame other.acquisitionDate early).1, harvested_length,
      ← filter_harvestable, harvested_quiet hearly] at hlt
    exact lt_irrefl _ hlt

-- ================================================================= the legs

/-- A lot the analyst can attribute. -/
structure Attributable (asOf : Date) (pos : LotPositionView) : Prop where
  acquired : pos.acquisitionDate ≤ asOf
  marked : pos.marketValue.isSome
  gain : pos.unrealizedGain.isSome
  cost : 0 < pos.totalCostBasis

/-- A position is attributed exactly when it is attributable. -/
theorem attributeOne_ok_iff (ctx : DecimalContext) (expected : RiskClass → ℚ)
    (asOf : Date) (minHoldingYears : ℚ) (pos : LotPositionView) :
    (∃ row, attributeOne ctx (fun c => some (expected c)) asOf minHoldingYears
      pos = .ok row) ↔ Attributable asOf pos := by
  unfold attributeOne
  split
  · next hlate =>
    exact ⟨fun ⟨_, h⟩ => (nomatch h),
      fun h => absurd h.acquired (not_le.mpr hlate)⟩
  · next hacquired =>
    split
    · next marketValue unrealizedGain hmv hgain =>
      split
      · next hcost =>
        exact ⟨fun ⟨_, h⟩ => (nomatch h),
          fun h => absurd h.cost (not_lt.mpr hcost)⟩
      · next hcost =>
        exact ⟨fun _ => ⟨not_lt.mp hacquired, by rw [hmv]; rfl,
          by rw [hgain]; rfl, not_le.mp hcost⟩, fun _ => ⟨_, rfl⟩⟩
    · next hnone =>
      refine ⟨fun ⟨_, h⟩ => (nomatch h), fun h => ?_⟩
      obtain ⟨marketValue, hmv⟩ := Option.isSome_iff_exists.mp h.marked
      obtain ⟨gain, hgain⟩ := Option.isSome_iff_exists.mp h.gain
      exact absurd hgain (hnone marketValue gain hmv)

/-- A book is exactly when each of its positions is. -/
theorem evaluateAttribution_ok_iff (ctx : DecimalContext)
    (positions : List LotPositionView) (expected : RiskClass → ℚ)
    (householdId : String) (asOf : Date) (configVersion : String)
    (minHoldingYears : ℚ) :
    (∃ report, evaluateAttribution ctx positions (fun c => some (expected c))
      householdId asOf configVersion minHoldingYears = .ok report)
      ↔ ∀ pos ∈ positions, Attributable asOf pos := by
  have hrows := mapM_ok_iff positions (f := attributeOne ctx
    (fun c => some (expected c)) asOf minHoldingYears)
  simp only [attributeOne_ok_iff] at hrows
  rw [← hrows]
  unfold evaluateAttribution
  cases positions.mapM (attributeOne ctx (fun c => some (expected c)) asOf
      minHoldingYears) with
  | error e => exact ⟨fun ⟨_, h⟩ => (nomatch h), fun ⟨_, h⟩ => (nomatch h)⟩
  | ok rows => exact ⟨fun _ => ⟨rows, rfl⟩, fun _ => ⟨_, rfl⟩⟩

-- ============================================================== the advice

/-- No leg refuses the payload, on any day. -/
structure Answerable (settings : Settings) (p : PmAdvisePayload)
    (asOf : Date) : Prop where
  overlay : ∀ overlay ∈ p.request.overlay, OverlayRuns p.manifest overlay
  nav : 0 < totalMarketValue p.positions
  rebalance : ∃ proposal, runMvRebalance p.positions p.ips none settings none
    true none = .ok proposal
  attribution : ∀ pos ∈ p.positions, Attributable asOf pos

variable {rt : RiskRuntime} {correlationId : String} {asOf : Date}

/-- What the harvester's run has of its harvest. -/
theorem runTaxAwareOptimizer_harvested (p : PmAdvisePayload)
    (settings : Settings) (today : Date)
    (hnav : 0 < totalMarketValue p.positions) :
    ∃ result, runTaxAwareOptimizer p.householdId p.positions p.ips settings
        none today = .ok result
      ∧ result.trades = (harvested settings p today).trades
      ∧ result.estimatedTaxDelta = (harvested settings p today).taxDelta := by
  unfold runTaxAwareOptimizer
  dsimp only
  rw [if_neg (not_le.mpr hnav)]
  exact ⟨_, rfl, rfl, rfl⟩

/-- Equal harvests, equal runs. -/
theorem runTaxAwareOptimizer_congr (p : PmAdvisePayload) {settings : Settings}
    {today today' : Date}
    (h : harvested settings p today = harvested settings p today') :
    runTaxAwareOptimizer p.householdId p.positions p.ips settings none today
      = runTaxAwareOptimizer p.householdId p.positions p.ips settings none
        today' := by
  unfold harvested at h
  unfold runTaxAwareOptimizer
  dsimp only [Option.getD_none]
  rw [h]

/-- A book worth nothing is refused. -/
theorem runTaxAwareOptimizer_refused (p : PmAdvisePayload)
    (settings : Settings) (today : Date)
    (hnav : totalMarketValue p.positions ≤ 0) :
    runTaxAwareOptimizer p.householdId p.positions p.ips settings none today
      = .error (.valueError
        "Cannot optimize — portfolio has no market value") := by
  unfold runTaxAwareOptimizer
  dsimp only
  rw [if_pos hnav]

/-- The analyst's leg, under a payload that sets its date. -/
def attributionAt (ctx : DecimalContext) (settings : Settings)
    (p : PmAdvisePayload) (asOf : Date) : Except Exc AttributionReport :=
  evaluateAttribution ctx p.positions
    (fun c => some (baseAssumptions.classExpectedReturn c)) p.householdId asOf
    settings.analystConfigVersion settings.analystMinHoldingYears

/-- The dispatch, leg by leg: the day is the harvester's alone. -/
theorem pmAdvise_eq (hasOf : p.asOfDate = some asOf) (today : Date) :
    pmAdvise rt settings correlationId today p
      = (evaluateRisk rt p.request p.manifest).bind fun risk =>
        (runTaxAwareOptimizer p.householdId p.positions p.ips settings none
          today).bind fun result =>
        (runMvRebalance p.positions p.ips none settings none true none).bind
          fun rebalance =>
        (attributionAt rt.decimal settings p asOf).bind fun attribution =>
        .ok (adviceBundle settings correlationId risk
          (buildIpsDriftReportFromViews p.householdId p.positions p.ips)
          { result with rebalance := some rebalance } attribution
          (evaluateTaxScenario (some p.taxOverlays))) := by
  have hbase : assumptionsFor "base" = .ok baseAssumptions := rfl
  unfold pmAdvise riskEvaluate attributionEvaluate optimizerPropose attributionAt
  rw [hasOf, hbase]
  dsimp only
  cases evaluateRisk rt p.request p.manifest with
  | error e => rfl
  | ok risk =>
    cases runTaxAwareOptimizer p.householdId p.positions p.ips settings none
        today with
    | error e => rfl
    | ok result =>
      cases runMvRebalance p.positions p.ips none settings none true none with
      | error e => rfl
      | ok rebalance => rfl

/-- An answerable payload is answered, with that day's harvest. -/
theorem pmAdvise_answered (rt : RiskRuntime) (correlationId : String)
    (hasOf : p.asOfDate = some asOf) (h : Answerable settings p asOf)
    (today : Date) :
    ∃ bundle, pmAdvise rt settings correlationId today p = .ok bundle
      ∧ bundle.proposal.trades = (harvested settings p today).trades
      ∧ bundle.proposal.estimatedTaxDelta
        = (harvested settings p today).taxDelta := by
  obtain ⟨risk, hrisk⟩ :=
    (evaluateRisk_ok_iff rt p.request p.manifest).mpr h.overlay
  obtain ⟨result, hrun, htrades, hdelta⟩ :=
    runTaxAwareOptimizer_harvested p settings today h.nav
  obtain ⟨rebalance, hrebalance⟩ := h.rebalance
  obtain ⟨attribution, hattribution⟩ := (evaluateAttribution_ok_iff ..).mpr
    h.attribution
  rw [pmAdvise_eq hasOf, hrisk, hrun, hrebalance]
  unfold attributionAt
  rw [hattribution]
  exact ⟨_, rfl, htrades, hdelta⟩

/-- Any other is refused, alike on every day. -/
theorem pmAdvise_refused (hasOf : p.asOfDate = some asOf)
    (h : ¬ Answerable settings p asOf) (today today' : Date) :
    pmAdvise rt settings correlationId today p
      = pmAdvise rt settings correlationId today' p := by
  rw [pmAdvise_eq hasOf, pmAdvise_eq hasOf]
  cases hrisk : evaluateRisk rt p.request p.manifest with
  | error e =>
    -- the days are under the bind, which is not entered
    show Except.error e = Except.error e
    rfl
  | ok risk =>
    by_cases hnav : totalMarketValue p.positions ≤ 0
    · rw [runTaxAwareOptimizer_refused p settings today hnav,
        runTaxAwareOptimizer_refused p settings today' hnav]
    · obtain ⟨result, hrun, -⟩ := runTaxAwareOptimizer_harvested p settings
        today (not_le.mp hnav)
      obtain ⟨result', hrun', -⟩ := runTaxAwareOptimizer_harvested p settings
        today' (not_le.mp hnav)
      rw [hrun, hrun']
      cases hrebalance : runMvRebalance p.positions p.ips none settings none
          true none with
      | error e =>
        show Except.error e = Except.error e
        rfl
      | ok rebalance =>
        cases hattribution : attributionAt rt.decimal settings p asOf with
        | error e =>
          show Except.error e = Except.error e
          rfl
        | ok attribution =>
          exact absurd
            { overlay := (evaluateRisk_ok_iff ..).mp ⟨risk, hrisk⟩
              nav := not_le.mp hnav
              rebalance := ⟨rebalance, hrebalance⟩
              attribution := (evaluateAttribution_ok_iff ..).mp
                ⟨attribution, hattribution⟩ } h

-- ============================================================= the theorem

/-- A lot at a loss of ten, bought on 2024-04-23. -/
def lossLot : LotPositionView :=
  { equityLot with
    marketPrice := some 90
    marketValue := some 90
    unrealizedGain := some (-10)
    acquisitionDate := 739000 }

/-- A policy with no targets. -/
def freePolicy : InvestmentPolicyStatement where
  ipsId := "ips_1"
  householdId := "h"
  version := 1
  effectiveDate := "2026-01-01"
  allocationTargets := []
  concentrationFraction := isFraction_quarter
  liquidityFraction := isFraction_none
  turnoverFraction := isFraction_none

/-- A book of one lot, advised as of two hundred days after it was
bought. -/
def oneLotPayload (lot : LotPositionView) : PmAdvisePayload where
  householdId := "h"
  positions := [lot]
  ips := freePolicy
  manifest := halves .equity .cash
  request := { horizon := fourYears }
  asOfDate := some 739200

/-- A runtime with an exact root and a numeric gate that passes. -/
def rootsRuntime : RiskRuntime where
  decimal := squareRoots
  digest _ := "digest"
  minEigenvalue _ := 0

theorem answerable_lossLot :
    Answerable {} (oneLotPayload lossLot) 739200 where
  overlay _ h := nomatch h
  nav := by decide +kernel
  rebalance := by
    have hin : RebalanceInput [lossLot] freePolicy := by
      refine ⟨?_, ?_, ?_, ?_⟩ <;> decide +kernel
    have hfits : ¬ BoxMissesBudget [lossLot] freePolicy := by
      unfold BoxMissesBudget
      decide +kernel
    rcases runMvRebalance_cases hin none none {} none (fun _ h => nomatch h)
        (fun _ h => nomatch h) (fun _ h => nomatch h) (by decide +kernel) true
      with ⟨hmisses, -⟩ | ⟨-, ⟨-, -, hunknown⟩, -⟩ | ⟨-, proposal, hrun, -⟩
    · exact absurd hmisses hfits
    · exact absurd (by decide +kernel) hunknown
    · exact ⟨proposal, hrun⟩
  attribution pos hpos := by
    cases List.mem_singleton.mp hpos
    exact ⟨by decide, rfl, rfl, by decide +kernel⟩

end Warehouse
