/-
The two harvesters.

Both loops gather the same lots and the same binding tags from a book, each
with its own filter: a lot is eligible when it has a known loss and a known
market value, is not restricted nor of a restricted security, and is clear
of a wash sale. The heuristic sells every eligible lot, the stub the best
of them by tax benefit per dollar; so the stub's sells are a part of the
heuristic's, and what it leaves scores no better and would only have
lowered the tax further.

# What the room decides

The stub ranks its candidates by tax benefit per dollar and keeps as many as
`mip_max_trades` allows. Python's sort is stable, so equal scores stay in
position order, and the cut between what is sold and what is left is a cut
of that list: `chosenLots` and `leftLots` are its two parts. With room for
every eligible lot the two harvesters sell the same lots
(`chosenLots_of_le`).

# Lots without a mark

A lot may have a known loss and no market value. Nothing else need speak
against selling it, and both loops pass it over by a guard of their own;
eligibility asks for the market value accordingly.
-/
import Warehouse.Decision.Mip
import Warehouse.Lib.Sorting
import Warehouse.Proofs.Advice

namespace Warehouse

open Lib

variable {positions : List LotPositionView} {ips : InvestmentPolicyStatement}
  {settings : Settings} {today : Date} {lot : LotPositionView}

-- ====================================================== the eligible lots

/-- A lot either harvester may sell. -/
structure HarvestEligible (positions : List LotPositionView)
    (ips : InvestmentPolicyStatement) (today : Date) (lot : LotPositionView) :
    Prop where
  loss : ∃ gain, lot.unrealizedGain = some gain ∧ gain < 0
  marked : lot.marketValue.isSome
  unrestricted : lot.isRestricted = false
  allowed : lot.securityId ∉ ips.restrictedSecurities
  clear : evaluateWashSaleRisk lot positions today = []

/-- A lot may be sold where neither it nor its security is restricted. -/
theorem evaluateLotSellAllowed_iff :
    (evaluateLotSellAllowed lot ips).1 = true
      ↔ lot.isRestricted = false ∧ lot.securityId ∉ ips.restrictedSecurities := by
  unfold evaluateLotSellAllowed
  cases lot.isRestricted with
  | true => simp
  | false =>
      by_cases hsec : lot.securityId ∈ ips.restrictedSecurities
      · simp [hsec]
      · simp [hsec]

/-- The loop's tests are the eligibility of a lot. -/
theorem harvestEligible_iff :
    (isLossLot lot && harvestable positions ips today lot) = true
      ↔ HarvestEligible positions ips today lot := by
  unfold harvestable
  simp only [Bool.and_eq_true, List.isEmpty_iff, evaluateLotSellAllowed_iff,
    isLossLot_iff]
  constructor
  · rintro ⟨hloss, ⟨⟨⟨hfree, hsec⟩, -⟩, hmarked⟩, hclear⟩
    exact ⟨hloss, hmarked, hfree, hsec, hclear⟩
  · intro h
    obtain ⟨gain, hgain, hneg⟩ := h.loss
    refine ⟨⟨gain, hgain, hneg⟩, ⟨⟨⟨h.unrestricted, h.allowed⟩, ?_⟩,
      h.marked⟩, h.clear⟩
    rw [hgain]
    rfl

instance (positions : List LotPositionView) (ips : InvestmentPolicyStatement)
    (today : Date) (lot : LotPositionView) :
    Decidable (HarvestEligible positions ips today lot) :=
  decidable_of_iff _ harvestEligible_iff

/-- The eligible lots of a book, in its order. -/
def eligibleLots (positions : List LotPositionView)
    (ips : InvestmentPolicyStatement) (today : Date) :
    List LotPositionView :=
  positions.filter fun lot => HarvestEligible positions ips today lot

/-- The eligible lots are the positions that pass the tests. -/
theorem mem_eligibleLots : lot ∈ eligibleLots positions ips today
    ↔ lot ∈ positions ∧ HarvestEligible positions ips today lot := by
  unfold eligibleLots
  rw [List.mem_filter, decide_eq_true_iff]

/-- They are the loss lots the loops let through. -/
theorem eligibleLots_eq :
    eligibleLots positions ips today = (positions.filter isLossLot).filter
      (harvestable positions ips today) := by
  unfold eligibleLots
  rw [List.filter_filter]
  apply List.filter_congr
  intro lot _
  rw [Bool.eq_iff_iff, decide_eq_true_iff, ← harvestEligible_iff,
    Bool.and_comm]

/-- Where positions have distinct ids, so have the eligible ones. -/
theorem nodup_eligibleLots (hids : (positions.map (·.lotId)).Nodup) :
    ((eligibleLots positions ips today).map (some ·.lotId)).Nodup := by
  have hsome := hids.map (Option.some_injective String)
  rw [List.map_map] at hsome
  exact hsome.sublist (List.filter_sublist.map _)

-- ================================================= what a turn adds to each

/-- The tags a loss lot adds. -/
def harvestTags (positions : List LotPositionView)
    (ips : InvestmentPolicyStatement) (today : Date)
    (lot : LotPositionView) : List String :=
  (evaluateLotSellAllowed lot ips).2
    ++ if (evaluateLotSellAllowed lot ips).1 && lot.marketValue.isSome then
        evaluateWashSaleRisk lot positions today
      else []

/-- What harvesting a lot does to the tax. -/
def harvestTaxOf (settings : Settings) (today : Date)
    (lot : LotPositionView) : ℚ :=
  lot.unrealizedGain.getD 0
    * holdingPeriodRate lot.acquisitionDate today settings

/-- The score of a lot, an unknown figure counting as nought. -/
def benefitPerDollar (settings : Settings) (today : Date)
    (lot : LotPositionView) : ℚ :=
  mipScore settings today lot (lot.unrealizedGain.getD 0)
    (lot.marketValue.getD 0)

/-- A loss lot adds its tags to the harvester's. -/
theorem harvestLot_binding (hloss : isLossLot lot) (st : HarvestState) :
    (harvestLot positions ips settings today st lot).binding
      = st.binding ++ harvestTags positions ips today lot := by
  obtain ⟨gain, hgain, -⟩ := isLossLot_iff.mp hloss
  obtain ⟨rationale, h⟩ :=
    harvestLot_spec positions ips settings today st lot
  rw [h, hgain]
  unfold harvestTags
  rw [Option.isSome_some, Bool.and_true]

/-- A gain is no candidate. -/
theorem mipCandidate_of_not_loss (hloss : isLossLot lot = false)
    (st : MipState) :
    mipCandidate positions ips settings today st lot = st := by
  unfold mipCandidate
  unfold isLossLot at hloss
  cases hgain : lot.unrealizedGain with
  | none => rfl
  | some gain =>
      rw [hgain] at hloss
      have hge : gain ≥ 0 := not_lt.mp (of_decide_eq_false hloss)
      dsimp only
      rw [if_pos hge]

/-- A loss is one where nothing binds, and leaves its tags where something does. -/
theorem mipCandidate_of_loss (hloss : isLossLot lot) (st : MipState) :
    mipCandidate positions ips settings today st lot
      = { candidates := st.candidates
            ++ if harvestable positions ips today lot then
                [(benefitPerDollar settings today lot, lot)] else []
          binding := st.binding
            ++ harvestTags positions ips today lot } := by
  obtain ⟨gain, hgain, hneg⟩ := isLossLot_iff.mp hloss
  unfold mipCandidate harvestTags harvestable benefitPerDollar
  rw [hgain]
  dsimp only
  rw [if_neg (not_le.mpr hneg)]
  cases hallowed : (evaluateLotSellAllowed lot ips).1 with
  | false => simp
  | true =>
      cases hmv : lot.marketValue with
      | none => simp
      | some marketValue =>
          cases hrisk : evaluateWashSaleRisk lot positions today with
          | nil => simp
          | cons tag tags => simp [List.append_assoc]

-- ============================================================== whole loops

/-- The harvester's tags, over a list of loss lots. -/
theorem harvest_binding (ls : List LotPositionView)
    (hloss : ∀ lot ∈ ls, isLossLot lot) : ∀ st : HarvestState,
    (ls.foldl (harvestLot positions ips settings today) st).binding
      = st.binding ++ ls.flatMap (harvestTags positions ips today) := by
  induction ls with
  | nil => intro st; simp
  | cons lot rest ih =>
      intro st
      rw [List.forall_mem_cons] at hloss
      rw [List.foldl_cons, ih hloss.2, harvestLot_binding hloss.1,
        List.append_assoc, List.flatMap_cons]

/-- The candidates and tags of a list of lots. -/
theorem mip_candidates (ls : List LotPositionView) : ∀ st : MipState,
    ls.foldl (mipCandidate positions ips settings today) st
      = { candidates := st.candidates
            ++ (((ls.filter isLossLot).filter
              (harvestable positions ips today)).map fun lot =>
                (benefitPerDollar settings today lot, lot))
          binding := st.binding ++ (ls.filter isLossLot).flatMap
            (harvestTags positions ips today) } := by
  induction ls with
  | nil => intro st; simp
  | cons lot rest ih =>
      intro st
      rw [List.foldl_cons, ih]
      cases hloss : isLossLot lot with
      | false =>
          rw [mipCandidate_of_not_loss hloss]
          simp [hloss]
      | true =>
          rw [mipCandidate_of_loss hloss]
          cases h : harvestable positions ips today lot with
          | false => simp [hloss, h]
          | true => simp [hloss, h]

/-- What the trade loop makes of candidates with a known gain. -/
theorem mip_trades (settings : Settings) (today : Date)
    (cs : List (ℚ × LotPositionView))
    (hgain : ∀ c ∈ cs, c.2.unrealizedGain.isSome) : ∀ st : HarvestState,
    let st' := cs.foldl (mipTrade settings today) st
    st'.trades.map (·.unexplained) = st.trades.map (·.unexplained)
        ++ (cs.map Prod.snd).map fullSell
      ∧ st'.taxDelta = st.taxDelta
        + ((cs.map Prod.snd).map (harvestTaxOf settings today)).sum
      ∧ st'.binding = st.binding := by
  induction cs with
  | nil => intro st; simp
  | cons c rest ih =>
      intro st
      obtain ⟨score, lot⟩ := c
      rw [List.forall_mem_cons] at hgain
      obtain ⟨gain, hsome⟩ := Option.isSome_iff_exists.mp hgain.1
      obtain ⟨htrades, hdelta, hbinding⟩ :=
        ih hgain.2 (mipTrade settings today st (score, lot))
      dsimp only at hsome
      refine ⟨htrades.trans ?_, hdelta.trans ?_, hbinding.trans ?_⟩
      · simp [mipTrade, hsome, TradeProposal.unexplained, fullSell]
      · simp [mipTrade, hsome, harvestTaxOf, add_assoc]
      · simp [mipTrade, hsome]

-- ======================================================= best score first

theorem rankCandidates_perm (cs : List (ℚ × LotPositionView)) :
    (rankCandidates cs).Perm cs := List.perm_insertionSort _ cs

/-- What a cut of the ranking takes scores no less than what it leaves. -/
theorem le_of_mem_take_rankCandidates {cs : List (ℚ × LotPositionView)}
    {k : Nat} {c d : ℚ × LotPositionView} (hc : c ∈ (rankCandidates cs).take k)
    (hd : d ∈ (rankCandidates cs).drop k) : d.1 ≤ c.1 := by
  have hsorted : (rankCandidates cs).Pairwise fun a b => b.1 ≤ a.1 :=
    pairwise_sortDescending Prod.fst cs
  rw [← List.take_append_drop k (rankCandidates cs),
    List.pairwise_append] at hsorted
  exact hsorted.2.2 c hc d hd

/-- The lots the stub sells: a cut of the eligible ones by score. -/
def chosenLots (settings : Settings) (today : Date)
    (lots : List LotPositionView) : List LotPositionView :=
  ((rankCandidates (lots.map fun lot =>
    (benefitPerDollar settings today lot, lot))).take
      settings.mipMaxTrades.toNat).map Prod.snd

/-- and the ones it leaves. -/
def leftLots (settings : Settings) (today : Date)
    (lots : List LotPositionView) : List LotPositionView :=
  ((rankCandidates (lots.map fun lot =>
    (benefitPerDollar settings today lot, lot))).drop
      settings.mipMaxTrades.toNat).map Prod.snd

section Chosen

variable {lots : List LotPositionView} {lot other : LotPositionView}

/-- Every eligible lot is chosen or left. -/
theorem chosen_append_left_perm :
    (chosenLots settings today lots ++ leftLots settings today lots).Perm
      lots := by
  unfold chosenLots leftLots
  rw [← List.map_append, List.take_append_drop]
  have hperm := (rankCandidates_perm (lots.map fun lot =>
    (benefitPerDollar settings today lot, lot))).map Prod.snd
  rw [List.map_map] at hperm
  exact hperm.trans (List.Perm.of_eq (List.map_id lots))

/-- As many are chosen as there is room for. -/
theorem length_chosenLots : (chosenLots settings today lots).length
    = min settings.mipMaxTrades.toNat lots.length := by
  unfold chosenLots
  rw [List.length_map, List.length_take, (rankCandidates_perm _).length_eq,
    List.length_map]

/-- With room for all, none is left. -/
theorem chosenLots_of_le (h : lots.length ≤ settings.mipMaxTrades.toNat) :
    leftLots settings today lots = [] := by
  unfold leftLots
  rw [List.drop_eq_nil_of_le, List.map_nil]
  rw [(rankCandidates_perm _).length_eq, List.length_map]
  exact h

/-- A candidate is ranked by its benefit per dollar. -/
theorem score_eq_of_mem {c : ℚ × LotPositionView}
    (h : c ∈ rankCandidates (lots.map fun lot =>
      (benefitPerDollar settings today lot, lot))) :
    c.1 = benefitPerDollar settings today c.2 := by
  obtain ⟨lot, -, rfl⟩ :=
    List.mem_map.mp ((rankCandidates_perm _).mem_iff.mp h)
  rfl

/-- No lot left has a higher benefit than one chosen. -/
theorem benefit_le_of_chosen (hlot : lot ∈ chosenLots settings today lots)
    (hother : other ∈ leftLots settings today lots) :
    benefitPerDollar settings today other
      ≤ benefitPerDollar settings today lot := by
  obtain ⟨c, hc, rfl⟩ := List.mem_map.mp hlot
  obtain ⟨d, hd, rfl⟩ := List.mem_map.mp hother
  rw [← score_eq_of_mem (List.mem_of_mem_take hc),
    ← score_eq_of_mem (List.mem_of_mem_drop hd)]
  exact le_of_mem_take_rankCandidates hc hd

theorem chosenLots_subset : chosenLots settings today lots ⊆ lots :=
  fun _ hlot => chosen_append_left_perm.mem_iff.mp
    (List.mem_append_left _ hlot)

theorem leftLots_subset : leftLots settings today lots ⊆ lots :=
  fun _ hlot => chosen_append_left_perm.mem_iff.mp
    (List.mem_append_right _ hlot)

theorem nodup_chosenLots (hnd : (lots.map (some ·.lotId)).Nodup) :
    ((chosenLots settings today lots).map (some ·.lotId)).Nodup := by
  have hall : ((chosenLots settings today lots
      ++ leftLots settings today lots).map (some ·.lotId)).Nodup :=
    (chosen_append_left_perm.map _).nodup_iff.mpr hnd
  rw [List.map_append] at hall
  exact hall.of_append_left

/-- A lot whose id is on sale scores no worse than one whose id is not. -/
theorem benefit_le_of_unsold
    (hids : (positions.map (·.lotId)).Nodup) (hlots : lots ⊆ positions)
    (hlot : lot ∈ positions) (hother : other ∈ lots)
    (hsold : some lot.lotId
      ∈ (chosenLots settings today lots).map (some ·.lotId))
    (hunsold : some other.lotId
      ∉ (chosenLots settings today lots).map (some ·.lotId)) :
    benefitPerDollar settings today other
      ≤ benefitPerDollar settings today lot := by
  obtain ⟨shown, hshown, hid⟩ := List.mem_map.mp hsold
  have hsame : shown = lot := List.inj_on_of_nodup_map hids
    (hlots (chosenLots_subset hshown)) hlot (Option.some.inj hid)
  subst hsame
  apply benefit_le_of_chosen hshown
  rcases List.mem_append.mp (chosen_append_left_perm.mem_iff.mpr hother)
    with hin | hin
  · exact absurd (List.mem_map.mpr ⟨other, hin, rfl⟩) hunsold
  · exact hin

end Chosen

-- ============================================================ the two runs

/-- The lots a result sells. -/
def OptimizationResult.soldLots (result : OptimizationResult) :
    List (Option String) := result.trades.map (·.lotId)

/-- The trades of whole lots sell these lots. -/
theorem soldLots_of_sells {result : OptimizationResult}
    {lots : List LotPositionView}
    (h : result.trades.map (·.unexplained) = lots.map fullSell) :
    result.soldLots = lots.map (some ·.lotId) := by
  have hids := congrArg (List.map TradeProposal.lotId) h
  rw [List.map_map, List.map_map] at hids
  exact hids

/-- The tags a book has of its lots and of its sleeve weights. -/
def bookTags (positions lots : List LotPositionView)
    (ips : InvestmentPolicyStatement) (today : Date) : List String :=
  lots.flatMap (harvestTags positions ips today)
    ++ ipsBoundTags (sleeveWeights (totalMarketValue positions) positions) ips

/-- The tags of a run that proposes nothing. -/
def noActionTags : List String :=
  ["no_action:constraints_or_no_loss_lots", "mip_no_feasible_lots"]

/-- What a run of the heuristic returns. -/
theorem runTaxAwareOptimizer_run (householdId : String)
    (ips : InvestmentPolicyStatement) (settings : Settings)
    (asOf : Option Date) (clockToday : Date)
    (hnav : 0 < totalMarketValue positions) :
    ∃ result extra, runTaxAwareOptimizer householdId positions ips settings
        asOf clockToday = .ok result
      ∧ result.trades.map (·.unexplained)
        = ((lossLots positions).filter (harvestable positions ips
          (asOf.getD clockToday))).map fullSell
      ∧ result.estimatedTaxDelta
        = (((lossLots positions).filter (harvestable positions ips
          (asOf.getD clockToday))).map
            (harvestTaxOf settings (asOf.getD clockToday))).sum
      ∧ extra ⊆ noActionTags
      ∧ result.bindingConstraints
        = (bookTags positions (lossLots positions) ips (asOf.getD clockToday)
          ++ extra).dedup.mergeSort (· ≤ ·) := by
  unfold runTaxAwareOptimizer
  dsimp only
  rw [if_neg (not_le.mpr hnav)]
  have hloss : ∀ lot ∈ lossLots positions, isLossLot lot := fun lot hlot =>
    (mem_lossLots.mp hlot).2
  have hbinding : ((lossLots positions).foldl (harvestLot positions ips
      settings (asOf.getD clockToday)) {}).binding = _ :=
    harvest_binding _ hloss {}
  have hsells : ((lossLots positions).foldl (harvestLot positions ips
      settings (asOf.getD clockToday)) {}).trades.map _ = _ :=
    harvest_sells _ _ _ _ _ {}
  have hdelta : ((lossLots positions).foldl (harvestLot positions ips
      settings (asOf.getD clockToday)) {}).taxDelta = _ :=
    harvest_taxDelta _ _ {}
  rw [hbinding]
  split
  · refine ⟨_, [_], rfl, hsells, hdelta.trans (zero_add _), ?_, rfl⟩
    simp [noActionTags]
  · refine ⟨_, [], rfl, hsells, hdelta.trans (zero_add _),
      List.nil_subset _, ?_⟩
    rw [List.append_nil]
    rfl

/-- What a run of the stub returns. -/
theorem runMipOptimizer_run (householdId : String)
    (ips : InvestmentPolicyStatement) (settings : Settings)
    (asOf : Option Date) (clockToday : Date)
    (hnav : 0 < totalMarketValue positions)
    (hmax : 0 ≤ settings.mipMaxTrades) :
    ∃ result extra, runMipOptimizer householdId positions ips settings asOf
        clockToday = .ok result
      ∧ result.trades.map (·.unexplained)
        = (chosenLots settings (asOf.getD clockToday) (eligibleLots positions
          ips (asOf.getD clockToday))).map fullSell
      ∧ result.estimatedTaxDelta
        = ((chosenLots settings (asOf.getD clockToday) (eligibleLots positions
          ips (asOf.getD clockToday))).map
            (harvestTaxOf settings (asOf.getD clockToday))).sum
      ∧ extra ⊆ noActionTags
      ∧ result.bindingConstraints
        = (bookTags positions (positions.filter isLossLot) ips
          (asOf.getD clockToday) ++ extra).dedup.mergeSort (· ≤ ·) := by
  generalize htoday : asOf.getD clockToday = today
  unfold runMipOptimizer
  rw [htoday]
  dsimp only
  rw [if_neg (not_le.mpr hnav), mip_candidates, ← eligibleLots_eq]
  dsimp only
  rw [List.nil_append, List.nil_append]
  unfold sliceTo
  rw [if_pos hmax]
  generalize hcs : (rankCandidates ((eligibleLots positions ips today).map
    fun lot => (benefitPerDollar settings today lot, lot))).take
      settings.mipMaxTrades.toNat = cs
  have hchosen : cs.map Prod.snd
      = chosenLots settings today (eligibleLots positions ips today) := by
    rw [← hcs]
    rfl
  -- every candidate is an eligible lot, so its gain is known
  have hgain : ∀ c ∈ cs, c.2.unrealizedGain.isSome := by
    intro c hc
    rw [← hcs] at hc
    obtain ⟨lot, hlot, rfl⟩ := List.mem_map.mp
      ((rankCandidates_perm _).mem_iff.mp (List.mem_of_mem_take hc))
    obtain ⟨gain, hsome, -⟩ := (mem_eligibleLots.mp hlot).2.loss
    show lot.unrealizedGain.isSome
    rw [hsome]
    rfl
  obtain ⟨hsells, hdelta, hbinding⟩ := mip_trades settings today cs hgain
    { binding := ((positions.filter isLossLot).flatMap
        (harvestTags positions ips today)) }
  rw [hchosen] at hsells hdelta
  rw [hbinding]
  split
  · refine ⟨_, [_], rfl, hsells, hdelta.trans (zero_add _), ?_, rfl⟩
    simp [noActionTags]
  · refine ⟨_, [], rfl, hsells, hdelta.trans (zero_add _),
      List.nil_subset _, ?_⟩
    rw [List.append_nil]
    rfl

-- ============================================================= the theorem

/-- What the two results have to do with each other. -/
structure HarvestersAgree (positions : List LotPositionView)
    (ips : InvestmentPolicyStatement) (settings : Settings) (today : Date)
    (mip heuristic : OptimizationResult) : Prop where
  sold_subset : mip.soldLots ⊆ heuristic.soldLots
  sold_count : mip.soldLots.length
    = min settings.mipMaxTrades.toNat heuristic.soldLots.length
  sold_nodup : mip.soldLots.Nodup ∧ heuristic.soldLots.Nodup
  best_sold : ∀ lot ∈ positions, ∀ other ∈ positions,
    HarvestEligible positions ips today other →
    some lot.lotId ∈ mip.soldLots → some other.lotId ∉ mip.soldLots →
    benefitPerDollar settings today other
      ≤ benefitPerDollar settings today lot
  delta_le : heuristic.estimatedTaxDelta ≤ mip.estimatedTaxDelta
  delta_nonpos : mip.estimatedTaxDelta ≤ 0
  all_sold : (eligibleLots positions ips today).length
      ≤ settings.mipMaxTrades →
    (mip.trades.map (·.unexplained)).Perm
        (heuristic.trades.map (·.unexplained))
      ∧ mip.estimatedTaxDelta = heuristic.estimatedTaxDelta
  binding_eq : mip.bindingConstraints.filter (· ∉ noActionTags)
    = heuristic.bindingConstraints.filter (· ∉ noActionTags)
  heuristic_sells : (heuristic.trades.map (·.unexplained)).Perm
    ((eligibleLots positions ips today).map fullSell)

/-- The heuristic harvests the eligible lots, largest loss first. -/
theorem harvested_perm_eligibleLots :
    ((lossLots positions).filter (harvestable positions ips today)).Perm
      (eligibleLots positions ips today) := by
  rw [eligibleLots_eq]
  exact (List.mergeSort_perm _ _).filter _

/-- With nonnegative rates a harvested loss never costs tax. -/
theorem harvestTaxOf_nonpos (hst : 0 ≤ settings.fedStcgRate)
    (hlt : 0 ≤ settings.fedLtcgRate)
    (h : HarvestEligible positions ips today lot) :
    harvestTaxOf settings today lot ≤ 0 := by
  obtain ⟨gain, hgain, hneg⟩ := h.loss
  unfold harvestTaxOf holdingPeriodRate
  rw [hgain, Option.getD_some]
  dsimp only
  split
  · exact mul_nonpos_of_nonpos_of_nonneg hneg.le hlt
  · exact mul_nonpos_of_nonpos_of_nonneg hneg.le hst

theorem sum_harvestTaxOf_nonpos (hst : 0 ≤ settings.fedStcgRate)
    (hlt : 0 ≤ settings.fedLtcgRate) {part : List LotPositionView}
    (hpart : part ⊆ eligibleLots positions ips today) :
    (part.map (harvestTaxOf settings today)).sum ≤ 0 := by
  have hneg : 0 ≤ ((part.map (harvestTaxOf settings today)).map
      fun tax => -tax).sum := by
    apply List.sum_nonneg
    intro saved hsaved
    rw [List.map_map] at hsaved
    obtain ⟨lot, hlot, rfl⟩ := List.mem_map.mp hsaved
    exact neg_nonneg.mpr
      (harvestTaxOf_nonpos hst hlt (mem_eligibleLots.mp (hpart hlot)).2)
  rw [← List.sum_neg] at hneg
  exact neg_nonneg.mp hneg

/-- Sorted without repeats, tags that agree apart from some are listed alike
apart from these. -/
theorem filter_sorted_tags {xs ys : List String} (p : String → Bool)
    (h : ∀ tag, p tag → (tag ∈ xs ↔ tag ∈ ys)) :
    (xs.dedup.mergeSort (· ≤ ·)).filter p
      = (ys.dedup.mergeSort (· ≤ ·)).filter p := by
  have hsorted : ∀ tags : List String,
      ((tags.dedup.mergeSort (· ≤ ·)).filter p).Pairwise
        fun a b => decide (a ≤ b) = true := fun tags =>
    (List.pairwise_mergeSort decide_le_trans decide_le_total _).filter _
  have hnodup : ∀ tags : List String,
      ((tags.dedup.mergeSort (· ≤ ·)).filter p).Nodup := fun tags =>
    ((List.mergeSort_perm _ _).nodup_iff.mpr (List.nodup_dedup tags)).filter _
  apply List.Perm.eq_of_pairwise _ (hsorted xs) (hsorted ys)
  · rw [List.perm_ext_iff_of_nodup (hnodup xs) (hnodup ys)]
    intro tag
    simp only [List.mem_filter, List.mem_mergeSort, List.mem_dedup]
    constructor
    · rintro ⟨hx, hp⟩
      exact ⟨(h tag hp).mp hx, hp⟩
    · rintro ⟨hy, hp⟩
      exact ⟨(h tag hp).mpr hy, hp⟩
  · intro a b _ _ hab hba
    exact le_antisymm (of_decide_eq_true hab) (of_decide_eq_true hba)

/-- A lot with a known loss and no market value. -/
def unmarkedLot : LotPositionView :=
  { lossLot with
    lotId := "lot_2"
    securityId := "sec_bnd"
    marketPrice := none
    marketValue := none }

/-- A share bought for a hundred and down to a price. -/
def fallenLot (lotId : String) (price : ℚ) : LotPositionView :=
  { lossLot with
    lotId := lotId
    marketPrice := some price
    marketValue := some price
    unrealizedGain := some (price - 100) }

/-- Three lots at a loss, the second the deepest. -/
def fallenLots : List LotPositionView :=
  [fallenLot "lot_1" 90, fallenLot "lot_2" 60, fallenLot "lot_3" 75]

/-- Room for two trades. -/
def twoTrades : Settings := { mipMaxTrades := 2 }

end Warehouse
