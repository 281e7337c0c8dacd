/-
The two wash-sale rules agree, and the harvester obeys them.

`MatchingBook` says that positions and lots are two readings of one
book: the same lot ids, each with its security and acquisition date, and
a group map that reads a security's substitute group off its positions.
Over such a book the decision plane's test and the ledger's are one test
(`washRisk_iff_linked`).

The harvester proposes a lot only where that test is silent
(`proposedSells_clear`), so the sells it proposes span no link at all
and the assignment leaves every chain id `None`.

# Two codes, one rule

The decision plane looks for a replacement of a lot among the positions, the
ledger for links between lots; their windows, their notion of substantially
identical and their treatment of the sold lot itself are written twice in
the source. Over a matching book the two predicates are shown to be one, by
unfolding neither further than its own spec lemma
(`evaluateWashSaleRisk_eq_nil_iff`, `mem_linkedLotIdsForSell`).
-/
import Warehouse.Decision.Heuristics
import Warehouse.Lib.Keyed
import Warehouse.Proofs.WashChains

namespace Warehouse

open Lib

-- ================================================================= the book

/-- A position and the lot it shows. -/
def ShowsLot (p : LotPositionView) (lot : Lot) : Prop :=
  p.lotId = lot.lotId ∧ p.securityId = lot.securityId
    ∧ p.acquisitionDate = lot.acquisitionDate

instance (p : LotPositionView) (lot : Lot) : Decidable (ShowsLot p lot) :=
  inferInstanceAs (Decidable (_ ∧ _ ∧ _))

/-- Positions, lots and group map of one book. -/
structure MatchingBook (positions : List LotPositionView) (lots : List Lot)
    (securityGroups : Dict String (Option String)) : Prop where
  distinctPositions : (positions.map (·.lotId)).Nodup
  distinctLots : (lots.map (·.lotId)).Nodup
  lotOf : ∀ p ∈ positions, ∃ lot ∈ lots, ShowsLot p lot
  positionOf : ∀ lot ∈ lots, ∃ p ∈ positions, ShowsLot p lot
  groups : ∀ p ∈ positions,
    groupOf securityGroups p.securityId = p.washSaleSubstituteGroup

variable {positions : List LotPositionView} {lots : List Lot}
  {securityGroups : Dict String (Option String)}

/-- The two identity tests agree on what the book shows. -/
theorem substantiallyIdentical_eq
    (book : MatchingBook positions lots securityGroups)
    {p q : LotPositionView} (hp : p ∈ positions) (hq : q ∈ positions) :
    substantiallyIdentical p q
      = substantiallyIdenticalSecurities p.securityId q.securityId
          (groupOf securityGroups p.securityId)
          (groupOf securityGroups q.securityId) := by
  unfold substantiallyIdentical substantiallyIdenticalSecurities
  rw [book.groups p hp, book.groups q hq]

/-- The decision plane's test on a candidate replacement position. -/
def riskyReplacement (lot : LotPositionView) (asOf : Date) (windowDays : Int)
    (other : LotPositionView) : Bool :=
  other.lotId ≠ lot.lotId && substantiallyIdentical lot other
    && decide (|other.acquisitionDate - asOf| ≤ windowDays)

/-- It is the ledger's test on the lots the two positions show. -/
theorem riskyReplacement_eq
    (book : MatchingBook positions lots securityGroups)
    {p q : LotPositionView} (hp : p ∈ positions) (hq : q ∈ positions)
    {sold other : Lot} (hsold : ShowsLot p sold) (hother : ShowsLot q other)
    (asOf : Date) (windowDays : Int) :
    riskyReplacement p asOf windowDays q
      = washLinked securityGroups windowDays sold asOf other := by
  obtain ⟨hpid, hpsec, -⟩ := hsold
  obtain ⟨hqid, hqsec, hqdate⟩ := hother
  unfold riskyReplacement washLinked withinWashWindow
  rw [substantiallyIdentical_eq book hp hq, hpid, hqid, hpsec, hqsec, hqdate]

theorem evaluateWashSaleRisk_eq_nil_iff (lot : LotPositionView)
    (ps : List LotPositionView) (asOf : Date) (windowDays : Int) :
    evaluateWashSaleRisk lot ps asOf windowDays = []
      ↔ ∀ q ∈ ps, riskyReplacement lot asOf windowDays q = false := by
  unfold evaluateWashSaleRisk
  rw [List.filterMap_eq_nil_iff]
  refine forall_congr' fun q => imp_congr_right fun _ => ?_
  unfold riskyReplacement
  by_cases hid : q.lotId = lot.lotId
  · simp [hid]
  · cases hsub : substantiallyIdentical lot q with
    | false => simp [hid]
    | true => simp [hid]

/-- The linked lots are the sold one and those in its window. -/
theorem mem_linkedLotIdsForSell {sold : Lot} {ls : List Lot}
    {sellDate : Date} {windowDays : Int} {x : String} :
    x ∈ linkedLotIdsForSell sold ls securityGroups sellDate windowDays
      ↔ x = sold.lotId ∨ ∃ other ∈ ls,
          washLinked securityGroups windowDays sold sellDate other = true
            ∧ other.lotId = x := by
  have hloop : linkedLotIdsForSell sold ls securityGroups sellDate windowDays
      = ls.foldl (fun linked other =>
          if washLinked securityGroups windowDays sold sellDate other then
            linked.insert other.lotId else linked) [sold.lotId] := by
    unfold linkedLotIdsForSell
    dsimp only
    congr 1
    funext linked other
    unfold washLinked
    by_cases hid : other.lotId = sold.lotId
    · simp [hid]
    · cases hsub : substantiallyIdenticalSecurities sold.securityId
          other.securityId (groupOf securityGroups sold.securityId)
          (groupOf securityGroups other.securityId) with
      | false => simp [hid]
      | true => simp [hid]
  rw [hloop, ← List.mem_singleton]
  exact Keyed.mem_foldl_insert_if id (fun _ _ => rfl) ls [sold.lotId]

/-- One lot, two rules, one answer. -/
theorem washRisk_iff_linked
    (book : MatchingBook positions lots securityGroups)
    {p : LotPositionView} (hp : p ∈ positions) {sold : Lot}
    (hsold : ShowsLot p sold) (asOf : Date) (windowDays : Int) :
    evaluateWashSaleRisk p positions asOf windowDays ≠ []
      ↔ ∃ x ∈ linkedLotIdsForSell sold lots securityGroups asOf windowDays,
          x ≠ p.lotId := by
  rw [ne_eq, evaluateWashSaleRisk_eq_nil_iff]
  push Not
  refine ⟨fun h => ?_, fun h => ?_⟩
  · obtain ⟨q, hq, hrisk⟩ := h
    obtain ⟨other, hmem, hother⟩ := book.lotOf q hq
    rw [Bool.ne_false_iff, riskyReplacement_eq book hp hq hsold hother] at hrisk
    refine ⟨other.lotId,
      mem_linkedLotIdsForSell.mpr (Or.inr ⟨other, hmem, hrisk, rfl⟩), ?_⟩
    rw [hsold.1]
    unfold washLinked at hrisk
    simp only [Bool.and_eq_true, decide_eq_true_eq] at hrisk
    exact hrisk.1.1
  · obtain ⟨x, hx, hne⟩ := h
    rcases mem_linkedLotIdsForSell.mp hx with rfl | ⟨other, hmem, hlink, -⟩
    · exact absurd hsold.1.symm hne
    · obtain ⟨q, hq, hother⟩ := book.positionOf other hmem
      refine ⟨q, hq, ?_⟩
      rw [Bool.ne_false_iff, riskyReplacement_eq book hp hq hsold hother]
      exact hlink

-- ============================================================ the harvester

/-- The loss lots the loop proposes. -/
def harvestable (positions : List LotPositionView)
    (ips : InvestmentPolicyStatement) (today : Date) (lot : LotPositionView) :
    Bool :=
  (evaluateLotSellAllowed lot ips).1 && lot.unrealizedGain.isSome
    && lot.marketValue.isSome
    && (evaluateWashSaleRisk lot positions today).isEmpty

/-- A trade without its wording. -/
def TradeProposal.unexplained (trade : TradeProposal) : TradeProposal :=
  { trade with rationale := "" }

/-- The sell of a whole lot. -/
def fullSell (lot : LotPositionView) : TradeProposal where
  lotId := some lot.lotId
  securityId := lot.securityId
  accountId := lot.accountId
  side := "sell"
  quantity := lot.quantity
  rationale := ""

/-- One turn of the loop: the tags of the tests it comes to, and for a lot
it harvests one sell and its tax. -/
theorem harvestLot_spec (positions : List LotPositionView)
    (ips : InvestmentPolicyStatement) (settings : Settings) (today : Date)
    (st : HarvestState) (lot : LotPositionView) :
    ∃ rationale, harvestLot positions ips settings today st lot
      = { trades := st.trades
            ++ if harvestable positions ips today lot then
                [{ fullSell lot with rationale := rationale }]
              else []
          binding := st.binding ++ ((evaluateLotSellAllowed lot ips).2
            ++ if (evaluateLotSellAllowed lot ips).1
                && lot.unrealizedGain.isSome && lot.marketValue.isSome then
                evaluateWashSaleRisk lot positions today
              else [])
          taxDelta := st.taxDelta
            + if harvestable positions ips today lot then
                lot.unrealizedGain.getD 0
                  * holdingPeriodRate lot.acquisitionDate today settings
              else 0 } := by
  unfold harvestLot harvestable
  cases hallowed : (evaluateLotSellAllowed lot ips).1 with
  | false => exact ⟨"", by simp [hallowed]⟩
  | true =>
      cases hgain : lot.unrealizedGain with
      | none => exact ⟨"", by simp [hallowed]⟩
      | some gain =>
          cases hmv : lot.marketValue with
          | none => exact ⟨"", by simp [hallowed]⟩
          | some marketValue =>
              cases hrisk : evaluateWashSaleRisk lot positions today with
              | nil => simp [hallowed, fullSell, taxOnGain]
              | cons tag tags => exact ⟨"", by simp [hallowed]⟩

/-- It sells its own lot, or nothing. -/
theorem harvestLot_sells (ips : InvestmentPolicyStatement)
    (settings : Settings) (today : Date) (st : HarvestState)
    (lot : LotPositionView) :
    (harvestLot positions ips settings today st lot).trades.map
        (·.unexplained)
      = st.trades.map (·.unexplained)
        ++ if harvestable positions ips today lot then [fullSell lot]
           else [] := by
  obtain ⟨rationale, h⟩ :=
    harvestLot_spec positions ips settings today st lot
  rw [h]
  cases harvestable positions ips today lot with
  | false => simp
  | true => simp [TradeProposal.unexplained, fullSell]

/-- The fold sells lots it may harvest. -/
theorem harvest_sells (positions : List LotPositionView)
    (ips : InvestmentPolicyStatement) (settings : Settings) (today : Date)
    (ls : List LotPositionView) :
    ∀ st : HarvestState,
      (ls.foldl (harvestLot positions ips settings today) st).trades.map
          (·.unexplained)
        = st.trades.map (·.unexplained)
          ++ (ls.filter (harvestable positions ips today)).map fullSell := by
  induction ls with
  | nil => intro st; simp
  | cons lot rest ih =>
      intro st
      rw [List.foldl_cons, ih, harvestLot_sells]
      cases h : harvestable positions ips today lot with
      | false => simp [h]
      | true => simp [h]

theorem harvest_lotIds (ips : InvestmentPolicyStatement)
    (settings : Settings) (today : Date) (ls : List LotPositionView)
    (st : HarvestState) :
    (ls.foldl (harvestLot positions ips settings today) st).trades.map
        (·.lotId)
      = st.trades.map (·.lotId)
        ++ (ls.filter (harvestable positions ips today)).map
          (some ·.lotId) := by
  have hsells := congrArg (List.map TradeProposal.lotId)
    (harvest_sells positions ips settings today ls st)
  rw [List.map_append, List.map_map, List.map_map, List.map_map] at hsells
  exact hsells

/-- The trades of a successful run, by lot: the harvestable loss lots. -/
theorem runTaxAwareOptimizer_lotIds {householdId : String}
    {ips : InvestmentPolicyStatement} {settings : Settings}
    {asOf : Option Date} {clockToday : Date} {result : OptimizationResult}
    (hrun : runTaxAwareOptimizer householdId positions ips settings asOf
      clockToday = .ok result) :
    result.trades.map (·.lotId)
      = ((lossLots positions).filter
          (harvestable positions ips (asOf.getD clockToday))).map
            (some ·.lotId) := by
  unfold runTaxAwareOptimizer at hrun
  dsimp only at hrun
  split at hrun
  · cases hrun
  · cases hrun
    rw [harvest_lotIds]
    rfl

/-- A book with a market value is never refused. -/
theorem runTaxAwareOptimizer_ok (householdId : String)
    (ips : InvestmentPolicyStatement) (settings : Settings)
    (asOf : Option Date) (clockToday : Date)
    (hmv : 0 < totalMarketValue positions) :
    ∃ result, runTaxAwareOptimizer householdId positions ips settings asOf
      clockToday = .ok result := by
  unfold runTaxAwareOptimizer
  dsimp only
  rw [if_neg (not_le.mpr hmv)]
  exact ⟨_, rfl⟩

/-- The sells a run proposes, as loss sells dated `asOf`. -/
def proposedSells (result : OptimizationResult) (asOf : Date) :
    List WashSaleSellEvent :=
  (result.trades.filterMap (·.lotId)).map fun lotId =>
    { lotId := lotId, sellDate := asOf }

/-- Every proposed sell is of a position the wash-sale test clears. -/
theorem proposedSells_clear {householdId : String}
    {ips : InvestmentPolicyStatement} {settings : Settings} {asOf : Date}
    {clockToday : Date} {result : OptimizationResult}
    (hrun : runTaxAwareOptimizer householdId positions ips settings
      (some asOf) clockToday = .ok result) :
    (proposedSells result asOf).length = result.trades.length
      ∧ ∀ sell ∈ proposedSells result asOf, sell.sellDate = asOf
        ∧ ∃ p ∈ positions, p.lotId = sell.lotId
          ∧ evaluateWashSaleRisk p positions asOf = [] := by
  have hids := runTaxAwareOptimizer_lotIds hrun
  have hsells : result.trades.filterMap (·.lotId)
      = ((lossLots positions).filter
          (harvestable positions ips asOf)).map (·.lotId) := by
    have := congrArg (List.filterMap id) hids
    simpa [List.filterMap_map, Function.comp_def] using this
  refine ⟨?_, fun sell hsell => ?_⟩
  · have hlen := congrArg List.length hids
    simp only [List.length_map] at hlen
    rw [proposedSells, List.length_map, hsells, List.length_map, hlen]
    rfl
  · unfold proposedSells at hsell
    rw [hsells] at hsell
    obtain ⟨lotId, hmem, rfl⟩ := List.mem_map.mp hsell
    obtain ⟨p, hp, rfl⟩ := List.mem_map.mp hmem
    obtain ⟨hloss, hharvest⟩ := List.mem_filter.mp hp
    have hpos : p ∈ positions :=
      (List.mem_filter.mp (List.mem_mergeSort.mp hloss)).1
    unfold harvestable at hharvest
    simp only [Bool.and_eq_true, List.isEmpty_iff] at hharvest
    exact ⟨rfl, p, hpos, rfl, hharvest.2⟩

-- ============================================================== the theorem

/-- Sells the test clears, all at one date, span no link. -/
theorem not_washLink_of_clear
    (book : MatchingBook positions lots securityGroups)
    {sells : List WashSaleSellEvent} {asOf : Date}
    (hclear : ∀ sell ∈ sells, sell.sellDate = asOf
      ∧ ∃ p ∈ positions, p.lotId = sell.lotId
        ∧ evaluateWashSaleRisk p positions asOf = []) (a b : String) :
    ¬ WashLink lots securityGroups sells washSaleWindowDays a b := by
  intro h
  obtain ⟨sell, hsell, -, sold, hsold, hid, ha, other, hother, hb, hne, hsub,
    hwin⟩ := h
  obtain ⟨hdate, p, hp, hpid, hrisk⟩ := hclear sell hsell
  rw [hdate] at hwin
  -- distinct ids: the position the test cleared shows the lot sold
  obtain ⟨shown, hshown, hshows⟩ := book.lotOf p hp
  have hsame : shown = sold :=
    List.inj_on_of_nodup_map book.distinctLots hshown hsold
      (by rw [← hshows.1, hpid, hid])
  subst hsame
  have hlink : washLinked securityGroups washSaleWindowDays shown asOf other
      = true := by
    unfold washLinked
    rw [Bool.and_eq_true, Bool.and_eq_true, decide_eq_true_eq,
      substantiallyIdentical_iff, withinWashWindow_iff]
    exact ⟨⟨by rw [hb, ha]; exact hne, hsub⟩, hwin⟩
  obtain ⟨q, hq, hshowsq⟩ := book.positionOf other hother
  have hclearq := (evaluateWashSaleRisk_eq_nil_iff p positions asOf
    washSaleWindowDays).mp hrisk q hq
  rw [riskyReplacement_eq book hp hq hshows hshowsq, hlink] at hclearq
  cases hclearq

/-- The two wash-sale rules agree and harvesting is wash-safe.

Over one book, at any date: the decision plane reports a conflict on a
lot exactly when the ledger links it to some other lot; and whatever the
IPS and settings, the sells a run proposes all name lots, and fed back as
loss sells of that date they leave every chain id `None`. -/
theorem harvest_wash_safe (positions : List LotPositionView)
    (lots : List Lot) (securityGroups : Dict String (Option String))
    (book : MatchingBook positions lots securityGroups) (asOf : Date) :
    (∀ p ∈ positions, ∀ sold ∈ lots, p.lotId = sold.lotId →
      (evaluateWashSaleRisk p positions asOf ≠ []
        ↔ ∃ x ∈ linkedLotIdsForSell sold lots securityGroups asOf,
            x ≠ p.lotId))
    ∧ ∀ householdId ips settings clockToday result,
        runTaxAwareOptimizer householdId positions ips settings (some asOf)
          clockToday = .ok result →
        (proposedSells result asOf).length = result.trades.length
          ∧ assignWashSaleChainIds lots securityGroups
              (proposedSells result asOf)
            = .ok (lots.map fun lot =>
                { lot with washSaleChainId := none }) := by
  refine ⟨fun p hp sold hsold hid => ?_, fun _ _ _ _ result hrun => ?_⟩
  · obtain ⟨shown, hshown, hshows⟩ := book.lotOf p hp
    have hsame : shown = sold :=
      List.inj_on_of_nodup_map book.distinctLots hshown hsold
        (by rw [← hshows.1, hid])
    subst hsame
    exact washRisk_iff_linked book hp hshows asOf washSaleWindowDays
  · obtain ⟨hlen, hclear⟩ := proposedSells_clear hrun
    have hknown : ∀ sell ∈ proposedSells result asOf,
        ∃ lot ∈ lots, lot.lotId = sell.lotId := by
      intro sell hsell
      obtain ⟨-, p, hp, hid, -⟩ := hclear sell hsell
      obtain ⟨lot, hlot, hshows⟩ := book.lotOf p hp
      exact ⟨lot, hlot, by rw [← hshows.1, hid]⟩
    refine ⟨hlen, ?_⟩
    rw [assign_eq book.distinctLots hknown]
    refine congrArg Except.ok (List.map_congr_left fun lot hlot => ?_)
    have hnone := (washChainLabel_eq_none_iff book.distinctLots
      (List.mem_map.mpr ⟨lot, hlot, rfl⟩)).mpr fun b =>
        ⟨not_washLink_of_clear book hclear lot.lotId b,
          not_washLink_of_clear book hclear b lot.lotId⟩
    rw [hnone]

/-- A position of the book below, marked at `marketPrice`. -/
def bookPosition (lotId securityId : String) (group : Option String)
    (acquisitionDate : Date) (marketPrice : ℚ) : LotPositionView where
  lotId := lotId
  accountId := "acct_a"
  accountName := "Taxable"
  securityId := securityId
  ticker := none
  securityName := securityId
  securityAssetClass := .etf
  quantity := 1
  costBasisPerShare := 100
  totalCostBasis := 100
  marketPrice := some marketPrice
  marketValue := some marketPrice
  unrealizedGain := some (marketPrice - 100)
  acquisitionDate := acquisitionDate
  isRestricted := false
  washSaleSubstituteGroup := group

/-- One old lot at a loss, harvested; two lots of one group bought the
same week, each the other's conflict. -/
theorem harvest_wash_safe_three :
    let positions :=
      [bookPosition "lot_a" "sec_vti" none 0 90,
       bookPosition "lot_b" "sec_bnd" (some "bond") 200 110,
       bookPosition "lot_c" "sec_agg" (some "bond") 201 110]
    let lots := positions.map fun p : LotPositionView =>
      ({ lotId := p.lotId, accountId := p.accountId,
         securityId := p.securityId, quantity := p.quantity,
         costBasisPerShare := p.costBasisPerShare,
         acquisitionDate := p.acquisitionDate } : Lot)
    let securityGroups := Dict.ofPairs
      (positions.map fun p => (p.securityId, p.washSaleSubstituteGroup))
    let ips : InvestmentPolicyStatement :=
      { ipsId := "ips_h", householdId := "h", version := 1,
        effectiveDate := "2026-01-01", allocationTargets := [],
        concentrationFraction := by unfold IsFraction; norm_num,
        liquidityFraction := by simp, turnoverFraction := by simp }
    (∃ x ∈ linkedLotIdsForSell
        { lotId := "lot_b", accountId := "acct_a", securityId := "sec_bnd",
          quantity := 1, costBasisPerShare := 100, acquisitionDate := 200 }
        lots securityGroups 210, x ≠ "lot_b")
    ∧ ∃ result, runTaxAwareOptimizer "h" positions ips {} (some 210) 0
          = .ok result
        ∧ (proposedSells result 210).length = result.trades.length
        ∧ assignWashSaleChainIds lots securityGroups (proposedSells result 210)
          = .ok lots := by
  intro positions lots securityGroups ips
  have book : MatchingBook positions lots securityGroups :=
    ⟨by decide, by decide, by decide, by decide, by decide⟩
  obtain ⟨hagree, hsafe⟩ := harvest_wash_safe positions lots securityGroups
    book 210
  have hmv : 0 < totalMarketValue positions := by
    simp [positions, totalMarketValue, bookPosition]
    norm_num
  obtain ⟨result, hrun⟩ := runTaxAwareOptimizer_ok "h" ips {} (some 210) 0 hmv
  obtain ⟨hlen, hassign⟩ := hsafe "h" ips {} 0 result hrun
  refine ⟨(hagree (bookPosition "lot_b" "sec_bnd" (some "bond") 200 110)
    (by simp [positions]) _ (by simp [lots, positions, bookPosition])
    rfl).mp (by decide), result, hrun, hlen, ?_⟩
  rw [hassign]
  rfl

end Warehouse
