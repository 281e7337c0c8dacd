/-
Emitted theses are pre-committed, and the watch reads them.

A thesis is made of the lots under its key (`Precommitted`): it is effective
with the first of them, so the monitor never finds hindsight in it, and
every lot finds it in the store (`emitted_thesis`). The watch's loop is then
a flat map of the lots (`watchLots`), in which a drawdown alert stands for
each lot emitted at a loss and for no other (`drawdown_of_marked`).

# The watch

Every emitted position has a thesis, committed on the acquisition date of
its first lot with the criteria of its instrument, and the watch evaluates
each lot against it on a later day. A drawdown alert is raised for the lots
emitted at a loss and for none else. No thesis sets a horizon and no emitted
lot is past the liquidity floor, so besides drawdowns only residuals are
alerts (`residualBreaches_kind`).

# Settings

`WatchLimits` names what is asked of the settings: the loss the generator
emits reaches the floor of a concentrated name, both floors are losses, and
the liquidity floor admits every tier. The defaults do
(`watchLimits_default`).
-/
import Warehouse.Proofs.KillCriteria
import Warehouse.Proofs.WorkflowSmoke
import Warehouse.Research.SyntheticTheses

namespace Warehouse

open Lib

-- =================================================================== store

section Store

variable {theses : List PositionThesis} {thesis : PositionThesis}

/-- `(thesis.account_id, thesis.instrument)`. -/
def PositionThesis.key (thesis : PositionThesis) : String × String :=
  (thesis.accountId, thesis.instrument)

/-- A store of theses is the dict of their keys. -/
theorem ThesisStore.byKey_fromTheses (theses : List PositionThesis) :
    (ThesisStore.fromTheses theses).byKey
      = Dict.ofPairs (theses.map fun t => (t.key, t)) := by
  have hfold : ∀ store : ThesisStore, (theses.foldl add store).byKey
      = store.byKey.setAll (theses.map fun t => (t.key, t)) := by
    induction theses with
    | nil => intro store; rfl
    | cons t rest ih =>
      intro store
      rw [List.foldl_cons, ih]
      rfl
  exact hfold ThesisStore.empty

/-- Theses under distinct keys are all kept. -/
theorem ThesisStore.entries_fromTheses (h : (theses.map (·.key)).Nodup) :
    (ThesisStore.fromTheses theses).byKey.entries
      = theses.map fun t => (t.key, t) := by
  rw [byKey_fromTheses, Dict.entries_ofPairs]
  rw [List.map_map]
  exact h

theorem ThesisStore.get_fromTheses (h : (theses.map (·.key)).Nodup)
    (hthesis : thesis ∈ theses) :
    (ThesisStore.fromTheses theses).get thesis.accountId thesis.instrument
      = some thesis := by
  apply Dict.get?_eq_some_iff.mpr
  rw [entries_fromTheses h]
  exact List.mem_map.mpr ⟨thesis, hthesis, rfl⟩

end Store

-- ================================================================== groups

section Groups

variable {settings : AppSettings} {version : String} {lots : List SyntheticLot}
  {key : String × String} {thesis : PositionThesis}

/-- The lots a thesis is committed for. -/
def lotsUnder (lots : List SyntheticLot) (key : String × String) :
    List SyntheticLot := lots.filter fun lot => thesisKey lot = key

theorem mem_lotsUnder {lot : SyntheticLot} :
    lot ∈ lotsUnder lots key ↔ lot ∈ lots ∧ thesisKey lot = key := by
  unfold lotsUnder
  rw [List.mem_filter, decide_eq_true_eq]

/-- A thesis as it is committed for a group of lots. -/
structure Precommitted (settings : AppSettings) (key : String × String)
    (lots : List SyntheticLot) (thesis : PositionThesis) : Prop where
  keyed : thesis.key = key
  effective : ∀ lot ∈ lots, thesis.effectiveDate ≤ lot.acquisitionDate
  first : ∃ lot ∈ lots, thesis.effectiveDate = lot.acquisitionDate
  kill : thesis.killCriteria = killCriteriaFor settings key.2
    (lots.any fun lot => truthy lot.concentrationIssuer)

/-- The least of some dates is one of them, and no later than any. -/
theorem foldl_min_dates (dates : List Date) : ∀ first : Date,
    dates.foldl min first ∈ first :: dates
      ∧ ∀ d ∈ first :: dates, dates.foldl min first ≤ d := by
  induction dates with
  | nil => intro first; simp
  | cons d rest ih =>
    intro first
    obtain ⟨hmem, hle⟩ := ih (min first d)
    rw [List.foldl_cons]
    constructor
    · rcases List.mem_cons.mp hmem with heq | hmem
      · rw [heq]
        rcases min_choice first d with h | h
        · rw [h]; exact List.mem_cons_self
        · rw [h]; exact List.mem_cons_of_mem _ List.mem_cons_self
      · exact List.mem_cons_of_mem _ (List.mem_cons_of_mem _ hmem)
    · intro d' hd'
      have hfirst := hle _ List.mem_cons_self
      rcases List.mem_cons.mp hd' with rfl | hd'
      · exact hfirst.trans (min_le_left _ _)
      · rcases List.mem_cons.mp hd' with rfl | hd'
        · exact hfirst.trans (min_le_right _ _)
        · exact hle _ (List.mem_cons_of_mem _ hd')

variable (settings version key) in
/-- A group of lots has a thesis, committed with the criteria of its instrument. -/
theorem groupThesis_precommitted (hne : lots ≠ []) :
    ∃ thesis, groupThesis settings version (key, lots) = some thesis
      ∧ Precommitted settings key lots thesis := by
  cases lots with
  | nil => exact absurd rfl hne
  | cons first rest =>
    obtain ⟨hmem, hle⟩ := foldl_min_dates (rest.map (·.acquisitionDate))
      first.acquisitionDate
    refine ⟨_, rfl, rfl, fun lot hlot => ?_, ?_, rfl⟩
    · have hin : lot.acquisitionDate ∈ (first :: rest).map
          (·.acquisitionDate) := List.mem_map_of_mem hlot
      exact hle _ hin
    · have hfirst : (rest.map (·.acquisitionDate)).foldl min
          first.acquisitionDate ∈ (first :: rest).map (·.acquisitionDate) :=
        hmem
      obtain ⟨lot, hlot, heq⟩ := List.mem_map.mp hfirst
      exact ⟨lot, hlot, heq.symm⟩

theorem groupThesis_key {group : (String × String) × List SyntheticLot}
    (h : groupThesis settings version group = some thesis) :
    thesis.key = group.1 := by
  obtain ⟨key, lots⟩ := group
  cases lots with
  | nil => cases h
  | cons first rest =>
    obtain rfl := Option.some.inj h
    rfl

/-- A group is the lots under its key, and has one. -/
theorem mem_groups {group : List SyntheticLot} :
    (key, group) ∈ (Dict.groupBy thesisKey lots).entries
      ↔ group = lotsUnder lots key ∧ group ≠ [] := by
  rw [← Dict.get?_eq_some_iff, Dict.get?_groupBy]
  unfold lotsUnder
  split
  · next hnil =>
    constructor
    · intro h; cases h
    · rintro ⟨rfl, hne⟩; exact absurd hnil hne
  · next hne =>
    rw [Option.some.injEq]
    constructor
    · rintro rfl; exact ⟨rfl, hne⟩
    · rintro ⟨rfl, -⟩; rfl

end Groups

section Emitted

variable {settings : AppSettings} {fixture : HouseholdFixture}
  {configVersion : Option String} {thesis : PositionThesis}
  {lot : SyntheticLot}

/-- A thesis is emitted for the lots of its key, and for every lot's key. -/
theorem mem_emitSyntheticTheses (h : thesis ∈ emitSyntheticTheses settings
    fixture configVersion) : Precommitted settings thesis.key
      (lotsUnder fixture.lots thesis.key) thesis := by
  unfold emitSyntheticTheses at h
  obtain ⟨⟨key, group⟩, hmem, hmade⟩ := List.mem_filterMap.mp h
  rw [List.mem_insertionSort] at hmem
  obtain ⟨rfl, hne⟩ := mem_groups.mp hmem
  obtain ⟨made, hgroup, hpre⟩ := groupThesis_precommitted settings
    (if truthy configVersion then configVersion.getD ""
      else settings.analystConfigVersion) key hne
  rw [hgroup] at hmade
  obtain rfl := Option.some.inj hmade
  rw [hpre.keyed]
  exact hpre

/-- Every lot's key is documented, and no other. -/
theorem mem_map_key_emitSyntheticTheses {key : String × String} :
    key ∈ (emitSyntheticTheses settings fixture configVersion).map (·.key)
      ↔ ∃ lot ∈ fixture.lots, thesisKey lot = key := by
  constructor
  · intro h
    obtain ⟨thesis, hthesis, rfl⟩ := List.mem_map.mp h
    obtain ⟨lot, hlot, -⟩ := (mem_emitSyntheticTheses hthesis).first
    exact ⟨lot, mem_lotsUnder.mp hlot⟩
  · rintro ⟨lot, hlot, rfl⟩
    have hne : lotsUnder fixture.lots (thesisKey lot) ≠ [] :=
      List.ne_nil_of_mem (mem_lotsUnder.mpr ⟨hlot, rfl⟩)
    obtain ⟨thesis, hgroup, hpre⟩ := groupThesis_precommitted settings
      (if truthy configVersion then configVersion.getD ""
        else settings.analystConfigVersion) (thesisKey lot) hne
    refine List.mem_map.mpr ⟨thesis, ?_, hpre.keyed⟩
    unfold emitSyntheticTheses
    refine List.mem_filterMap.mpr ⟨(thesisKey lot, _), ?_, hgroup⟩
    rw [List.mem_insertionSort]
    exact mem_groups.mpr ⟨rfl, hne⟩

/-- The keys come in order, each once. -/
theorem sorted_emitSyntheticTheses :
    (emitSyntheticTheses settings fixture configVersion).Pairwise fun t u =>
      (toLex t.key : String ×ₗ String) < toLex u.key := by
  unfold emitSyntheticTheses
  dsimp only
  have hsorted := pairwise_sortBy
    (r := fun a b : String ×ₗ String => a ≤ b)
    (fun g : (String × String) × List SyntheticLot => toLex g.1)
    (Dict.groupBy thesisKey fixture.lots).entries
  have hnodup : ((Dict.groupBy thesisKey fixture.lots).entries.insertionSort
      fun g h => (toLex g.1 : String ×ₗ String) ≤ toLex h.1).Pairwise
        fun g h => g.1 ≠ h.1 := by
    rw [← List.pairwise_map (f := Prod.fst) (R := (· ≠ ·))]
    exact ((List.perm_insertionSort _ _).map Prod.fst).nodup_iff.mpr
      (Dict.groupBy thesisKey fixture.lots).nodupKeys
  refine List.Pairwise.filterMap _ (fun g h hgh t ht u hu => ?_)
    (hsorted.and hnodup)
  obtain ⟨hle, hne⟩ := hgh
  rw [groupThesis_key ht, groupThesis_key hu]
  exact lt_of_le_of_ne hle fun heq => hne (toLex.injective heq)

theorem nodup_emitSyntheticTheses : ((emitSyntheticTheses settings fixture
    configVersion).map (·.key)).Nodup := by
  refine List.pairwise_map.mpr (sorted_emitSyntheticTheses.imp ?_)
  intro t u hlt heq
  rw [heq] at hlt
  exact lt_irrefl _ hlt

/-- Every lot finds its thesis in the store. -/
theorem emitted_thesis (settings : AppSettings)
    (configVersion : Option String) (hlot : lot ∈ fixture.lots) :
    ∃ thesis, (ThesisStore.fromTheses (emitSyntheticTheses settings fixture
        configVersion)).get lot.accountId lot.ticker = some thesis
      ∧ Precommitted settings (thesisKey lot)
        (lotsUnder fixture.lots (thesisKey lot)) thesis := by
  have hemitted : thesisKey lot
      ∈ (emitSyntheticTheses settings fixture configVersion).map (·.key) :=
    mem_map_key_emitSyntheticTheses.mpr ⟨lot, hlot, rfl⟩
  obtain ⟨thesis, hthesis, hkey⟩ := List.mem_map.mp hemitted
  have hget := ThesisStore.get_fromTheses nodup_emitSyntheticTheses hthesis
  have hpre := mem_emitSyntheticTheses hthesis
  rw [hkey] at hpre
  obtain ⟨haccount, hinstrument⟩ := Prod.mk.inj hkey
  rw [haccount, hinstrument] at hget
  exact ⟨thesis, hget, hpre⟩

end Emitted

-- ================================================================= monitor

section Monitor

variable {ctx : DecimalContext} {settings : AppSettings}
  {lots : List SyntheticLot} {lot : SyntheticLot} {pos : LotPositionView}
  {thesis : PositionThesis}

/-- A view is looked up under its ticker. -/
theorem LotViewed.instrumentKey (h : LotViewed lot pos) :
    instrumentKey pos = lot.ticker := by
  unfold Warehouse.instrumentKey
  rw [h.ticker, h.securityId]
  dsimp only
  split
  · rfl
  · rfl

/-- So a view finds the thesis of its lot. -/
theorem LotViewed.thesisKey (h : LotViewed lot pos) :
    (pos.accountId, Warehouse.instrumentKey pos) = thesisKey lot := by
  rw [h.accountId, h.instrumentKey]
  rfl

/-- What the monitor computes for a lot of its thesis. -/
def lotBreaches (ctx : DecimalContext) (asOf : Date) (active : Option ℚ)
    (thesis : PositionThesis) (lot : SyntheticLot) (tier : Nat) :
    List KillBreach :=
  let cost := lot.quantity * lot.costBasisPerShare
  killBreaches ctx lot.accountId lot.ticker thesis.killCriteria
    ((lot.marketValue - cost) / cost)
    (max (asOf - lot.acquisitionDate) 0 / daysPerYear) tier active

variable (ctx) in
/-- The monitor does not refuse a lot of the thesis it was committed for,
unless the lot cost nothing. -/
theorem evaluateKillCriteria_viewed
    (hpre : Precommitted settings (Warehouse.thesisKey lot)
      (lotsUnder lots (Warehouse.thesisKey lot)) thesis)
    (hlot : lot ∈ lots) (hview : LotViewed lot pos) (asOf : Date)
    (active : Option ℚ) :
    (0 < pos.totalCostBasis → evaluateKillCriteria ctx pos thesis asOf active
        = .ok (lotBreaches ctx asOf active thesis lot pos.liquidityTier))
      ∧ (pos.totalCostBasis ≤ 0 → ∃ err,
        evaluateKillCriteria ctx pos thesis asOf active = .error err) := by
  have hkey := hpre.keyed.trans hview.thesisKey.symm
  obtain ⟨haccount, hinstrument⟩ := Prod.mk.inj hkey
  have hsame : ¬ (thesis.accountId ≠ pos.accountId
      ∨ thesis.instrument ≠ Warehouse.instrumentKey pos) := by
    rw [not_or, not_not, not_not]
    exact ⟨haccount, hinstrument⟩
  have hearly : ¬ thesis.effectiveDate > pos.acquisitionDate := by
    rw [hview.acquired]
    exact not_lt.mpr (hpre.effective lot (mem_lotsUnder.mpr ⟨hlot, rfl⟩))
  unfold evaluateKillCriteria
  dsimp only
  rw [if_neg hsame, if_neg hearly, hview.marketValue, hview.gain]
  dsimp only
  constructor
  · intro hcost
    rw [if_neg (not_le.mpr hcost), hview.instrumentKey, hview.accountId,
      hview.costBasis, hview.acquired]
    rfl
  · intro hfree
    rw [if_pos hfree]
    exact ⟨_, rfl⟩

end Monitor

-- ================================================================== alarms

section Alarms

variable {ctx : DecimalContext} {settings : AppSettings}
  {lots : List SyntheticLot} {lot : SyntheticLot} {pos : LotPositionView}
  {thesis : PositionThesis} {breaches : List KillBreach}

/-- Limits the emitted marks are on the far side of: a seventh lost is past
the floor of a concentrated name, nothing lost is past none. -/
structure WatchLimits (settings : AppSettings) : Prop where
  reached : -14 / 100 ≤ settings.analystKillConcentratedDrawdownPct
  concentrated : settings.analystKillConcentratedDrawdownPct < 0
  diversified : settings.analystKillDrawdownPct < 0
  tier : 3 ≤ settings.analystKillMinLiquidityTier

/-- The alert of a lot at a loss: a seventh is gone. -/
def lossBreach (settings : AppSettings) (lot : SyntheticLot) :
    KillBreach where
  accountId := lot.accountId
  instrument := lot.ticker
  criterion := .drawdownVsCost
  observed := -1 / 7
  threshold := settings.analystKillConcentratedDrawdownPct
  detail := "drawdown " ++ formatPercent 2 (-1 / 7) ++ " ≤ kill "
    ++ formatPercent 2 settings.analystKillConcentratedDrawdownPct

/-- Drawdown alerts stand for the lots at a loss, and whatever else is
raised is a residual. -/
structure Watched (settings : AppSettings) (lots : List SyntheticLot)
    (breaches : List KillBreach) : Prop where
  drawdowns : breaches.filter (·.criterion = .drawdownVsCost)
    = (lots.filter (·.isLossLot)).map (lossBreach settings)
  kinds : ∀ b ∈ breaches, b.criterion = .drawdownVsCost
    ∨ b.criterion = .residualCap

/-- Watching a book is watching its parts. -/
theorem Watched.append {lots' : List SyntheticLot}
    {breaches' : List KillBreach} (h : Watched settings lots breaches)
    (h' : Watched settings lots' breaches') :
    Watched settings (lots ++ lots') (breaches ++ breaches') := by
  constructor
  · rw [List.filter_append, List.filter_append, List.map_append, h.drawdowns,
      h'.drawdowns]
  · intro b hb
    rcases List.mem_append.mp hb with hb | hb
    · exact h.kinds b hb
    · exact h'.kinds b hb

/-- Every emitted lot is in the first three tiers. -/
theorem lotLiquidityTier_le {tier : Nat}
    (h : lotLiquidityTier lot = .ok tier) : tier ≤ 3 := by
  unfold lotLiquidityTier at h
  obtain ⟨c, -, h⟩ := bind_ok_iff.mp h
  split at h
  · cases h; omega
  · split at h
    · cases h; omega
    · cases h; omega

/-- Residual breaches are of their own kind. -/
theorem residualBreaches_kind {accountId instrument : String}
    {kc : KillCriteria} {active : Option ℚ} :
    ∀ b ∈ residualBreaches accountId instrument kc active,
      b.criterion = .residualCap := by
  intro b hb
  unfold residualBreaches at hb
  split at hb
  · split at hb
    · rw [List.mem_singleton.mp hb]
    · cases hb
  · cases hb

/-- A lot's alerts, where neither the liquidity floor nor the horizon is
crossed. -/
theorem lotBreaches_watched {asOf : Date} {active : Option ℚ} {tier : Nat}
    (htier : ∀ floor ∈ thesis.killCriteria.minLiquidityTier,
      (tier : Int) ≤ floor)
    (hhorizon : thesis.killCriteria.maxHoldingYears = none)
    (hdrawdown : drawdownBreaches lot.accountId lot.ticker
      thesis.killCriteria ((lot.marketValue
        - lot.quantity * lot.costBasisPerShare)
          / (lot.quantity * lot.costBasisPerShare))
      = ([lot].filter (·.isLossLot)).map (lossBreach settings)) :
    Watched settings [lot]
      (lotBreaches ctx asOf active thesis lot tier) := by
  have hliquidity : liquidityBreaches lot.accountId lot.ticker
      thesis.killCriteria tier = [] := by
    unfold liquidityBreaches
    cases hfloor : thesis.killCriteria.minLiquidityTier with
    | none => rfl
    | some floor => exact if_neg (not_lt.mpr (htier floor hfloor))
  have hnone : horizonBreaches ctx lot.accountId lot.ticker
      thesis.killCriteria (max (asOf - lot.acquisitionDate) 0 / daysPerYear)
      = [] := by
    unfold horizonBreaches
    rw [hhorizon]
  unfold lotBreaches killBreaches
  dsimp only
  rw [hliquidity, hnone, hdrawdown, List.append_nil, List.append_nil]
  have hkind : ∀ b ∈ ([lot].filter (·.isLossLot)).map (lossBreach settings),
      b.criterion = .drawdownVsCost := by
    intro b hb
    obtain ⟨_, -, rfl⟩ := List.mem_map.mp hb
    rfl
  have hresidual : (residualBreaches lot.accountId lot.ticker
      thesis.killCriteria active).filter (·.criterion = .drawdownVsCost)
      = [] := by
    rw [List.filter_eq_nil_iff]
    intro b hb
    rw [residualBreaches_kind b hb]
    decide
  constructor
  · rw [List.filter_append, hresidual, List.append_nil]
    exact List.filter_eq_self.mpr fun b hb => decide_eq_true (hkind b hb)
  · intro b hb
    rcases List.mem_append.mp hb with hb | hb
    · exact .inl (hkind b hb)
    · exact .inr (residualBreaches_kind b hb)

/-- A seventh of the cost is gone. -/
theorem AtLoss.lost (h : AtLoss lot) (hquantity : 0 < lot.quantity) :
    (lot.marketValue - lot.quantity * lot.costBasisPerShare)
      / (lot.quantity * lot.costBasisPerShare) = -1 / 7 := by
  unfold SyntheticLot.marketValue
  rw [h.basis, h.price, div_eq_div_iff]
  · ring
  · exact (mul_pos hquantity (by norm_num)).ne'
  · norm_num

/-- A lot at a loss is under the limits of a concentrated name. -/
theorem AtLoss.kill (h : AtLoss lot) (hlot : lot ∈ lots)
    (hpre : Precommitted settings (Warehouse.thesisKey lot)
      (lotsUnder lots (Warehouse.thesisKey lot)) thesis) :
    thesis.killCriteria =
      { maxDrawdownVsCost := some settings.analystKillConcentratedDrawdownPct
        maxActiveResidual := some settings.analystKillResidualCap
        minLiquidityTier := some settings.analystKillMinLiquidityTier } := by
  have hissuer : ((lotsUnder lots (Warehouse.thesisKey lot)).any fun l =>
      truthy l.concentrationIssuer) = true :=
    List.any_eq_true.mpr ⟨lot, mem_lotsUnder.mpr ⟨hlot, rfl⟩, h.issuer⟩
  rw [hpre.kill]
  unfold killCriteriaFor
  rw [show (Warehouse.thesisKey lot).2 = "AAPL" from h.ticker,
    if_neg (by decide), if_pos hissuer]

/-- Under its thesis an emitted lot raises a drawdown alert exactly when it
was emitted at a loss. -/
theorem drawdown_of_marked (hlimits : WatchLimits settings)
    (hemitted : EmittedLot lot) (hlot : lot ∈ lots)
    (hpre : Precommitted settings (Warehouse.thesisKey lot)
      (lotsUnder lots (Warehouse.thesisKey lot)) thesis)
    (hview : LotViewed lot pos) (asOf : Date) (active : Option ℚ) :
    Watched settings [lot]
      (lotBreaches ctx asOf active thesis lot pos.liquidityTier) := by
  have htier := lotLiquidityTier_le hview.tier
  have hfloor := hlimits.tier
  have hcost : 0 < lot.quantity * lot.costBasisPerShare :=
    mul_pos hemitted.quantity hemitted.basis
  rcases hemitted.marked with hloss | ⟨hflag, hgain⟩
  · have hkill := hloss.kill hlot hpre
    refine lotBreaches_watched ?_ (by rw [hkill]) ?_
    · intro floor hset
      rw [hkill] at hset
      obtain rfl := Option.some.inj hset
      omega
    · unfold drawdownBreaches
      rw [hkill, hloss.lost hemitted.quantity, List.filter_cons_of_pos
        hloss.flagged]
      dsimp only
      rw [if_pos (by have := hlimits.reached; linarith)]
      rfl
  · have hup : 0 ≤ (lot.marketValue - lot.quantity * lot.costBasisPerShare)
        / (lot.quantity * lot.costBasisPerShare) := by
      refine div_nonneg (sub_nonneg.mpr ?_) hcost.le
      exact mul_le_mul_of_nonneg_left hgain hemitted.quantity.le
    have hset : (∀ limit ∈ thesis.killCriteria.maxDrawdownVsCost, limit < 0)
        ∧ thesis.killCriteria.maxHoldingYears = none
        ∧ ∀ floor ∈ thesis.killCriteria.minLiquidityTier, 3 ≤ floor := by
      rw [hpre.kill]
      unfold killCriteriaFor
      split
      · exact ⟨fun _ h => (nomatch h), rfl, fun _ h => (nomatch h)⟩
      · split
        · refine ⟨fun limit h => ?_, rfl, fun floor h => ?_⟩
          · obtain rfl := Option.some.inj h
            exact hlimits.concentrated
          · obtain rfl := Option.some.inj h
            exact hfloor
        · refine ⟨fun limit h => ?_, rfl, fun floor h => ?_⟩
          · obtain rfl := Option.some.inj h
            exact hlimits.diversified
          · obtain rfl := Option.some.inj h
            exact hfloor
    obtain ⟨hlimit, hhorizon, hfloors⟩ := hset
    refine lotBreaches_watched (fun floor h => ?_) hhorizon ?_
    · have := hfloors floor h
      omega
    · rw [List.filter_cons_of_neg (by rw [hflag]; decide)]
      unfold drawdownBreaches
      cases hdrawdown : thesis.killCriteria.maxDrawdownVsCost with
      | none => rfl
      | some limit =>
        have := hlimit limit hdrawdown
        dsimp only
        rw [if_neg (by linarith)]
        rfl

end Alarms

-- ==================================================================== loop

section Loop

variable {ctx : DecimalContext} {settings : AppSettings}
  {store : ThesisStore} {asOf : Date}
  {active : Dict (String × Option String) ℚ}

/-- A lot the watch documents, with the alerts of its own. -/
def LotWatched (ctx : DecimalContext) (settings : AppSettings)
    (store : ThesisStore) (asOf : Date)
    (active : Dict (String × Option String) ℚ) (lot : SyntheticLot)
    (pos : LotPositionView) : Prop :=
  (pos.accountId, instrumentKey pos) = thesisKey lot
    ∧ ∃ thesis breaches,
      store.get pos.accountId (instrumentKey pos) = some thesis
        ∧ evaluateKillCriteria ctx pos thesis asOf
          (active.get? (pos.accountId, pos.ticker)) = .ok breaches
        ∧ Watched settings [lot] breaches

/-- The loop over lots that are each watched: their alerts in order, and
every key documented. -/
theorem watchLots {lots : List SyntheticLot}
    {positions : List LotPositionView}
    (h : List.Forall₂ (LotWatched ctx settings store asOf active) lots
      positions) : ∀ (done : List SyntheticLot)
        (acc : List KillBreach × Finset (String × String)),
      Watched settings done acc.1 →
      ∃ out, positions.foldlM (watchLot ctx store asOf active) acc = .ok out
        ∧ Watched settings (done ++ lots) out.1
        ∧ out.2 = acc.2 ∪ (lots.map thesisKey).toFinset := by
  induction h with
  | nil =>
    intro done acc hdone
    refine ⟨acc, rfl, ?_, ?_⟩
    · rw [List.append_nil]
      exact hdone
    · simp
  | @cons lot pos lots positions hlot _ ih =>
    intro done acc hdone
    obtain ⟨hkey, thesis, breaches, hget, hrun, hwatched⟩ := hlot
    have hturn : watchLot ctx store asOf active acc pos
        = .ok (acc.1 ++ breaches, insert (thesisKey lot) acc.2) := by
      unfold watchLot
      dsimp only
      rw [hget]
      dsimp only
      rw [hrun, hkey]
      rfl
    obtain ⟨out, hfold, hall, hkeys⟩ := ih (done ++ [lot])
      (acc.1 ++ breaches, insert (thesisKey lot) acc.2)
      (hdone.append hwatched)
    refine ⟨out, ?_, ?_, ?_⟩
    · rw [List.foldlM_cons, hturn, ok_bind]
      exact hfold
    · rw [List.append_assoc] at hall
      exact hall
    · rw [hkeys, List.map_cons, List.toFinset_cons, Finset.insert_union,
        Finset.union_insert]

end Loop

-- =============================================================== the watch

section Watch

variable {site : SmokeSite} {fixture : HouseholdFixture}
  {positions : List LotPositionView}

/-- As many theses as keys with a lot. -/
theorem length_fromTheses (settings : AppSettings)
    (fixture : HouseholdFixture) (configVersion : Option String) :
    (ThesisStore.fromTheses (emitSyntheticTheses settings fixture
        configVersion)).length
      = ((fixture.lots.map thesisKey).toFinset).card := by
  have hnodup : ((emitSyntheticTheses settings fixture configVersion).map
      (·.key)).Nodup := nodup_emitSyntheticTheses
  have hsame : (fixture.lots.map thesisKey).toFinset
      = ((emitSyntheticTheses settings fixture configVersion).map
        (·.key)).toFinset := by
    ext key
    rw [List.mem_toFinset, List.mem_toFinset, List.mem_map,
      mem_map_key_emitSyntheticTheses]
  unfold ThesisStore.length
  rw [hsame, List.toFinset_card_of_nodup hnodup,
    ThesisStore.entries_fromTheses hnodup, List.length_map, List.length_map]

/-- A lot at a loss is a breach in the report too: a seventh, rounded to six
places, is still past the floor. -/
theorem reported_of_loss {lot : SyntheticLot} {pos : LotPositionView}
    {settings : AppSettings} {ctx : DecimalContext} {expected : RiskClass → ℚ}
    {asOf : Date} (hlimits : WatchLimits settings) (hone : EmittedLot lot)
    (hlot : lot ∈ fixture.lots) (hflag : lot.isLossLot = true)
    (hview : LotViewed lot pos) :
    Reported ctx (fun c => some (expected c)) asOf (ThesisStore.fromTheses
      (emitSyntheticTheses settings fixture none)) pos := by
  obtain hloss | ⟨hquiet, -⟩ := hone.marked
  swap
  · rw [hflag] at hquiet
    cases hquiet
  obtain ⟨thesis, hget, hpre⟩ := emitted_thesis settings none hlot
  have hfigures : lotFigures ctx (fun c => some (expected c)) asOf pos
      = some (.of ctx asOf pos
        (lot.marketValue - lot.quantity * lot.costBasisPerShare)
        (expected pos.securityAssetClass.riskClassFor)) := by
    unfold lotFigures
    rw [hview.gain]
  refine ⟨thesis, ?_, _, hfigures, .inl
    ⟨settings.analystKillConcentratedDrawdownPct, ?_, ?_⟩⟩
  · rw [hview.accountId, hview.ticker]
    exact hget
  · rw [hloss.kill hlot hpre]
    rfl
  · show quantize 6 ((lot.marketValue - lot.quantity * lot.costBasisPerShare)
      / pos.totalCostBasis) ≤ _
    rw [hview.costBasis, hloss.lost hone.quantity]
    have hnear := abs_le.mp (abs_quantize_sub_le 6 (-1 / 7))
    have hreached := hlimits.reached
    norm_num at hnear
    linarith [hnear.2]

/-- What the watch answers on a fixture it could watch. -/
structure WatchedFixture (site : SmokeSite) (cohortId : String)
    (fixture : HouseholdFixture) (data : KillCriteriaWatchData) : Prop where
  live : data.panelStatus = "live" ∧ data.error = none
  household : data.householdId = fixture.householdId
    ∧ data.cohortId = cohortId
  documented : data.documentedPositions = data.thesisCount
  theses : data.thesisCount = ((fixture.lots.map thesisKey).toFinset).card
  alerts : Watched site.settings fixture.lots data.breaches
  checkpoint : (∃ lot ∈ fixture.lots, lot.isLossLot = true) →
    data.checkpoint1 = "breach"

/-- An emitted fixture is watched: no leg raises. -/
theorem watchFixture_emitted (cohortId : String)
    (hlimits : WatchLimits site.settings)
    (hviews : lotPositionsFromFixture fixture none = .ok positions)
    (hbook : EmittedBook positions)
    (hemitted : ∀ lot ∈ fixture.lots, EmittedLot lot) :
    ∃ data, watchFixture site cohortId fixture = .ok data
      ∧ WatchedFixture site cohortId fixture data := by
  have hviewed := lotPositions_viewed hviews
  obtain ⟨assumptions, hassumptions⟩ : ∃ assumptions,
      assumptionsFor "base" = .ok assumptions := ⟨_, rfl⟩
  obtain ⟨report, hreport⟩ := (evaluateAttribution_ok_iff site.risk.decimal
    positions assumptions.classExpectedReturn fixture.householdId
    (syntheticThesisAsOf fixture) site.settings.analystConfigVersion
    site.settings.analystMinHoldingYears).mpr fun p hp =>
      hbook.attributable p hp _
        (by decide : dateOf 2024 3 1 ≤ dateOf 2026 6 27)
  have hwatched : List.Forall₂ (LotWatched site.risk.decimal site.settings
      (ThesisStore.fromTheses (emitSyntheticTheses site.settings fixture none))
      (syntheticThesisAsOf fixture) (activeByKey report)) fixture.lots
      positions := by
    have hboth := List.forall₂_and_left _ _ |>.mpr
      (⟨fun lot hlot => hlot, hviewed⟩ :
        (∀ lot ∈ fixture.lots, lot ∈ fixture.lots) ∧ _)
    refine hboth.imp fun lot pos ⟨hlot, hview⟩ => ?_
    have hone := hemitted lot hlot
    obtain ⟨thesis, hget, hpre⟩ := emitted_thesis site.settings none hlot
    have hcost : 0 < pos.totalCostBasis := by
      rw [hview.costBasis]
      exact mul_pos hone.quantity hone.basis
    rw [← hview.accountId, ← hview.instrumentKey] at hget
    exact ⟨hview.thesisKey, thesis, _, hget,
      (evaluateKillCriteria_viewed _ hpre hlot hview _ _).1 hcost,
      drawdown_of_marked hlimits hone hlot hpre hview _ _⟩
  obtain ⟨out, hfold, halerts, hkeys⟩ := watchLots hwatched [] ([], ∅)
    ⟨rfl, fun _ h => (nomatch h)⟩
  rw [Finset.empty_union] at hkeys
  refine ⟨{
    householdId := fixture.householdId
    cohortId := cohortId
    asOfDate := syntheticThesisAsOf fixture
    thesisCount := (ThesisStore.fromTheses (emitSyntheticTheses site.settings
      fixture none)).length
    documentedPositions := out.2.card
    breaches := out.1
    checkpoint1 := (scoreCheckpoint1 site.risk.decimal report
      (some (.store (ThesisStore.fromTheses (emitSyntheticTheses site.settings
        fixture none))))).value }, ?_, ?_⟩
  · unfold watchFixture
    dsimp only
    rw [hviews, ok_bind, hassumptions, ok_bind, hreport, ok_bind, hfold,
      ok_bind, checkpoint1_get?]
    rfl
  · have hcount := length_fromTheses site.settings fixture none
    refine ⟨⟨rfl, rfl⟩, ⟨rfl, rfl⟩, ?_, hcount, halerts, ?_⟩
    · rw [hcount, ← hkeys]
    · rintro ⟨lot, hlot, hflag⟩
      have hbreach : scoreCheckpoint1 site.risk.decimal report
          (some (.store (ThesisStore.fromTheses (emitSyntheticTheses
            site.settings fixture none)))) = .breach := by
        rw [scoreCheckpoint1_breach_iff_reported hreport]
        obtain ⟨pos, hpos, hview⟩ := forall₂_mem_left hviewed hlot
        refine ⟨pos, hpos, ?_⟩
        exact reported_of_loss hlimits (hemitted lot hlot) hlot hflag hview
      dsimp only
      rw [hbreach]
      rfl

end Watch

-- ============================================================== households

/-- The cohorts with a concentrated name. -/
def Concentrated (cohortId : String) : Prop :=
  cohortId = "founder_executive" ∨ cohortId = "concentrated_stress"

instance (cohortId : String) : Decidable (Concentrated cohortId) :=
  inferInstanceAs (Decidable (_ ∨ _))

section LossLots

variable {rng : SeededRandom} {householdId accountId cohortId : String}
  {weights : Dict RiskClass ℚ} {nav : ℚ} {seed : Int}

theorem filter_flagged_nil {lots : List SyntheticLot}
    (h : ∀ lot ∈ lots, lot.isLossLot = false) :
    lots.filter (·.isLossLot) = [] := by
  rw [List.filter_eq_nil_iff]
  intro lot hlot
  rw [h lot hlot]
  decide

theorem flagged_singleton {lot : SyntheticLot} (h : lot.isLossLot = false)
    (p : Prop) [Decidable p] :
    ∀ l ∈ (if p then [lot] else []), l.isLossLot = false := by
  intro l hl
  split at hl
  · rw [List.mem_singleton.mp hl, h]
  · cases hl

/-- The first lot of the concentrated name is at a loss, no other is. -/
theorem flagged_concentratedLots {perLot : ℚ} {lotCount : Nat}
    (hcount : 0 < lotCount) :
    ((concentratedLots householdId accountId perLot lotCount).filter
      (·.isLossLot)).map (·.ticker) = ["AAPL"] := by
  obtain ⟨n, rfl⟩ := Nat.exists_eq_succ_of_ne_zero hcount.ne'
  unfold concentratedLots
  rw [List.range_succ_eq_map, List.map_cons, List.filter_cons_of_pos rfl,
    filter_flagged_nil]
  · rfl
  · intro lot hlot
    obtain ⟨idx, hidx, rfl⟩ := List.mem_map.mp hlot
    obtain ⟨m, -, rfl⟩ := List.mem_map.mp hidx
    rfl

/-- One equity lot is flagged in the concentrated cohorts, and none in the
others. -/
theorem flagged_splitEquityLots {equityNav : ℚ} :
    ((splitEquityLots rng householdId accountId equityNav seed
      cohortId).filter (·.isLossLot)).map (·.ticker)
      = if Concentrated cohortId then ["AAPL"] else [] := by
  unfold splitEquityLots
  by_cases hconcentrated : cohortId = "founder_executive"
      ∨ cohortId = "concentrated_stress"
  · rw [if_pos hconcentrated,
      if_pos (show Concentrated cohortId from hconcentrated)]
    have hcount := (rng.randintRange (seed + 1) 0 3 5 (by norm_num)).1
    dsimp only
    rw [List.filter_append, List.map_append, flagged_concentratedLots
      (by omega), filter_flagged_nil (flagged_singleton rfl _), List.map_nil,
      List.append_nil]
  · rw [if_neg hconcentrated,
      if_neg (show ¬ Concentrated cohortId from hconcentrated)]
    rfl

/-- So it is among all lots of the fourth rung. -/
theorem flagged_splitPublicLots (hequity : 0 < sleeveNav weights nav .equity) :
    ((splitPublicLots rng householdId accountId weights nav seed
      cohortId).filter (·.isLossLot)).map (·.ticker)
      = if Concentrated cohortId then ["AAPL"] else [] := by
  unfold splitPublicLots
  dsimp only
  rw [if_pos hequity]
  simp only [List.filter_append, List.map_append]
  rw [flagged_splitEquityLots, filter_flagged_nil (flagged_singleton rfl _),
    filter_flagged_nil (flagged_singleton rfl _),
    filter_flagged_nil (flagged_singleton rfl _)]
  simp

/-- Below the fourth rung none is flagged. -/
theorem flagged_sleeveOnlyLots :
    (sleeveOnlyLots householdId accountId weights nav).filter (·.isLossLot)
      = [] := by
  apply filter_flagged_nil
  intro lot hlot
  unfold sleeveOnlyLots at hlot
  obtain ⟨⟨c, ticker, price, basis⟩, -, hmade⟩ := List.mem_filterMap.mp hlot
  dsimp only at hmade
  split at hmade
  · cases hmade
  · cases hmade
    rfl

/-- A household holds one lot at a loss where its name is concentrated at
rung 4, and none otherwise. -/
theorem flagged_assembleFixture (rt : SyntheticRuntime) {rung : Int}
    {hhId : String} (hequity : 0 < sleeveNav weights nav .equity) :
    ((assembleFixture rt cohortId seed rung hhId nav weights).lots.filter
      (·.isLossLot)).map (·.ticker)
      = if rung ≠ 3 ∧ Concentrated cohortId then ["AAPL"] else [] := by
  unfold assembleFixture
  dsimp only
  by_cases hrung : rung = 3
  · rw [if_pos hrung, flagged_sleeveOnlyLots,
      if_neg fun h => h.1 hrung]
    rfl
  · rw [if_neg hrung, flagged_splitPublicLots hequity]
    simp only [hrung, ne_eq, not_false_iff, true_and]

end LossLots

section Households

variable {site : SmokeSite} {cohortId : String} {seed rung : Int}
  {householdId : Option String} {nav : ℚ} {validate : Bool}
  {bundle : SyntheticHouseholdBundle}

/-- Every cohort draws an equity weight. -/
theorem sleeveRanges_equity {ranges : List (RiskClass × ℚ × ℚ)}
    (h : sleeveRanges cohortId = some ranges) :
    ∃ r ∈ ranges, r.1 = RiskClass.equity := by
  unfold sleeveRanges at h
  split at h
  all_goals first
    | cases h; exact ⟨_, List.mem_cons_self, rfl⟩
    | cases h

/-- What is returned came of a known cohort, at a rung, of a NAV. -/
theorem emitSyntheticHousehold_emittable {rt : SyntheticRuntime}
    (h : emitSyntheticHousehold rt cohortId seed rung householdId nav validate
      none = .ok bundle) :
    (∃ ranges, sleeveRanges cohortId = some ranges)
      ∧ (rung = 3 ∨ rung = 4) ∧ 0 < nav := by
  unfold emitSyntheticHousehold at h
  obtain ⟨fixture, hfixture, -⟩ := bind_ok_iff.mp h
  cases hranges : sleeveRanges cohortId with
  | none =>
    unfold emitHnwFixture sampleSleeveWeights at hfixture
    rw [hranges] at hfixture
    split at hfixture
    · cases hfixture
    · cases hfixture
  | some ranges =>
    have hranged := sleeveRanges_ranged hranges
    obtain ⟨d, weights, hsample, hsampled⟩ :=
      sampleSleeveWeights_ok rt.toSeededRandom seed hranges hranged
    rw [emitHnwFixture_sampled rt cohortId seed householdId hsample]
      at hfixture
    obtain ⟨hrung, hnav, -⟩ := emitHnwFixture_inv rt cohortId seed householdId
      (values_nonneg (hsampled.weightIn_nonneg hranged)) hfixture
    exact ⟨⟨ranges, rfl⟩, hrung, hnav⟩

/-- Whatever household is returned can be watched. -/
theorem watchFixture_household (panel : String)
    (hlimits : WatchLimits site.settings)
    (hrun : emitSyntheticHousehold site.synthetic cohortId seed rung
      householdId nav validate none = .ok bundle) :
    ∃ data, watchFixture site panel bundle.fixture = .ok data
      ∧ WatchedFixture site panel bundle.fixture data
      ∧ (bundle.fixture.lots.filter (·.isLossLot)).map (·.ticker)
        = if rung ≠ 3 ∧ Concentrated cohortId then ["AAPL"] else [] := by
  obtain ⟨⟨ranges, hranges⟩, hrung, hnav⟩ := emitSyntheticHousehold_emittable hrun
  have hranged := sleeveRanges_ranged hranges
  obtain ⟨weights, portfolio, h⟩ := emitSyntheticHousehold_generated hranges
    hrung hnav hrun
  have hequity : 0 < weightIn weights .equity := by
    obtain ⟨d, hsampled⟩ := h.sampled
    obtain ⟨r, hr, hclass⟩ := sleeveRanges_equity hranges
    have := hsampled.weightIn_pos hranged hr
    rw [← hclass]
    linarith
  obtain ⟨positions, hviews, hviewed⟩ := h.positions none
  have hemitted : ∀ lot ∈ bundle.fixture.lots, EmittedLot lot := by
    rw [h.lots]
    exact fun lot hlot => emittedLot_assembleFixture hlot
  obtain ⟨data, hwatch, hdata⟩ := watchFixture_emitted panel hlimits hviews
    (h.emittedBook hnav hequity hviewed) hemitted
  refine ⟨data, hwatch, hdata, ?_⟩
  rw [h.lots]
  exact flagged_assembleFixture site.synthetic (mul_pos hnav hequity)

end Households

-- ============================================================ the theorems

/-- Emitted theses are pre-committed, whatever the fixture.

They come in the order of their keys, each key once and each with a lot. In
the store every viewed lot finds the thesis of its instrument, effective
with the first lot of it; so the monitor refuses no lot for hindsight, and
none at all that was paid for. -/
theorem emitted_theses_precommitted (ctx : DecimalContext)
    (settings : AppSettings) (fixture : HouseholdFixture)
    (configVersion : Option String) (restricted : Option (List String))
    (positions : List LotPositionView) (asOf : Date) (active : Option ℚ)
    (hviews : lotPositionsFromFixture fixture restricted = .ok positions) :
    let theses := emitSyntheticTheses settings fixture configVersion
    theses.Pairwise (fun t u =>
        (toLex t.key : String ×ₗ String) < toLex u.key)
      ∧ (∀ thesis ∈ theses, ∃ pos ∈ positions,
        (pos.accountId, instrumentKey pos) = thesis.key)
      ∧ ∀ pos ∈ positions, ∃ thesis ∈ theses,
        (ThesisStore.fromTheses theses).get pos.accountId (instrumentKey pos)
            = some thesis
          ∧ thesis.effectiveDate ≤ pos.acquisitionDate
          ∧ (∃ first ∈ positions,
            (first.accountId, instrumentKey first) = thesis.key
              ∧ thesis.effectiveDate = first.acquisitionDate)
          ∧ ((∃ breaches, evaluateKillCriteria ctx pos thesis asOf active
            = .ok breaches) ↔ 0 < pos.totalCostBasis) := by
  have hviewed := lotPositions_viewed hviews
  refine ⟨sorted_emitSyntheticTheses, fun thesis hthesis => ?_,
    fun pos hpos => ?_⟩
  · obtain ⟨lot, hlot, hkey⟩ := mem_map_key_emitSyntheticTheses.mp
      (List.mem_map_of_mem hthesis)
    obtain ⟨pos, hpos, hview⟩ := forall₂_mem_left hviewed hlot
    exact ⟨pos, hpos, hview.thesisKey.trans hkey⟩
  · obtain ⟨lot, hlot, hview⟩ := forall₂_mem_right hviewed hpos
    obtain ⟨thesis, hget, hpre⟩ := emitted_thesis settings configVersion hlot
    have hstored := Dict.get?_eq_some_iff.mp hget
    rw [ThesisStore.entries_fromTheses nodup_emitSyntheticTheses] at hstored
    obtain ⟨t, hthesis, heq⟩ := List.mem_map.mp hstored
    obtain rfl := (Prod.mk.inj heq).2
    refine ⟨t, hthesis, ?_, ?_, ?_, ?_⟩
    · rw [hview.accountId, hview.instrumentKey]
      exact hget
    · rw [hview.acquired]
      exact hpre.effective lot (mem_lotsUnder.mpr ⟨hlot, rfl⟩)
    · obtain ⟨first, hfirst, hdate⟩ := hpre.first
      obtain ⟨hmem, hsame⟩ := mem_lotsUnder.mp hfirst
      obtain ⟨view, hposition, hviewFirst⟩ := forall₂_mem_left hviewed hmem
      refine ⟨view, hposition, ?_, ?_⟩
      · rw [hviewFirst.thesisKey, hsame, hpre.keyed]
      · rw [hdate, hviewFirst.acquired]
    · obtain ⟨hpaid, hfree⟩ := evaluateKillCriteria_viewed ctx hpre
        hlot hview asOf active
      constructor
      · rintro ⟨breaches, hrun⟩
        by_contra hcost
        obtain ⟨err, hraise⟩ := hfree (not_lt.mp hcost)
        rw [hrun] at hraise
        cases hraise
      · exact fun hcost => ⟨_, hpaid hcost⟩

/-- A lot of a fund, in the taxable account. -/
def boughtLot (lotId ticker : String) (fund : RiskClass) (acquired : Date) :
    SyntheticLot where
  lotId := lotId
  accountId := "acct_taxable"
  ticker := ticker
  assetClass := fund.value
  quantity := 10
  costBasisPerShare := 50
  marketPrice := 60
  acquisitionDate := acquired

/-- A household that bought its stock fund three times, the first time not
first in the book, and a bond fund once. -/
def boughtThrice : HouseholdFixture :=
  { assembleFixture .least "general_hnw" 1 3 "hh" 2400
      (Dict.ofPairs [(.equity, 3 / 4), (.fixedIncome, 1 / 4)]) with
    lots := [boughtLot "lot_2" "VTI" .equity (dateOf 2024 5 1),
      boughtLot "lot_1" "VTI" .equity (dateOf 2023 2 1),
      boughtLot "lot_4" "BND" .fixedIncome (dateOf 2023 7 1),
      boughtLot "lot_3" "VTI" .equity (dateOf 2025 1 15)] }

/-- Three lots of one fund have one thesis, of the day of the first. -/
theorem emitted_theses_precommitted_boughtThrice :
    ∃ positions, lotPositionsFromFixture boughtThrice none = .ok positions
      ∧ (emitSyntheticTheses {} boughtThrice none).map
          (fun thesis => (thesis.key, thesis.effectiveDate))
        = [(("acct_taxable", "BND"), dateOf 2023 7 1),
          (("acct_taxable", "VTI"), dateOf 2023 2 1)]
      ∧ ∀ pos ∈ positions,
        ∃ thesis ∈ emitSyntheticTheses {} boughtThrice none,
          (ThesisStore.fromTheses (emitSyntheticTheses {} boughtThrice
              none)).get pos.accountId (instrumentKey pos) = some thesis
            ∧ thesis.effectiveDate ≤ pos.acquisitionDate := by
  obtain ⟨positions, hviews, -⟩ : ∃ positions,
      lotPositionsFromFixture boughtThrice none = .ok positions
        ∧ List.Forall₂ LotView boughtThrice.lots positions := by
    refine mapM_forall₂ _ fun lot hlot => ?_
    obtain ⟨fund, hfund⟩ : ∃ fund : RiskClass, lot.assetClass = fund.value := by
      unfold boughtThrice at hlot
      simp only [List.mem_cons, List.not_mem_nil, or_false] at hlot
      rcases hlot with rfl | rfl | rfl | rfl
      · exact ⟨.equity, rfl⟩
      · exact ⟨.equity, rfl⟩
      · exact ⟨.fixedIncome, rfl⟩
      · exact ⟨.equity, rfl⟩
    exact lotPosition_ok _ _ hfund
  obtain ⟨-, -, hall⟩ := emitted_theses_precommitted rootsRuntime.decimal {}
    boughtThrice none none positions (dateOf 2026 6 27) none hviews
  refine ⟨positions, hviews, by decide +kernel, fun pos hpos => ?_⟩
  obtain ⟨thesis, hthesis, hget, hdate, -⟩ := hall pos hpos
  exact ⟨thesis, hthesis, hget, hdate⟩

/-- The watch answers on every household that is emitted.

No leg raises and every thesis is looked at. A drawdown alert stands for
each lot at a loss, of which there is one, of the concentrated name, where
a cohort has that and at rung 4, and then checkpoint 1 is a breach; beside
drawdowns only residuals are alerts. -/
theorem watch_generated_households (site : SmokeSite) (panel : String)
    (cohortId : String) (seed rung : Int) (householdId : Option String)
    (nav : ℚ) (validate : Bool) (bundle : SyntheticHouseholdBundle)
    (hlimits : WatchLimits site.settings)
    (hrun : emitSyntheticHousehold site.synthetic cohortId seed rung
      householdId nav validate none = .ok bundle) :
    ∃ data, watchFixture site panel bundle.fixture = .ok data
      ∧ data.documentedPositions = data.thesisCount
      ∧ (data.breaches.filter (·.criterion = .drawdownVsCost)).map
          (fun b => (b.instrument, b.observed))
        = (if rung ≠ 3 ∧ Concentrated cohortId then [("AAPL", -1 / 7)] else [])
      ∧ (∀ b ∈ data.breaches, b.criterion = .drawdownVsCost
        ∨ b.criterion = .residualCap)
      ∧ (rung ≠ 3 ∧ Concentrated cohortId → data.checkpoint1 = "breach") := by
  obtain ⟨data, hwatch, hdata, hflagged⟩ := watchFixture_household
    panel hlimits hrun
  refine ⟨data, hwatch, hdata.documented, ?_, hdata.alerts.kinds,
    fun hconcentrated => hdata.checkpoint ?_⟩
  · rw [hdata.alerts.drawdowns, List.map_map]
    have hsplit : ((fun b : KillBreach => (b.instrument, b.observed))
        ∘ lossBreach site.settings)
        = (fun t : String => (t, (-1 / 7 : ℚ))) ∘ (·.ticker) := rfl
    rw [hsplit, ← List.map_map, hflagged]
    split
    · rfl
    · rfl
  · rw [if_pos hconcentrated] at hflagged
    have hne : bundle.fixture.lots.filter (·.isLossLot) ≠ [] := by
      intro hnil
      rw [hnil] at hflagged
      cases hflagged
    obtain ⟨lot, hlot⟩ := List.exists_mem_of_ne_nil _ hne
    exact ⟨lot, (List.mem_filter.mp hlot).1, (List.mem_filter.mp hlot).2⟩

/-- The default settings are within the limits. -/
theorem watchLimits_default : WatchLimits {} where
  reached := by norm_num
  concentrated := by norm_num
  diversified := by norm_num
  tier := by norm_num

theorem watch_generated_households_stressed :
    ∃ bundle data, emitSyntheticHousehold .least "concentrated_stress" 42 4
        none 2500000 false none = .ok bundle
      ∧ watchFixture plainSite "concentrated_stress" bundle.fixture = .ok data
      ∧ data.checkpoint1 = "breach" := by
  obtain ⟨ranges, hknown⟩ := cohortIds_smoke
    (by simp [cohortIds] : "concentrated_stress" ∈ cohortIds)
  obtain ⟨bundle, hrun⟩ := hknown.emits .least 42 none
    (.inr ⟨rfl, rfl⟩ : GatedRung "concentrated_stress" 4)
    (by norm_num : (0 : ℚ) < 2500000) false
  obtain ⟨data, hwatch, -, -, -, hbreach⟩ := watch_generated_households
    plainSite "concentrated_stress" "concentrated_stress" 42 4 none 2500000
    false bundle watchLimits_default hrun
  exact ⟨bundle, data, hrun, hwatch, hbreach (by decide)⟩

/-- The panel of the dashboard is live, on any draw: its cohort is emitted
at its rung, and watched. -/
theorem dashboard_live (site : SmokeSite)
    (hlimits : WatchLimits site.settings) :
    (loadKillCriteriaDashboard site).panelStatus = "live"
      ∧ (loadKillCriteriaDashboard site).error = none := by
  obtain ⟨ranges, hknown⟩ := cohortIds_smoke
    (by simp [cohortIds, watchCohort] : watchCohort ∈ cohortIds)
  obtain ⟨bundle, hrun⟩ := hknown.emits site.synthetic watchSeed none
    (.inr ⟨rfl, rfl⟩ : GatedRung watchCohort watchRung)
    (by norm_num [defaultNav] : 0 < defaultNav) false
  obtain ⟨data, hwatch, hdata, -⟩ := watchFixture_household watchCohort
    hlimits hrun
  have hload : loadKillCriteriaDashboard site = data := by
    unfold loadKillCriteriaDashboard
    rw [hrun, ok_bind, hwatch]
  rw [hload]
  exact hdata.live

end Warehouse
