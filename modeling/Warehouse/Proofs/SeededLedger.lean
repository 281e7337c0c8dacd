/-
Seeded households, read back from the ledger.

# The ids

An id of a household's row is the household's own id and a suffix. The
suffixes of one table start with the dash and have equally many, so two
households' ids never meet in it (`Suffix.household`). Only a household
named like another's account can come between (`Apart`).

# The run

Every call adds all rows of its household, none of them, or an error
(`Seeds.call`). So at every moment the tables are the rows of the
seeded households, one household after the other (`Seeds`).

# The reading

A lot joins its own account, its ticker's security and the one price that
security has; all three are what the in-process view of the lot says.
-/
import Warehouse.Infra.SeededLedger
import Warehouse.Proofs.EmittedHousehold
import Warehouse.Proofs.LedgerManifest
import Warehouse.Proofs.SyntheticSeed

namespace Warehouse

open Lib UnitOfWork

-- =================================================================== the ids

/-- Where two texts end in a mark's text with equally many marks, they end
in the same one. -/
theorem append_marked_inj {α : Type} [DecidableEq α] {mark : α}
    {xs ys s t : List α} (hs : s.head? = some mark) (ht : t.head? = some mark)
    (hcount : s.count mark = t.count mark) (h : xs ++ s = ys ++ t) :
    xs = ys := by
  rcases List.append_eq_append_iff.mp h with ⟨d, hys, hd⟩ | ⟨d, hxs, hd⟩
  · cases d with
    | nil =>
      rw [hys, List.append_nil]
    | cons first rest =>
      rw [hd, List.cons_append, List.head?_cons] at hs
      obtain rfl := Option.some.inj hs
      rw [hd, List.count_append, List.count_cons_self] at hcount
      omega
  · cases d with
    | nil =>
      rw [hxs, List.append_nil]
    | cons first rest =>
      rw [hd, List.cons_append, List.head?_cons] at ht
      obtain rfl := Option.some.inj ht
      rw [hd, List.count_append, List.count_cons_self] at hcount
      omega

/-- The suffix of an id, with so many dashes. -/
structure Suffix (dashes : Nat) (suffix : String) : Prop where
  dash : suffix.toList.head? = some '-'
  dashes : suffix.toList.count '-' = dashes

/-- Suffixes with as many dashes leave one household to the left of them. -/
theorem Suffix.household {dashes : Nat} {suffix suffix' hhId hhId' : String}
    (h : Suffix dashes suffix) (h' : Suffix dashes suffix')
    (heq : hhId ++ suffix = hhId' ++ suffix') : hhId = hhId' := by
  apply String.toList_injective
  apply append_marked_inj h.dash h'.dash (h.dashes.trans h'.dashes.symm)
  rw [← String.toList_append, ← String.toList_append, heq]

/-- An id of a household. -/
def HasId (dashes : Nat) (hhId rowId : String) : Prop :=
  ∃ suffix, Suffix dashes suffix ∧ rowId = hhId ++ suffix

theorem HasId.household {dashes : Nat} {hhId hhId' rowId : String}
    (h : HasId dashes hhId rowId) (h' : HasId dashes hhId' rowId) :
    hhId = hhId' := by
  obtain ⟨suffix, hsuffix, rfl⟩ := h
  obtain ⟨suffix', hsuffix', heq⟩ := h'
  exact hsuffix.household hsuffix' heq

/-- The numbered lots' suffixes have two dashes. -/
theorem suffix_numbered (n : Nat) :
    Suffix 2 ("-aapl-" ++ toString n) := by
  have hdigits : ((toString n).toList).count '-' = 0 := by
    rw [List.count_eq_zero]
    intro hmem
    rw [Nat.toString_eq_ofList_toDigits, String.toList_ofList] at hmem
    have hdigit := Nat.isDigit_of_mem_toDigits (by decide) (by decide) hmem
    revert hdigit
    decide
  constructor
  · rw [String.toList_append]
    rfl
  · rw [String.toList_append, List.count_append, hdigits]
    rfl

theorem suffix_fixed : ∀ suffix ∈ ["-vti-0", "-bnd-0", "-cash-0", "-comm-0",
    "-dbc-0"], Suffix 2 suffix := by
  intro suffix hsuffix
  have hdash : ∀ suffix ∈ ["-vti-0", "-bnd-0", "-cash-0", "-comm-0", "-dbc-0"],
      suffix.toList.head? = some '-' ∧ suffix.toList.count '-' = 2 := by
    decide
  exact ⟨(hdash suffix hsuffix).1, (hdash suffix hsuffix).2⟩

theorem suffix_account : ∀ suffix ∈ ["-taxable", "-trust", "-ira"],
    Suffix 1 suffix := by
  intro suffix hsuffix
  have hdash : ∀ suffix ∈ ["-taxable", "-trust", "-ira"],
      suffix.toList.head? = some '-' ∧ suffix.toList.count '-' = 1 := by
    decide
  exact ⟨(hdash suffix hsuffix).1, (hdash suffix hsuffix).2⟩

-- ================================================================== the lots

/-- The price of the lots of a ticker. -/
def tickerPrice : String → ℚ
  | "VTI" => 220
  | "AAPL" => 180
  | "BND" => 75
  | "CASH" => 1
  | "DBC" => 25
  | _ => 0

/-- A lot as any household has it: its sleeve and its price are its
ticker's. -/
structure StandardLot (lot : SyntheticLot) : Prop where
  sleeve : ∃ c ∈ publicClasses,
    lot.assetClass = c.value ∧ lot.ticker ∈ sleeveTickers c
  price : lot.marketPrice = tickerPrice lot.ticker

/-- No ticker belongs to two sleeves. -/
theorem sleeveTickers_disjoint : ∀ c ∈ publicClasses, ∀ c' ∈ publicClasses,
    ∀ ticker ∈ sleeveTickers c, ticker ∈ sleeveTickers c' → c = c' := by
  decide

/-- Two lots of a ticker are lots of one security. -/
theorem StandardLot.securityRow_eq {lot lot' : SyntheticLot}
    (h : StandardLot lot) (h' : StandardLot lot')
    (hticker : lot.ticker = lot'.ticker) :
    securityRow lot (seededTier lot) = securityRow lot' (seededTier lot') := by
  obtain ⟨c, hc, hclass, hmem⟩ := h.sleeve
  obtain ⟨c', hc', hclass', hmem'⟩ := h'.sleeve
  rw [hticker] at hmem
  obtain rfl := sleeveTickers_disjoint c hc c' hc' _ hmem hmem'
  unfold securityRow seededTier securityAssetClass
  rw [heldClass_of_value hclass, heldClass_of_value hclass', hticker, hclass,
    hclass']

/-- A household's lot: in its account, under an id of the household. -/
structure HouseholdLot (hhId accountId : String) (lot : SyntheticLot) :
    Prop where
  id : HasId 2 hhId lot.lotId
  account : lot.accountId = accountId
  price : lot.marketPrice = tickerPrice lot.ticker

section Lots

variable (rng : SeededRandom) (hhId accountId cohortId : String)
  (weights : Dict RiskClass ℚ) (nav : ℚ) (seed : Int)

theorem householdLot_fixed {suffix : String} {lot : SyntheticLot}
    (hsuffix : suffix ∈ ["-vti-0", "-bnd-0", "-cash-0", "-comm-0", "-dbc-0"])
    (hid : lot.lotId = hhId ++ suffix) (haccount : lot.accountId = accountId)
    (hprice : lot.marketPrice = tickerPrice lot.ticker) :
    HouseholdLot hhId accountId lot :=
  ⟨⟨suffix, suffix_fixed suffix hsuffix, hid⟩, haccount, hprice⟩

/-- The lots below the fourth rung are the household's own. -/
theorem householdLot_sleeveOnlyLots :
    ∀ lot ∈ sleeveOnlyLots hhId accountId weights nav,
      HouseholdLot hhId accountId lot := by
  intro lot hlot
  unfold sleeveOnlyLots at hlot
  obtain ⟨⟨c, ticker, price, basis⟩, hspec, hmade⟩ := List.mem_filterMap.mp hlot
  have hspecs : ∀ spec ∈ sleeveSpecs, "-" ++ lower spec.2.1 ++ "-0"
      ∈ ["-vti-0", "-bnd-0", "-cash-0", "-comm-0", "-dbc-0"]
      ∧ spec.2.2.1 = tickerPrice spec.2.1 := by
    decide +kernel
  obtain ⟨hsuffix, hprice⟩ := hspecs _ hspec
  dsimp only at hmade
  split at hmade
  · cases hmade
  · cases hmade
    refine householdLot_fixed hhId accountId hsuffix ?_ rfl hprice
    show hhId ++ "-" ++ lower ticker ++ "-0" = _
    rw [String.append_assoc, String.append_assoc, String.append_assoc]

theorem householdLot_concentratedLots (perLot : ℚ) (lotCount : Nat) :
    ∀ lot ∈ concentratedLots hhId accountId perLot lotCount,
      HouseholdLot hhId accountId lot := by
  intro lot hlot
  obtain ⟨idx, -, rfl⟩ := List.mem_map.mp hlot
  refine ⟨⟨"-aapl-" ++ toString idx, suffix_numbered idx, ?_⟩, rfl, rfl⟩
  exact String.append_assoc

/-- A sleeve that is worth nothing has no lots. -/
theorem mem_whenPositive {worth : ℚ} {lots : List SyntheticLot}
    {lot : SyntheticLot} (hlot : lot ∈ if worth > 0 then lots else []) :
    lot ∈ lots := by
  split at hlot
  · exact hlot
  · cases hlot

theorem householdLot_splitEquityLots (equityNav : ℚ) :
    ∀ lot ∈ splitEquityLots rng hhId accountId equityNav seed cohortId,
      HouseholdLot hhId accountId lot := by
  have hdiversified : ∀ nav, HouseholdLot hhId accountId
      (diversifiedLot hhId accountId nav) := fun nav =>
    householdLot_fixed hhId accountId (by decide : "-vti-0" ∈ _) rfl rfl rfl
  intro lot hlot
  unfold splitEquityLots at hlot
  split at hlot
  · rcases List.mem_append.mp hlot with hlot | hlot
    · exact householdLot_concentratedLots hhId accountId _ _ lot hlot
    · rw [List.mem_singleton.mp (mem_whenPositive hlot)]
      exact hdiversified _
  · rw [List.mem_singleton.mp hlot]
    exact hdiversified _

theorem householdLot_splitPublicLots :
    ∀ lot ∈ splitPublicLots rng hhId accountId weights nav seed cohortId,
      HouseholdLot hhId accountId lot := by
  intro lot hlot
  unfold splitPublicLots at hlot
  rcases List.mem_append.mp hlot with hlot | hlot
  · rcases List.mem_append.mp hlot with hlot | hlot
    · rcases List.mem_append.mp hlot with hlot | hlot
      · exact householdLot_splitEquityLots rng hhId accountId cohortId seed _
          lot (mem_whenPositive hlot)
      · rw [List.mem_singleton.mp (mem_whenPositive hlot)]
        exact householdLot_fixed hhId accountId (by decide : "-bnd-0" ∈ _) rfl
          rfl rfl
    · rw [List.mem_singleton.mp (mem_whenPositive hlot)]
      exact householdLot_fixed hhId accountId (by decide : "-cash-0" ∈ _) rfl
        rfl rfl
  · rw [List.mem_singleton.mp (mem_whenPositive hlot)]
    exact householdLot_fixed hhId accountId (by decide : "-comm-0" ∈ _) rfl rfl
      rfl

end Lots

-- ============================================================== the fixtures

/-- A fixture under the ids of its household. -/
structure StandardFixture (fixture : HouseholdFixture) : Prop where
  seedable : SeedableFixture fixture
  named : fixture.householdId ≠ ""
  accounts : ∀ account ∈ fixture.accounts,
    HasId 1 fixture.householdId account.accountId
  lots : ∀ lot ∈ fixture.lots, StandardLot lot
    ∧ HasId 2 fixture.householdId lot.lotId
    ∧ lot.accountId ∈ fixture.accounts.map (·.accountId)
  holdings : ∀ alt ∈ fixture.alternativeHoldings,
    alt.holdingId = fixture.householdId ++ "-pe-1"
  worth : fixture.totalNavUsd = (fixture.lots.map SyntheticLot.marketValue).sum
    + (fixture.alternativeHoldings.map (·.currentNav)).sum

theorem householdIdOr_ne_empty (householdId : Option String)
    (cohortId : String) (seed : Int) :
    householdIdOr householdId cohortId seed ≠ "" := by
  have hdefault : "synthetic-" ++ cohortId ++ "-s" ++ toString seed ≠ "" := by
    intro hempty
    have hlength := congrArg (fun s => s.toList.length) hempty
    simp at hlength
  unfold householdIdOr
  split
  · split
    · assumption
    · exact hdefault
  · exact hdefault

theorem standardFixture_assembleFixture (rt : SyntheticRuntime)
    (cohortId : String) (seed rung : Int) {hhId : String} (nav : ℚ)
    (weights : Dict RiskClass ℚ) (hnamed : hhId ≠ "") : StandardFixture
      (assembleFixture rt cohortId seed rung hhId nav weights) where
  seedable := seedableFixture_assembleFixture ..
  named := hnamed
  accounts := by
    intro account haccount
    have hsuffix : ∃ suffix ∈ ["-taxable", "-trust", "-ira"],
        account.accountId = hhId ++ suffix := by
      unfold assembleFixture buildAccounts at haccount
      rcases List.mem_append.mp haccount with haccount | haccount
      · rcases List.mem_append.mp haccount with haccount | haccount
        · rw [List.mem_singleton.mp haccount]
          exact ⟨"-taxable", by decide, rfl⟩
        · split at haccount
          · rw [List.mem_singleton.mp haccount]
            exact ⟨"-trust", by decide, rfl⟩
          · cases haccount
      · rw [List.mem_singleton.mp haccount]
        exact ⟨"-ira", by decide, rfl⟩
    obtain ⟨suffix, hsuffix, hid⟩ := hsuffix
    exact ⟨suffix, suffix_account suffix hsuffix, hid⟩
  lots := by
    intro lot hlot
    have hhousehold : HouseholdLot hhId
        (((buildAccounts hhId cohortId).map (·.accountId)).headD "") lot := by
      unfold assembleFixture at hlot
      dsimp only at hlot
      split at hlot
      · exact householdLot_sleeveOnlyLots hhId _ weights nav lot hlot
      · exact householdLot_splitPublicLots _ hhId _ cohortId weights nav seed
          lot hlot
    refine ⟨⟨(bySleeve_assembleFixture rt cohortId seed rung hhId nav
      weights).mem hlot, hhousehold.price⟩, hhousehold.id, ?_⟩
    rw [hhousehold.account]
    exact List.mem_cons_self
  holdings := by
    intro alt halt
    unfold assembleFixture buildAlts at halt
    dsimp only at halt
    split at halt
    · cases halt
    · rw [List.mem_singleton.mp halt]
      rfl
  worth := rfl

/-- A bundle the generator has returned. -/
def Emitted (bundle : SyntheticHouseholdBundle) : Prop :=
  ∃ rt cohortId seed rung householdId nav validate weights,
    emitSyntheticHousehold rt cohortId seed rung householdId nav validate
      weights = .ok bundle

/-- The id of a household's first statement. -/
def firstIpsId (hhId : String) : String := "ips_" ++ hhId ++ "_v1"

theorem firstIpsId_injective : Function.Injective firstIpsId := by
  intro hhId hhId' heq
  unfold firstIpsId at heq
  rw [String.append_left_inj, String.append_right_inj] at heq
  exact heq

/-- The id of the bundle's household. -/
def SpelledBundle.hhId (bundle : SpelledBundle) : String :=
  bundle.fixture.householdId

/-- A bundle as the generator emits it: a standard fixture under its first
policy. -/
structure StandardBundle (bundle : SpelledBundle) : Prop where
  fixture : StandardFixture bundle.fixture
  ipsId : bundle.ips.ipsId = firstIpsId bundle.hhId

/-- An emitted policy is the household's first. -/
theorem ipsId_emitIpsForCohort {rng : SeededRandom} {cohortId hhId : String}
    {seed rung : Int} {weights : Dict RiskClass ℚ}
    {ips : InvestmentPolicyStatement}
    (h : emitIpsForCohort rng cohortId seed hhId weights rung = .ok ips) :
    ips.ipsId = firstIpsId hhId := by
  unfold emitIpsForCohort at h
  obtain ⟨priors, -, h⟩ := bind_ok_iff.mp h
  obtain ⟨limit, -, h⟩ := bind_ok_iff.mp h
  obtain ⟨targets, -, h⟩ := bind_ok_iff.mp h
  split at h
  · cases h
  · unfold InvestmentPolicyStatement.create at h
    split at h
    · split at h
      · split at h
        · cases h
          rfl
        · cases h
      · cases h
    · cases h

/-- Emitted bundles are standard. -/
theorem standardBundle_emitted {bundle : SpelledBundle}
    (h : Emitted bundle.toSyntheticHouseholdBundle) :
    StandardBundle bundle := by
  obtain ⟨rt, cohortId, seed, rung, householdId, nav, validate, weights, hrun⟩
    := h
  obtain ⟨resolved, portfolio, -, hfixture, hips⟩ :=
    emitSyntheticHousehold_inv hrun
  have hassembled := standardFixture_assembleFixture rt cohortId seed rung nav
    resolved (householdIdOr_ne_empty householdId cohortId seed)
  have hsame : StandardFixture bundle.fixture := by
    rw [hfixture]
    exact ⟨hassembled.seedable.sealed rt _ _, hassembled.named,
      hassembled.accounts, hassembled.lots, hassembled.holdings,
      hassembled.worth⟩
  refine ⟨hsame, ?_⟩
  rw [ipsId_emitIpsForCohort hips]
  unfold SpelledBundle.hhId
  rw [hfixture]
  rfl

-- ================================================================== the run

/-- No household is named like an account. -/
def Apart (bundles : List SpelledBundle) : Prop :=
  ∀ bundle ∈ bundles, ∀ account ∈ bundle.fixture.accounts,
    ∀ other ∈ bundles, account.accountId ≠ other.hhId

/-- The tables of a run. -/
structure Seeds (run : SeedRun) : Prop where
  standard : ∀ bundle ∈ run.seeded, StandardBundle bundle
  households : (run.seeded.map SpelledBundle.hhId).Nodup
  policies : ∀ hhId,
    (run.store.ipsPolicies.rows.get? (firstIpsId hhId)).isSome = true
      ↔ hhId ∈ run.seeded.map SpelledBundle.hhId
  entities : run.store.entities.rows
    = run.seeded.flatMap fun bundle => entityRows bundle.fixture
  lots : run.store.lots.rows = run.seeded.flatMap fun bundle =>
    lotRows bundle.fixture bundle.ips.restrictedSecurities
  holdings : run.store.alternativeHoldings.rows
    = run.seeded.flatMap fun bundle => holdingRows bundle.fixture
  securities : ∀ row ∈ run.store.securities.rows, ∃ lot, StandardLot lot
    ∧ row = securityRow lot (seededTier lot)
  prices : ∀ row ∈ run.store.marketPrices.rows, ∃ lot asOf, StandardLot lot
    ∧ row = priceRow asOf lot
  priced : (run.store.marketPrices.rows.map MarketPriceRow.securityId).Nodup
  known : ∀ bundle ∈ run.seeded, ∀ lot ∈ bundle.fixture.lots,
    seedSecurityId lot.ticker
        ∈ run.store.securities.rows.map SecurityRow.securityId
      ∧ seedSecurityId lot.ticker
        ∈ run.store.marketPrices.rows.map MarketPriceRow.securityId

/-- Before the first call. -/
theorem seeds_empty : Seeds {} where
  standard := by
    intro bundle hbundle
    cases hbundle
  households := List.nodup_nil
  policies := by
    intro hhId
    constructor
    · intro h
      cases h
    · intro h
      cases h
  entities := rfl
  lots := rfl
  holdings := rfl
  securities := by
    intro row hrow
    cases hrow
  prices := by
    intro row hrow
    cases hrow
  priced := List.nodup_nil
  known := by
    intro bundle hbundle
    cases hbundle

section Call

variable {run : SeedRun} {bundle : SpelledBundle}

/-- An entity of the run is a seeded household or an account of one. -/
theorem Seeds.entity (h : Seeds run) {entityId : String}
    (hmem : entityId ∈ run.store.entities.rows.map EntityRow.entityId) :
    ∃ other ∈ run.seeded, entityId = other.hhId
      ∨ ∃ account ∈ other.fixture.accounts, entityId = account.accountId := by
  obtain ⟨row, hrow, rfl⟩ := List.mem_map.mp hmem
  rw [h.entities] at hrow
  obtain ⟨other, hother, hrow⟩ := List.mem_flatMap.mp hrow
  refine ⟨other, hother, ?_⟩
  rcases List.mem_cons.mp hrow with rfl | hrow
  · exact .inl rfl
  · obtain ⟨account, haccount, rfl⟩ := List.mem_map.mp hrow
    exact .inr ⟨account, haccount, rfl⟩

/-- A household without a statement has nothing in the tables. -/
theorem Seeds.notSeeded (h : Seeds run) (hbundle : StandardBundle bundle)
    (hapart : Apart (run.seeded ++ [bundle]))
    (hnew : bundle.hhId ∉ run.seeded.map SpelledBundle.hhId) :
    NotSeeded run.store bundle where
  policy := by
    rw [hbundle.ipsId, ← Option.not_isSome_iff_eq_none, h.policies]
    exact hnew
  household := by
    intro hmem
    obtain ⟨other, hother, hid | ⟨account, haccount, hid⟩⟩ := h.entity hmem
    · apply hnew
      show bundle.fixture.householdId ∈ _
      rw [hid]
      exact List.mem_map_of_mem hother
    · exact hapart other (List.mem_append_left _ hother) account haccount bundle
        (List.mem_append_right _ List.mem_cons_self) hid.symm
  lots := by
    intro lot hlot hmem
    obtain ⟨row, hrow, hid⟩ := List.mem_map.mp hmem
    rw [h.lots] at hrow
    obtain ⟨other, hother, hrow⟩ := List.mem_flatMap.mp hrow
    obtain ⟨lot', hlot', rfl⟩ := List.mem_map.mp hrow
    have hother' := ((h.standard other hother).fixture.lots lot' hlot').2.1
    have hown := (hbundle.fixture.lots lot hlot).2.1
    rw [← hid] at hown
    apply hnew
    rw [show bundle.hhId = other.hhId from hown.household hother']
    exact List.mem_map_of_mem hother

/-- None of its entities is there. -/
theorem Seeds.entities_fresh (h : Seeds run) (hbundle : StandardBundle bundle)
    (hapart : Apart (run.seeded ++ [bundle]))
    (hnew : bundle.hhId ∉ run.seeded.map SpelledBundle.hhId) :
    ∀ row ∈ entityRows bundle.fixture,
      row.entityId ∉ run.store.entities.rows.map EntityRow.entityId := by
  intro row hrow hmem
  rcases List.mem_cons.mp hrow with rfl | hrow
  · exact (h.notSeeded hbundle hapart hnew).household hmem
  · obtain ⟨account, haccount, rfl⟩ := List.mem_map.mp hrow
    obtain ⟨other, hother, hid | ⟨account', haccount', hid⟩⟩ := h.entity hmem
    · exact hapart bundle (List.mem_append_right _ List.mem_cons_self) account
        haccount other (List.mem_append_left _ hother) hid
    · have hown := hbundle.fixture.accounts account haccount
      have hother' := (h.standard other hother).fixture.accounts account'
        haccount'
      rw [← show account.accountId = account'.accountId from hid] at hother'
      apply hnew
      rw [show bundle.hhId = other.hhId from hown.household hother']
      exact List.mem_map_of_mem hother

/-- Nor any of its holdings. -/
theorem Seeds.holdings_fresh (h : Seeds run) (hbundle : StandardBundle bundle)
    (hnew : bundle.hhId ∉ run.seeded.map SpelledBundle.hhId) :
    ∀ row ∈ holdingRows bundle.fixture, row.holdingId
      ∉ run.store.alternativeHoldings.rows.map
        AlternativeHoldingRow.holdingId := by
  intro row hrow hmem
  obtain ⟨alt, halt, rfl⟩ := List.mem_map.mp hrow
  obtain ⟨row', hrow', hid⟩ := List.mem_map.mp hmem
  rw [h.holdings] at hrow'
  obtain ⟨other, hother, hrow'⟩ := List.mem_flatMap.mp hrow'
  obtain ⟨alt', halt', rfl⟩ := List.mem_map.mp hrow'
  have hids : alt'.holdingId = alt.holdingId := hid
  rw [(h.standard other hother).fixture.holdings alt' halt',
    hbundle.fixture.holdings alt halt, String.append_left_inj] at hids
  apply hnew
  rw [show bundle.hhId = other.hhId from hids.symm]
  exact List.mem_map_of_mem hother

/-- A household is one of those with a statement once its own is saved. -/
theorem Seeds.policies_saved (h : Seeds run) (bundle : SpelledBundle)
    (policy : IpsPolicyRow) (hhId : String) :
    ((run.store.ipsPolicies.rows.set (firstIpsId bundle.hhId) policy).get?
        (firstIpsId hhId)).isSome = true
      ↔ hhId ∈ (run.seeded ++ [bundle]).map SpelledBundle.hhId := by
  rw [Dict.get?_set, List.map_append, List.mem_append, List.map_singleton,
    List.mem_singleton]
  by_cases hsame : hhId = bundle.hhId
  · rw [if_pos (congrArg firstIpsId hsame)]
    exact ⟨fun _ => .inr hsame, fun _ => rfl⟩
  · rw [if_neg (firstIpsId_injective.ne hsame), h.policies]
    exact ⟨.inl, fun hmem => hmem.resolve_right hsame⟩

/-- The tables after a flush that went through. -/
theorem Seeds.flushed (h : Seeds run) (hbundle : StandardBundle bundle)
    (hapart : Apart (run.seeded ++ [bundle]))
    (hnew : bundle.hhId ∉ run.seeded.map SpelledBundle.hhId) (asOf : Date)
    {seeded : SeedStore}
    (hrun : (run.store.session.ensured bundle.fixture
      bundle.ips.restrictedSecurities asOf).flush
        (saveIps run.store.ipsPolicies bundle.spelled) = .ok seeded) :
    Seeds { store := seeded, seeded := run.seeded ++ [bundle] } := by
  have hflushed := SeedSession.flush_eq_ok.mp hrun
  have hnot := h.notSeeded hbundle hapart hnew
  have hmade := seeded_of_flush hbundle.fixture.seedable hnot hrun
  have hknows := (flush_ok_iff bundle.ips.restrictedSecurities asOf run.store
    hbundle.fixture.seedable _).mp ⟨seeded, hrun⟩
  have hsecurities : seeded.securities.rows = (Staged.ensureAll
      SecurityRow.securityId { flushed := run.store.securities.rows }
      (securityRows bundle.fixture)).rows := hflushed.securities
  have hprices : seeded.marketPrices.rows = (Staged.ensureAll
      MarketPriceRow.securityId { flushed := run.store.marketPrices.rows }
      (priceRows bundle.fixture asOf)).rows := hflushed.prices
  have hid : bundle.ips.ipsId = (ipsPolicyRow bundle.spelled).ipsId := by
    rw [← bundle.spells]
    rfl
  constructor
  case standard =>
    intro other hother
    rcases List.mem_append.mp hother with hother | hother
    · exact h.standard other hother
    · rw [List.mem_singleton.mp hother]
      exact hbundle
  case households =>
    show ((run.seeded ++ [bundle]).map SpelledBundle.hhId).Nodup
    rw [List.map_append, List.map_singleton]
    exact List.Nodup.append h.households (List.nodup_singleton _)
      (List.disjoint_singleton.mpr hnew)
  case policies =>
    intro hhId
    show (seeded.ipsPolicies.rows.get? _).isSome = true ↔ _
    rw [hmade.policies]
    have hsaved := h.policies_saved bundle (ipsPolicyRow bundle.spelled) hhId
    rw [← hbundle.ipsId, hid] at hsaved
    exact hsaved
  case entities =>
    show seeded.entities.rows = _
    rw [hflushed.entities]
    show (Staged.ensureAll EntityRow.entityId
      { flushed := run.store.entities.rows } _).rows = _
    rw [Staged.rows_ensureAll_of_fresh (h.entities_fresh hbundle hapart hnew),
      List.flatMap_append, h.entities, List.flatMap_singleton]
  case lots =>
    show seeded.lots.rows = _
    rw [hmade.lots, List.flatMap_append, h.lots, List.flatMap_singleton]
  case holdings =>
    show seeded.alternativeHoldings.rows = _
    rw [hflushed.holdings]
    show (Staged.ensureAll AlternativeHoldingRow.holdingId
      { flushed := run.store.alternativeHoldings.rows } _).rows = _
    rw [Staged.rows_ensureAll_of_fresh (h.holdings_fresh hbundle hnew),
      List.flatMap_append, h.holdings, List.flatMap_singleton]
  case securities =>
    intro row hrow
    rw [show seeded.securities.rows = _ from hsecurities] at hrow
    rcases Staged.mem_ensureAll hrow with hrow | hrow
    · exact h.securities row hrow
    · obtain ⟨lot, hlot, rfl⟩ := List.mem_map.mp hrow
      exact ⟨lot, (hbundle.fixture.lots lot hlot).1, rfl⟩
  case prices =>
    intro row hrow
    rw [show seeded.marketPrices.rows = _ from hprices] at hrow
    rcases Staged.mem_ensureAll hrow with hrow | hrow
    · exact h.prices row hrow
    · obtain ⟨lot, hlot, rfl⟩ := List.mem_map.mp hrow
      exact ⟨lot, asOf, (hbundle.fixture.lots lot hlot).1, rfl⟩
  case priced =>
    show (seeded.marketPrices.rows.map MarketPriceRow.securityId).Nodup
    rw [hprices]
    refine (Staged.flushable_ensureAll_iff h.priced (fun _ _ h => h)
      fun _ _ _ _ h => h).mpr ?_
    rw [securityIds_priceRows, shared_map_iff (seedSecurityId_inj_lots
      hbundle.fixture.seedable)]
    exact fun ticker htwice => (hknows ticker htwice).2
  case known =>
    intro other hother lot hlot
    show _ ∈ seeded.securities.rows.map SecurityRow.securityId
      ∧ _ ∈ seeded.marketPrices.rows.map MarketPriceRow.securityId
    rw [hsecurities, hprices]
    rcases List.mem_append.mp hother with hother | hother
    · obtain ⟨hsecurity, hprice⟩ := h.known other hother lot hlot
      exact ⟨Staged.kept_ensureAll hsecurity, Staged.kept_ensureAll hprice⟩
    · rw [List.mem_singleton.mp hother] at hlot
      have hsecurity : securityRow lot (seededTier lot)
          ∈ securityRows bundle.fixture := List.mem_map_of_mem hlot
      have hprice : priceRow asOf lot ∈ priceRows bundle.fixture asOf :=
        List.mem_map_of_mem hlot
      exact ⟨Staged.owned_ensureAll hsecurity, Staged.owned_ensureAll hprice⟩

/-- Everything a call does: nothing for a household that has its rows, all
of the household's rows, or an error. -/
theorem Seeds.call_cases (h : Seeds run) (hbundle : StandardBundle bundle)
    (hapart : Apart (run.seeded ++ [bundle])) (asOf : Option Date) :
    bundle.hhId ∈ run.seeded.map SpelledBundle.hhId
        ∧ run.call (bundle, asOf) = run
      ∨ bundle.hhId ∉ run.seeded.map SpelledBundle.hhId
        ∧ (run.call (bundle, asOf) = run
          ∨ ∃ seeded, run.call (bundle, asOf)
              = { store := seeded, seeded := run.seeded ++ [bundle] }
            ∧ Seeds { store := seeded, seeded := run.seeded ++ [bundle] }) := by
  by_cases hthere : bundle.hhId ∈ run.seeded.map SpelledBundle.hhId
  · left
    refine ⟨hthere, ?_⟩
    have hpolicy := (h.policies bundle.hhId).mpr hthere
    rw [← hbundle.ipsId] at hpolicy
    unfold SeedRun.call seedSyntheticHousehold
    dsimp only
    rw [if_pos hpolicy]
    rfl
  · right
    refine ⟨hthere, ?_⟩
    have hnot := h.notSeeded hbundle hapart hthere
    unfold SeedRun.call
    dsimp only
    rw [seedSyntheticHousehold_new hbundle.fixture.seedable hnot]
    cases hrun : (run.store.session.ensured bundle.fixture
        bundle.ips.restrictedSecurities (asOf.getD seedPriceDate)).flush
          (saveIps run.store.ipsPolicies bundle.spelled) with
    | error err => exact .inl rfl
    | ok seeded =>
      exact .inr ⟨seeded, rfl, h.flushed hbundle hapart hthere _ hrun⟩

end Call

theorem Apart.subset {bundles bundles' : List SpelledBundle}
    (h : Apart bundles) (hsub : bundles' ⊆ bundles) : Apart bundles' :=
  fun bundle hbundle account haccount other hother =>
    h bundle (hsub hbundle) account haccount other (hsub hother)

/-- After any calls, the tables are those of the seeded households, who
were all asked for. -/
theorem seeds_seedRun {requests : List (SpelledBundle × Option Date)}
    (hemitted : ∀ request ∈ requests, StandardBundle request.1)
    (hapart : Apart (requests.map Prod.fst)) :
    Seeds (seedRun requests)
      ∧ (seedRun requests).seeded ⊆ requests.map Prod.fst := by
  induction requests using List.reverseRecOn with
  | nil => exact ⟨seeds_empty, List.Subset.refl _⟩
  | append_singleton requests request ih =>
    obtain ⟨bundle, asOf⟩ := request
    have hlast : seedRun (requests ++ [(bundle, asOf)])
        = (seedRun requests).call (bundle, asOf) := by
      unfold seedRun
      rw [List.foldl_append]
      rfl
    rw [List.map_append] at hapart ⊢
    obtain ⟨hseeds, hasked⟩ := ih
      (fun request hrequest => hemitted request
        (List.mem_append_left _ hrequest))
      (hapart.subset (List.subset_append_left ..))
    have hbundle := hemitted (bundle, asOf)
      (List.mem_append_right _ List.mem_cons_self)
    have hsub : (seedRun requests).seeded ++ [bundle]
        ⊆ requests.map Prod.fst ++ [(bundle, asOf)].map Prod.fst :=
      List.append_subset.mpr ⟨List.subset_append_of_subset_left _ hasked,
        List.subset_append_right ..⟩
    rw [hlast]
    rcases hseeds.call_cases hbundle (hapart.subset hsub) asOf with
      ⟨-, hsame⟩ | ⟨-, hsame | ⟨seeded, hcall, hafter⟩⟩
    · rw [hsame]
      exact ⟨hseeds, fun other hother => List.mem_append_left _ (hasked hother)⟩
    · rw [hsame]
      exact ⟨hseeds, fun other hother => List.mem_append_left _ (hasked hother)⟩
    · rw [hcall]
      exact ⟨hafter, hsub⟩

-- ============================================================== the reading

/-- What the query of a household answers for a lot. -/
def listedLot (store : Store) (hhId : String) (lot : Lot) :
    Option LotPositionView :=
  match joinLot store lot with
  | none => none
  | some row =>
      if row.account.householdId = some hhId then
        some (lotPositionView (latestMark store none row.lot.securityId) row)
      else none

/-- The listing is a filter of the lots: the joins are lookups. -/
theorem listLotPositions_eq (scan : List Lot → List Lot) (store : Store)
    {hhId : String} (hnamed : hhId ≠ "") :
    listLotPositions scan store (some hhId)
      = (scan store.lots).filterMap (listedLot store hhId) := by
  have htruthy : truthy (some hhId) = true := decide_eq_true hnamed
  unfold listLotPositions joinedLots
  dsimp only
  rw [if_pos htruthy]
  induction scan store.lots with
  | nil => rfl
  | cons lot rest ih =>
    cases hjoin : joinLot store lot with
    | none =>
      have hnone : listedLot store hhId lot = none := by
        unfold listedLot
        rw [hjoin]
      rw [List.filterMap_cons_none hjoin, List.filterMap_cons_none hnone]
      exact ih
    | some row =>
      rw [List.filterMap_cons_some hjoin]
      by_cases hown : row.account.householdId = some hhId
      · have hsome : listedLot store hhId lot = some (lotPositionView
            (latestMark store none row.lot.securityId) row) := by
          unfold listedLot
          rw [hjoin]
          exact if_pos hown
        rw [List.filter_cons, if_pos (decide_eq_true hown),
          List.filterMap_cons_some hsome, List.map_cons, ih]
      · have hnone : listedLot store hhId lot = none := by
          unfold listedLot
          rw [hjoin]
          exact if_neg hown
        rw [List.filter_cons, if_neg (by simpa using hown),
          List.filterMap_cons_none hnone]
        exact ih

/-- A security with one price has that mark. -/
theorem latestMark_of_priced {store : Store} {row : MarketPriceRow}
    (hpriced : (store.marketPrices.map MarketPriceRow.securityId).Nodup)
    (hmem : row ∈ store.marketPrices) :
    latestMark store none row.securityId = some row.price := by
  have hown := Keyed.filter_own hpriced hmem
  have hmarks : store.marketPrices.filter (fun mark =>
      mark.securityId = row.securityId ∧ ∀ d ∈ (none : Option Date),
        mark.asOfDate ≤ d) = [row] := by
    rw [← hown]
    apply List.filter_congr
    intro mark _
    simp
  unfold latestMark
  dsimp only
  rw [hmarks]
  have hlatest : ([row].map (·.asOfDate)).max? = some row.asOfDate := rfl
  have hfound : [row].find? (fun mark => mark.asOfDate = row.asOfDate)
      = some row := List.find?_cons_of_pos (decide_eq_true rfl)
  rw [hlatest]
  dsimp only
  rw [hfound]
  rfl

/-- The ledger's view of a lot, from the one without a session: it names
the security by the ledger's id and the fund's name. -/
def ledgerView (pos : LotPositionView) : LotPositionView :=
  { pos with
    securityId := seedSecurityId pos.securityId
    securityName := (tickerName pos.securityId).getD pos.securityId }

/-- The names of a fixture's accounts, as its views look them up. -/
def accountNames (fixture : HouseholdFixture) : Dict String String :=
  Dict.ofPairs (fixture.accounts.map fun account =>
    (account.accountId, account.name))

/-- An account of the fixture is found under its own name. -/
theorem accountNames_get {fixture : HouseholdFixture}
    (h : SeedableFixture fixture) {account : SyntheticAccount}
    (haccount : account ∈ fixture.accounts) :
    (accountNames fixture).get? account.accountId = some account.name := by
  have hids := (List.nodup_cons.mp h.accountIds).2
  unfold accountNames
  rw [Dict.get?_eq_some_iff, Dict.entries_ofPairs]
  · exact List.mem_map.mpr ⟨account, haccount, rfl⟩
  · rw [List.map_map]
    exact hids

/-- A holding's view, of the fixture. -/
def alternativeView (householdId : String) (alt : SyntheticAltHolding) :
    AlternativeHoldingView where
  holdingId := alt.holdingId
  householdId := householdId
  name := alt.name
  currentNav := alt.currentNav

/-- The holdings that a household's query finds in a fixture. -/
theorem ownHoldings_fixture (scale : ColumnScale) (fixture : HouseholdFixture)
    (hhId : String) :
    (((holdingRows fixture).map scale.holding).filter
        (·.householdId = hhId)).map holdingToView
      = if fixture.householdId = hhId then
          (scale.kept fixture).alternativeHoldings.map (alternativeView hhId)
        else [] := by
  have howned : ∀ row ∈ (holdingRows fixture).map scale.holding,
      row.householdId = fixture.householdId := by
    intro row hrow
    obtain ⟨given, hgiven, rfl⟩ := List.mem_map.mp hrow
    obtain ⟨alt, -, rfl⟩ := List.mem_map.mp hgiven
    rfl
  by_cases hown : fixture.householdId = hhId
  · rw [if_pos hown, List.filter_eq_self.mpr]
    · show _ = (fixture.alternativeHoldings.map scale.keptHolding).map
        (alternativeView hhId)
      unfold holdingRows
      rw [List.map_map, List.map_map, List.map_map, ← hown]
      rfl
    · intro row hrow
      exact decide_eq_true ((howned row hrow).trans hown)
  · rw [if_neg hown, List.filter_eq_nil_iff.mpr]
    · rfl
    · intro row hrow heq
      exact hown ((howned row hrow).symm.trans (of_decide_eq_true heq))

section Reading

variable {run : SeedRun} (h : Seeds run) (scale : ColumnScale)

include h

/-- A seeded lot joins its ticker's security and its own account. -/
theorem Seeds.joinLot_seeded {bundle : SpelledBundle}
    (hbundle : bundle ∈ run.seeded) {lot : SyntheticLot}
    (hlot : lot ∈ bundle.fixture.lots) {account : SyntheticAccount}
    (haccount : account ∈ bundle.fixture.accounts)
    (hid : account.accountId = lot.accountId) (restricted : List String) :
    joinLot (run.store.read scale).store
        (scale.lot (seededLot restricted lot))
      = some { lot := scale.lot (seededLot restricted lot)
               security := securityRow lot (seededTier lot)
               account := accountRow bundle.hhId account } := by
  have hstandard := ((h.standard bundle hbundle).fixture.lots lot hlot).1
  obtain ⟨row, hrow, hsecurityId⟩ :=
    List.mem_map.mp (h.known bundle hbundle lot hlot).1
  have hsecurity : row = securityRow lot (seededTier lot) := by
    obtain ⟨lot', hstandard', rfl⟩ := h.securities row hrow
    apply hstandard'.securityRow_eq hstandard
    obtain ⟨_, -, -, hticker⟩ := hstandard.sleeve
    obtain ⟨_, -, -, hticker'⟩ := hstandard'.sleeve
    exact seedSecurityId_inj (sleeveTickers_emitted hticker')
      (sleeveTickers_emitted hticker) hsecurityId
  rw [hsecurity] at hrow
  have hentity : accountRow bundle.hhId account ∈ run.store.entities.rows := by
    rw [h.entities]
    exact List.mem_flatMap.mpr ⟨bundle, hbundle,
      List.mem_cons_of_mem _ (List.mem_map_of_mem haccount)⟩
  have hjoined := Keyed.get_of_mem run.store.securities.keys hrow
  have howner := Keyed.get_of_mem run.store.entities.keys hentity
  have hsecurities : (run.store.read scale).store.securities.find?
      (·.securityId = (scale.lot (seededLot restricted lot)).securityId)
        = some (securityRow lot (seededTier lot)) := hjoined
  have hentities : (run.store.read scale).store.entities.find?
      (·.entityId = (scale.lot (seededLot restricted lot)).accountId)
        = some (accountRow bundle.hhId account) := by
    show run.store.entities.rows.find? (·.entityId = lot.accountId) = _
    rw [← hid]
    exact howner
  unfold joinLot
  rw [hsecurities, hentities]

/-- It has the price of its ticker. -/
theorem Seeds.latestMark_seeded {bundle : SpelledBundle}
    (hbundle : bundle ∈ run.seeded) {lot : SyntheticLot}
    (hlot : lot ∈ bundle.fixture.lots) :
    latestMark (run.store.read scale).store none (seedSecurityId lot.ticker)
      = some (scale.quantity lot.marketPrice) := by
  have hstandard := ((h.standard bundle hbundle).fixture.lots lot hlot).1
  obtain ⟨row, hrow, hsecurityId⟩ :=
    List.mem_map.mp (h.known bundle hbundle lot hlot).2
  have hprice : row.price = lot.marketPrice := by
    obtain ⟨lot', asOf, hstandard', rfl⟩ := h.prices row hrow
    obtain ⟨_, -, -, hticker⟩ := hstandard.sleeve
    obtain ⟨_, -, -, hticker'⟩ := hstandard'.sleeve
    have hsame : lot'.ticker = lot.ticker :=
      seedSecurityId_inj (sleeveTickers_emitted hticker')
        (sleeveTickers_emitted hticker) hsecurityId
    show lot'.marketPrice = _
    rw [hstandard'.price, hstandard.price, hsame]
  have hpriced : ((run.store.read scale).store.marketPrices.map
      MarketPriceRow.securityId).Nodup := by
    show ((run.store.marketPrices.rows.map scale.price).map _).Nodup
    rw [List.map_map]
    exact h.priced
  have hmark := latestMark_of_priced hpriced (List.mem_map_of_mem hrow)
  rw [← hsecurityId, ← hprice]
  exact hmark

/-- The in-process view of a seeded lot is what its household's query
answers for it, and no other household's does. -/
theorem Seeds.listedLot_seeded {bundle : SpelledBundle}
    (hbundle : bundle ∈ run.seeded) {lot : SyntheticLot}
    (hlot : lot ∈ bundle.fixture.lots) (restricted : List String) :
    ∃ pos, lotPosition (accountNames bundle.fixture) restricted
          (scale.keptLot lot) = .ok pos
      ∧ ∀ hhId, listedLot (run.store.read scale).store hhId
            (scale.lot (seededLot restricted lot))
          = if bundle.hhId = hhId then some (ledgerView pos) else none := by
  have hfixture := (h.standard bundle hbundle).fixture
  obtain ⟨account, haccount, hid⟩ :=
    List.mem_map.mp (hfixture.lots lot hlot).2.2
  have hname : (accountNames bundle.fixture).get? lot.accountId
      = some account.name := by
    rw [← hid]
    exact accountNames_get hfixture.seedable haccount
  have htier : lotLiquidityTier (scale.keptLot lot) = .ok (seededTier lot) :=
    hfixture.seedable.tiers lot hlot
  have hjoin := h.joinLot_seeded scale hbundle hlot haccount hid restricted
  have hmark := h.latestMark_seeded scale hbundle hlot
  unfold lotPosition
  rw [htier, ok_bind]
  refine ⟨_, rfl, fun hhId => ?_⟩
  unfold listedLot
  rw [hjoin]
  dsimp only
  have howner : (accountRow bundle.hhId account).householdId = some hhId
      ↔ bundle.hhId = hhId := ⟨Option.some.inj, congrArg some⟩
  by_cases hown : bundle.hhId = hhId
  · rw [if_pos hown, if_pos (howner.mpr hown)]
    have hview : latestMark (run.store.read scale).store none
        (scale.lot (seededLot restricted lot)).securityId
          = some (scale.quantity lot.marketPrice) := hmark
    have hnamed : ((accountNames bundle.fixture).get?
        (scale.keptLot lot).accountId).getD (scale.keptLot lot).accountId
          = account.name := by
      show ((accountNames bundle.fixture).get? lot.accountId).getD _ = _
      rw [hname]
      rfl
    rw [hview, hnamed]
    rfl
  · rw [if_neg hown, if_neg fun heq => hown (howner.mp heq)]

/-- A household's query answers the views of its fixture. -/
theorem Seeds.listed_own {bundle : SpelledBundle}
    (hbundle : bundle ∈ run.seeded) :
    ∃ views, lotPositionsFromFixture (scale.kept bundle.fixture)
          (some bundle.ips.restrictedSecurities) = .ok views
      ∧ ((lotRows bundle.fixture bundle.ips.restrictedSecurities).map
            scale.lot).filterMap
          (listedLot (run.store.read scale).store bundle.hhId)
        = views.map ledgerView := by
  obtain ⟨views, hviews, -⟩ := mapM_forall₂
    (f := lotPosition (accountNames bundle.fixture)
      bundle.ips.restrictedSecurities) (P := fun _ _ => True)
    (bundle.fixture.lots.map scale.keptLot) (by
      intro kept hkept
      obtain ⟨lot, hlot, rfl⟩ := List.mem_map.mp hkept
      obtain ⟨pos, hpos, -⟩ := h.listedLot_seeded scale hbundle hlot
        bundle.ips.restrictedSecurities
      exact ⟨pos, hpos, trivial⟩)
  refine ⟨views, hviews, ?_⟩
  have hmade := List.forall₂_map_left_iff.mp (mapM_eq_ok_iff.mp hviews)
  unfold lotRows
  rw [List.map_map, List.filterMap_map]
  apply filterMap_of_forall₂ hmade
  intro lot hlot pos _ hpos
  obtain ⟨pos', hpos', hlisted⟩ := h.listedLot_seeded scale hbundle hlot
    bundle.ips.restrictedSecurities
  rw [hpos'] at hpos
  obtain rfl := Except.ok.inj hpos
  show listedLot _ _ (scale.lot (seededLot _ lot)) = _
  rw [hlisted, if_pos rfl]

/-- A bundle's lots are listed for no other household. -/
theorem Seeds.listed_other {bundle : SpelledBundle}
    (hbundle : bundle ∈ run.seeded) {hhId : String}
    (hother : bundle.hhId ≠ hhId) :
    ((lotRows bundle.fixture bundle.ips.restrictedSecurities).map
        scale.lot).filterMap (listedLot (run.store.read scale).store hhId)
      = [] := by
  rw [List.filterMap_eq_nil_iff]
  intro row hrow
  obtain ⟨seeded, hseeded, rfl⟩ := List.mem_map.mp hrow
  obtain ⟨lot, hlot, rfl⟩ := List.mem_map.mp hseeded
  obtain ⟨pos, -, hlisted⟩ := h.listedLot_seeded scale hbundle hlot
    bundle.ips.restrictedSecurities
  rw [hlisted, if_neg hother]

/-- The positions of a household are its bundles' lots, in some order. -/
theorem Seeds.positions_perm (order : LedgerOrder) {hhId : String}
    (hnamed : hhId ≠ "") :
    (ledgerPositions order (run.store.read scale) hhId).Perm
      (run.seeded.flatMap fun bundle =>
        ((lotRows bundle.fixture bundle.ips.restrictedSecurities).map
          scale.lot).filterMap
            (listedLot (run.store.read scale).store hhId)) := by
  have hlots : (run.store.read scale).store.lots
      = run.seeded.flatMap fun bundle =>
        (lotRows bundle.fixture bundle.ips.restrictedSecurities).map
          scale.lot := by
    show run.store.lots.rows.map scale.lot = _
    rw [h.lots, List.map_flatMap]
  unfold ledgerPositions
  rw [listLotPositions_eq _ _ hnamed, ← List.filterMap_flatMap, ← hlots]
  exact (order.lotsPerm _).filterMap _

theorem Seeds.alternatives_perm (order : LedgerOrder) (hhId : String) :
    (ledgerAlternatives order (run.store.read scale) hhId).Perm
      (run.seeded.flatMap fun bundle => if bundle.hhId = hhId then
        (scale.kept bundle.fixture).alternativeHoldings.map
          (alternativeView hhId) else []) := by
  have hholdings : ((run.store.read scale).holdings.filter
        (·.householdId = hhId)).map holdingToView
      = run.seeded.flatMap fun bundle => if bundle.hhId = hhId then
        (scale.kept bundle.fixture).alternativeHoldings.map
          (alternativeView hhId) else [] := by
    show ((run.store.alternativeHoldings.rows.map scale.holding).filter
      (·.householdId = hhId)).map holdingToView = _
    rw [h.holdings, List.map_flatMap, List.filter_flatMap, List.map_flatMap]
    exact congrArg run.seeded.flatMap
      (funext fun bundle => ownHoldings_fixture scale bundle.fixture hhId)
  rw [← hholdings]
  unfold ledgerAlternatives listAlternativeHoldings
  refine List.Perm.map _ ?_
  exact (List.mergeSort_perm _ _).trans (order.holdingsPerm _)

end Reading

/-- The values of the views are the lots'. -/
theorem marketValues_views {lots : List SyntheticLot}
    {views : List LotPositionView} (h : List.Forall₂ LotViewed lots views) :
    (views.map ledgerView).filterMap (·.marketValue)
      = lots.map SyntheticLot.marketValue := by
  rw [List.filterMap_map]
  apply filterMap_of_forall₂ h.flip
  intro pos _ lot _ hview
  exact hview.marketValue

/-- What the ledger says of a household is what its fixture says without
one, up to what the columns round off. -/
structure ReadsBack (scale : ColumnScale) (store : SeedStore)
    (bundle : SpelledBundle) : Prop where
  positions : ∃ views, lotPositionsFromFixture (scale.kept bundle.fixture)
        (some bundle.ips.restrictedSecurities) = .ok views
      ∧ ∀ order, (ledgerPositions order (store.read scale)
        bundle.hhId).Perm (views.map ledgerView)
  alternatives : ∀ order, (ledgerAlternatives order (store.read scale)
    bundle.hhId).Perm ((scale.kept bundle.fixture).alternativeHoldings.map
      (alternativeView bundle.hhId))
  value : ∀ order, householdNotional
      (ledgerPositions order (store.read scale) bundle.hhId)
      (ledgerAlternatives order (store.read scale) bundle.hhId)
    = (scale.kept bundle.fixture).totalNavUsd

/-- In a seeded store, every seeded bundle reads back. -/
theorem Seeds.readsBack {run : SeedRun} (h : Seeds run) (scale : ColumnScale)
    {bundle : SpelledBundle} (hbundle : bundle ∈ run.seeded) :
    ReadsBack scale run.store bundle := by
  have hnamed : bundle.hhId ≠ "" := (h.standard bundle hbundle).fixture.named
  obtain ⟨views, hviews, hown⟩ := h.listed_own scale hbundle
  have hpositions : ∀ order, (ledgerPositions order (run.store.read scale)
      bundle.hhId).Perm (views.map ledgerView) := by
    intro order
    have hperm := h.positions_perm scale order hnamed
    rw [Keyed.flatMap_own h.households hbundle fun other hother hne =>
      h.listed_other scale hother hne, hown] at hperm
    exact hperm
  have halternatives : ∀ order, (ledgerAlternatives order
      (run.store.read scale) bundle.hhId).Perm
        ((scale.kept bundle.fixture).alternativeHoldings.map
          (alternativeView bundle.hhId)) := by
    intro order
    have hperm := h.alternatives_perm scale order bundle.hhId
    rw [Keyed.flatMap_own h.households hbundle fun other _ hne => if_neg hne,
      if_pos rfl] at hperm
    exact hperm
  refine ⟨⟨views, hviews, hpositions⟩, halternatives, fun order => ?_⟩
  have hvalues := marketValues_views (lotPositions_viewed hviews)
  unfold householdNotional
  rw [((hpositions order).filterMap _).sum_eq, ((halternatives order).map
    _).sum_eq, hvalues, List.map_map]
  rfl

/-- After any calls with emitted bundles, each in a transaction of its own,
no two of the households that were new have one id; what the ledger says
of each, in any order of its rows and to any scale of its columns, is what
its fixture says; and of any other household it says nothing. -/
theorem seeded_households_read_back
    (requests : List (SpelledBundle × Option Date))
    (hemitted : ∀ request ∈ requests,
      Emitted request.1.toSyntheticHouseholdBundle)
    (hapart : Apart (requests.map Prod.fst)) (scale : ColumnScale) :
    ((seedRun requests).seeded.map SpelledBundle.hhId).Nodup
      ∧ (∀ bundle ∈ (seedRun requests).seeded,
        bundle ∈ requests.map Prod.fst
          ∧ ReadsBack scale (seedRun requests).store bundle)
      ∧ ∀ hhId, hhId ≠ "" →
        hhId ∉ (seedRun requests).seeded.map SpelledBundle.hhId →
          ∀ order, ledgerPositions order ((seedRun requests).store.read scale)
              hhId = []
            ∧ ledgerAlternatives order ((seedRun requests).store.read scale)
              hhId = [] := by
  obtain ⟨hseeds, hasked⟩ := seeds_seedRun
    (fun request hrequest => standardBundle_emitted (hemitted request hrequest))
    hapart
  refine ⟨hseeds.households, fun bundle hbundle => ⟨hasked hbundle,
    hseeds.readsBack scale hbundle⟩, fun hhId hnamed hnone order => ?_⟩
  have hothers : ∀ bundle ∈ (seedRun requests).seeded,
      bundle.hhId ≠ hhId := by
    intro bundle hbundle heq
    apply hnone
    rw [← heq]
    exact List.mem_map_of_mem hbundle
  have hpositions := hseeds.positions_perm scale order hnamed
  have halternatives := hseeds.alternatives_perm scale order hhId
  rw [List.flatMap_eq_nil_iff.mpr fun bundle hbundle =>
    hseeds.listed_other scale hbundle (hothers bundle hbundle)] at hpositions
  rw [List.flatMap_eq_nil_iff.mpr fun bundle hbundle =>
    if_neg (hothers bundle hbundle)] at halternatives
  exact ⟨hpositions.eq_nil, halternatives.eq_nil⟩

/-- Where all ids have as many dashes no household is named like an
account. -/
theorem apart_of_dashes {bundles : List SpelledBundle} {dashes : Nat}
    (hstandard : ∀ bundle ∈ bundles, StandardBundle bundle)
    (hdashes : ∀ bundle ∈ bundles, bundle.hhId.toList.count '-' = dashes) :
    Apart bundles := by
  intro bundle hbundle account haccount other hother heq
  obtain ⟨suffix, hsuffix, hid⟩ :=
    (hstandard bundle hbundle).fixture.accounts account haccount
  have hcount := congrArg (fun s : String => s.toList.count '-')
    (hid.symm.trans heq)
  simp only [String.toList_append, List.count_append, hsuffix.dashes,
    hdashes other hother] at hcount
  have hown := hdashes bundle hbundle
  unfold SpelledBundle.hhId at hown
  omega

/-- A new household whose shared tickers are known is seeded. -/
theorem Seeds.call_completes {run : SeedRun} (h : Seeds run)
    {bundle : SpelledBundle} (hbundle : StandardBundle bundle)
    (hapart : Apart (run.seeded ++ [bundle]))
    (hnew : bundle.hhId ∉ run.seeded.map SpelledBundle.hhId)
    (hknows : KnowsShared run.store bundle.fixture) (asOf : Option Date) :
    (run.call (bundle, asOf)).seeded = run.seeded ++ [bundle] := by
  obtain ⟨seeded, hrun, -, -⟩ := (seedCompletes_iff hbundle.fixture.seedable
    (h.notSeeded hbundle hapart hnew) asOf).mpr hknows
  unfold SeedRun.call
  dsimp only
  rw [hrun]
  rfl

/-- The generic cohort's household of a seed. -/
theorem generalHousehold_emitted (seed : Int) : ∃ bundle : SpelledBundle,
    emitSyntheticHousehold .least "general_hnw" seed 3 none 2500000 true none
      = .ok bundle.toSyntheticHouseholdBundle
    ∧ bundle.hhId = "synthetic-general_hnw-s" ++ toString seed := by
  obtain ⟨emitted, hrun, -⟩ := emitSyntheticHousehold_passes
    (rfl : sleeveRanges "general_hnw" = some _) rfl (by decide) .least seed
    none (.inl rfl) (by norm_num : (0 : ℚ) < 2500000)
  obtain ⟨bundle, rfl⟩ := emitSyntheticHousehold_spelled hrun
  obtain ⟨resolved, portfolio, -, hfixture, -⟩ :=
    emitSyntheticHousehold_inv hrun
  refine ⟨bundle, hrun, ?_⟩
  unfold SpelledBundle.hhId
  rw [hfixture]
  rfl

/-- Two households seeded one after the other both read back. -/
theorem seeded_households_read_back_two :
    ∃ bundle bundle' : SpelledBundle,
      (seedRun [(bundle, none), (bundle', none)]).seeded = [bundle, bundle']
      ∧ ReadsBack .rounded (seedRun [(bundle, none), (bundle', none)]).store
        bundle
      ∧ ReadsBack .rounded (seedRun [(bundle, none), (bundle', none)]).store
        bundle' := by
  obtain ⟨bundle, hrun, hid⟩ := generalHousehold_emitted 7
  obtain ⟨bundle', hrun', hid'⟩ := generalHousehold_emitted 8
  have hemitted : ∀ request ∈ [(bundle, (none : Option Date)), (bundle', none)],
      Emitted request.1.toSyntheticHouseholdBundle := by
    intro request hrequest
    rcases List.mem_pair.mp hrequest with rfl | rfl
    · exact ⟨_, _, _, _, _, _, _, _, hrun⟩
    · exact ⟨_, _, _, _, _, _, _, _, hrun'⟩
  have hbundle := standardBundle_emitted (hemitted _ List.mem_cons_self)
  have hbundle' := standardBundle_emitted (hemitted _
    (List.mem_cons_of_mem _ List.mem_cons_self))
  have hstandard : ∀ other ∈ [bundle, bundle'], StandardBundle other := by
    intro other hother
    rcases List.mem_pair.mp hother with rfl | rfl
    · exact hbundle
    · exact hbundle'
  have hdashes : ∀ other ∈ [bundle, bundle'],
      other.hhId.toList.count '-' = 2 := by
    intro other hother
    rcases List.mem_pair.mp hother with rfl | rfl
    · rw [hid]
      decide +kernel
    · rw [hid']
      decide +kernel
  have hapart := apart_of_dashes hstandard hdashes
  have hfirst : (seedRun [(bundle, none)]).seeded = [bundle] :=
    seeds_empty.call_completes hbundle (hapart.subset (by simp))
      List.not_mem_nil (knowsShared_rung3 hrun _) none
  have hseeds : Seeds (seedRun [(bundle, none)]) := by
    refine (seeds_seedRun (fun request hrequest => ?_)
      (hapart.subset (by simp))).1
    rw [List.mem_singleton.mp hrequest]
    exact hbundle
  have hboth : (seedRun [(bundle, none), (bundle', none)]).seeded
      = [bundle, bundle'] := by
    have hnew : bundle'.hhId
        ∉ (seedRun [(bundle, none)]).seeded.map SpelledBundle.hhId := by
      rw [hfirst, List.map_singleton, List.mem_singleton, hid, hid']
      decide +kernel
    have hcall := hseeds.call_completes hbundle'
      (by rw [hfirst]; exact hapart) hnew (knowsShared_rung3 hrun' _) none
    rw [hfirst] at hcall
    exact hcall
  have hread := (seeded_households_read_back
    [(bundle, none), (bundle', none)] hemitted hapart .rounded).2.1
  rw [hboth] at hread
  exact ⟨bundle, bundle', hboth, (hread bundle List.mem_cons_self).2,
    (hread bundle' (List.mem_cons_of_mem _ List.mem_cons_self)).2⟩

end Warehouse
