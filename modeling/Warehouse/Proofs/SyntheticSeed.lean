/-
What seeding a synthetic household leaves in a store.

# The keys

Every id of a fixture is its household's followed by a suffix of its own,
so ids never clash among themselves (`SeedableFixture`). Security ids are
the exception: a ticker's lots share one, and so do their prices.

# The flush

Every loop of the seed is `ensureAll` over its table (`stageHousehold_eq`),
and the looks do not see what the loop has added. So the flush fails on the
second lot of a ticker unless the store knows the security and a price of
it already, and on nothing else (`flush_ok_iff`).

# A second call

A call looks for the household's statement first and stops where it is
there, so a second call leaves the store as the first one left it
(`seedSyntheticHousehold_again`).
-/
import Warehouse.Proofs.SyntheticIps
import Warehouse.Infra.SyntheticSeed

namespace Warehouse

open Lib UnitOfWork

-- =================================================================== the ids

theorem toString_injective {m n : Nat} (h : toString m = toString n) :
    m = n := by
  have hdigits : Nat.toDigits 10 m = Nat.toDigits 10 n :=
    String.ofList_injective h
  calc
    m = Nat.ofDigitChars 10 (Nat.toDigits 10 m) 0 :=
      Nat.ofDigitChars_ten_toDigits.symm
    _ = n := by rw [hdigits, Nat.ofDigitChars_ten_toDigits]

/-- Ids of one household are as distinct as their suffixes. -/
theorem nodup_suffixed (householdId : String) {suffixes : List String}
    (h : suffixes.Nodup) : (suffixes.map (householdId ++ ·)).Nodup :=
  h.map fun _ _ heq => (String.append_right_inj householdId).mp heq

theorem nodup_numbered (pre : String) (n : Nat) :
    ((List.range n).map fun i => pre ++ toString i).Nodup :=
  List.nodup_range.map fun _ _ heq =>
    toString_injective ((String.append_right_inj pre).mp heq)

/-- What a filter keeps of a map is a sublist of the whole. -/
theorem filterMap_sublist_map {α β : Type} {f : α → Option β} {g : α → β}
    (h : ∀ a b, f a = some b → b = g a) (l : List α) :
    (l.filterMap f).Sublist (l.map g) := by
  induction l with
  | nil => exact List.Sublist.slnil
  | cons a rest ih =>
      cases hf : f a with
      | none =>
          rw [List.filterMap_cons_none hf]
          exact ih.cons (g a)
      | some b =>
          rw [List.filterMap_cons_some hf, h a b hf]
          exact ih.cons_cons (g a)

/-- A lot emitted only under a condition brings at most its own id. -/
theorem whenPositive_sublist {p : Prop} [Decidable p] (lot : SyntheticLot) :
    ((if p then [lot] else []).map (·.lotId)).Sublist [lot.lotId] := by
  by_cases hp : p
  · rw [if_pos hp]
    exact List.Sublist.refl _
  · rw [if_neg hp]
    exact List.nil_sublist _

section Ids

variable (rng : SeededRandom) (householdId accountId cohortId : String)
  (weights : Dict RiskClass ℚ) (nav : ℚ) (seed : Int)

/-- Below the fourth rung each sleeve's lot has a suffix of its own. -/
theorem nodup_sleeveOnlyLots :
    ((sleeveOnlyLots householdId accountId weights nav).map
      (·.lotId)).Nodup := by
  have hids : (sleeveSpecs.map fun spec =>
      householdId ++ ("-" ++ lower spec.2.1 ++ "-0")).Nodup := by
    have hsuffixes : (sleeveSpecs.map fun spec =>
        "-" ++ lower spec.2.1 ++ "-0").Nodup := by decide +kernel
    have h := nodup_suffixed householdId hsuffixes
    rw [List.map_map] at h
    exact h
  unfold sleeveOnlyLots
  rw [List.map_filterMap]
  refine (filterMap_sublist_map ?_ sleeveSpecs).nodup hids
  intro spec id hid
  obtain ⟨lot, hlot, rfl⟩ := Option.map_eq_some_iff.mp hid
  dsimp only at hlot
  split at hlot
  · cases hlot
  · cases hlot
    show householdId ++ "-" ++ lower spec.2.1 ++ "-0" = _
    rw [String.append_assoc, String.append_assoc, String.append_assoc]

/-- The ids rung 4 has, `n` of them for the concentrated lots. -/
def splitLotSuffixes (n : Nat) : List String :=
  (List.range n).map (fun i => "-aapl-" ++ toString i)
    ++ ["-vti-0", "-bnd-0", "-cash-0", "-comm-0"]

/-- The suffixes of the fourth rung repeat none. -/
theorem nodup_splitLotSuffixes (n : Nat) : (splitLotSuffixes n).Nodup := by
  refine List.nodup_append.mpr ⟨nodup_numbered _ n, by decide, ?_⟩
  intro id hid id' hid' heq
  obtain ⟨i, -, rfl⟩ := List.mem_map.mp hid
  have hletter := congrArg (fun s : String => s.toList[1]?) heq
  simp only [String.toList_append] at hletter
  simp only [List.mem_cons, List.not_mem_nil, or_false] at hid'
  rcases hid' with rfl | rfl | rfl | rfl <;> simp at hletter

/-- The concentrated lots are numbered. -/
theorem ids_concentratedLots (perLot : ℚ) (n : Nat) :
    (concentratedLots householdId accountId perLot n).map (·.lotId)
      = (List.range n).map fun i =>
        householdId ++ ("-aapl-" ++ toString i) := by
  unfold concentratedLots
  rw [List.map_map]
  apply List.map_congr_left
  intro i _
  exact String.append_assoc

/-- The concentrated lots, and one lot at most of each other kind. -/
theorem splitPublicLots_sublist :
    ∃ n, ((splitPublicLots rng householdId accountId weights nav seed
        cohortId).map (·.lotId)).Sublist
      ((splitLotSuffixes n).map (householdId ++ ·)) := by
  have hequity : ∃ n, ((if sleeveNav weights nav .equity > 0 then
        splitEquityLots rng householdId accountId
          (sleeveNav weights nav .equity) seed cohortId
        else []).map (·.lotId)).Sublist
      (((List.range n).map fun i => householdId ++ ("-aapl-" ++ toString i))
        ++ [householdId ++ "-vti-0"]) := by
    by_cases hpos : sleeveNav weights nav .equity > 0
    · rw [if_pos hpos]
      unfold splitEquityLots
      by_cases hconcentrated : cohortId = "founder_executive"
          ∨ cohortId = "concentrated_stress"
      · rw [if_pos hconcentrated]
        refine ⟨(rng.randint (seed + 1) 0 3 5).toNat, ?_⟩
        dsimp only
        rw [List.map_append, ids_concentratedLots]
        exact (List.Sublist.refl _).append (whenPositive_sublist _)
      · rw [if_neg hconcentrated]
        exact ⟨0, List.Sublist.refl _⟩
    · rw [if_neg hpos]
      exact ⟨0, List.nil_sublist _⟩
  obtain ⟨n, hequity⟩ := hequity
  refine ⟨n, ?_⟩
  unfold splitPublicLots splitLotSuffixes
  dsimp only
  rw [List.map_append, List.map_append, List.map_append, List.map_append,
    List.map_map]
  have hsplit : ["-vti-0", "-bnd-0", "-cash-0", "-comm-0"].map
        (householdId ++ ·)
      = [householdId ++ "-vti-0"] ++ [householdId ++ "-bnd-0"]
        ++ [householdId ++ "-cash-0"] ++ [householdId ++ "-comm-0"] := rfl
  rw [hsplit]
  simp only [← List.append_assoc]
  refine List.Sublist.append (List.Sublist.append (List.Sublist.append
    ?_ ?_) ?_) ?_
  · exact hequity
  · exact whenPositive_sublist _
  · exact whenPositive_sublist _
  · exact whenPositive_sublist _

/-- A month adds at most its own call. -/
theorem calls_sublist (committed : ℚ) (months : List Nat) :
    ∀ sched : CallSchedule,
      ((months.foldl (CallSchedule.turn rng seed householdId committed)
        sched).calls.map (·.eventId)).Sublist
      (sched.calls.map (·.eventId)
        ++ months.map fun i => householdId ++ "-call-" ++ toString i) := by
  induction months with
  | nil =>
      intro sched
      rw [List.map_nil, List.append_nil]
      exact List.Sublist.refl _
  | cons month rest ih =>
      intro sched
      rw [List.foldl_cons, List.map_cons]
      refine (ih _).trans ?_
      unfold CallSchedule.turn
      by_cases hnone : sched.remaining ≤ 0
      · rw [if_pos hnone]
        exact (List.Sublist.refl _).append (List.sublist_cons_self _ _)
      · rw [if_neg hnone]
        by_cases hskip : rng.random (seed + 2) sched.draws > 6 / 10
        · rw [if_pos hskip]
          exact (List.Sublist.refl _).append (List.sublist_cons_self _ _)
        · rw [if_neg hskip]
          dsimp only
          rw [List.map_append, List.append_assoc]
          exact List.Sublist.refl _

/-- Calls are numbered within their holding. -/
theorem nodup_calls :
    (((buildAlts rng householdId accountId weights nav seed).flatMap
      (·.scheduledCalls)).map (·.eventId)).Nodup := by
  unfold buildAlts
  dsimp only
  split
  · exact List.nodup_nil
  · rw [List.flatMap_singleton]
    exact (calls_sublist rng householdId seed _ _ _).nodup
      (nodup_numbered (householdId ++ "-call-") 4)

/-- At most one holding of each kind is emitted. -/
theorem nodup_holdings :
    ((buildAlts rng householdId accountId weights nav seed).map
      (·.holdingId)).Nodup := by
  unfold buildAlts
  dsimp only
  split
  · exact List.nodup_nil
  · exact List.nodup_singleton _

/-- No account is the household. -/
theorem nodup_accounts :
    (householdId
      :: (buildAccounts householdId cohortId).map (·.accountId)).Nodup := by
  have hall := nodup_suffixed householdId
    (by decide : ["", "-taxable", "-trust", "-ira"].Nodup)
  rw [List.map_cons, String.append_empty] at hall
  refine List.Sublist.nodup (List.Sublist.cons_cons _ ?_) hall
  unfold buildAccounts
  dsimp only
  by_cases htrust : cohortId = "uhnw_inherited"
      ∨ cohortId = "founder_executive"
  · rw [if_pos htrust]
    exact List.Sublist.refl _
  · rw [if_neg htrust]
    exact (List.sublist_cons_self _ _).cons_cons _

end Ids

-- ============================================================== the fixtures

/-- The tickers of the lots. -/
def emittedTickers : List String := ["AAPL", "VTI", "BND", "CASH", "DBC"]

theorem sleeveTickers_emitted {c : RiskClass} {ticker : String}
    (h : ticker ∈ sleeveTickers c) : ticker ∈ emittedTickers := by
  have hsub : sleeveTickers c ⊆ emittedTickers := by cases c <;> decide
  exact hsub h

/-- On emitted tickers the security id tells tickers apart, although
lower-casing is not injective. -/
theorem seedSecurityId_inj {ticker ticker' : String}
    (h : ticker ∈ emittedTickers) (h' : ticker' ∈ emittedTickers)
    (heq : seedSecurityId ticker = seedSecurityId ticker') :
    ticker = ticker' :=
  List.inj_on_of_nodup_map
    (by decide +kernel : (emittedTickers.map seedSecurityId).Nodup) h h' heq

/-- A lot's tier, of its class. -/
def seededTier (lot : SyntheticLot) : Nat :=
  classLiquidityTier (heldClass lot) false

/-- What seeding needs of a fixture: the ids of its rows are distinct, and
its lots have a tier and one of the five tickers. -/
structure SeedableFixture (fixture : HouseholdFixture) : Prop where
  accountIds : (fixture.householdId
    :: fixture.accounts.map (·.accountId)).Nodup
  lotIds : (fixture.lots.map (·.lotId)).Nodup
  holdingIds : (fixture.alternativeHoldings.map (·.holdingId)).Nodup
  callIds : ((fixture.alternativeHoldings.flatMap (·.scheduledCalls)).map
    (·.eventId)).Nodup
  tiers : ∀ lot ∈ fixture.lots, lotLiquidityTier lot = .ok (seededTier lot)
  tickers : ∀ lot ∈ fixture.lots, lot.ticker ∈ emittedTickers

/-- Every assembled fixture brings distinct ids, known tickers and nonempty
names. -/
theorem seedableFixture_assembleFixture (rt : SyntheticRuntime)
    (cohortId : String) (seed rung : Int) (hhId : String) (nav : ℚ)
    (weights : Dict RiskClass ℚ) :
    SeedableFixture (assembleFixture rt cohortId seed rung hhId nav weights) where
  accountIds := nodup_accounts hhId cohortId
  lotIds := by
    unfold assembleFixture
    dsimp only
    by_cases hrung : rung = 3
    · rw [if_pos hrung]
      exact nodup_sleeveOnlyLots ..
    · rw [if_neg hrung]
      obtain ⟨n, hsub⟩ := splitPublicLots_sublist rt.toSeededRandom hhId
        (((buildAccounts hhId cohortId).map (·.accountId)).headD "") cohortId
        weights nav seed
      exact hsub.nodup (nodup_suffixed hhId (nodup_splitLotSuffixes n))
  holdingIds := nodup_holdings ..
  callIds := nodup_calls ..
  tiers := by
    intro lot hlot
    obtain ⟨c, -, hvalue, -⟩ := (bySleeve_assembleFixture rt cohortId seed rung
      hhId nav weights).mem hlot
    unfold seededTier
    rw [lotLiquidityTier_of_value hvalue, heldClass_of_value hvalue]
  tickers := by
    intro lot hlot
    obtain ⟨c, -, -, hticker⟩ := (bySleeve_assembleFixture rt cohortId seed
      rung hhId nav weights).mem hlot
    exact sleeveTickers_emitted hticker

section Bundles

variable {rt : SyntheticRuntime} {cohortId : String} {seed rung : Int}
  {householdId : Option String} {nav : ℚ} {validate : Bool}
  {weights : Option (Dict RiskClass ℚ)}

/-- A fixture is emitted under the weights that were given, or sampled. -/
theorem emitHnwFixture_resolved {fixture : HouseholdFixture}
    (hrun : emitHnwFixture rt cohortId seed rung householdId nav weights
      = .ok fixture) :
    ∃ resolved, (weights = some resolved ∨ sampleSleeveWeights rt.toSeededRandom
        cohortId seed = .ok resolved)
      ∧ emitHnwFixture rt cohortId seed rung householdId nav (some resolved)
        = .ok fixture := by
  cases weights with
  | some given => exact ⟨given, .inl rfl, hrun⟩
  | none =>
      cases hsample : sampleSleeveWeights rt.toSeededRandom cohortId seed with
      | ok sampled =>
          rw [emitHnwFixture_sampled rt cohortId seed householdId hsample]
            at hrun
          exact ⟨sampled, .inr rfl, hrun⟩
      | error err =>
          unfold emitHnwFixture at hrun
          dsimp only at hrun
          rw [hsample] at hrun
          split at hrun
          · cases hrun
          · cases hrun

/-- What the emission of a bundle has gone through. -/
theorem emitSyntheticHousehold_inv {bundle : SyntheticHouseholdBundle}
    (hrun : emitSyntheticHousehold rt cohortId seed rung householdId nav
      validate weights = .ok bundle) :
    ∃ resolved portfolio,
      (weights = some resolved ∨ sampleSleeveWeights rt.toSeededRandom
        cohortId seed = .ok resolved)
      ∧ bundle.fixture = sealIpsProvenance rt
        { assembleFixture rt cohortId seed rung
            (householdIdOr householdId cohortId seed) nav resolved with
          assetPortfolio := some portfolio } bundle.ips.ipsId
      ∧ emitIpsForCohort rt.toSeededRandom cohortId seed
        (householdIdOr householdId cohortId seed) (shapeAWeights portfolio) rung
        = .ok bundle.ips := by
  unfold emitSyntheticHousehold at hrun
  obtain ⟨fixture, hfixture, hrun⟩ := bind_ok_iff.mp hrun
  obtain ⟨resolved, hresolved, hfixture⟩ := emitHnwFixture_resolved hfixture
  obtain ⟨-, portfolio, -, hassembled⟩ := emitHnwFixture_returned rt cohortId
    seed householdId hfixture
  have hportfolio : fixture.assetPortfolio = some portfolio := by
    rw [hassembled]
  have hid : fixture.householdId = householdIdOr householdId cohortId seed := by
    rw [hassembled]
    rfl
  rw [hportfolio] at hrun
  obtain ⟨_, hsame, hrun⟩ := bind_ok_iff.mp hrun
  cases hsame
  obtain ⟨ips, hips, hrun⟩ := bind_ok_iff.mp hrun
  obtain ⟨validation, -, hrun⟩ := bind_ok_iff.mp hrun
  rw [hid] at hips
  refine ⟨resolved, portfolio, hresolved, ?_⟩
  split at hrun
  · cases hrun
  · cases hrun
    dsimp only
    rw [← hassembled]
    exact ⟨rfl, hips⟩

end Bundles

-- ================================================================ the loops

section Loops

variable (fixture : HouseholdFixture) (restricted : List String) (asOf : Date)

/-- The rows of the entity table: the household, then its accounts. -/
def entityRows : List EntityRow :=
  householdRow fixture
    :: fixture.accounts.map (accountRow fixture.householdId)

/-- One relationship row an account. -/
def linkRows : List EntityRelationshipRow :=
  fixture.accounts.map (accountLink fixture.householdId)

/-- One security row a lot, tier included. -/
def securityRows : List SecurityRow :=
  fixture.lots.map fun lot => securityRow lot (seededTier lot)

/-- One tax lot row a lot. -/
def lotRows : List Lot := fixture.lots.map (seededLot restricted)

/-- One mark a lot, on the seeding date. -/
def priceRows : List MarketPriceRow := fixture.lots.map (priceRow asOf)

/-- One row an alternative holding. -/
def holdingRows : List AlternativeHoldingRow :=
  fixture.alternativeHoldings.map (holdingRow fixture.householdId)

/-- One event row a scheduled capital call. -/
def callRows : List AlternativeEventRow :=
  fixture.alternativeHoldings.flatMap fun alt =>
    alt.scheduledCalls.map (callRow alt.holdingId)

/-- The two ends of a link. -/
def linkEnds (row : EntityRelationshipRow) : String × String :=
  (row.sourceId, row.targetId)

/-- A session with everything of a household ensured. -/
def SeedSession.ensured (session : SeedSession) : SeedSession where
  entities := session.entities.ensureAll EntityRow.entityId (entityRows fixture)
  entityRelationships := session.entityRelationships.ensureAll linkEnds
    (linkRows fixture)
  securities := session.securities.ensureAll SecurityRow.securityId
    (securityRows fixture)
  lots := session.lots.ensureAll Lot.lotId (lotRows fixture restricted)
  marketPrices := session.marketPrices.ensureAll MarketPriceRow.securityId
    (priceRows fixture asOf)
  alternativeHoldings := session.alternativeHoldings.ensureAll
    AlternativeHoldingRow.holdingId (holdingRows fixture)
  alternativeEvents := session.alternativeEvents.ensureAll
    AlternativeEventRow.eventId (callRows fixture)

/-- Seeding the accounts touches two tables, each row ensured. -/
theorem foldl_seedAccount (householdId : String)
    (accounts : List SyntheticAccount) : ∀ session : SeedSession,
    accounts.foldl (seedAccount householdId) session
      = { session with
          entities := session.entities.ensureAll EntityRow.entityId
            (accounts.map (accountRow householdId))
          entityRelationships := session.entityRelationships.ensureAll linkEnds
            (accounts.map (accountLink householdId)) } := by
  induction accounts with
  | nil => exact fun _ => rfl
  | cons account rest ih =>
      intro session
      rw [List.foldl_cons, ih]
      rfl

/-- Where the lot has a tier, ensuring its security cannot fail. -/
theorem ensureSecurity_ok (securities : Staged SecurityRow)
    {lot : SyntheticLot} (htier : lotLiquidityTier lot = .ok (seededTier lot)) :
    ensureSecurity securities lot = .ok (securities.ensure
      SecurityRow.securityId (securityRow lot (seededTier lot))) := by
  unfold ensureSecurity Staged.ensure
  by_cases hhas : securities.Has SecurityRow.securityId
      (seedSecurityId lot.ticker)
  · rw [if_pos hhas]
    exact (congrArg Except.ok (if_pos hhas)).symm
  · rw [if_neg hhas, htier]
    exact (congrArg Except.ok (if_neg hhas)).symm

/-- Seeding the lots ensures one security and one lot row each, and cannot fail
where every lot has a tier. -/
theorem foldlM_seedLot {lots : List SyntheticLot}
    (htiers : ∀ lot ∈ lots, lotLiquidityTier lot = .ok (seededTier lot)) :
    ∀ session : SeedSession, lots.foldlM (seedLot restricted) session
      = .ok { session with
          securities := session.securities.ensureAll SecurityRow.securityId
            (lots.map fun lot => securityRow lot (seededTier lot))
          lots := session.lots.ensureAll Lot.lotId
            (lots.map (seededLot restricted)) } := by
  induction lots with
  | nil => exact fun _ => rfl
  | cons lot rest ih =>
      intro session
      have hfirst : seedLot restricted session lot = .ok { session with
          securities := session.securities.ensure SecurityRow.securityId
            (securityRow lot (seededTier lot))
          lots := session.lots.ensure Lot.lotId (seededLot restricted lot) } := by
        unfold seedLot
        rw [ensureSecurity_ok _ (htiers lot List.mem_cons_self)]
        rfl
      rw [List.foldlM_cons, hfirst, ok_bind,
        ih fun lot' hlot' => htiers lot' (List.mem_cons_of_mem _ hlot')]
      rfl

/-- Calls are ensured one by one, as their rows are. -/
theorem foldl_ensure_calls (holdingId : String)
    (calls : List SyntheticAltCall) (events : Staged AlternativeEventRow) :
    calls.foldl (fun events call => events.ensure AlternativeEventRow.eventId
        (callRow holdingId call)) events
      = events.ensureAll AlternativeEventRow.eventId
        (calls.map (callRow holdingId)) := List.foldl_map.symm

/-- Seeding the holdings touches their two tables. -/
theorem foldl_seedAlternative (householdId : String)
    (alts : List SyntheticAltHolding) : ∀ session : SeedSession,
    alts.foldl (seedAlternative householdId) session
      = { session with
          alternativeHoldings := session.alternativeHoldings.ensureAll
            AlternativeHoldingRow.holdingId (alts.map (holdingRow householdId))
          alternativeEvents := session.alternativeEvents.ensureAll
            AlternativeEventRow.eventId (alts.flatMap fun alt =>
              alt.scheduledCalls.map (callRow alt.holdingId)) } := by
  induction alts with
  | nil => exact fun _ => rfl
  | cons alt rest ih =>
      intro session
      rw [List.foldl_cons, ih, List.flatMap_cons, Staged.ensureAll_append,
        ← foldl_ensure_calls]
      rfl

/-- The seed ensures every row of the household, and does nothing else. -/
theorem stageHousehold_eq {bundle : SpelledBundle}
    (h : SeedableFixture bundle.fixture) (session : SeedSession) :
    stageHousehold session bundle asOf = .ok (session.ensured bundle.fixture
      bundle.ips.restrictedSecurities asOf) := by
  unfold stageHousehold
  dsimp only
  rw [foldl_seedAccount, foldlM_seedLot _ h.tiers, ok_bind,
    foldl_seedAlternative]
  unfold seedMarketPrices SeedSession.ensured priceRows
  rw [← List.foldl_map]
  rfl

end Loops

-- ================================================================= the flush

/-- A flushed table has the rows that were staged. -/
theorem flushTable_eq_ok {α κ : Type} [DecidableEq κ] {key : α → κ}
    {staged : Staged α} {table : Table key} :
    flushTable key staged = .ok table ↔ table.rows = staged.rows := by
  unfold flushTable
  constructor
  · intro hflush
    unfold Staged.flush at hflush
    split at hflush
    · next hsome =>
      split at hsome
      · cases hsome
        cases hflush
        rfl
      · cases hsome
    · cases hflush
  · intro hrows
    have hkeys := table.keys
    rw [hrows] at hkeys
    rw [Staged.flush_ok hkeys]
    cases table
    cases hrows
    rfl

/-- A repeated primary key fails the flush. -/
theorem flushTable_eq_error {α κ : Type} [DecidableEq κ] {key : α → κ}
    {staged : Staged α} (h : ¬ (staged.rows.map key).Nodup) :
    flushTable key staged
      = .error (.integrityError "UNIQUE constraint failed") := by
  unfold flushTable
  rw [Staged.flush_eq_none h]

/-- The store a flush leaves. -/
structure Flushed (session : SeedSession) (policies : IpsTable)
    (store : SeedStore) : Prop where
  entities : store.entities.rows = session.entities.rows
  links : store.entityRelationships = session.entityRelationships.rows
  securities : store.securities.rows = session.securities.rows
  lots : store.lots.rows = session.lots.rows
  prices : store.marketPrices.rows = session.marketPrices.rows
  holdings : store.alternativeHoldings.rows = session.alternativeHoldings.rows
  events : store.alternativeEvents.rows = session.alternativeEvents.rows
  policies : store.ipsPolicies = policies

/-- A flush goes through exactly when every table's keys stay distinct, and then
the tables hold what was staged. -/
theorem SeedSession.flush_eq_ok {session : SeedSession} {policies : IpsTable}
    {store : SeedStore} :
    session.flush policies = .ok store ↔ Flushed session policies store := by
  unfold SeedSession.flush
  constructor
  · intro hrun
    obtain ⟨entities, hentities, hrun⟩ := bind_ok_iff.mp hrun
    obtain ⟨securities, hsecurities, hrun⟩ := bind_ok_iff.mp hrun
    obtain ⟨lots, hlots, hrun⟩ := bind_ok_iff.mp hrun
    obtain ⟨prices, hprices, hrun⟩ := bind_ok_iff.mp hrun
    obtain ⟨holdings, hholdings, hrun⟩ := bind_ok_iff.mp hrun
    obtain ⟨events, hevents, hrun⟩ := bind_ok_iff.mp hrun
    cases hrun
    exact {
      entities := flushTable_eq_ok.mp hentities
      links := rfl
      securities := flushTable_eq_ok.mp hsecurities
      lots := flushTable_eq_ok.mp hlots
      prices := flushTable_eq_ok.mp hprices
      holdings := flushTable_eq_ok.mp hholdings
      events := flushTable_eq_ok.mp hevents
      policies := rfl }
  · intro h
    rw [flushTable_eq_ok.mpr h.entities, ok_bind,
      flushTable_eq_ok.mpr h.securities, ok_bind,
      flushTable_eq_ok.mpr h.lots, ok_bind,
      flushTable_eq_ok.mpr h.prices, ok_bind,
      flushTable_eq_ok.mpr h.holdings, ok_bind,
      flushTable_eq_ok.mpr h.events, ok_bind, ← h.links, ← h.policies]
    rfl

section Flush

variable {fixture : HouseholdFixture} (restricted : List String) (asOf : Date)
  (store : SeedStore)

/-- Every ticker that two lots share is one the store has the security of,
and a price. -/
def KnowsShared (store : SeedStore) (fixture : HouseholdFixture) : Prop :=
  ∀ ticker, 1 < (fixture.lots.map (·.ticker)).count ticker →
    seedSecurityId ticker ∈ store.securities.rows.map SecurityRow.securityId
      ∧ seedSecurityId ticker
        ∈ store.marketPrices.rows.map MarketPriceRow.securityId

/-- Names that tell things apart are shared by as many. -/
theorem shared_map_iff {α β : Type} [DecidableEq α] [DecidableEq β] {f : α → β}
    {l : List α} (hinj : ∀ a ∈ l, ∀ b ∈ l, f a = f b → a = b) {P : β → Prop} :
    (∀ b, 1 < (l.map f).count b → P b) ↔ ∀ a, 1 < l.count a → P (f a) := by
  constructor
  · intro h a htwice
    exact h (f a) (lt_of_lt_of_le htwice List.count_le_count_map)
  · intro h b htwice
    have hmem : b ∈ l.map f := List.count_pos_iff.mp (by omega)
    obtain ⟨a, ha, rfl⟩ := List.mem_map.mp hmem
    apply h a
    have hsame : (l.map f).count (f a) = l.count a := by
      unfold List.count
      rw [List.countP_map]
      apply List.countP_congr
      intro a' ha'
      simp only [Function.comp_apply, beq_iff_eq]
      exact ⟨hinj a' ha' a ha, fun heq => congrArg f heq⟩
    omega

/-- Security ids tell the tickers of a seedable fixture apart. -/
theorem seedSecurityId_inj_lots (h : SeedableFixture fixture) :
    ∀ ticker ∈ fixture.lots.map (·.ticker),
      ∀ ticker' ∈ fixture.lots.map (·.ticker),
        seedSecurityId ticker = seedSecurityId ticker' → ticker = ticker' := by
  intro ticker hticker ticker' hticker'
  obtain ⟨lot, hlot, rfl⟩ := List.mem_map.mp hticker
  obtain ⟨lot', hlot', rfl⟩ := List.mem_map.mp hticker'
  exact seedSecurityId_inj (h.tickers lot hlot) (h.tickers lot' hlot')

/-- The staged securities go by the lots' tickers. -/
theorem securityIds_securityRows :
    (securityRows fixture).map SecurityRow.securityId
      = (fixture.lots.map (·.ticker)).map seedSecurityId := by
  unfold securityRows
  rw [List.map_map, List.map_map]
  rfl

theorem securityIds_priceRows :
    (priceRows fixture asOf).map MarketPriceRow.securityId
      = (fixture.lots.map (·.ticker)).map seedSecurityId := by
  unfold priceRows
  rw [List.map_map, List.map_map]
  rfl

/-- The new securities fit exactly when the shared ones were there. -/
theorem securities_fit_iff (h : SeedableFixture fixture) :
    (((store.session.ensured fixture restricted asOf).securities.rows.map
      SecurityRow.securityId).Nodup
      ↔ ∀ ticker, 1 < (fixture.lots.map (·.ticker)).count ticker →
        seedSecurityId ticker
          ∈ store.securities.rows.map SecurityRow.securityId) := by
  rw [← shared_map_iff (seedSecurityId_inj_lots h),
    ← securityIds_securityRows]
  exact Staged.flushable_ensureAll_iff store.securities.keys (fun _ _ h => h)
    fun _ _ _ _ h => h

/-- The new prices, all of one date, fit exactly when the shared ones had
a price of some date. -/
theorem prices_fit_iff (h : SeedableFixture fixture) :
    (((store.session.ensured fixture restricted asOf).marketPrices.rows.map
      fun row => (row.securityId, row.asOfDate)).Nodup
      ↔ ∀ ticker, 1 < (fixture.lots.map (·.ticker)).count ticker →
        seedSecurityId ticker
          ∈ store.marketPrices.rows.map MarketPriceRow.securityId) := by
  rw [← shared_map_iff (seedSecurityId_inj_lots h),
    ← securityIds_priceRows asOf]
  refine Staged.flushable_ensureAll_iff store.marketPrices.keys ?_ ?_
  · intro a b hkey
    exact (Prod.mk.inj hkey).1
  · intro a ha b hb hsame
    obtain ⟨lot, -, rfl⟩ := List.mem_map.mp ha
    obtain ⟨lot', -, rfl⟩ := List.mem_map.mp hb
    exact Prod.ext hsame rfl

/-- The household and its accounts are distinct entities. -/
theorem nodup_entityRows (h : SeedableFixture fixture) :
    ((entityRows fixture).map EntityRow.entityId).Nodup := by
  have hids := h.accountIds
  unfold entityRows
  rw [List.map_cons, List.map_map]
  exact hids

theorem nodup_lotRows (h : SeedableFixture fixture) :
    ((lotRows fixture restricted).map Lot.lotId).Nodup := by
  have hids := h.lotIds
  unfold lotRows
  rw [List.map_map]
  exact hids

theorem nodup_holdingRows (h : SeedableFixture fixture) :
    ((holdingRows fixture).map AlternativeHoldingRow.holdingId).Nodup := by
  have hids := h.holdingIds
  unfold holdingRows
  rw [List.map_map]
  exact hids

theorem nodup_callRows (h : SeedableFixture fixture) :
    ((callRows fixture).map AlternativeEventRow.eventId).Nodup := by
  have hids := h.callIds
  unfold callRows
  rw [List.map_flatMap] at hids ⊢
  have hsame : ∀ alt : SyntheticAltHolding,
      (alt.scheduledCalls.map (callRow alt.holdingId)).map
          AlternativeEventRow.eventId
        = alt.scheduledCalls.map (·.eventId) := by
    intro alt
    rw [List.map_map]
    rfl
  simp only [hsame]
  exact hids

/-- Nothing but a shared ticker stands in the way of the flush. -/
theorem flush_ok_iff (h : SeedableFixture fixture) (policies : IpsTable) :
    (∃ seeded, (store.session.ensured fixture restricted asOf).flush policies
        = .ok seeded)
      ↔ KnowsShared store fixture := by
  constructor
  · intro hrun ticker htwice
    obtain ⟨seeded, hrun⟩ := hrun
    have hflushed := SeedSession.flush_eq_ok.mp hrun
    constructor
    · apply (securities_fit_iff restricted asOf store h).mp _ ticker htwice
      rw [← hflushed.securities]
      exact seeded.securities.keys
    · apply (prices_fit_iff restricted asOf store h).mp _ ticker htwice
      rw [← hflushed.prices]
      exact seeded.marketPrices.keys
  · intro hknows
    let session := store.session.ensured fixture restricted asOf
    exact ⟨{
      entities := ⟨session.entities.rows,
        Staged.flushable_ensureAll store.entities.keys (nodup_entityRows h)⟩
      entityRelationships := session.entityRelationships.rows
      securities := ⟨session.securities.rows,
        (securities_fit_iff restricted asOf store h).mpr
          fun ticker htwice => (hknows ticker htwice).1⟩
      lots := ⟨session.lots.rows,
        Staged.flushable_ensureAll store.lots.keys (nodup_lotRows restricted h)⟩
      marketPrices := ⟨session.marketPrices.rows,
        (prices_fit_iff restricted asOf store h).mpr
          fun ticker htwice => (hknows ticker htwice).2⟩
      alternativeHoldings := ⟨session.alternativeHoldings.rows,
        Staged.flushable_ensureAll store.alternativeHoldings.keys
          (nodup_holdingRows h)⟩
      alternativeEvents := ⟨session.alternativeEvents.rows,
        Staged.flushable_ensureAll store.alternativeEvents.keys
          (nodup_callRows h)⟩
      ipsPolicies := policies },
      SeedSession.flush_eq_ok.mpr
        ⟨rfl, rfl, rfl, rfl, rfl, rfl, rfl, rfl⟩⟩

theorem nodup_linkRows (h : SeedableFixture fixture) :
    ((linkRows fixture).map linkEnds).Nodup := by
  have hids := (List.nodup_cons.mp h.accountIds).2
  have hends := hids.map (Prod.mk_right_injective fixture.householdId)
  unfold linkRows
  rw [List.map_map] at hends ⊢
  exact hends

end Flush

-- ============================================================ the completion

/-- One security and one price for every ticker that had none, a row for
every lot, the statement; and the accounts, holdings and calls that were
not there. -/
structure Seeded (store : SeedStore) (bundle : SpelledBundle) (asOf : Date)
    (store' : SeedStore) : Prop where
  entities : Staged.Completed EntityRow.entityId (entityRows bundle.fixture)
    store.entities.rows store'.entities.rows
  links : Staged.Completed linkEnds (linkRows bundle.fixture)
    store.entityRelationships store'.entityRelationships
  securities : Staged.Completed SecurityRow.securityId
    (securityRows bundle.fixture) store.securities.rows store'.securities.rows
  prices : Staged.Completed MarketPriceRow.securityId
    (priceRows bundle.fixture asOf) store.marketPrices.rows
    store'.marketPrices.rows
  lots : store'.lots.rows = store.lots.rows
    ++ lotRows bundle.fixture bundle.ips.restrictedSecurities
  holdings : Staged.Completed AlternativeHoldingRow.holdingId
    (holdingRows bundle.fixture) store.alternativeHoldings.rows
    store'.alternativeHoldings.rows
  events : Staged.Completed AlternativeEventRow.eventId
    (callRows bundle.fixture) store.alternativeEvents.rows
    store'.alternativeEvents.rows
  policies : store'.ipsPolicies = saveIps store.ipsPolicies bundle.spelled

section Completion

variable {bundle : SpelledBundle} {store seeded : SeedStore} {asOf : Date}

/-- A store a bundle has not been seeded into: without its statement, its
household and its lots. -/
structure NotSeeded (store : SeedStore) (bundle : SpelledBundle) : Prop where
  policy : store.ipsPolicies.rows.get? bundle.ips.ipsId = none
  household : bundle.fixture.householdId
    ∉ store.entities.rows.map EntityRow.entityId
  lots : ∀ lot ∈ bundle.fixture.lots,
    lot.lotId ∉ store.lots.rows.map Lot.lotId

/-- A flush that goes through completes every table. -/
theorem seeded_of_flush (h : SeedableFixture bundle.fixture)
    (hnew : NotSeeded store bundle)
    (hrun : (store.session.ensured bundle.fixture
      bundle.ips.restrictedSecurities asOf).flush
        (saveIps store.ipsPolicies bundle.spelled) = .ok seeded) :
    Seeded store bundle asOf seeded := by
  have hflushed := SeedSession.flush_eq_ok.mp hrun
  have hknows := (flush_ok_iff bundle.ips.restrictedSecurities asOf store h
    _).mp ⟨seeded, hrun⟩
  have hinj := seedSecurityId_inj_lots h
  have hlots : ∀ row ∈ lotRows bundle.fixture bundle.ips.restrictedSecurities,
      row.lotId ∉ store.lots.rows.map Lot.lotId := by
    intro row hrow
    obtain ⟨lot, hlot, rfl⟩ := List.mem_map.mp hrow
    exact hnew.lots lot hlot
  constructor
  case entities =>
    rw [hflushed.entities]
    exact Staged.completed_ensureAll_of_nodup (nodup_entityRows h)
  case links =>
    rw [hflushed.links]
    exact Staged.completed_ensureAll_of_nodup (nodup_linkRows h)
  case securities =>
    rw [hflushed.securities]
    apply Staged.completed_ensureAll
    rw [securityIds_securityRows, shared_map_iff hinj]
    exact fun ticker htwice => (hknows ticker htwice).1
  case prices =>
    rw [hflushed.prices]
    apply Staged.completed_ensureAll
    rw [securityIds_priceRows, shared_map_iff hinj]
    exact fun ticker htwice => (hknows ticker htwice).2
  case lots =>
    rw [hflushed.lots]
    show (Staged.ensureAll Lot.lotId { flushed := store.lots.rows } _).rows = _
    exact Staged.rows_ensureAll_of_fresh hlots
  case holdings =>
    rw [hflushed.holdings]
    exact Staged.completed_ensureAll_of_nodup (nodup_holdingRows h)
  case events =>
    rw [hflushed.events]
    exact Staged.completed_ensureAll_of_nodup (nodup_callRows h)
  case policies => exact hflushed.policies

/-- A new household's seed is its flush. -/
theorem seedSyntheticHousehold_new (h : SeedableFixture bundle.fixture)
    (hnew : NotSeeded store bundle) (given : Option Date) :
    seedSyntheticHousehold store bundle given
      = ((store.session.ensured bundle.fixture bundle.ips.restrictedSecurities
          (given.getD seedPriceDate)).flush
            (saveIps store.ipsPolicies bundle.spelled)).map
          fun seeded => (true, seeded) := by
  have hpolicy : ¬ (store.ipsPolicies.rows.get?
      bundle.ips.ipsId).isSome = true := by
    rw [hnew.policy]
    exact Bool.false_ne_true
  have hcreated : (decide ¬ store.session.entities.Has EntityRow.entityId
      bundle.fixture.householdId) = true := decide_eq_true hnew.household
  unfold seedSyntheticHousehold
  rw [if_neg hpolicy]
  dsimp only
  rw [hcreated, stageHousehold_eq _ h, ok_bind]
  cases SeedSession.flush _ _ with
  | ok seeded => rfl
  | error err => rfl

/-- Once the statement is there, a seed changes nothing. -/
theorem seedSyntheticHousehold_again
    (hpolicies : seeded.ipsPolicies = saveIps store.ipsPolicies bundle.spelled)
    (given : Option Date) :
    seedSyntheticHousehold seeded bundle given = .ok (false, seeded) := by
  have hid : bundle.ips.ipsId = (ipsPolicyRow bundle.spelled).ipsId := by
    rw [← bundle.spells]
    rfl
  have hthere : (seeded.ipsPolicies.rows.get?
      bundle.ips.ipsId).isSome = true := by
    rw [hpolicies, hid]
    unfold saveIps IpsTable.merge
    rw [Dict.get?_set, if_pos rfl]
    rfl
  unfold seedSyntheticHousehold
  rw [if_pos hthere]

end Completion

-- ============================================================ the spelling

/-- A number that has a numeral. -/
def Spelled (q : ℚ) : Prop := ∃ d : Decimal, d.value = q

/-- An integer over a power of ten is a decimal. -/
theorem spelled_div (n : Int) (places : Nat) : Spelled (n / 10 ^ places) := by
  refine ⟨⟨decide (n < 0), n.natAbs, -places⟩, ?_⟩
  unfold Decimal.value
  rw [zpow_neg, zpow_natCast, ← div_eq_mul_inv, Nat.cast_natAbs]
  by_cases hneg : n < 0
  · rw [if_pos (decide_eq_true hneg), abs_of_neg hneg]
    push_cast
    ring
  · rw [if_neg (by simpa using hneg), abs_of_nonneg (not_lt.mp hneg), one_mul]

/-- Whatever was quantized is a decimal. -/
theorem spelled_quantize (places : Nat) (q : ℚ) :
    Spelled (quantize places q) := spelled_div _ _

theorem spelled_percent (n : Nat) : Spelled (n / 100) := by
  have h := spelled_div n 2
  norm_num at h
  exact h

/-- A target of spelled weights is spelled. -/
theorem AllocationTarget.spelled (t : AllocationTarget)
    (hmin : Spelled t.minWeight) (hmax : Spelled t.maxWeight)
    (htarget : Spelled t.targetWeight) :
    t ∈ Set.range SpelledTarget.target := by
  obtain ⟨minWeight, hmin⟩ := hmin
  obtain ⟨maxWeight, hmax⟩ := hmax
  obtain ⟨targetWeight, htarget⟩ := htarget
  cases t
  cases hmin
  cases hmax
  cases htarget
  exact ⟨⟨_, minWeight, maxWeight, targetWeight, ‹_›, ‹_›, ‹_›⟩, rfl⟩

/-- A target built from decimals is the reading of a spelled one. -/
theorem spelled_of_create {sleeve : IpsSleeve} {low high target : ℚ}
    {t : AllocationTarget}
    (hrun : AllocationTarget.create sleeve low high target = .ok t)
    (hlow : Spelled low) (hhigh : Spelled high) (htarget : Spelled target) :
    t ∈ Set.range SpelledTarget.target := by
  unfold AllocationTarget.create at hrun
  split at hrun
  · split at hrun
    · split at hrun
      · cases hrun
        exact AllocationTarget.spelled _ hlow hhigh htarget
      · cases hrun
    · cases hrun
  · cases hrun

/-- Bands are quantized, so every emitted target is spelled. -/
theorem spelled_bandTarget {cohortId : String} {sleeve : IpsSleeve}
    {weight band : ℚ} {t : AllocationTarget}
    (hrun : bandTarget cohortId sleeve weight band = .ok t) :
    t ∈ Set.range SpelledTarget.target := by
  unfold bandTarget at hrun
  split at hrun
  · exact spelled_of_create hrun (spelled_quantize ..) (spelled_quantize ..)
      (spelled_quantize ..)
  · exact spelled_of_create hrun (spelled_quantize ..) (spelled_quantize ..)
      (spelled_quantize ..)

/-- The priors that reach a statement as they are. -/
structure SpelledPriors (priors : CohortIpsPriors) : Prop where
  floor : Spelled priors.liquidityTierMinPct
  limit : ∀ q ∈ priors.concentrationLimitPct, Spelled q
  turnover : ∀ q ∈ priors.turnoverBudgetPct, Spelled q

theorem spelled_some {q : ℚ} (h : Spelled q) : ∀ p ∈ some q, Spelled p := by
  intro p hp
  cases hp
  exact h

/-- The priors are written as decimals. -/
theorem cohortIpsPriors_spelled {cohortId : String} {priors : CohortIpsPriors}
    (hpriors : cohortIpsPriors cohortId = .ok priors) :
    SpelledPriors priors := by
  unfold cohortIpsPriors at hpriors
  split at hpriors
  · cases hpriors
    exact ⟨spelled_percent 75, spelled_some (spelled_percent 12),
      spelled_some (spelled_percent 15)⟩
  · cases hpriors
    exact ⟨spelled_percent 55, spelled_some (spelled_percent 10),
      spelled_some (spelled_percent 12)⟩
  · cases hpriors
    exact ⟨spelled_percent 70, nofun, spelled_some (spelled_percent 20)⟩
  · cases hpriors
    exact ⟨spelled_percent 60, nofun, spelled_some (spelled_percent 10)⟩
  · cases hpriors

/-- The limit is a prior, or a quantized draw. -/
theorem spelled_resolveConcentrationLimit {rng : SeededRandom}
    {cohortId : String} {priors : CohortIpsPriors} {seed : Int}
    {weights : Dict RiskClass ℚ} {limit : ℚ} (hpriors : SpelledPriors priors)
    (hrun : resolveConcentrationLimit rng cohortId priors seed weights
      = .ok limit) : Spelled limit := by
  unfold resolveConcentrationLimit at hrun
  dsimp only at hrun
  split at hrun
  · next given hgiven =>
    cases hrun
    exact hpriors.limit _ hgiven
  · split at hrun
    · cases hrun
      exact spelled_quantize ..
    · split at hrun
      · cases hrun
        exact spelled_quantize ..
      · cases hrun

theorem spelled_option {limit : Option ℚ} (h : ∀ q ∈ limit, Spelled q) :
    ∃ text : Option Decimal, text.map Decimal.value = limit := by
  cases limit with
  | none => exact ⟨none, rfl⟩
  | some q =>
      obtain ⟨d, rfl⟩ := h q rfl
      exact ⟨some d, rfl⟩

/-- A statement made of spelled values is spelled. -/
theorem InvestmentPolicyStatement.create_spelled {ipsId householdId : String}
    {version : Int} {effectiveDate : String} {targets : List SpelledTarget}
    {restricted : List String} {limit : Decimal}
    (liquidity : Option Decimal) {turnover : Option Decimal}
    {ips : InvestmentPolicyStatement}
    (hrun : InvestmentPolicyStatement.create ipsId householdId version
      effectiveDate (targets.map SpelledTarget.target) restricted limit.value
      (liquidity.map Decimal.value) (turnover.map Decimal.value) = .ok ips) :
    ∃ spelled : SpelledStatement, spelled.statement = ips := by
  unfold InvestmentPolicyStatement.create at hrun
  split at hrun
  · next hlimit =>
    split at hrun
    · next hliquidity =>
      split at hrun
      · next hturnover =>
        cases hrun
        exact ⟨{
          ipsId := ipsId
          householdId := householdId
          version := version
          effectiveDate := effectiveDate
          allocationTargets := targets
          restrictedSecurities := restricted
          concentrationLimitPct := limit
          liquidityTierMinPct := liquidity
          turnoverBudgetPct := turnover
          concentrationFraction := hlimit
          liquidityFraction := fun d hd =>
            hliquidity _ (Option.mem_map_of_mem _ hd)
          turnoverFraction := fun d hd =>
            hturnover _ (Option.mem_map_of_mem _ hd) }, rfl⟩
      · cases hrun
    · cases hrun
  · cases hrun

/-- Every emitted statement has a spelling. -/
theorem emitIpsForCohort_spelled {rng : SeededRandom} {cohortId : String}
    {seed rung : Int} {householdId : String} {weights : Dict RiskClass ℚ}
    {ips : InvestmentPolicyStatement}
    (hrun : emitIpsForCohort rng cohortId seed householdId weights rung
      = .ok ips) : ∃ spelled : SpelledStatement, spelled.statement = ips := by
  unfold emitIpsForCohort at hrun
  obtain ⟨priors, hpriors, hrun⟩ := bind_ok_iff.mp hrun
  have hpriors := cohortIpsPriors_spelled hpriors
  obtain ⟨limit, hlimit, hrun⟩ := bind_ok_iff.mp hrun
  obtain ⟨limitText, rfl⟩ := spelled_resolveConcentrationLimit hpriors hlimit
  obtain ⟨targets, htargets, hrun⟩ := bind_ok_iff.mp hrun
  have htexts : targets ∈ Set.range (List.map SpelledTarget.target) := by
    rw [Set.range_list_map]
    intro t ht
    obtain ⟨c, -, hmade⟩ := mapM_mem htargets ht
    exact spelled_bandTarget hmade
  obtain ⟨targetTexts, rfl⟩ := htexts
  obtain ⟨floorText, hfloor⟩ := hpriors.floor
  obtain ⟨turnoverText, hturnover⟩ := spelled_option hpriors.turnover
  rw [← hfloor, ← hturnover] at hrun
  split at hrun
  · cases hrun
  · exact InvestmentPolicyStatement.create_spelled (some floorText) hrun

-- ================================================================ the seeds

section Seeds

variable {rt : SyntheticRuntime} {cohortId : String} {seed rung : Int}
  {householdId : Option String} {nav : ℚ} {validate : Bool}
  {weights : Option (Dict RiskClass ℚ)}

/-- Neither the manifest nor the provenance is seeded. -/
theorem SeedableFixture.sealed {fixture : HouseholdFixture}
    (h : SeedableFixture fixture) (rt : SyntheticRuntime)
    (portfolio : Option AssetPortfolio) (ipsId : String) :
    SeedableFixture (sealIpsProvenance rt
      { fixture with assetPortfolio := portfolio } ipsId) :=
  ⟨h.accountIds, h.lotIds, h.holdingIds, h.callIds, h.tiers, h.tickers⟩

/-- What is emitted can be seeded. -/
theorem seedableFixture_emitted {bundle : SyntheticHouseholdBundle}
    (hrun : emitSyntheticHousehold rt cohortId seed rung householdId nav
      validate weights = .ok bundle) : SeedableFixture bundle.fixture := by
  obtain ⟨resolved, portfolio, -, hfixture, -⟩ :=
    emitSyntheticHousehold_inv hrun
  rw [hfixture]
  exact (seedableFixture_assembleFixture ..).sealed rt _ _

/-- Every emitted bundle can be seeded: its statement has a spelling. -/
theorem emitSyntheticHousehold_spelled {bundle : SyntheticHouseholdBundle}
    (hrun : emitSyntheticHousehold rt cohortId seed rung householdId nav
      validate weights = .ok bundle) :
    ∃ b : SpelledBundle, b.toSyntheticHouseholdBundle = bundle := by
  obtain ⟨_, _, -, -, hips⟩ := emitSyntheticHousehold_inv hrun
  obtain ⟨spelled, hspelled⟩ := emitIpsForCohort_spelled hips
  exact ⟨{ bundle with spelled := spelled, spells := hspelled }, rfl⟩

/-- A new database has nothing of any bundle. -/
theorem notSeeded_empty (bundle : SpelledBundle) : NotSeeded .empty bundle :=
  ⟨Dict.get?_empty _, List.not_mem_nil, fun _ _ => List.not_mem_nil⟩

/-- The seed of a new household goes through and leaves a complete store,
which a second seed leaves as it is. -/
def SeedCompletes (store : SeedStore) (bundle : SpelledBundle)
    (asOf : Option Date) : Prop :=
  ∃ seeded, seedSyntheticHousehold store bundle asOf = .ok (true, seeded)
    ∧ Seeded store bundle (asOf.getD seedPriceDate) seeded
    ∧ ∀ again, seedSyntheticHousehold seeded bundle again = .ok (false, seeded)

/-- For a household that is new to the store, seeding completes exactly when the
store knows the fixture's shared tickers already. -/
theorem seedCompletes_iff {bundle : SpelledBundle} {store : SeedStore}
    (h : SeedableFixture bundle.fixture) (hnew : NotSeeded store bundle)
    (asOf : Option Date) :
    SeedCompletes store bundle asOf ↔ KnowsShared store bundle.fixture := by
  have hflush := flush_ok_iff bundle.ips.restrictedSecurities
    (asOf.getD seedPriceDate) store h (saveIps store.ipsPolicies bundle.spelled)
  rw [← hflush]
  constructor
  · intro hcompletes
    obtain ⟨seeded, hrun, -, -⟩ := hcompletes
    rw [seedSyntheticHousehold_new h hnew] at hrun
    cases hsession : (store.session.ensured bundle.fixture
        bundle.ips.restrictedSecurities (asOf.getD seedPriceDate)).flush
          (saveIps store.ipsPolicies bundle.spelled) with
    | ok flushed => exact ⟨flushed, rfl⟩
    | error err =>
        rw [hsession] at hrun
        cases hrun
  · intro hrun
    obtain ⟨seeded, hrun⟩ := hrun
    have hseeded := seeded_of_flush h hnew hrun
    refine ⟨seeded, ?_, hseeded, seedSyntheticHousehold_again hseeded.policies⟩
    rw [seedSyntheticHousehold_new h hnew, hrun]
    rfl

/-- An emitted bundle is seeded completely into a store that has nothing of
it exactly when the store has the security and a price of every ticker
that two lots share. -/
theorem seed_completes_iff_knows_shared (rt : SyntheticRuntime)
    (cohortId : String) (seed rung : Int) (householdId : Option String)
    (nav : ℚ) (validate : Bool) (weights : Option (Dict RiskClass ℚ))
    (bundle : SpelledBundle) (store : SeedStore) (asOf : Option Date)
    (hrun : emitSyntheticHousehold rt cohortId seed rung householdId nav
      validate weights = .ok bundle.toSyntheticHouseholdBundle)
    (hnew : NotSeeded store bundle) :
    SeedCompletes store bundle asOf ↔ KnowsShared store bundle.fixture :=
  seedCompletes_iff (seedableFixture_emitted hrun) hnew asOf

/-- A sleeve's only lot shares no ticker. -/
theorem nodup_tickers_sleeveOnlyLots (householdId accountId : String)
    (weights : Dict RiskClass ℚ) (nav : ℚ) :
    ((sleeveOnlyLots householdId accountId weights nav).map
      (·.ticker)).Nodup := by
  have htickers : (sleeveSpecs.map fun spec => spec.2.1).Nodup := by decide
  unfold sleeveOnlyLots
  rw [List.map_filterMap]
  refine (filterMap_sublist_map ?_ sleeveSpecs).nodup htickers
  intro spec ticker hticker
  obtain ⟨lot, hlot, rfl⟩ := Option.map_eq_some_iff.mp hticker
  dsimp only at hlot
  split at hlot
  · cases hlot
  · cases hlot
    rfl

/-- At rung 3 there is nothing to know. -/
theorem knowsShared_rung3 {bundle : SyntheticHouseholdBundle}
    (hrun : emitSyntheticHousehold rt cohortId seed 3 householdId nav
      validate weights = .ok bundle) (store : SeedStore) :
    KnowsShared store bundle.fixture := by
  obtain ⟨resolved, portfolio, -, hfixture, -⟩ :=
    emitSyntheticHousehold_inv hrun
  intro ticker htwice
  have hle := List.nodup_iff_count_le_one.mp (nodup_tickers_sleeveOnlyLots
    (householdIdOr householdId cohortId seed)
    (((buildAccounts (householdIdOr householdId cohortId seed) cohortId).map
      (·.accountId)).headD "") resolved nav) ticker
  rw [hfixture] at htwice
  exact absurd htwice (not_lt.mpr hle)

/-- A general household seeded into the empty store. -/
theorem seed_completes_sampled :
    ∃ bundle : SpelledBundle, emitSyntheticHousehold .least "general_hnw" 7 3
        none 2500000 true none = .ok bundle.toSyntheticHouseholdBundle
      ∧ SeedCompletes .empty bundle none := by
  obtain ⟨emitted, hrun, -⟩ := emitSyntheticHousehold_passes
    (rfl : sleeveRanges "general_hnw" = some _) rfl (by decide) .least 7 none
    (.inl rfl) (by norm_num : (0 : ℚ) < 2500000)
  obtain ⟨bundle, rfl⟩ := emitSyntheticHousehold_spelled hrun
  exact ⟨bundle, hrun, (seed_completes_iff_knows_shared .least "general_hnw" 7 3
    none 2500000 true none bundle .empty none hrun
    (notSeeded_empty bundle)).mpr (knowsShared_rung3 hrun .empty)⟩

/-- A concentrated cohort's equity sleeve has three lots of one ticker at
least. -/
theorem concentrated_shares (rng : SeededRandom) (hhId accountId : String)
    {cohortId : String} (weights : Dict RiskClass ℚ) (nav : ℚ) (seed : Int)
    (hconcentrated : cohortId = "founder_executive"
      ∨ cohortId = "concentrated_stress")
    (hequity : 0 < sleeveNav weights nav .equity) :
    1 < ((splitPublicLots rng hhId accountId weights nav seed cohortId).map
      (·.ticker)).count "AAPL" := by
  obtain ⟨hlow, -⟩ := rng.randintRange (seed + 1) 0 3 5 (by decide)
  unfold splitPublicLots splitEquityLots
  dsimp only
  rw [if_pos hequity, if_pos hconcentrated]
  simp only [List.map_append, List.count_append]
  have hall : (concentratedLots hhId accountId
      (sleeveNav weights nav .equity
        * (if cohortId = "concentrated_stress" then 40 / 100 else 25 / 100)
        / rng.randint (seed + 1) 0 3 5)
      (rng.randint (seed + 1) 0 3 5).toNat).map (·.ticker)
        = List.replicate (rng.randint (seed + 1) 0 3 5).toNat "AAPL" := by
    unfold concentratedLots
    rw [List.map_map]
    refine List.eq_replicate_iff.mpr ⟨?_, ?_⟩
    · rw [List.length_map, List.length_range]
    · intro ticker hticker
      obtain ⟨i, -, rfl⟩ := List.mem_map.mp hticker
      rfl
  rw [hall, List.count_replicate_self]
  omega

/-- The second lot of a ticker the store does not know fails the flush. -/
theorem flush_error_of_shared {fixture : HouseholdFixture}
    (h : SeedableFixture fixture) (restricted : List String) (asOf : Date)
    {store : SeedStore} (policies : IpsTable) {ticker : String}
    (htwice : 1 < (fixture.lots.map (·.ticker)).count ticker)
    (hunknown : seedSecurityId ticker
      ∉ store.securities.rows.map SecurityRow.securityId) :
    (store.session.ensured fixture restricted asOf).flush policies
      = .error (.integrityError "UNIQUE constraint failed") := by
  have hentities : ((store.session.ensured fixture restricted
      asOf).entities.rows.map EntityRow.entityId).Nodup :=
    Staged.flushable_ensureAll store.entities.keys (nodup_entityRows h)
  have hclash : ¬ ((store.session.ensured fixture restricted
      asOf).securities.rows.map SecurityRow.securityId).Nodup := by
    intro hfit
    exact hunknown ((securities_fit_iff restricted asOf store h).mp hfit ticker
      htwice)
  have hfirst : flushTable EntityRow.entityId (store.session.ensured fixture restricted asOf).entities
        = .ok ⟨_, hentities⟩ := flushTable_eq_ok.mpr rfl
  unfold SeedSession.flush
  rw [hfirst, ok_bind, flushTable_eq_error hclash]
  rfl

/-- The stressed cohort's own bundle cannot be seeded into a new database:
the lots of its single name are one security each, and the flush raises an
integrity error. -/
theorem shared_ticker_fails_to_seed :
    ∃ bundle : SpelledBundle, emitSyntheticHousehold .least
        "concentrated_stress" 7 4 none 2500000 true none
          = .ok bundle.toSyntheticHouseholdBundle
      ∧ NotSeeded .empty bundle
      ∧ ∃ msg, seedSyntheticHousehold .empty bundle none
        = .error (.integrityError msg) := by
  have hranges : sleeveRanges "concentrated_stress" = some _ := rfl
  obtain ⟨emitted, hrun, -⟩ := emitSyntheticHousehold_passes hranges rfl
    (by decide) .least 7 none (.inr ⟨rfl, rfl⟩)
    (by norm_num : (0 : ℚ) < 2500000)
  obtain ⟨bundle, rfl⟩ := emitSyntheticHousehold_spelled hrun
  have h := seedableFixture_emitted hrun
  obtain ⟨resolved, portfolio, hresolved, hfixture, -⟩ :=
    emitSyntheticHousehold_inv hrun
  have hranged := sleeveRanges_ranged hranges
  obtain ⟨d, sampled, hsample, hsampled⟩ := sampleSleeveWeights_ok
    SyntheticRuntime.least.toSeededRandom 7 hranges hranged
  have hsame : resolved = sampled := by
    rcases hresolved with hgiven | hdrawn
    · cases hgiven
    · rw [hsample] at hdrawn
      cases hdrawn
      rfl
  have hequity : 0 < sleeveNav resolved 2500000 .equity := by
    have hweight := hsampled.weightIn_pos hranged List.mem_cons_self
    unfold sleeveNav
    rw [hsame]
    exact mul_pos (by norm_num) (lt_of_lt_of_le (by norm_num) hweight)
  have htwice : 1 < (bundle.fixture.lots.map (·.ticker)).count "AAPL" := by
    rw [hfixture]
    exact concentrated_shares _ _ _ _ _ _ (.inr rfl) hequity
  refine ⟨bundle, hrun, notSeeded_empty bundle, "UNIQUE constraint failed", ?_⟩
  rw [seedSyntheticHousehold_new h (notSeeded_empty bundle),
    flush_error_of_shared h _ _ _ htwice List.not_mem_nil]
  rfl

end Seeds

end Warehouse
