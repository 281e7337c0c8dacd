/-
The two readings of the kill criteria.

The monitor evaluates a lot's exact figures against the thesis under its
instrument key; checkpoint 1 evaluates the rounded figures of the lot's
attribution row against the thesis under the row's ticker. Both come down
to the limits of a thesis and three figures (`KillCriteria.Trips`), so
they part only on a lot without a ticker, or where rounding carries a
figure over a limit.

# Where the readings part

A lot is missed when the monitor reports it and checkpoint 1 does not, and a
false alarm the other way round. Both come from one of two places: the lot
has no ticker, so that its row is looked up under another key than the lot,
or rounding carries a figure across a limit of the thesis
(`KillCriteria.Gap`). The score is one word for the whole book, so a missed
lot can hide behind a false alarm elsewhere (`ReadAlike`). Books on which
either path raises are left out: there one of the two has no answer.
-/
import Warehouse.Decision.Review
import Warehouse.Proofs.Attribution

namespace Warehouse

open Lib

variable {ctx : DecimalContext} {expected : RiskClass → Option ℚ}
  {asOf : Date}

/-- The figures of a lot the kill tests read. -/
structure LotFigures where
  totalReturn : ℚ
  activeReturn : ℚ
  holdingYears : ℚ

/-- The figures of a lot with this gain, in a class with this expected
return. -/
def LotFigures.of (ctx : DecimalContext) (asOf : Date) (pos : LotPositionView)
    (gain classExpected : ℚ) : LotFigures where
  totalReturn := gain / pos.totalCostBasis
  activeReturn := gain / pos.totalCostBasis
    - (ctx.pow (1 + classExpected)
        (max (asOf - pos.acquisitionDate) 0 / daysPerYear) - 1)
  holdingYears := max (asOf - pos.acquisitionDate) 0 / daysPerYear

/-- A lot's figures as attribution computes them, before it rounds. -/
def lotFigures (ctx : DecimalContext) (expected : RiskClass → Option ℚ)
    (asOf : Date) (pos : LotPositionView) : Option LotFigures :=
  match pos.unrealizedGain, expected pos.securityAssetClass.riskClassFor with
  | some gain, some classExpected =>
      some (.of ctx asOf pos gain classExpected)
  | _, _ => none

/-- The lot's exact active return. -/
def exactActiveReturn (ctx : DecimalContext)
    (expected : RiskClass → Option ℚ) (asOf : Date) (pos : LotPositionView) :
    Option ℚ :=
  (lotFigures ctx expected asOf pos).map (·.activeReturn)

/-- The figures as an attribution row carries them. -/
def LotFigures.rounded (f : LotFigures) : LotFigures where
  totalReturn := quantize returnPlaces f.totalReturn
  activeReturn := quantize returnPlaces f.activeReturn
  holdingYears := quantize yearsPlaces f.holdingYears

/-- Some limit that is set is crossed. -/
def KillCriteria.Trips (kc : KillCriteria) (f : LotFigures)
    (liquidityTier : Nat) : Prop :=
  (∃ limit ∈ kc.maxDrawdownVsCost, f.totalReturn ≤ limit)
    ∨ (∃ cap ∈ kc.maxActiveResidual, cap ≤ |f.activeReturn|)
    ∨ (∃ floor ∈ kc.minLiquidityTier, floor < (liquidityTier : Int))
    ∨ (∃ limit ∈ kc.maxHoldingYears, limit < f.holdingYears)

-- ========================================================= the four tests

/-- The drawdown criterion trips at or below its limit. -/
theorem drawdownBreaches_ne_nil (accountId instrument : String)
    {kc : KillCriteria} {totalReturn : ℚ} :
    drawdownBreaches accountId instrument kc totalReturn ≠ []
      ↔ ∃ limit ∈ kc.maxDrawdownVsCost, totalReturn ≤ limit := by
  unfold drawdownBreaches
  cases kc.maxDrawdownVsCost with
  | none => simp
  | some limit => by_cases h : totalReturn ≤ limit <;> simp [h]

/-- The residual criterion trips at or above its cap. -/
theorem residualBreaches_ne_nil (accountId instrument : String)
    {kc : KillCriteria} {active : ℚ} :
    residualBreaches accountId instrument kc (some active) ≠ []
      ↔ ∃ cap ∈ kc.maxActiveResidual, cap ≤ |active| := by
  unfold residualBreaches
  cases kc.maxActiveResidual with
  | none => simp
  | some cap => by_cases h : cap ≤ |active| <;> simp [h]

/-- The liquidity criterion trips strictly past its floor. -/
theorem liquidityBreaches_ne_nil (accountId instrument : String)
    {kc : KillCriteria} {tier : Nat} :
    liquidityBreaches accountId instrument kc tier ≠ []
      ↔ ∃ floor ∈ kc.minLiquidityTier, floor < (tier : Int) := by
  unfold liquidityBreaches
  cases kc.minLiquidityTier with
  | none => simp
  | some floor => by_cases h : floor < (tier : Int) <;> simp [h]

/-- The horizon criterion trips strictly past its limit. -/
theorem horizonBreaches_ne_nil (ctx : DecimalContext)
    (accountId instrument : String)
    {kc : KillCriteria} {holdingYears : ℚ} :
    horizonBreaches ctx accountId instrument kc holdingYears ≠ []
      ↔ ∃ limit ∈ kc.maxHoldingYears, limit < holdingYears := by
  unfold horizonBreaches
  cases kc.maxHoldingYears with
  | none => simp
  | some limit => by_cases h : limit < holdingYears <;> simp [h]

/-- The tests together see exactly whether some limit is crossed. -/
theorem killBreaches_ne_nil {accountId instrument : String}
    {kc : KillCriteria} {f : LotFigures} {tier : Nat} :
    killBreaches ctx accountId instrument kc f.totalReturn f.holdingYears tier
        (some f.activeReturn) ≠ []
      ↔ kc.Trips f tier := by
  unfold killBreaches KillCriteria.Trips
  rw [← drawdownBreaches_ne_nil accountId instrument,
    ← residualBreaches_ne_nil accountId instrument,
    ← liquidityBreaches_ne_nil accountId instrument,
    ← horizonBreaches_ne_nil ctx accountId instrument]
  simp only [ne_eq, List.append_eq_nil_iff]
  tauto

-- ============================================================= the monitor

/-- A lot's exact figures cross a limit of the thesis under its instrument
key. -/
def Monitored (ctx : DecimalContext) (expected : RiskClass → Option ℚ)
    (asOf : Date) (store : ThesisStore) (pos : LotPositionView) : Prop :=
  ∃ thesis ∈ store.get pos.accountId (instrumentKey pos),
    ∃ f ∈ lotFigures ctx expected asOf pos,
      thesis.killCriteria.Trips f pos.liquidityTier

/-- Where the monitor does not raise, its breaches are those of the exact
figures. -/
theorem evaluateKillCriteria_ne_nil {pos : LotPositionView}
    {thesis : PositionThesis} {f : LotFigures} {breaches : List KillBreach}
    (hf : lotFigures ctx expected asOf pos = some f)
    (h : evaluateKillCriteria ctx pos thesis asOf (some f.activeReturn)
      = .ok breaches) :
    breaches ≠ [] ↔ thesis.killCriteria.Trips f pos.liquidityTier := by
  unfold evaluateKillCriteria at h
  dsimp only at h
  split at h
  · cases h
  · split at h
    · cases h
    · split at h
      · next marketValue gain hmv hgain =>
        split at h
        · cases h
        · obtain rfl := Except.ok.inj h
          unfold lotFigures at hf
          rw [hgain] at hf
          split at hf
          · next gain' classExpected hgain' _ =>
            obtain rfl := Option.some.inj hgain'
            obtain rfl := Option.some.inj hf
            exact killBreaches_ne_nil (f := .of ctx asOf pos gain classExpected)
          · cases hf
      · cases h

-- ============================================================== the report

/-- What a row keeps of its lot. -/
theorem attributeOne_row {minHoldingYears : ℚ} {pos : LotPositionView}
    {row : PositionAttribution}
    (h : attributeOne ctx expected asOf minHoldingYears pos = .ok row) :
    row.accountId = pos.accountId ∧ row.ticker = pos.ticker
      ∧ row.liquidityTier = pos.liquidityTier
      ∧ ∃ f, lotFigures ctx expected asOf pos = some f
        ∧ f.rounded
          = ⟨row.totalReturn, row.activeReturn, row.holdingYears⟩ := by
  unfold attributeOne at h
  split at h
  · cases h
  · split at h
    · next marketValue gain hmv hgain =>
      split at h
      · cases h
      · dsimp only at h
        split at h
        · cases h
        · next classExpected hexpected =>
          obtain rfl := Except.ok.inj h
          refine ⟨rfl, rfl, rfl, .of ctx asOf pos gain classExpected, ?_, rfl⟩
          unfold lotFigures
          rw [hgain, hexpected]
    · cases h

/-- A lot's rounded figures cross a limit of the thesis under its
ticker. -/
def Reported (ctx : DecimalContext) (expected : RiskClass → Option ℚ)
    (asOf : Date) (store : ThesisStore) (pos : LotPositionView) : Prop :=
  ∃ thesis ∈ store.get pos.accountId (pos.ticker.getD ""),
    ∃ f ∈ lotFigures ctx expected asOf pos,
      thesis.killCriteria.Trips f.rounded pos.liquidityTier

/-- A row the report counts as breached. -/
def RowBreached (ctx : DecimalContext) (store : ThesisStore)
    (pa : PositionAttribution) : Prop :=
  ∃ thesis ∈ store.get pa.accountId (pa.ticker.getD ""),
    breachesForAttribution ctx pa thesis ≠ []

/-- A row of the report is breached exactly when the review would report its
lot. -/
theorem rowBreached_iff {minHoldingYears : ℚ} {store : ThesisStore}
    {pos : LotPositionView} {row : PositionAttribution}
    (h : attributeOne ctx expected asOf minHoldingYears pos = .ok row) :
    RowBreached ctx store row ↔ Reported ctx expected asOf store pos := by
  obtain ⟨haccount, hticker, htier, f, hf, hrounded⟩ := attributeOne_row h
  have htrips : ∀ thesis, breachesForAttribution ctx row thesis ≠ []
      ↔ thesis.killCriteria.Trips f.rounded pos.liquidityTier := by
    intro thesis
    rw [hrounded, ← htier]
    exact killBreaches_ne_nil (f := ⟨row.totalReturn, row.activeReturn,
      row.holdingYears⟩)
  unfold RowBreached Reported
  simp only [htrips, haccount, hticker, hf, Option.mem_def,
    Option.some.injEq, exists_eq_left']

/-- The pass over the rows: the count only grows, a breach once seen
stays, and a breached row is a counted one. -/
theorem documentRow_foldl (ctx : DecimalContext) (store : ThesisStore)
    (rows : List PositionAttribution) : ∀ acc : Nat × Bool,
    acc.1 ≤ (rows.foldl (documentRow ctx store) acc).1
      ∧ ((rows.foldl (documentRow ctx store) acc).2 = true
          ↔ acc.2 = true ∨ ∃ pa ∈ rows, RowBreached ctx store pa)
      ∧ ((∃ pa ∈ rows, RowBreached ctx store pa) →
          acc.1 < (rows.foldl (documentRow ctx store) acc).1) := by
  induction rows with
  | nil => intro acc; simp
  | cons pa rest ih =>
      intro acc
      rw [List.foldl_cons]
      simp only [List.mem_cons, exists_eq_or_imp]
      cases hget : store.get pa.accountId (pa.ticker.getD "") with
      | none =>
          have hstep : documentRow ctx store acc pa = acc := by
            unfold documentRow
            rw [hget]
          have hpa : ¬RowBreached ctx store pa := by
            rintro ⟨thesis, hthesis, -⟩
            rw [hget] at hthesis
            cases hthesis
          rw [hstep]
          simpa only [hpa, false_or] using ih acc
      | some thesis =>
          have hstep : documentRow ctx store acc pa = (acc.1 + 1, acc.2
              || !(breachesForAttribution ctx pa thesis).isEmpty) := by
            unfold documentRow
            rw [hget]
          have hpa : RowBreached ctx store pa
              ↔ breachesForAttribution ctx pa thesis ≠ [] := by
            unfold RowBreached
            rw [hget]
            simp
          rw [hstep]
          obtain ⟨hle, hany, -⟩ := ih (acc.1 + 1,
            acc.2 || !(breachesForAttribution ctx pa thesis).isEmpty)
          dsimp only at hle hany
          refine ⟨by omega, ?_, fun _ => by omega⟩
          refine hany.trans ?_
          rw [hpa]
          simp [or_assoc]

/-- The review scores a breach exactly when some row is breached. -/
theorem scoreCheckpoint1_breach_iff {report : AttributionReport}
    {theses : Theses} :
    scoreCheckpoint1 ctx report (some theses) = .breach
      ↔ ∃ pa ∈ report.positions, RowBreached ctx theses.asStore pa := by
  obtain ⟨-, hany, hlt⟩ :=
    documentRow_foldl ctx theses.asStore report.positions (0, false)
  unfold scoreCheckpoint1
  dsimp only
  split
  · next hempty =>
    -- an empty store has no thesis for any row
    have hentries : theses.asStore.byKey.entries = [] :=
      List.length_eq_zero_iff.mp hempty
    constructor
    · intro h
      cases h
    · rintro ⟨pa, -, thesis, hthesis, -⟩
      have hmem := Dict.get?_eq_some_iff.mp hthesis
      rw [hentries] at hmem
      cases hmem
  · split
    · next hzero =>
      constructor
      · intro h
        cases h
      · intro h
        have hpos := hlt h
        rw [hzero] at hpos
        exact absurd hpos (lt_irrefl 0)
    · split
      · next htrue =>
        exact ⟨fun _ => (hany.mp htrue).resolve_left (by simp), fun _ => rfl⟩
      · next hfalse =>
        constructor
        · intro h
          cases h
        · exact fun h => absurd (hany.mpr (.inr h)) hfalse

/-- Checkpoint 1 is a breach exactly when some lot's row reads so. -/
theorem scoreCheckpoint1_breach_iff_reported {lots : List LotPositionView}
    {householdId configVersion : String} {minHoldingYears : ℚ}
    {report : AttributionReport} {theses : Theses}
    (h : evaluateAttribution ctx lots expected householdId asOf configVersion
      minHoldingYears = .ok report) :
    scoreCheckpoint1 ctx report (some theses) = .breach
      ↔ ∃ pos ∈ lots, Reported ctx expected asOf theses.asStore pos := by
  obtain ⟨rows, hall, hsorted, -⟩ := evaluateAttribution_rows h
  have hperm : report.positions.Perm rows := by
    rw [hsorted]
    exact List.perm_insertionSort _ rows
  rw [scoreCheckpoint1_breach_iff]
  simp only [hperm.mem_iff]
  clear h hsorted hperm
  induction hall with
  | nil => simp
  | cons hrow _ ih => simp [rowBreached_iff hrow, ih]

-- ========================================================== the two readings

/-- The first figures cross a limit the second do not, liquidity apart. -/
def KillCriteria.Gap (kc : KillCriteria) (f g : LotFigures) : Prop :=
  (∃ limit ∈ kc.maxDrawdownVsCost,
      f.totalReturn ≤ limit ∧ limit < g.totalReturn)
    ∨ (∃ cap ∈ kc.maxActiveResidual,
      |g.activeReturn| < cap ∧ cap ≤ |f.activeReturn|)
    ∨ (∃ limit ∈ kc.maxHoldingYears,
      g.holdingYears ≤ limit ∧ limit < f.holdingYears)

/-- Figures on either side of a limit: the first trip it. -/
theorem KillCriteria.Gap.trips {kc : KillCriteria} {f g : LotFigures}
    {tier : Nat} (h : kc.Gap f g) : kc.Trips f tier := by
  rcases h with ⟨limit, hset, hf, -⟩ | ⟨cap, hset, -, hf⟩ | ⟨limit, hset, -, hf⟩
  · exact .inl ⟨limit, hset, hf⟩
  · exact .inr (.inl ⟨cap, hset, hf⟩)
  · exact .inr (.inr (.inr ⟨limit, hset, hf⟩))

/-- Figures on both sides of some limit, and on no other's far side: the
tier is the same for both. -/
theorem KillCriteria.trips_and_not_iff {kc : KillCriteria} {f g : LotFigures}
    {tier : Nat} : kc.Trips f tier ∧ ¬kc.Trips g tier
      ↔ kc.Gap f g ∧ ¬kc.Trips g tier := by
  constructor
  · rintro ⟨hf, hg⟩
    refine ⟨?_, hg⟩
    rcases hf with ⟨limit, hset, hf⟩ | ⟨cap, hset, hf⟩ | htier
      | ⟨limit, hset, hf⟩
    · exact .inl ⟨limit, hset, hf, not_le.mp fun h => hg (.inl ⟨limit, hset, h⟩)⟩
    · refine .inr (.inl ⟨cap, hset, not_le.mp fun h => hg ?_, hf⟩)
      exact .inr (.inl ⟨cap, hset, h⟩)
    · exact absurd (.inr (.inr (.inl htier))) hg
    · refine .inr (.inr ⟨limit, hset, not_lt.mp fun h => hg ?_, hf⟩)
      exact .inr (.inr (.inr ⟨limit, hset, h⟩))
  · rintro ⟨hgap, hg⟩
    exact ⟨hgap.trips, hg⟩

theorem instrumentKey_of_ticker {pos : LotPositionView}
    (h : pos.ticker.getD "" ≠ "") : instrumentKey pos = pos.ticker.getD "" := by
  unfold instrumentKey
  cases hticker : pos.ticker with
  | none =>
      rw [hticker] at h
      exact absurd rfl h
  | some ticker =>
      rw [hticker] at h
      exact if_neg h

section Readings

variable (ctx expected asOf) (store : ThesisStore) (pos : LotPositionView)

/-- The report misses a breach of the lot: the lot has no ticker, so the
thesis of its security id is not looked at; or rounding takes a figure back
over the only limits it crosses. -/
inductive Missed : Prop
  | untickered (hticker : pos.ticker.getD "" = "")
      (hexact : Monitored ctx expected asOf store pos)
      (hrow : ¬Reported ctx expected asOf store pos)
  | rounded (hticker : pos.ticker.getD "" ≠ "") (thesis : PositionThesis)
      (hthesis : store.get pos.accountId (pos.ticker.getD "") = some thesis)
      (f : LotFigures) (hf : lotFigures ctx expected asOf pos = some f)
      (hgap : thesis.killCriteria.Gap f f.rounded)
      (hrow : ¬thesis.killCriteria.Trips f.rounded pos.liquidityTier)

/-- The report raises a breach the lot does not have: the lot has no
ticker and its account a thesis on the empty instrument; or rounding takes
a figure over a limit. -/
inductive FalseAlarm : Prop
  | untickered (hticker : pos.ticker.getD "" = "")
      (hrow : Reported ctx expected asOf store pos)
      (hexact : ¬Monitored ctx expected asOf store pos)
  | rounded (hticker : pos.ticker.getD "" ≠ "") (thesis : PositionThesis)
      (hthesis : store.get pos.accountId (pos.ticker.getD "") = some thesis)
      (f : LotFigures) (hf : lotFigures ctx expected asOf pos = some f)
      (hgap : thesis.killCriteria.Gap f.rounded f)
      (hexact : ¬thesis.killCriteria.Trips f pos.liquidityTier)

variable {ctx expected asOf store pos}

/-- With a ticker both readings are of one thesis. -/
theorem monitored_and_reported_of_ticker
    (hticker : pos.ticker.getD "" ≠ "") {thesis : PositionThesis}
    (hthesis : store.get pos.accountId (pos.ticker.getD "") = some thesis)
    {f : LotFigures} (hf : lotFigures ctx expected asOf pos = some f) :
    (Monitored ctx expected asOf store pos
        ↔ thesis.killCriteria.Trips f pos.liquidityTier)
      ∧ (Reported ctx expected asOf store pos
        ↔ thesis.killCriteria.Trips f.rounded pos.liquidityTier) := by
  unfold Monitored Reported
  rw [instrumentKey_of_ticker hticker, hthesis, hf]
  simp only [Option.mem_def, Option.some.injEq, exists_eq_left', and_self]

/-- A missed lot is one the monitor reports and the review does not. -/
theorem missed_iff : Missed ctx expected asOf store pos
    ↔ Monitored ctx expected asOf store pos
      ∧ ¬Reported ctx expected asOf store pos := by
  constructor
  · intro h
    cases h with
    | untickered _ hexact hrow => exact ⟨hexact, hrow⟩
    | rounded hticker thesis hthesis f hf hgap hrow =>
        obtain ⟨hm, hr⟩ := monitored_and_reported_of_ticker hticker hthesis hf
        rw [hm, hr]
        exact ⟨hgap.trips, hrow⟩
  · rintro ⟨hexact, hrow⟩
    by_cases hticker : pos.ticker.getD "" = ""
    · exact .untickered hticker hexact hrow
    · obtain ⟨thesis, hthesis, f, hf, htrips⟩ := hexact
      rw [instrumentKey_of_ticker hticker] at hthesis
      have hr := (monitored_and_reported_of_ticker hticker hthesis hf).2
      rw [hr] at hrow
      have hgap := KillCriteria.trips_and_not_iff.mp ⟨htrips, hrow⟩
      exact .rounded hticker thesis hthesis f hf hgap.1 hrow

theorem falseAlarm_iff : FalseAlarm ctx expected asOf store pos
    ↔ Reported ctx expected asOf store pos
      ∧ ¬Monitored ctx expected asOf store pos := by
  constructor
  · intro h
    cases h with
    | untickered _ hrow hexact => exact ⟨hrow, hexact⟩
    | rounded hticker thesis hthesis f hf hgap hexact =>
        obtain ⟨hm, hr⟩ := monitored_and_reported_of_ticker hticker hthesis hf
        rw [hm, hr]
        exact ⟨hgap.trips, hexact⟩
  · rintro ⟨hrow, hexact⟩
    by_cases hticker : pos.ticker.getD "" = ""
    · exact .untickered hticker hrow hexact
    · obtain ⟨thesis, hthesis, f, hf, htrips⟩ := hrow
      have hm := (monitored_and_reported_of_ticker hticker hthesis hf).1
      rw [hm] at hexact
      have hgap := KillCriteria.trips_and_not_iff.mp ⟨htrips, hexact⟩
      exact .rounded hticker thesis hthesis f hf hgap.1 hexact

/-- Some lot is read alike as a breach, or lots are missed exactly where
others are raised falsely. -/
def ReadAlike (ctx : DecimalContext) (expected : RiskClass → Option ℚ)
    (asOf : Date) (store : ThesisStore) (lots : List LotPositionView) : Prop :=
  (∃ pos ∈ lots, Monitored ctx expected asOf store pos
      ∧ Reported ctx expected asOf store pos)
    ∨ ((∃ pos ∈ lots, Missed ctx expected asOf store pos)
      ↔ ∃ pos ∈ lots, FalseAlarm ctx expected asOf store pos)

end Readings

/-- Two predicates hold somewhere together, or each alone somewhere, or
neither. -/
theorem exists_iff_exists_iff {α : Type*} {xs : List α} {P Q : α → Prop} :
    ((∃ x ∈ xs, P x) ↔ ∃ x ∈ xs, Q x)
      ↔ (∃ x ∈ xs, Q x ∧ P x)
        ∨ ((∃ x ∈ xs, Q x ∧ ¬P x) ↔ ∃ x ∈ xs, P x ∧ ¬Q x) := by
  by_cases hboth : ∃ x ∈ xs, Q x ∧ P x
  · obtain ⟨x, hx, hq, hp⟩ := hboth
    exact ⟨fun _ => .inl ⟨x, hx, hq, hp⟩,
      fun _ => ⟨fun _ => ⟨x, hx, hq⟩, fun _ => ⟨x, hx, hp⟩⟩⟩
  · have hq : (∃ x ∈ xs, Q x ∧ ¬P x) ↔ ∃ x ∈ xs, Q x := by
      constructor
      · exact fun ⟨x, hx, h, _⟩ => ⟨x, hx, h⟩
      · exact fun ⟨x, hx, h⟩ => ⟨x, hx, h, fun hp => hboth ⟨x, hx, h, hp⟩⟩
    have hp : (∃ x ∈ xs, P x ∧ ¬Q x) ↔ ∃ x ∈ xs, P x := by
      constructor
      · exact fun ⟨x, hx, h, _⟩ => ⟨x, hx, h⟩
      · exact fun ⟨x, hx, h⟩ => ⟨x, hx, h, fun hq => hboth ⟨x, hx, hq, h⟩⟩
    rw [hq, hp]
    constructor
    · exact fun h => .inr h.symm
    · exact fun h => (h.resolve_left hboth).symm

-- ========================================================== the checkpoint

/-- Checkpoint 1 reads a breach off the lots' attribution exactly where
the monitor finds one on some lot. -/
def CheckpointAgrees (ctx : DecimalContext) (settings : Settings)
    (expected : RiskClass → Option ℚ) (asOf : Date) (theses : Theses)
    (lots : List LotPositionView) (report : AttributionReport) : Prop :=
  (scoreAnalystCheckpoints ctx settings report (some theses)).checkpoints.get?
      "checkpoint_1" = some .breach
    ↔ ∃ pos ∈ lots, ∃ thesis breaches,
      theses.asStore.get pos.accountId (instrumentKey pos) = some thesis
        ∧ evaluateKillCriteria ctx pos thesis asOf
          (exactActiveReturn ctx expected asOf pos) = .ok breaches
        ∧ breaches ≠ []

/-- The first checkpoint's entry is its score. -/
theorem checkpoint1_get? (settings : Settings) (report : AttributionReport)
    (theses : Option Theses) :
    (scoreAnalystCheckpoints ctx settings report theses).checkpoints.get?
      "checkpoint_1" = some (scoreCheckpoint1 ctx report theses) := by
  simp [scoreAnalystCheckpoints, Dict.ofPairs, Dict.setAll]

/-- Where the report exists, so do the figures of every lot. -/
theorem lotFigures_of_ok {minHoldingYears : ℚ} {lots : List LotPositionView}
    {householdId configVersion : String} {report : AttributionReport}
    (h : evaluateAttribution ctx lots expected householdId asOf configVersion
      minHoldingYears = .ok report) :
    ∀ pos ∈ lots, ∃ f, lotFigures ctx expected asOf pos = some f := by
  unfold evaluateAttribution at h
  obtain ⟨rows, hrows, -⟩ := bind_ok_iff.mp h
  intro pos hpos
  obtain ⟨row, hrow⟩ := (mapM_ok_iff lots).mp ⟨rows, hrows⟩ pos hpos
  obtain ⟨-, -, -, f, hf, -⟩ := attributeOne_row hrow
  exact ⟨f, hf⟩

/-- Where neither path raises, they agree exactly when the two readings of
the lots do. -/
theorem checkpointAgrees_iff (settings : Settings) {theses : Theses}
    {lots : List LotPositionView} {householdId configVersion : String}
    {minHoldingYears : ℚ} {report : AttributionReport}
    (hreport : evaluateAttribution ctx lots expected householdId asOf
      configVersion minHoldingYears = .ok report)
    (hmonitor : ∀ pos ∈ lots, ∀ thesis,
      theses.asStore.get pos.accountId (instrumentKey pos) = some thesis →
      ∃ breaches, evaluateKillCriteria ctx pos thesis asOf
        (exactActiveReturn ctx expected asOf pos) = .ok breaches) :
    CheckpointAgrees ctx settings expected asOf theses lots report
      ↔ ReadAlike ctx expected asOf theses.asStore lots := by
  have hexact : ∀ pos ∈ lots, (∃ thesis breaches,
      theses.asStore.get pos.accountId (instrumentKey pos) = some thesis
        ∧ evaluateKillCriteria ctx pos thesis asOf
          (exactActiveReturn ctx expected asOf pos) = .ok breaches
        ∧ breaches ≠ [])
      ↔ Monitored ctx expected asOf theses.asStore pos := by
    intro pos hpos
    obtain ⟨f, hf⟩ := lotFigures_of_ok hreport pos hpos
    have hactive : exactActiveReturn ctx expected asOf pos
        = some f.activeReturn := by
      unfold exactActiveReturn
      rw [hf]
      rfl
    have hall := hmonitor pos hpos
    rw [hactive] at hall ⊢
    constructor
    · rintro ⟨thesis, breaches, hthesis, heval, hne⟩
      exact ⟨thesis, hthesis, f, hf,
        (evaluateKillCriteria_ne_nil hf heval).mp hne⟩
    · rintro ⟨thesis, hthesis, f', hf', htrips⟩
      obtain rfl := Option.some.inj (hf.symm.trans hf')
      obtain ⟨breaches, heval⟩ := hall thesis hthesis
      exact ⟨thesis, breaches, hthesis, heval,
        (evaluateKillCriteria_ne_nil hf heval).mpr htrips⟩
  unfold CheckpointAgrees ReadAlike
  simp only [missed_iff, falseAlarm_iff]
  rw [checkpoint1_get?, Option.some.injEq,
    scoreCheckpoint1_breach_iff_reported hreport, ← exists_iff_exists_iff]
  apply iff_congr Iff.rfl
  apply exists_congr
  intro pos
  exact and_congr_right (hexact pos)

/-- To be given up at a loss of a fifth. -/
def fifthLost (instrument : String) : PositionThesis where
  accountId := "acct_a"
  instrument := instrument
  mechanism := "carry"
  effectiveDate := 739000
  killCriteria := { maxDrawdownVsCost := some (-1 / 5) }
  configVersion := "2026.06"

/-- A class expected to return 4% a year. -/
def carry (_ : RiskClass) : Option ℚ := some (1 / 25)

/-- Neither path raises on the lot under the thesis. -/
def EvaluatedToday (lot : LotPositionView) (thesis : PositionThesis)
    (report : AttributionReport) : Prop :=
  evaluateAttribution powersOfToday [lot] carry "h" 739791 "2026.06" (1 / 2)
      = .ok report
    ∧ ∃ breaches, evaluateKillCriteria powersOfToday lot thesis 739791
      (exactActiveReturn powersOfToday carry 739791 lot) = .ok breaches

/-- The paths agree on the lot under the thesis. -/
def AgreeToday (lot : LotPositionView) (thesis : PositionThesis)
    (report : AttributionReport) : Prop :=
  CheckpointAgrees powersOfToday {} carry 739791 (.iterable [thesis]) [lot]
    report

/-- A ticker and a loss of a half: both paths see it. -/
theorem checkpointAgrees_iff_halfLost :
    ∃ report, EvaluatedToday (lotOfToday (some "NOTE") 100 (-50))
        (fifthLost "NOTE") report
      ∧ AgreeToday (lotOfToday (some "NOTE") 100 (-50)) (fifthLost "NOTE")
        report := by
  refine ⟨_, ⟨rfl, _, rfl⟩, (checkpointAgrees_iff {} rfl ?_).mpr ?_⟩
  · intro pos hpos thesis hthesis
    cases List.mem_singleton.mp hpos
    cases hthesis
    exact ⟨_, rfl⟩
  · refine .inl ⟨_, List.mem_singleton_self _,
      ⟨fifthLost "NOTE", rfl, _, rfl, ?_⟩, ⟨fifthLost "NOTE", rfl, _, rfl, ?_⟩⟩
    · exact .inl ⟨_, rfl, by decide +kernel⟩
    · exact .inl ⟨_, rfl, by decide +kernel⟩

/-- Two lots the paths disagree on: half lost without a ticker, which the
report does not look up; and a cent short of a fifth lost, which rounds to
a fifth. -/
theorem checkpoint_kill_paths_disagree :
    (∃ report, EvaluatedToday (lotOfToday none 100 (-50)) (fifthLost "sec_1")
        report
      ∧ ¬AgreeToday (lotOfToday none 100 (-50)) (fifthLost "sec_1") report)
    ∧ ∃ report, EvaluatedToday
          (lotOfToday (some "NOTE") 3000000 (-59999999 / 100))
          (fifthLost "NOTE") report
      ∧ ¬AgreeToday (lotOfToday (some "NOTE") 3000000 (-59999999 / 100))
          (fifthLost "NOTE") report := by
  constructor
  · refine ⟨_, ⟨rfl, _, rfl⟩, fun hagree => ?_⟩
    have hbreach := hagree.mpr ⟨_, List.mem_singleton_self _,
      fifthLost "sec_1", _, rfl, rfl, by decide +kernel⟩
    rw [checkpoint1_get?] at hbreach
    revert hbreach
    decide +kernel
  · refine ⟨_, ⟨rfl, _, rfl⟩, fun hagree => ?_⟩
    obtain ⟨pos, hpos, thesis, breaches, hthesis, heval, hne⟩ :=
      hagree.mp (by rw [checkpoint1_get?]; decide +kernel)
    cases List.mem_singleton.mp hpos
    cases hthesis
    cases heval
    revert hne
    decide +kernel

end Warehouse
