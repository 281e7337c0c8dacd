/-
Persisting synthetic households (`infra/db/synthetic_seed.py`), in a
session as `get_session_factory` builds it: without autoflush, so that a
look sees the flushed rows only.

# The flush

A flush is one transaction, so a call that raises leaves the store as it
was. What a flush checks are the tables' primary keys: every foreign key
the seed writes points to a row it has found or staged. Where a key
repeats, the database names one table that it repeats in. Which one that
is depends on the order the unit of work writes the tables in, which is
not the source's to say, so the exception here names none.

# What is left out

Amounts are as they were written (`Infra.SeededLedger` reads them through
their columns). The tax character, which is the same for every security,
has no column here.
-/
import Warehouse.Research.FixtureViews
import Warehouse.Data.Alternatives
import Warehouse.Decision.IpsStore
import Warehouse.Lib.UnitOfWork

namespace Warehouse

open Lib UnitOfWork

-- =============================================================== the tables

/-- The tables a household is seeded into. -/
structure SeedStore where
  entities : Table EntityRow.entityId
  entityRelationships : List EntityRelationshipRow
  securities : Table SecurityRow.securityId
  lots : Table Lot.lotId
  marketPrices : Table fun row : MarketPriceRow => (row.securityId, row.asOfDate)
  alternativeHoldings : Table AlternativeHoldingRow.holdingId
  alternativeEvents : Table AlternativeEventRow.eventId
  ipsPolicies : IpsTable

/-- A new database. -/
def SeedStore.empty : SeedStore where
  entities := Table.empty _
  entityRelationships := []
  securities := Table.empty _
  lots := Table.empty _
  marketPrices := Table.empty _
  alternativeHoldings := Table.empty _
  alternativeEvents := Table.empty _
  ipsPolicies := IpsTable.empty

/-- The tables in a session. -/
structure SeedSession where
  entities : Staged EntityRow
  entityRelationships : Staged EntityRelationshipRow
  securities : Staged SecurityRow
  lots : Staged Lot
  marketPrices : Staged MarketPriceRow
  alternativeHoldings : Staged AlternativeHoldingRow
  alternativeEvents : Staged AlternativeEventRow

/-- A session nothing has been added to. -/
def SeedStore.session (store : SeedStore) : SeedSession where
  entities := store.entities.staged
  entityRelationships := { flushed := store.entityRelationships }
  securities := store.securities.staged
  lots := store.lots.staged
  marketPrices := store.marketPrices.staged
  alternativeHoldings := store.alternativeHoldings.staged
  alternativeEvents := store.alternativeEvents.staged

/-- One table's part of a flush, of whatever table the exception is. -/
def flushTable {α κ : Type} [DecidableEq κ] (key : α → κ)
    (staged : Staged α) : Except Exc (Table key) :=
  match staged.flush key with
  | some table => .ok table
  | none => .error (.integrityError "UNIQUE constraint failed")

/-- `session.flush()`, with the policies as they are to be. It fails where
any table does, and all tables fail alike. -/
def SeedSession.flush (session : SeedSession) (policies : IpsTable) :
    Except Exc SeedStore := do
  let entities ← flushTable _ session.entities
  let securities ← flushTable _ session.securities
  let lots ← flushTable _ session.lots
  let prices ← flushTable _ session.marketPrices
  let holdings ← flushTable _ session.alternativeHoldings
  let events ← flushTable _ session.alternativeEvents
  return { entities := entities
           entityRelationships := session.entityRelationships.rows
           securities := securities
           lots := lots
           marketPrices := prices
           alternativeHoldings := holdings
           alternativeEvents := events
           ipsPolicies := policies }

-- ================================================================= seeding

/-- A bundle, with its statement as it is spelled. -/
structure SpelledBundle extends SyntheticHouseholdBundle where
  spelled : SpelledStatement
  spells : spelled.statement = ips

/-- `_TICKER_NAMES`. -/
def tickerName : String → Option String
  | "VTI" => some "Vanguard Total Stock Market ETF"
  | "BND" => some "Vanguard Total Bond Market ETF"
  | "AAPL" => some "Apple Inc"
  | "DBC" => some "Invesco DB Commodity Index"
  | "CASH" => some "Cash & Equivalents"
  | _ => none

/-- `_security_id`. -/
def seedSecurityId (ticker : String) : String := "sec_syn_" ++ lower ticker

/-- The household itself, as an entity. -/
def householdRow (fixture : HouseholdFixture) : EntityRow where
  entityId := fixture.householdId
  entityType := .household
  name := "Synthetic " ++ fixture.provenance.cohortId
  householdId := some fixture.householdId

/-- One account, as an entity of the household. -/
def accountRow (householdId : String) (account : SyntheticAccount) :
    EntityRow where
  entityId := account.accountId
  entityType := .account
  name := account.name
  householdId := some householdId

/-- The household aggregates the account. -/
def accountLink (householdId : String) (account : SyntheticAccount) :
    EntityRelationshipRow where
  sourceId := householdId
  targetId := account.accountId
  relationshipType := .aggregates

/-- Adds an account and its edge, where they are not there yet. -/
def seedAccount (householdId : String) (session : SeedSession)
    (account : SyntheticAccount) : SeedSession :=
  { session with
    entities := session.entities.ensure EntityRow.entityId
      (accountRow householdId account)
    entityRelationships := session.entityRelationships.ensure
      (fun row => (row.sourceId, row.targetId))
      (accountLink householdId account) }

/-- The security a lot's ticker becomes. -/
def securityRow (lot : SyntheticLot) (tier : Nat) : SecurityRow where
  securityId := seedSecurityId lot.ticker
  ticker := some lot.ticker
  name := (tickerName lot.ticker).getD lot.ticker
  assetClass := securityAssetClass lot
  liquidityTier := tier
  washSaleSubstituteGroup := washGroup lot.ticker

/-- `_ensure_security`; the tier is only looked at for a new row. -/
def ensureSecurity (securities : Staged SecurityRow) (lot : SyntheticLot) :
    Except Exc (Staged SecurityRow) :=
  if securities.Has SecurityRow.securityId (seedSecurityId lot.ticker) then
    .ok securities
  else do
    let tier ← lotLiquidityTier lot
    return securities.add (securityRow lot tier)

/-- The tax lot row of a lot, restricted where its ticker is. -/
def seededLot (restricted : List String) (lot : SyntheticLot) : Lot where
  lotId := lot.lotId
  accountId := lot.accountId
  securityId := seedSecurityId lot.ticker
  quantity := lot.quantity
  costBasisPerShare := lot.costBasisPerShare
  acquisitionDate := lot.acquisitionDate
  isRestricted := lot.ticker ∈ restricted

/-- Adds a lot and its security, where they are not there yet. -/
def seedLot (restricted : List String) (session : SeedSession)
    (lot : SyntheticLot) : Except Exc SeedSession := do
  let securities ← ensureSecurity session.securities lot
  return { session with
    securities := securities
    lots := session.lots.ensure Lot.lotId (seededLot restricted lot) }

/-- The row of an alternative holding. -/
def holdingRow (householdId : String) (alt : SyntheticAltHolding) :
    AlternativeHoldingRow where
  holdingId := alt.holdingId
  householdId := householdId
  entityId := alt.entityId
  name := alt.name
  assetType := alt.assetType
  committedCapital := alt.committedCapital
  calledCapital := alt.calledCapital
  currentNav := alt.currentNav
  lastMarkDate := alt.lastMarkDate

/-- The row of a scheduled call. -/
def callRow (holdingId : String) (call : SyntheticAltCall) :
    AlternativeEventRow where
  eventId := call.eventId
  holdingId := holdingId
  eventType := "capital_call"
  amount := call.amount
  eventDate := call.eventDate
  notes := "Synthetic scheduled call"

/-- Adds a holding and its calls, where they are not there yet. -/
def seedAlternative (householdId : String) (session : SeedSession)
    (alt : SyntheticAltHolding) : SeedSession :=
  { session with
    alternativeHoldings := session.alternativeHoldings.ensure
      AlternativeHoldingRow.holdingId (holdingRow householdId alt)
    alternativeEvents := alt.scheduledCalls.foldl
      (fun events call => events.ensure AlternativeEventRow.eventId
        (callRow alt.holdingId call))
      session.alternativeEvents }

/-- The mark of a lot on the seeding date. -/
def priceRow (asOf : Date) (lot : SyntheticLot) : MarketPriceRow where
  securityId := seedSecurityId lot.ticker
  asOfDate := asOf
  price := lot.marketPrice

/-- `_seed_market_prices`: a security with a price of any date has one. -/
def seedMarketPrices (session : SeedSession) (fixture : HouseholdFixture)
    (asOf : Date) : SeedSession :=
  { session with
    marketPrices := fixture.lots.foldl
      (fun prices lot => prices.ensure MarketPriceRow.securityId
        (priceRow asOf lot))
      session.marketPrices }

/-- Everything the seed adds before its flush. -/
def stageHousehold (session : SeedSession) (bundle : SpelledBundle)
    (asOf : Date) : Except Exc SeedSession := do
  let fixture := bundle.fixture
  let session := { session with
    entities := session.entities.ensure EntityRow.entityId
      (householdRow fixture) }
  let session := fixture.accounts.foldl (seedAccount fixture.householdId)
    session
  let session ← fixture.lots.foldlM (seedLot bundle.ips.restrictedSecurities)
    session
  let session := fixture.alternativeHoldings.foldl
    (seedAlternative fixture.householdId) session
  return seedMarketPrices session fixture asOf

/-- The date prices have unless one is given. -/
def seedPriceDate : Date := dateOf 2026 6 27

/-- Insert synthetic graph, lots, alts, and IPS; whether the household is
new, and the store. -/
def seedSyntheticHousehold (store : SeedStore) (bundle : SpelledBundle)
    (asOf : Option Date) : Except Exc (Bool × SeedStore) :=
  if (store.ipsPolicies.rows.get? bundle.ips.ipsId).isSome then
    .ok (false, store)
  else do
    let newlyCreated := decide ¬ store.session.entities.Has EntityRow.entityId
      bundle.fixture.householdId
    let session ← stageHousehold store.session bundle (asOf.getD seedPriceDate)
    let seeded ← session.flush (saveIps store.ipsPolicies bundle.spelled)
    return (newlyCreated, seeded)

end Warehouse
