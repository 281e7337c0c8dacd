/-
Databases that synthetic households are seeded into, call after call
(`infra/db/synthetic_seed.py`), as a session reads their tables.

A column keeps an amount to its scale (`infra/db/models.py`): six places of
quantities and prices, two of money. The session that wrote a row still has
it as it was written (`ColumnScale.exact`).
-/
import Warehouse.Infra.SyntheticSeed

namespace Warehouse

open Lib UnitOfWork

-- =================================================================== columns

/-- What the columns keep of an amount. -/
structure ColumnScale where
  /-- `Numeric(18, 6)`. -/
  quantity : ℚ → ℚ
  /-- `Numeric(18, 2)`. -/
  money : ℚ → ℚ

/-- As the session that wrote them has them. -/
def ColumnScale.exact : ColumnScale where
  quantity q := q
  money q := q

/-- Rounded, as another session has them. -/
def ColumnScale.rounded : ColumnScale where
  quantity q := quantize 6 q
  money q := quantize 2 q

section Columns

variable (scale : ColumnScale)

/-- A lot as its columns keep it. -/
def ColumnScale.lot (row : Lot) : Lot :=
  { row with
    quantity := scale.quantity row.quantity
    costBasisPerShare := scale.quantity row.costBasisPerShare }

/-- A mark as its column keeps it. -/
def ColumnScale.price (row : MarketPriceRow) : MarketPriceRow :=
  { row with price := scale.quantity row.price }

/-- A holding as its money columns keep it. -/
def ColumnScale.holding (row : AlternativeHoldingRow) :
    AlternativeHoldingRow :=
  row.read scale.money

/-- An event as its money column keeps it. -/
def ColumnScale.event (row : AlternativeEventRow) : AlternativeEventRow :=
  row.read scale.money

theorem ColumnScale.keys_holding (rows : List AlternativeHoldingRow) :
    (rows.map scale.holding).map (·.holdingId) = rows.map (·.holdingId) :=
  AlternativeHoldingRow.keys_read scale.money rows

/-- The tables, as the planes read them. -/
def SeedStore.read (store : SeedStore) : AlternativesLedger where
  holdings := store.alternativeHoldings.rows.map scale.holding
  events := store.alternativeEvents.rows.map scale.event
  store :=
    { entities := store.entities.rows
      entityRelationships := store.entityRelationships
      securities := store.securities.rows
      lots := store.lots.rows.map scale.lot
      marketPrices := store.marketPrices.rows.map scale.price }
  keys := by
    rw [ColumnScale.keys_holding]
    exact store.alternativeHoldings.keys

/-- A lot with its amounts as the columns keep them. -/
def ColumnScale.keptLot (lot : SyntheticLot) : SyntheticLot :=
  { lot with
    quantity := scale.quantity lot.quantity
    costBasisPerShare := scale.quantity lot.costBasisPerShare
    marketPrice := scale.quantity lot.marketPrice }

/-- An emitted holding with the NAV its column keeps. -/
def ColumnScale.keptHolding (alt : SyntheticAltHolding) :
    SyntheticAltHolding :=
  { alt with currentNav := scale.money alt.currentNav }

/-- A fixture with its amounts as the columns keep them. -/
def ColumnScale.kept (fixture : HouseholdFixture) : HouseholdFixture :=
  let lots := fixture.lots.map scale.keptLot
  let alts := fixture.alternativeHoldings.map scale.keptHolding
  { fixture with
    lots := lots
    alternativeHoldings := alts
    totalNavUsd := (lots.map SyntheticLot.marketValue).sum
      + (alts.map (·.currentNav)).sum }

end Columns

-- ====================================================================== runs

/-- A database after some calls, and the bundles whose call has said that
the household was new. -/
structure SeedRun where
  store : SeedStore := .empty
  seeded : List SpelledBundle := []

/-- One call in a transaction of its own; one that raises leaves the
database as it was. -/
def SeedRun.call (run : SeedRun) (request : SpelledBundle × Option Date) :
    SeedRun :=
  match seedSyntheticHousehold run.store request.1 request.2 with
  | .ok (newlyCreated, store) =>
      { store := store
        seeded := if newlyCreated then run.seeded ++ [request.1]
          else run.seeded }
  | .error _ => run

/-- A new database after some calls. -/
def seedRun (requests : List (SpelledBundle × Option Date)) : SeedRun :=
  requests.foldl SeedRun.call {}

end Warehouse
