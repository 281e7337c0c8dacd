/-
Wash-sale chain assignment for chronological lot streams
(`data/ledger/wash_chains.py`).

`assignWashSaleChainIds` unions, sell by sell, the lot sold at a loss
with every substantially identical lot acquired inside the window, reads
the components off the union-find, and labels each component of two or
more lots with its smallest lot id.
-/
import Warehouse.Data.Ledger
import Warehouse.Lib.Dict
import Warehouse.Lib.UnionFind
import Mathlib.Data.String.Basic

namespace Warehouse

open Lib

/-- `WASH_SALE_WINDOW_DAYS`. -/
def washSaleWindowDays : Int := 30

/-- Loss harvest on `lotId` that may trigger wash-sale linkage. -/
structure WashSaleSellEvent where
  lotId : String
  sellDate : Date
  atLoss : Bool := true
  deriving DecidableEq

/-- Wash-sale identity: same security or same substitute group. -/
def substantiallyIdenticalSecurities (securityA securityB : String)
    (groupA groupB : Option String) : Bool :=
  if securityA = securityB then true
  else groupA.isSome && groupA == groupB

/-- The two days are at most the window apart. -/
def withinWashWindow (acquisition sellDate : Date) (windowDays : Int) :
    Bool :=
  |acquisition - sellDate| ≤ windowDays

/-- `security_groups.get(security_id)`: a missing key and a `None` value
read the same. -/
def groupOf (securityGroups : Dict String (Option String))
    (securityId : String) : Option String :=
  (securityGroups.get? securityId).join

/-- The inner loop: union the sold lot with each of `lots` it is wash-linked
to on the sell date. -/
def unionLinked (securityGroups : Dict String (Option String))
    (windowDays : Int) (sold : Lot) (sellDate : Date) (lots : List Lot)
    (uf : UnionFind String) : UnionFind String :=
  let soldGroup := groupOf securityGroups sold.securityId
  lots.foldl (fun uf other =>
    if other.lotId = sold.lotId then uf
    else if !substantiallyIdenticalSecurities sold.securityId
        other.securityId soldGroup
        (groupOf securityGroups other.securityId) then uf
    else if withinWashWindow other.acquisitionDate sellDate windowDays then
      uf.union sold.lotId other.lotId
    else uf) uf

/-- The outer loop over the sells; a sell not at a loss is skipped. -/
def unionSells (lots : List Lot) (lotById : Dict String Lot)
    (securityGroups : Dict String (Option String)) (windowDays : Int)
    (sells : List WashSaleSellEvent) (uf : UnionFind String) :
    Except Exc (UnionFind String) :=
  sells.foldlM (fun uf sell =>
    if !sell.atLoss then .ok uf
    else
      match lotById.get? sell.lotId with
      | none => .error (.keyError sell.lotId)
      | some sold =>
          .ok (unionLinked securityGroups windowDays sold sell.sellDate
            lots uf)) uf

/-- `components[uf.find(lot_id)].append(lot_id)` over the lot ids; each
`find` goes on halving the map the next one walks. -/
def washComponents (uf : UnionFind String) (lotIds : List String) :
    Dict String (List String) :=
  (lotIds.foldl (fun (s : UnionFind String × Dict String (List String))
      lotId =>
    let found := s.1.find lotId
    (found.1, s.2.append found.2 lotId)) (uf, Dict.empty)).2

/-- The chain id of each component's members: `None` below two members,
the lexicographic minimum otherwise. -/
def chainForLot (components : Dict String (List String)) :
    Dict String (Option String) :=
  components.values.foldl (fun chains members =>
    if members.length < 2 then
      members.foldl (fun chains member => chains.set member none) chains
    else
      let chainId := members.min?
      members.foldl (fun chains member => chains.set member chainId) chains)
    Dict.empty

/-- Return lots with `washSaleChainId` set for wash-linked components. -/
def assignWashSaleChainIds (lots : List Lot)
    (securityGroups : Dict String (Option String))
    (sells : List WashSaleSellEvent)
    (windowDays : Int := washSaleWindowDays) : Except Exc (List Lot) :=
  if lots.isEmpty then .ok []
  else
    let lotById := Dict.ofPairs (lots.map fun lot => (lot.lotId, lot))
    let unknown :=
      ((sells.map (·.lotId)).filter (· ∉ lotById.keys)).dedup
    if unknown ≠ [] then
      let missing := ", ".intercalate (unknown.mergeSort (· ≤ ·))
      .error (.valueError ("unknown sell lot_id(s): " ++ missing))
    else do
      let uf ← unionSells lots lotById securityGroups windowDays sells
        UnionFind.new
      let chains := chainForLot (washComponents uf lotById.keys)
      lots.mapM fun lot =>
        match chains.get? lot.lotId with
        | none => .error (.keyError lot.lotId)
        | some chainId => .ok { lot with washSaleChainId := chainId }

/-- Lots wash-linked to `sold` on `sellDate` (oracle helper). -/
def linkedLotIdsForSell (sold : Lot) (lots : List Lot)
    (securityGroups : Dict String (Option String)) (sellDate : Date)
    (windowDays : Int := washSaleWindowDays) : List String :=
  let soldGroup := groupOf securityGroups sold.securityId
  lots.foldl (fun linked other =>
    if other.lotId = sold.lotId then linked
    else if !substantiallyIdenticalSecurities sold.securityId
        other.securityId soldGroup
        (groupOf securityGroups other.securityId) then linked
    else if withinWashWindow other.acquisitionDate sellDate windowDays then
      linked.insert other.lotId
    else linked) [sold.lotId]

end Warehouse
