/-
Wash-sale chains are connected components.

The abstract side is the graph `WashLink`: a lot sold at a loss is
linked to every substantially identical lot acquired inside the window
of that sell. `washComponent` is a lot's component under the equivalence
closure, and `washChainLabel` the label the ledger owes it: nothing for
a lot alone in its component, the smallest lot id otherwise.

The concrete side is the union-find. `unionSells_eq` reads the two
nested loops as one `unionAll` over the linked pairs, so `UnionFind`'s
class theorem turns shared roots into `WashLink`-connectedness
(`sameRoot_iff`); the grouping and labelling passes then read off
`washChainLabel` (`assign_eq`), and each part of
`washChains_connected_components` is a fact about that label.
-/
import Warehouse.Data.WashChains
import Mathlib.Data.List.Dedup
import Mathlib.Data.List.Perm.Subperm

namespace Warehouse

open Lib

-- ================================================================ the graph

/-- A lot sold at a loss, and another lot of the same security or the
same group acquired within the window of that sell's date. -/
def WashLink (lots : List Lot) (securityGroups : Dict String (Option String))
    (sells : List WashSaleSellEvent) (windowDays : Int) (a b : String) :
    Prop :=
  ∃ sell ∈ sells, sell.atLoss = true
    ∧ ∃ sold ∈ lots, sold.lotId = sell.lotId ∧ sold.lotId = a
    ∧ ∃ other ∈ lots, other.lotId = b ∧ b ≠ a
    ∧ (sold.securityId = other.securityId
        ∨ ∃ g, groupOf securityGroups sold.securityId = some g
          ∧ groupOf securityGroups other.securityId = some g)
    ∧ |other.acquisitionDate - sell.sellDate| ≤ windowDays

/-- Joined by a chain of links. -/
def WashConnected (lots : List Lot)
    (securityGroups : Dict String (Option String))
    (sells : List WashSaleSellEvent) (windowDays : Int) :
    String → String → Prop :=
  Relation.EqvGen (WashLink lots securityGroups sells windowDays)

open Classical in
/-- The lot ids of a lot's component, in ledger order. -/
noncomputable def washComponent (lots : List Lot)
    (securityGroups : Dict String (Option String))
    (sells : List WashSaleSellEvent) (windowDays : Int) (a : String) :
    List String :=
  (lots.map (·.lotId)).filter fun b =>
    WashConnected lots securityGroups sells windowDays b a

/-- The label a component's members carry. -/
def componentLabel (members : List String) : Option String :=
  if members.length < 2 then none else members.min?

/-- The chain id the ledger owes a lot. -/
noncomputable def washChainLabel (lots : List Lot)
    (securityGroups : Dict String (Option String))
    (sells : List WashSaleSellEvent) (windowDays : Int) (a : String) :
    Option String :=
  componentLabel (washComponent lots securityGroups sells windowDays a)

variable {lots : List Lot} {securityGroups : Dict String (Option String)}
  {sells : List WashSaleSellEvent} {windowDays : Int}

/-- One security, or one named group. -/
theorem substantiallyIdentical_iff {securityA securityB : String}
    {groupA groupB : Option String} :
    substantiallyIdenticalSecurities securityA securityB groupA groupB = true
      ↔ securityA = securityB ∨ ∃ g, groupA = some g ∧ groupB = some g := by
  unfold substantiallyIdenticalSecurities
  by_cases h : securityA = securityB
  · simp [h]
  · cases groupA with
    | none => simp [h]
    | some g =>
        have hcomm : some g = groupB ↔ groupB = some g := eq_comm
        simp [h, hcomm]

theorem withinWashWindow_iff {acquisition sellDate : Date} :
    withinWashWindow acquisition sellDate windowDays = true
      ↔ |acquisition - sellDate| ≤ windowDays := by
  simp [withinWashWindow]

-- ================================================= the loops as one unionAll

/-- The test both loops run on a candidate replacement lot. -/
def washLinked (securityGroups : Dict String (Option String))
    (windowDays : Int) (sold : Lot) (sellDate : Date) (other : Lot) : Bool :=
  other.lotId ≠ sold.lotId
    && substantiallyIdenticalSecurities sold.securityId other.securityId
      (groupOf securityGroups sold.securityId)
      (groupOf securityGroups other.securityId)
    && withinWashWindow other.acquisitionDate sellDate windowDays

/-- The pairs one sell unions. -/
def sellPairs (securityGroups : Dict String (Option String))
    (windowDays : Int) (lots : List Lot) (sold : Lot) (sellDate : Date) :
    List (String × String) :=
  (lots.filter (washLinked securityGroups windowDays sold sellDate)).map
    fun other => (sold.lotId, other.lotId)

/-- The inner loop unions the pairs of one sale. -/
theorem unionLinked_eq (sold : Lot) (sellDate : Date) (ls : List Lot) :
    ∀ uf, unionLinked securityGroups windowDays sold sellDate ls uf
      = uf.unionAll (sellPairs securityGroups windowDays ls sold sellDate) := by
  induction ls with
  | nil => intro uf; rfl
  | cons other rest ih =>
      intro uf
      have hstep : unionLinked securityGroups windowDays sold sellDate
            (other :: rest) uf
          = unionLinked securityGroups windowDays sold sellDate rest
            (if washLinked securityGroups windowDays sold sellDate other then
              uf.union sold.lotId other.lotId else uf) := by
        show unionLinked securityGroups windowDays sold sellDate rest _ = _
        congr 1
        simp only [washLinked]
        by_cases hid : other.lotId = sold.lotId
        · simp [hid]
        · by_cases hsub : substantiallyIdenticalSecurities sold.securityId
              other.securityId (groupOf securityGroups sold.securityId)
              (groupOf securityGroups other.securityId) = true
          · simp [hid, hsub]
          · simp [hid, hsub]
      rw [hstep, ih]
      cases hl : washLinked securityGroups windowDays sold sellDate other with
      | false => simp [sellPairs, hl]
      | true => simp [sellPairs, hl, UnionFind.unionAll]

/-- Every pair the outer loop unions, over the sells at a loss. -/
def washPairs (lotById : Dict String Lot)
    (securityGroups : Dict String (Option String)) (windowDays : Int)
    (lots : List Lot) (sells : List WashSaleSellEvent) :
    List (String × String) :=
  sells.flatMap fun sell =>
    if sell.atLoss then
      match lotById.get? sell.lotId with
      | none => []
      | some sold => sellPairs securityGroups windowDays lots sold sell.sellDate
    else []

/-- The outer loop unions the pairs of every sale. -/
theorem unionSells_eq {lotById : Dict String Lot}
    (hknown : ∀ sell ∈ sells, sell.lotId ∈ lotById.keys) :
    ∀ uf, unionSells lots lotById securityGroups windowDays sells uf
      = .ok (uf.unionAll
          (washPairs lotById securityGroups windowDays lots sells)) := by
  induction sells with
  | nil => intro uf; rfl
  | cons sell rest ih =>
      intro uf
      have hrest := ih fun s hs => hknown s (List.mem_cons_of_mem _ hs)
      have happ : ∀ (uf : UnionFind String) (xs ys : List (String × String)),
          uf.unionAll (xs ++ ys) = (uf.unionAll xs).unionAll ys :=
        fun uf xs ys => List.foldl_append
      unfold unionSells washPairs at hrest ⊢
      rw [List.foldlM_cons, List.flatMap_cons, happ]
      cases hloss : sell.atLoss with
      | false => exact hrest uf
      | true =>
          cases hsold : lotById.get? sell.lotId with
          | none =>
              exact absurd (hknown sell (List.mem_cons_self ..))
                (Dict.get?_eq_none_iff.mp hsold)
          | some sold =>
              simp only [Bool.not_true, Bool.false_eq_true, if_false, if_true]
              rw [← unionLinked_eq]
              exact hrest _

/-- A lot is found under its own id. -/
theorem lotById_get? (hnd : (lots.map (·.lotId)).Nodup) {sold : Lot}
    {lotId : String} :
    (Dict.ofPairs (lots.map fun lot => (lot.lotId, lot))).get? lotId
      = some sold ↔ sold ∈ lots ∧ sold.lotId = lotId := by
  have hkeys : ((lots.map fun lot => (lot.lotId, lot)).map Prod.fst).Nodup := by
    rw [List.map_map]
    exact hnd
  rw [Dict.get?_eq_some_iff, Dict.entries_ofPairs hkeys, List.mem_map]
  refine ⟨fun h => ?_, fun h => ⟨sold, h.1, by rw [h.2]⟩⟩
  obtain ⟨lot, hmem, heq⟩ := h
  cases heq
  exact ⟨hmem, rfl⟩

theorem lotById_keys (hnd : (lots.map (·.lotId)).Nodup) :
    (Dict.ofPairs (lots.map fun lot => (lot.lotId, lot))).keys
      = lots.map (·.lotId) := by
  have hkeys : ((lots.map fun lot => (lot.lotId, lot)).map Prod.fst).Nodup := by
    rw [List.map_map]
    exact hnd
  rw [Dict.keys, Dict.entries_ofPairs hkeys, List.map_map]
  rfl

/-- The unioned pairs are the links. -/
theorem mem_washPairs_iff (hnd : (lots.map (·.lotId)).Nodup) {a b : String} :
    (a, b) ∈ washPairs (Dict.ofPairs (lots.map fun lot => (lot.lotId, lot)))
        securityGroups windowDays lots sells
      ↔ WashLink lots securityGroups sells windowDays a b := by
  unfold washPairs WashLink
  rw [List.mem_flatMap]
  refine exists_congr fun sell => and_congr_right fun _ => ?_
  cases hloss : sell.atLoss with
  | false => simp
  | true =>
      simp only [if_true, true_and]
      cases hsold : (Dict.ofPairs (lots.map fun lot => (lot.lotId, lot))).get?
          sell.lotId with
      | none =>
          refine ⟨fun h => (List.not_mem_nil h).elim, fun h => ?_⟩
          obtain ⟨sold, hmem, hid, -⟩ := h
          rw [(lotById_get? hnd).mpr ⟨hmem, hid⟩] at hsold
          cases hsold
      | some sold =>
          obtain ⟨hmem, hid⟩ := (lotById_get? hnd).mp hsold
          simp only [sellPairs, List.mem_map, List.mem_filter, washLinked,
            Bool.and_eq_true, decide_eq_true_eq, substantiallyIdentical_iff,
            withinWashWindow_iff, Prod.mk.injEq]
          refine ⟨fun h => ?_, fun h => ?_⟩
          · obtain ⟨other, ⟨ho, ⟨hne, hsub⟩, hwin⟩, ha, hb⟩ := h
            exact ⟨sold, hmem, hid, ha, other, ho, hb,
              by rw [← ha, ← hb]; exact hne, hsub, hwin⟩
          · obtain ⟨sold', hmem', hid', ha, other, ho, hb, hne, hsub, hwin⟩ := h
            have hsame : some sold' = some sold := by
              rw [← (lotById_get? hnd).mpr ⟨hmem', hid'⟩, hsold]
            cases hsame
            exact ⟨other, ⟨ho, ⟨by rw [ha, hb]; exact hne, hsub⟩, hwin⟩, ha, hb⟩

/-- The forest the two loops build. -/
def washForest (lots : List Lot)
    (securityGroups : Dict String (Option String))
    (sells : List WashSaleSellEvent) (windowDays : Int) : UnionFind String :=
  UnionFind.new.unionAll
    (washPairs (Dict.ofPairs (lots.map fun lot => (lot.lotId, lot)))
      securityGroups windowDays lots sells)

/-- Roots coincide exactly on connected lots. -/
theorem sameRoot_iff (hnd : (lots.map (·.lotId)).Nodup) {a b : String} :
    (washForest lots securityGroups sells windowDays).root a
      = (washForest lots securityGroups sells windowDays).root b
      ↔ WashConnected lots securityGroups sells windowDays a b := by
  rw [washForest, UnionFind.sameClass_unionAll, WashConnected]
  have hrel : (fun x y => (x, y) ∈ washPairs
        (Dict.ofPairs (lots.map fun lot => (lot.lotId, lot)))
        securityGroups windowDays lots sells)
      = WashLink lots securityGroups sells windowDays :=
    funext fun x => funext fun y => propext (mem_washPairs_iff hnd)
  rw [hrel]

-- =============================================== components and their labels

/-- `find`'s halving moves no root, so the grouping pass groups by the
roots it started from. -/
theorem washComponents_eq (uf : UnionFind String) (lotIds : List String) :
    washComponents uf lotIds = Dict.groupBy uf.root lotIds := by
  suffices general : ∀ (ids : List String) (uf' : UnionFind String)
      (d : Dict String (List String)), (∀ x, uf'.root x = uf.root x) →
      (ids.foldl (fun (s : UnionFind String × Dict String (List String))
          lotId =>
        ((s.1.find lotId).1, s.2.append (s.1.find lotId).2 lotId)) (uf', d)).2
        = ids.foldl (fun d x => d.append (uf.root x) x) d by
    exact general lotIds uf Dict.empty fun _ => rfl
  intro ids
  induction ids with
  | nil => intro uf' d _; rfl
  | cons id rest ih =>
      intro uf' d hroots
      rw [List.foldl_cons, List.foldl_cons]
      rw [ih (uf'.find id).1 _ fun x => by rw [UnionFind.root_find, hroots]]
      rw [UnionFind.find_snd, hroots]

/-- Labelling is one assignment pass over the buckets' members. -/
theorem chainForLot_eq (components : Dict String (List String)) :
    chainForLot components
      = Dict.empty.setAll (components.values.flatMap fun members =>
          members.map fun m => (m, componentLabel members)) := by
  suffices general : ∀ (buckets : List (List String))
      (d : Dict String (Option String)),
      buckets.foldl (fun chains members =>
        if members.length < 2 then
          members.foldl (fun chains member => chains.set member none) chains
        else
          members.foldl
            (fun chains member => chains.set member members.min?) chains) d
        = d.setAll (buckets.flatMap fun members =>
            members.map fun m => (m, componentLabel members)) by
    exact general components.values Dict.empty
  intro buckets
  induction buckets with
  | nil => intro d; rfl
  | cons members rest ih =>
      intro d
      rw [List.foldl_cons, ih, List.flatMap_cons]
      unfold Dict.setAll
      rw [List.foldl_append, List.foldl_map]
      congr 1
      unfold componentLabel
      split <;> rfl

/-- Every grouped id is labelled with its own bucket's label. -/
theorem chainForLot_get? (f : String → String) {ids : List String}
    {id : String} (hid : id ∈ ids) :
    (chainForLot (Dict.groupBy f ids)).get? id
      = some (componentLabel (ids.filter fun y => f y = f id)) := by
  rw [chainForLot_eq, Dict.get?_setAll
    (g := fun m => componentLabel (ids.filter fun y => f y = f m))]
  · rw [if_pos]
    rw [List.map_flatMap, List.mem_flatMap]
    refine ⟨ids.filter fun y => f y = f id,
      Dict.mem_values_groupBy.mpr ⟨id, hid, rfl⟩, ?_⟩
    rw [List.map_map]
    exact List.mem_map.mpr ⟨id, List.mem_filter.mpr ⟨hid, by simp⟩, rfl⟩
  · intro p hp
    obtain ⟨members, hm, hp⟩ := List.mem_flatMap.mp hp
    obtain ⟨m, hmem, rfl⟩ := List.mem_map.mp hp
    obtain ⟨x, -, rfl⟩ := Dict.mem_values_groupBy.mp hm
    have hfx : f m = f x := by simpa using (List.mem_filter.mp hmem).2
    simp only [hfx]

/-- The lots that share a root with `a` are its component. -/
theorem filter_sameRoot (hnd : (lots.map (·.lotId)).Nodup) (a : String) :
    ((lots.map (·.lotId)).filter fun b =>
        (washForest lots securityGroups sells windowDays).root b
          = (washForest lots securityGroups sells windowDays).root a)
      = washComponent lots securityGroups sells windowDays a := by
  unfold washComponent
  refine List.filter_congr fun b _ => ?_
  rw [decide_eq_decide]
  exact sameRoot_iff hnd

/-- On distinct lots and known sells the assignment succeeds and writes
`washChainLabel`, in ledger order, to the chain field alone. -/
theorem assign_eq (hnd : (lots.map (·.lotId)).Nodup)
    (hknown : ∀ sell ∈ sells, ∃ lot ∈ lots, lot.lotId = sell.lotId) :
    assignWashSaleChainIds lots securityGroups sells windowDays
      = .ok (lots.map fun lot => { lot with
          washSaleChainId :=
            washChainLabel lots securityGroups sells windowDays lot.lotId }) := by
  unfold assignWashSaleChainIds
  by_cases hempty : lots.isEmpty = true
  · rw [if_pos hempty, List.isEmpty_iff.mp hempty]
    rfl
  · have hkeys := lotById_keys hnd
    have hmem : ∀ sell ∈ sells, sell.lotId
        ∈ (Dict.ofPairs (lots.map fun lot => (lot.lotId, lot))).keys := by
      intro sell hs
      obtain ⟨lot, hl, hid⟩ := hknown sell hs
      rw [hkeys]
      exact List.mem_map.mpr ⟨lot, hl, hid⟩
    have hunknown : (sells.map (·.lotId)).filter (fun id => decide (id ∉
        (Dict.ofPairs (lots.map fun lot => (lot.lotId, lot))).keys)) = [] := by
      rw [List.filter_eq_nil_iff]
      intro id hid
      obtain ⟨sell, hs, rfl⟩ := List.mem_map.mp hid
      simpa using hmem sell hs
    rw [if_neg hempty]
    simp only [hunknown, List.dedup_nil, ne_eq, not_true_eq_false, if_false]
    rw [unionSells_eq hmem]
    show (lots.mapM _ : Except Exc (List Lot)) = _
    refine mapM_eq_map _ fun lot hlot => ?_
    have hid : lot.lotId ∈ lots.map (·.lotId) :=
      List.mem_map.mpr ⟨lot, hlot, rfl⟩
    have hlabel : componentLabel ((lots.map (·.lotId)).filter fun b =>
        (washForest lots securityGroups sells windowDays).root b
          = (washForest lots securityGroups sells windowDays).root lot.lotId)
        = washChainLabel lots securityGroups sells windowDays lot.lotId := by
      rw [filter_sameRoot hnd lot.lotId]
      rfl
    rw [washComponents_eq, hkeys, chainForLot_get? _ hid]
    exact congrArg (fun chainId => Except.ok
      { lot with washSaleChainId := chainId }) hlabel

-- ============================================================ reading labels

/-- Membership in a component: a known lot, connected. -/
theorem mem_washComponent {a b : String} :
    b ∈ washComponent lots securityGroups sells windowDays a
      ↔ b ∈ lots.map (·.lotId)
        ∧ WashConnected lots securityGroups sells windowDays b a := by
  simp [washComponent]

/-- Connected lots have the same component. -/
theorem washComponent_congr {a b : String}
    (h : WashConnected lots securityGroups sells windowDays a b) :
    washComponent lots securityGroups sells windowDays a
      = washComponent lots securityGroups sells windowDays b := by
  unfold washComponent
  refine List.filter_congr fun x _ => ?_
  rw [decide_eq_decide]
  exact ⟨fun hx => hx.trans _ _ _ h, fun hx => hx.trans _ _ _ (h.symm _ _)⟩

/-- Links and so chains of links stay on known lots. -/
theorem WashLink.known {a b : String}
    (h : WashLink lots securityGroups sells windowDays a b) :
    a ∈ lots.map (·.lotId) ∧ b ∈ lots.map (·.lotId) := by
  obtain ⟨sell, -, -, sold, hs, -, ha, other, ho, hb, -⟩ := h
  exact ⟨List.mem_map.mpr ⟨sold, hs, ha⟩, List.mem_map.mpr ⟨other, ho, hb⟩⟩

/-- A chain that leaves a lot starts with a link at it. -/
theorem WashConnected.link_or_eq {a b : String}
    (h : WashConnected lots securityGroups sells windowDays a b) :
    a = b ∨ ((∃ c, WashLink lots securityGroups sells windowDays a c
          ∨ WashLink lots securityGroups sells windowDays c a)
        ∧ ∃ c, WashLink lots securityGroups sells windowDays b c
          ∨ WashLink lots securityGroups sells windowDays c b) := by
  induction h with
  | rel x y h => exact Or.inr ⟨⟨y, Or.inl h⟩, x, Or.inr h⟩
  | refl x => exact Or.inl rfl
  | symm x y _ ih =>
      rcases ih with rfl | ⟨hx, hy⟩
      · exact Or.inl rfl
      · exact Or.inr ⟨hy, hx⟩
  | trans x y z _ _ ih₁ ih₂ =>
      rcases ih₂ with rfl | ⟨hy, hz⟩
      · exact ih₁
      · rcases ih₁ with rfl | ⟨hx, -⟩
        · exact Or.inr ⟨hy, hz⟩
        · exact Or.inr ⟨hx, hz⟩

/-- Two distinct members of a duplicate-free list make it long. -/
private theorem two_le_length {l : List String} {a b : String} (ha : a ∈ l)
    (hb : b ∈ l) (hne : a ≠ b) : 2 ≤ l.length := by
  cases l with
  | nil => cases ha
  | cons x xs =>
      cases xs with
      | nil =>
          rw [List.mem_singleton] at ha hb
          exact absurd (ha.trans hb.symm) hne
      | cons y ys =>
          simp only [List.length_cons]
          omega

/-- A component of one is a lot without a link. -/
theorem washComponent_length_lt_two_iff (hnd : (lots.map (·.lotId)).Nodup)
    {a : String} (ha : a ∈ lots.map (·.lotId)) :
    (washComponent lots securityGroups sells windowDays a).length < 2
      ↔ ∀ b, ¬ WashLink lots securityGroups sells windowDays a b
          ∧ ¬ WashLink lots securityGroups sells windowDays b a := by
  have hself : a ∈ washComponent lots securityGroups sells windowDays a :=
    mem_washComponent.mpr ⟨ha, .refl a⟩
  have hdistinct : ∀ {x y}, WashLink lots securityGroups sells windowDays x y →
      x ≠ y := fun h heq => by
    obtain ⟨_, _, _, _, _, _, _, _, _, _, hne, _⟩ := h
    exact hne heq.symm
  refine ⟨fun hlt b => ⟨fun h => ?_, fun h => ?_⟩, fun hno => ?_⟩
  · have hb := mem_washComponent.mpr ⟨h.known.2, (Relation.EqvGen.rel _ _ h).symm _ _⟩
    have := two_le_length hself hb (hdistinct h)
    omega
  · have hb := mem_washComponent.mpr ⟨h.known.1, Relation.EqvGen.rel _ _ h⟩
    have := two_le_length hself hb (hdistinct h).symm
    omega
  · by_contra hge
    have hnodup : (washComponent lots securityGroups sells windowDays a).Nodup :=
      hnd.filter _
    -- a second member would have to be linked to something
    have hall : ∀ b ∈ washComponent lots securityGroups sells windowDays a,
        b = a := by
      intro b hb
      rcases (mem_washComponent.mp hb).2.link_or_eq with h | ⟨-, c, h | h⟩
      · exact h
      · exact absurd h (hno c).1
      · exact absurd h (hno c).2
    have hsub : washComponent lots securityGroups sells windowDays a ⊆ [a] :=
      fun b hb => List.mem_singleton.mpr (hall b hb)
    have := (hnodup.subperm hsub).length_le
    simp only [List.length_singleton] at this
    omega

/-- Such a lot has no label, and only such a lot. -/
theorem washChainLabel_eq_none_iff (hnd : (lots.map (·.lotId)).Nodup)
    {a : String} (ha : a ∈ lots.map (·.lotId)) :
    washChainLabel lots securityGroups sells windowDays a = none
      ↔ ∀ b, ¬ WashLink lots securityGroups sells windowDays a b
          ∧ ¬ WashLink lots securityGroups sells windowDays b a := by
  rw [← washComponent_length_lt_two_iff hnd ha]
  unfold washChainLabel componentLabel
  split
  · next h => exact ⟨fun _ => h, fun _ => rfl⟩
  · next h =>
    refine ⟨fun hmin => ?_, fun hlt => absurd hlt h⟩
    rw [List.min?_eq_none_iff] at hmin
    rw [hmin]
    exact Nat.zero_lt_two

/-- A label names the least lot id of the component. -/
theorem washChainLabel_eq_some {a c : String}
    (h : washChainLabel lots securityGroups sells windowDays a = some c) :
    c ∈ lots.map (·.lotId)
      ∧ WashConnected lots securityGroups sells windowDays a c
      ∧ ∀ b ∈ lots.map (·.lotId),
          WashConnected lots securityGroups sells windowDays a b → c ≤ b := by
  unfold washChainLabel componentLabel at h
  split at h
  · cases h
  · obtain ⟨hmem, hmin⟩ := List.min?_eq_some_iff.mp h
    obtain ⟨hc, hconn⟩ := mem_washComponent.mp hmem
    refine ⟨hc, hconn.symm _ _, fun b hb hab => ?_⟩
    exact hmin b (mem_washComponent.mpr ⟨hb, hab.symm _ _⟩)

/-- Distinct lots share a chain id exactly when they are connected. -/
theorem washChainLabel_shared_iff (hnd : (lots.map (·.lotId)).Nodup)
    {a b : String} (ha : a ∈ lots.map (·.lotId)) (hne : a ≠ b) :
    (washChainLabel lots securityGroups sells windowDays a
          = washChainLabel lots securityGroups sells windowDays b
        ∧ washChainLabel lots securityGroups sells windowDays a ≠ none)
      ↔ WashConnected lots securityGroups sells windowDays a b := by
  refine ⟨fun h => ?_, fun h => ⟨?_, fun hnone => ?_⟩⟩
  · obtain ⟨heq, hsome⟩ := h
    obtain ⟨c, hc⟩ := Option.ne_none_iff_exists'.mp hsome
    have hac := (washChainLabel_eq_some hc).2.1
    have hbc := (washChainLabel_eq_some (heq ▸ hc)).2.1
    exact hac.trans _ _ _ (hbc.symm _ _)
  · unfold washChainLabel
    rw [washComponent_congr h]
  · have hno := (washChainLabel_eq_none_iff hnd ha).mp hnone
    rcases h.link_or_eq with heq | ⟨⟨c, hc | hc⟩, -⟩
    · exact hne heq
    · exact (hno c).1 hc
    · exact (hno c).2 hc

-- ================================================================ the theorem

/-- The links, and so the components and the labels, read the sells as a
set. -/
theorem washLink_congr_sells {sells' : List WashSaleSellEvent}
    (h : ∀ sell, sell ∈ sells' ↔ sell ∈ sells) :
    WashLink lots securityGroups sells' windowDays
      = WashLink lots securityGroups sells windowDays := by
  funext a b
  unfold WashLink
  simp only [h]

/-- The links read the lots as a set, too. -/
theorem washLink_congr_lots {lots' : List Lot}
    (h : ∀ lot, lot ∈ lots' ↔ lot ∈ lots) :
    WashLink lots' securityGroups sells windowDays
      = WashLink lots securityGroups sells windowDays := by
  funext a b
  unfold WashLink
  simp only [h]

/-- The label is that of the sell set. -/
theorem washChainLabel_congr_sells {sells' : List WashSaleSellEvent}
    (h : ∀ sell, sell ∈ sells' ↔ sell ∈ sells) (a : String) :
    washChainLabel lots securityGroups sells' windowDays a
      = washChainLabel lots securityGroups sells windowDays a := by
  unfold washChainLabel washComponent WashConnected
  rw [washLink_congr_sells h]

/-- The label does not see the order of the lots: the component list is
permuted, its length and its minimum are not. -/
theorem washChainLabel_congr_lots {lots' : List Lot} (h : lots'.Perm lots)
    (a : String) :
    washChainLabel lots' securityGroups sells windowDays a
      = washChainLabel lots securityGroups sells windowDays a := by
  have hperm : (washComponent lots' securityGroups sells windowDays a).Perm
      (washComponent lots securityGroups sells windowDays a) := by
    unfold washComponent WashConnected
    rw [washLink_congr_lots fun lot => h.mem_iff]
    exact (h.map _).filter _
  unfold washChainLabel componentLabel
  rw [hperm.length_eq]
  split
  · rfl
  · cases hmin : (washComponent lots securityGroups sells windowDays a).min? with
    | none =>
        rw [List.min?_eq_none_iff] at hmin ⊢
        exact List.perm_nil.mp (hmin ▸ hperm)
    | some c =>
        obtain ⟨hc, hle⟩ := List.min?_eq_some_iff.mp hmin
        exact List.min?_eq_some_iff.mpr ⟨hperm.mem_iff.mpr hc,
          fun b hb => hle b (hperm.mem_iff.mp hb)⟩

/-- Wash-sale chains are connected components.

On distinct lots and sells of known lots, under any group map and
window, the assignment succeeds and: changes the chain id of each lot
and nothing else; gives two distinct lots one non-`None` id exactly when
links connect them; leaves a lot linked to nobody at `None`; gives every
other lot the least lot id of its component; reads the sells as a set;
permutes with the lots. And the `find` loop it runs leaves every parent
map unions can build, from any key. -/
theorem washChains_connected_components (lots : List Lot)
    (securityGroups : Dict String (Option String))
    (sells : List WashSaleSellEvent) (windowDays : Int)
    (hnd : (lots.map (·.lotId)).Nodup)
    (hknown : ∀ sell ∈ sells, ∃ lot ∈ lots, lot.lotId = sell.lotId) :
    (∃ out, assignWashSaleChainIds lots securityGroups sells windowDays
          = .ok out
      ∧ out.map (fun lot => { lot with washSaleChainId := none })
          = lots.map (fun lot => { lot with washSaleChainId := none })
      ∧ (∀ a ∈ out, ∀ b ∈ out, a.lotId ≠ b.lotId →
          ((a.washSaleChainId = b.washSaleChainId ∧ a.washSaleChainId ≠ none)
            ↔ WashConnected lots securityGroups sells windowDays
                a.lotId b.lotId))
      ∧ (∀ a ∈ out,
          (∀ b, ¬ WashLink lots securityGroups sells windowDays a.lotId b
            ∧ ¬ WashLink lots securityGroups sells windowDays b a.lotId) →
          a.washSaleChainId = none)
      ∧ (∀ a ∈ out,
          (∃ b, WashLink lots securityGroups sells windowDays a.lotId b
            ∨ WashLink lots securityGroups sells windowDays b a.lotId) →
          ∃ c ∈ lots.map (·.lotId), a.washSaleChainId = some c
            ∧ WashConnected lots securityGroups sells windowDays a.lotId c
            ∧ ∀ b ∈ lots.map (·.lotId),
                WashConnected lots securityGroups sells windowDays
                  a.lotId b → c ≤ b)
      ∧ (∀ sells', (∀ sell, sell ∈ sells' ↔ sell ∈ sells) →
          assignWashSaleChainIds lots securityGroups sells' windowDays
            = .ok out)
      ∧ (∀ lots', lots'.Perm lots → ∃ out',
          assignWashSaleChainIds lots' securityGroups sells windowDays
            = .ok out'
          ∧ out'.map (·.lotId) = lots'.map (·.lotId) ∧ out'.Perm out))
    ∧ (∀ pairs : List (String × String),
        UnionFind.Built (UnionFind.new.unionAll pairs).parent)
    ∧ (∀ parent : String → String, UnionFind.Built parent → ∀ key,
        ∃ turns : Nat, UnionFind.loopDone
          (UnionFind.loopBody^[turns] (parent, key))) := by
  refine ⟨⟨_, assign_eq hnd hknown, ?_, ?_, ?_, ?_, ?_, ?_⟩,
    fun pairs => UnionFind.built_unionAll pairs UnionFind.new .new,
    fun _ hbuilt key => hbuilt.loop_terminates key⟩
  · rw [List.map_map]
    rfl
  · intro a ha b hb hne
    obtain ⟨lotA, hA, rfl⟩ := List.mem_map.mp ha
    obtain ⟨lotB, hB, rfl⟩ := List.mem_map.mp hb
    exact washChainLabel_shared_iff hnd
      (List.mem_map.mpr ⟨lotA, hA, rfl⟩) hne
  · intro a ha hno
    obtain ⟨lot, hlot, rfl⟩ := List.mem_map.mp ha
    exact (washChainLabel_eq_none_iff hnd
      (List.mem_map.mpr ⟨lot, hlot, rfl⟩)).mpr hno
  · intro a ha hlinked
    obtain ⟨lot, hlot, rfl⟩ := List.mem_map.mp ha
    have hsome : washChainLabel lots securityGroups sells windowDays lot.lotId
        ≠ none := by
      intro hnone
      have hno := (washChainLabel_eq_none_iff hnd
        (List.mem_map.mpr ⟨lot, hlot, rfl⟩)).mp hnone
      obtain ⟨b, hb | hb⟩ := hlinked
      · exact (hno b).1 hb
      · exact (hno b).2 hb
    obtain ⟨c, hc⟩ := Option.ne_none_iff_exists'.mp hsome
    obtain ⟨hmem, hconn, hleast⟩ := washChainLabel_eq_some hc
    exact ⟨c, hmem, hc, hconn, hleast⟩
  · intro sells' hsame
    rw [assign_eq hnd fun sell hs => hknown sell ((hsame sell).mp hs)]
    simp only [washChainLabel_congr_sells hsame]
  · intro lots' hperm
    have hnd' : (lots'.map (·.lotId)).Nodup :=
      (hperm.map _).nodup_iff.mpr hnd
    have hknown' : ∀ sell ∈ sells, ∃ lot ∈ lots', lot.lotId = sell.lotId := by
      intro sell hs
      obtain ⟨lot, hl, hid⟩ := hknown sell hs
      exact ⟨lot, hperm.mem_iff.mpr hl, hid⟩
    refine ⟨_, assign_eq hnd' hknown', ?_, ?_⟩
    · rw [List.map_map]
      rfl
    · simp only [washChainLabel_congr_lots hperm]
      exact hperm.map _

/-- Two lots of one fund, one harvested a week after the other was
bought. -/
theorem washChains_connected_components_pair :
    ∃ out, assignWashSaleChainIds
        [{ lotId := "lot_b", accountId := "acct_a", securityId := "sec_vti",
           quantity := 10, costBasisPerShare := 100, acquisitionDate := 100 },
         { lotId := "lot_a", accountId := "acct_a", securityId := "sec_vti",
           quantity := 10, costBasisPerShare := 90, acquisitionDate := 200 }]
        Dict.empty [{ lotId := "lot_b", sellDate := 207 }] 30 = .ok out
      ∧ out.map (fun lot => { lot with washSaleChainId := none })
        = [{ lotId := "lot_b", accountId := "acct_a", securityId := "sec_vti",
             quantity := 10, costBasisPerShare := 100,
             acquisitionDate := 100 },
           { lotId := "lot_a", accountId := "acct_a", securityId := "sec_vti",
             quantity := 10, costBasisPerShare := 90,
             acquisitionDate := 200 }] := by
  obtain ⟨⟨out, hout, hfields, -⟩, -⟩ := washChains_connected_components
    [{ lotId := "lot_b", accountId := "acct_a", securityId := "sec_vti",
       quantity := 10, costBasisPerShare := 100, acquisitionDate := 100 },
     { lotId := "lot_a", accountId := "acct_a", securityId := "sec_vti",
       quantity := 10, costBasisPerShare := 90, acquisitionDate := 200 }]
    Dict.empty [{ lotId := "lot_b", sellDate := 207 }] 30
    (by decide) (by decide)
  exact ⟨out, hout, hfields⟩

end Warehouse
