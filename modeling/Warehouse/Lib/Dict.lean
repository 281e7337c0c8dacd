/-
Insertion-ordered dictionaries: an association list whose keys are
distinct, distinctness carried as a field. `set` overwrites in place or
appends, so iteration follows first insertion, the order a Python dict
iterates in.

The folds the development runs over dictionaries live here with their
read-back lemmas: `setAll` (assign a list of pairs in turn), `override`
(assign the entries to a total table), `groupBy` (append each item to the
bucket of its class) and `tally` (add each item to the sum of its class).
Values that are not negative are shares of their sum (`sum_shares`).

# How lemmas are stated

What a dictionary answers is stated of `get?`, and the order it is iterated
in of `entries` or `keys`. A table over distinct keys (`tabulate`,
`enumerated`) and a list of pairs with distinct keys (`entries_ofPairs`) are
known entry by entry. Tallies add in any commutative monoid, so that one set
of lemmas serves counts and decimals alike.
-/
import Mathlib.Algebra.BigOperators.Group.List.Basic
import Mathlib.Algebra.BigOperators.Ring.List
import Mathlib.Algebra.Order.BigOperators.Group.List
import Mathlib.Algebra.Order.Field.Basic
import Mathlib.Data.List.Induction
import Mathlib.Data.List.Nodup

namespace Warehouse.Lib

/-- A dictionary in insertion order. -/
structure Dict (κ ν : Type*) where
  entries : List (κ × ν)
  nodupKeys : (entries.map Prod.fst).Nodup

namespace Dict

variable {κ ν : Type*}

/-- No entries. -/
def empty : Dict κ ν := ⟨[], List.nodup_nil⟩

/-- `d.keys()`, in insertion order. -/
def keys (d : Dict κ ν) : List κ := d.entries.map Prod.fst

/-- `d.values()`, in the same order. -/
def values (d : Dict κ ν) : List ν := d.entries.map Prod.snd

theorem length_values (d : Dict κ ν) : d.values.length = d.keys.length := by
  rw [values, keys, List.length_map, List.length_map]

@[simp] theorem keys_empty : (empty : Dict κ ν).keys = [] := rfl

theorem mem_keys_of_mem_entries {d : Dict κ ν} {k : κ} {v : ν}
    (h : (k, v) ∈ d.entries) : k ∈ d.keys :=
  List.mem_map_of_mem (f := Prod.fst) h

variable [DecidableEq κ]

/-- The value under a key, if any. -/
def get? (d : Dict κ ν) (k : κ) : Option ν :=
  (d.entries.find? (fun e => e.1 = k)).map Prod.snd

@[simp] theorem get?_empty (k : κ) : (empty : Dict κ ν).get? k = none := rfl

/-- Distinct keys make lookup and membership the same thing. -/
theorem get?_eq_some_iff {d : Dict κ ν} {k : κ} {v : ν} :
    d.get? k = some v ↔ (k, v) ∈ d.entries := by
  obtain ⟨entries, hnd⟩ := d
  simp only [get?]
  induction entries with
  | nil => simp
  | cons e rest ih =>
      obtain ⟨k₀, v₀⟩ := e
      rw [List.map_cons, List.nodup_cons] at hnd
      have hrest := ih hnd.2
      by_cases hk : k₀ = k
      · subst hk
        have hout : (k₀, v) ∉ rest := fun hm =>
          hnd.1 (List.mem_map.mpr ⟨(k₀, v), hm, rfl⟩)
        simp only [List.find?_cons, decide_true, Option.map_some,
          List.mem_cons, hout, or_false, Prod.mk.injEq, true_and,
          Option.some.injEq]
        exact eq_comm
      · simp only [List.find?_cons, hk, decide_false, hrest, List.mem_cons,
          Prod.mk.injEq, Ne.symm hk, false_and, false_or]

/-- A key is missing exactly when it has no value. -/
theorem get?_eq_none_iff {d : Dict κ ν} {k : κ} :
    d.get? k = none ↔ k ∉ d.keys := by
  simp only [get?, keys, Option.map_eq_none_iff, List.find?_eq_none,
    decide_eq_true_eq, List.mem_map, not_exists, not_and]

/-- Overwrite in place, or append. -/
def set (d : Dict κ ν) (k : κ) (v : ν) : Dict κ ν :=
  if h : k ∈ d.keys then
    ⟨d.entries.map (fun e => if e.1 = k then (k, v) else e), by
      have : (d.entries.map (fun e => if e.1 = k then (k, v) else e)).map
          Prod.fst = d.keys := by
        rw [List.map_map]
        refine List.map_congr_left fun e _ => ?_
        by_cases he : e.1 = k <;> simp [he]
      rw [this]
      exact d.nodupKeys⟩
  else
    ⟨d.entries ++ [(k, v)], by
      rw [List.map_append, List.nodup_append]
      refine ⟨d.nodupKeys, by simp, fun a ha b hb hab => ?_⟩
      have hb' : b = k := by simpa using hb
      exact h (hb' ▸ hab ▸ ha)⟩

/-- A new key goes last, an old one stays in its place. -/
theorem keys_set (d : Dict κ ν) (k : κ) (v : ν) :
    (d.set k v).keys = if k ∈ d.keys then d.keys else d.keys ++ [k] := by
  unfold set
  split
  · next h =>
    show (d.entries.map _).map Prod.fst = _
    rw [List.map_map]
    refine List.map_congr_left fun e _ => ?_
    by_cases he : e.1 = k <;> simp [he]
  · show (d.entries ++ [(k, v)]).map Prod.fst = _
    rw [List.map_append]
    rfl

@[simp] theorem mem_keys_set {d : Dict κ ν} {k k' : κ} {v : ν} :
    k' ∈ (d.set k v).keys ↔ k' = k ∨ k' ∈ d.keys := by
  rw [keys_set]
  by_cases h : k ∈ d.keys
  · simp only [if_pos h]
    constructor
    · exact Or.inr
    · rintro (rfl | h')
      · exact h
      · exact h'
  · simp only [if_neg h, List.mem_append, List.mem_singleton]
    exact or_comm

theorem mem_entries_set {d : Dict κ ν} {k k' : κ} {v v' : ν} :
    (k', v') ∈ (d.set k v).entries
      ↔ if k' = k then v' = v else (k', v') ∈ d.entries := by
  unfold set
  by_cases h : k ∈ d.keys
  · rw [dif_pos h]
    simp only [List.mem_map]
    constructor
    · rintro ⟨e, he, heq⟩
      by_cases hk : e.1 = k
      · rw [if_pos hk] at heq
        cases heq
        rw [if_pos rfl]
      · rw [if_neg hk] at heq
        subst heq
        rw [if_neg hk]
        exact he
    · intro hv
      by_cases hk : k' = k
      · rw [if_pos hk] at hv
        subst hk hv
        obtain ⟨e, he, hek⟩ := List.mem_map.mp h
        exact ⟨e, he, by rw [if_pos hek]⟩
      · rw [if_neg hk] at hv
        exact ⟨(k', v'), hv, by rw [if_neg hk]⟩
  · rw [dif_neg h]
    simp only [List.mem_append, List.mem_singleton, Prod.mk.injEq]
    by_cases hk : k' = k
    · subst hk
      rw [if_pos rfl]
      constructor
      · rintro (hm | ⟨-, hv⟩)
        · exact absurd (mem_keys_of_mem_entries hm) h
        · exact hv
      · exact fun hv => Or.inr ⟨rfl, hv⟩
    · rw [if_neg hk]
      simp [hk]

/-- An assigned key reads its value, the others theirs. -/
@[simp] theorem get?_set (d : Dict κ ν) (k k' : κ) (v : ν) :
    (d.set k v).get? k' = if k' = k then some v else d.get? k' := by
  apply Option.ext
  intro w
  rw [get?_eq_some_iff, mem_entries_set]
  by_cases hk : k' = k
  · simp only [if_pos hk, Option.some.injEq]
    exact eq_comm
  · simp only [if_neg hk, get?_eq_some_iff]

/-- `d.pop(k, None)`. -/
def erase (d : Dict κ ν) (k : κ) : Dict κ ν where
  entries := d.entries.filter fun e => e.1 ≠ k
  nodupKeys := d.nodupKeys.sublist (List.filter_sublist.map Prod.fst)

@[simp] theorem get?_erase (d : Dict κ ν) (k k' : κ) :
    (d.erase k).get? k' = if k' = k then none else d.get? k' := by
  apply Option.ext
  intro w
  by_cases hk : k' = k
  · simp [get?_eq_some_iff, erase, hk]
  · simp [get?_eq_some_iff, erase, hk]

/-- Popping keys in turn leaves the entries of the others. -/
theorem get?_foldl_erase (ks : List κ) (d : Dict κ ν) (k : κ) :
    (ks.foldl erase d).get? k = if k ∈ ks then none else d.get? k := by
  induction ks generalizing d with
  | nil => simp
  | cons k₀ ks ih =>
      rw [List.foldl_cons, ih, get?_erase]
      by_cases hks : k ∈ ks
      · simp [hks]
      · simp [hks]

/-- The entries under a key are its value, if it has one. -/
theorem filter_entries (d : Dict κ ν) (k : κ) :
    (d.entries.filter fun e => e.1 = k).map Prod.snd = (d.get? k).toList := by
  obtain ⟨entries, hnd⟩ := d
  simp only [get?]
  induction entries with
  | nil => rfl
  | cons e rest ih =>
      rw [List.map_cons, List.nodup_cons] at hnd
      by_cases hk : e.1 = k
      · have hrest : rest.filter (fun e => e.1 = k) = [] := by
          rw [List.filter_eq_nil_iff]
          intro e' he' hk'
          have hkey : e'.1 = e.1 := (of_decide_eq_true hk').trans hk.symm
          exact hnd.1 (hkey ▸ List.mem_map_of_mem he')
        simp [hk, hrest]
      · simp [hk, ih hnd.2]

-- ============================================================ assignment

/-- Assign a list of pairs in turn; a later pair wins. -/
def setAll (d : Dict κ ν) (pairs : List (κ × ν)) : Dict κ ν :=
  pairs.foldl (fun d p => d.set p.1 p.2) d

/-- `{k: v for (k, v) in pairs}`. -/
def ofPairs (pairs : List (κ × ν)) : Dict κ ν := empty.setAll pairs

/-- Pairs that agree on a key's value read back as that value. -/
theorem get?_setAll {g : κ → ν} (pairs : List (κ × ν))
    (hg : ∀ p ∈ pairs, p.2 = g p.1) :
    ∀ (d : Dict κ ν) (k : κ), (d.setAll pairs).get? k
      = if k ∈ pairs.map Prod.fst then some (g k) else d.get? k := by
  induction pairs with
  | nil => intro d k; simp [setAll]
  | cons p rest ih =>
      intro d k
      have hrest := ih (fun q hq => hg q (List.mem_cons_of_mem _ hq)) (d.set p.1 p.2) k
      show ((d.set p.1 p.2).setAll rest).get? k = _
      rw [hrest, get?_set, List.map_cons]
      by_cases hr : k ∈ rest.map Prod.fst
      · rw [if_pos hr, if_pos (List.mem_cons_of_mem _ hr)]
      · rw [if_neg hr]
        by_cases hk : k = p.1
        · rw [if_pos hk, if_pos (by rw [hk]; exact List.mem_cons_self ..),
            hk, hg p (List.mem_cons_self ..)]
        · rw [if_neg hk, if_neg (by simp only [List.mem_cons, hk, hr, or_self, not_false_eq_true])]

/-- What is not assigned stays. -/
theorem get?_setAll_other {pairs : List (κ × ν)} {k : κ}
    (h : k ∉ pairs.map Prod.fst) :
    ∀ d : Dict κ ν, (d.setAll pairs).get? k = d.get? k := by
  induction pairs with
  | nil => exact fun _ => rfl
  | cons p rest ih =>
      intro d
      rw [List.map_cons, List.mem_cons, not_or] at h
      show ((d.set p.1 p.2).setAll rest).get? k = _
      rw [ih h.2, get?_set, if_neg h.1]

/-- Under keys of their own, all that is assigned is read back. -/
theorem get?_setAll_own {β : Type*} {f : β → κ} {v : β → ν} {xs : List β}
    (hinj : ∀ x ∈ xs, ∀ y ∈ xs, f x = f y → x = y) :
    ∀ (d : Dict κ ν), ∀ x ∈ xs,
      (d.setAll (xs.map fun x => (f x, v x))).get? (f x) = some (v x) := by
  induction xs with
  | nil =>
      intro d x hx
      cases hx
  | cons a rest ih =>
      have hrest := ih fun x hx y hy =>
        hinj x (List.mem_cons_of_mem _ hx) y (List.mem_cons_of_mem _ hy)
      intro d x hx
      show ((d.set (f a) (v a)).setAll (rest.map _)).get? (f x) = _
      by_cases hlater : x ∈ rest
      · exact hrest _ x hlater
      · obtain rfl : x = a := (List.mem_cons.mp hx).resolve_right hlater
        rw [get?_setAll_other, get?_set, if_pos rfl]
        rw [List.map_map]
        intro hkey
        obtain ⟨y, hy, heq⟩ := List.mem_map.mp hkey
        have hsame := hinj y (List.mem_cons_of_mem _ hy) x
          (List.mem_cons_self ..) heq
        exact hlater (hsame ▸ hy)

/-- Distinct keys appended to a dictionary that has none of them keep
their order. -/
theorem entries_setAll_of_nodup (pairs : List (κ × ν)) :
    ∀ (d : Dict κ ν), (d.keys ++ pairs.map Prod.fst).Nodup →
      (d.setAll pairs).entries = d.entries ++ pairs := by
  induction pairs with
  | nil => intro d _; simp [setAll]
  | cons p rest ih =>
      intro d hnd
      have hp : p.1 ∉ d.keys := fun hm =>
        (List.nodup_append.mp hnd).2.2 _ hm _ (List.mem_cons_self ..) rfl
      have hset : (d.set p.1 p.2).entries = d.entries ++ [p] := by
        rw [set, dif_neg hp]
      have hkeys : (d.set p.1 p.2).keys = d.keys ++ [p.1] := by
        rw [keys_set, if_neg hp]
      have hnd' : ((d.set p.1 p.2).keys ++ rest.map Prod.fst).Nodup := by
        rw [hkeys, List.append_assoc]
        exact hnd
      show ((d.set p.1 p.2).setAll rest).entries = _
      rw [ih _ hnd', hset, List.append_assoc]
      rfl

/-- Keys renamed apart read back as they did. -/
theorem get?_ofPairs_rename {ι : Type*} [DecidableEq ι] {f : κ → ι}
    (hf : Function.Injective f) (pairs : List (κ × ν)) (k : κ) :
    (ofPairs (pairs.map fun p => (f p.1, p.2))).get? (f k)
      = (ofPairs pairs).get? k := by
  have hfold : ∀ (d : Dict κ ν) (d' : Dict ι ν),
      (∀ k, d'.get? (f k) = d.get? k) →
      (d'.setAll (pairs.map fun p => (f p.1, p.2))).get? (f k)
        = (d.setAll pairs).get? k := by
    induction pairs with
    | nil => exact fun d d' h => h k
    | cons p rest ih =>
        intro d d' h
        apply ih
        intro k
        rw [get?_set, get?_set, h]
        by_cases hk : k = p.1
        · rw [if_pos hk, if_pos (congrArg f hk)]
        · rw [if_neg hk, if_neg fun heq => hk (hf heq)]
  exact hfold empty empty fun _ => rfl

/-- The keys of a dict updated from pairs. -/
theorem mem_keys_setAll (pairs : List (κ × ν)) :
    ∀ (d : Dict κ ν) {k : κ}, k ∈ (d.setAll pairs).keys
      ↔ k ∈ d.keys ∨ k ∈ pairs.map Prod.fst := by
  induction pairs with
  | nil => intro d k; simp [setAll]
  | cons p rest ih =>
      intro d k
      show k ∈ ((d.set p.1 p.2).setAll rest).keys ↔ _
      rw [ih, mem_keys_set, List.map_cons, List.mem_cons, or_assoc,
        or_left_comm]

/-- The keys of a dict built from pairs. -/
theorem mem_keys_ofPairs {pairs : List (κ × ν)} {k : κ} :
    k ∈ (ofPairs pairs).keys ↔ k ∈ pairs.map Prod.fst := by
  rw [ofPairs, mem_keys_setAll, keys_empty, List.mem_nil_iff, false_or]

/-- `{k: v for (k, v) in pairs}` over distinct keys is the pairs. -/
theorem entries_ofPairs {pairs : List (κ × ν)}
    (h : (pairs.map Prod.fst).Nodup) : (ofPairs pairs).entries = pairs :=
  entries_setAll_of_nodup pairs empty h

-- ========================================================== comprehensions

/-- `{k: f(v) for k, v in d.items()}`. -/
def mapValues {β : Type*} (f : ν → β) (d : Dict κ ν) : Dict κ β where
  entries := d.entries.map fun e => (e.1, f e.2)
  nodupKeys := by
    have hkeys : (d.entries.map fun e => (e.1, f e.2)).map Prod.fst
        = d.keys := by
      rw [List.map_map]
      rfl
    rw [hkeys]
    exact d.nodupKeys

/-- Mapped values are looked up mapped. -/
@[simp] theorem get?_mapValues {β : Type*} (f : ν → β) (d : Dict κ ν) (k : κ) :
    (d.mapValues f).get? k = (d.get? k).map f := by
  apply Option.ext
  intro w
  rw [get?_eq_some_iff, Option.map_eq_some_iff]
  simp only [get?_eq_some_iff, mapValues, List.mem_map, Prod.exists,
    Prod.mk.injEq]
  constructor
  · rintro ⟨k', v, hmem, rfl, rfl⟩
    exact ⟨v, hmem, rfl⟩
  · rintro ⟨v, hmem, rfl⟩
    exact ⟨k, v, hmem, rfl, rfl⟩

/-- `{k: f(i, k) for i, k in enumerate(keys)}`. -/
def enumerated (keys : List κ) (f : Nat → κ → ν) : Dict κ ν :=
  ofPairs (keys.zipIdx.map fun p => (p.1, f p.2 p.1))

/-- `{k: f(k) for k in keys}`. -/
def tabulate (keys : List κ) (f : κ → ν) : Dict κ ν :=
  ofPairs (keys.map fun k => (k, f k))

/-- Over distinct keys, an enumeration has one entry for each, in order. -/
theorem entries_enumerated {keys : List κ} (h : keys.Nodup)
    (f : Nat → κ → ν) : (enumerated keys f).entries
      = keys.zipIdx.map fun p => (p.1, f p.2 p.1) := by
  apply entries_ofPairs
  have hkeys : (keys.zipIdx.map fun p => (p.1, f p.2 p.1)).map Prod.fst
      = keys := by
    rw [List.map_map]
    exact List.zipIdx_map_fst 0 keys
  rw [hkeys]
  exact h

/-- A dict over a list of distinct keys keeps their order. -/
theorem keys_enumerated {keys : List κ} (h : keys.Nodup) (f : Nat → κ → ν) :
    (enumerated keys f).keys = keys := by
  rw [Dict.keys, entries_enumerated h, List.map_map]
  exact List.zipIdx_map_fst 0 keys

theorem entries_tabulate {keys : List κ} (h : keys.Nodup) (f : κ → ν) :
    (tabulate keys f).entries = keys.map fun k => (k, f k) := by
  apply entries_ofPairs
  rw [List.map_map]
  exact (List.map_id keys).symm ▸ h

theorem keys_tabulate {keys : List κ} (h : keys.Nodup) (f : κ → ν) :
    (tabulate keys f).keys = keys := by
  rw [Dict.keys, entries_tabulate h, List.map_map]
  exact List.map_id keys

/-- A tabulated key reads its function. -/
theorem get?_tabulate (keys : List κ) (f : κ → ν) (k : κ) :
    (tabulate keys f).get? k = if k ∈ keys then some (f k) else none := by
  have hpairs : ∀ p ∈ keys.map fun k => (k, f k), p.2 = f p.1 := by
    intro p hp
    obtain ⟨k, -, rfl⟩ := List.mem_map.mp hp
    rfl
  have hkeys : (keys.map fun k => (k, f k)).map Prod.fst = keys := by
    rw [List.map_map]
    exact List.map_id keys
  have hget := get?_setAll _ hpairs empty k
  rw [hkeys] at hget
  exact hget

-- ============================================================ overriding

/-- `for k, v in d.items(): g[f(k)] = v`, on a total table `g`. -/
def override {ι : Type*} [DecidableEq ι] (d : Dict κ ν) (f : κ → ι)
    (g : ι → ν) : ι → ν :=
  d.entries.foldl (fun g entry => Function.update g (f entry.1) entry.2) g

/-- Under an injective map every entry is read back, and no other value is
changed. -/
theorem override_apply {ι : Type*} [DecidableEq ι] (d : Dict κ ν) {f : κ → ι}
    (hf : Function.Injective f) (g : ι → ν) (k : κ) :
    d.override f g (f k) = (d.get? k).getD (g (f k)) := by
  obtain ⟨entries, hnd⟩ := d
  simp only [override, get?]
  induction entries generalizing g with
  | nil => rfl
  | cons entry rest ih =>
      rw [List.map_cons, List.nodup_cons] at hnd
      rw [List.foldl_cons, ih _ hnd.2, List.find?_cons]
      by_cases hk : entry.1 = k
      · have hout : rest.find? (fun e => e.1 = k) = none := by
          rw [List.find?_eq_none]
          intro e he hek
          have hsame : e.1 = entry.1 := (of_decide_eq_true hek).trans hk.symm
          exact hnd.1 (hsame ▸ List.mem_map_of_mem he)
        rw [hout, decide_eq_true hk, ← hk]
        exact Function.update_self ..
      · rw [decide_eq_false hk, Function.update_of_ne (hf.ne (Ne.symm hk))]

omit [DecidableEq κ] in
/-- Overriding by what is there already changes nothing. -/
theorem override_eq_self {ι : Type*} [DecidableEq ι] {d : Dict κ ν}
    {f : κ → ι} {g : ι → ν} (h : ∀ entry ∈ d.entries, entry.2 = g (f entry.1)) :
    d.override f g = g := by
  unfold override
  refine List.foldlRecOn (motive := fun g' => g' = g) _ _ rfl ?_
  rintro g' rfl entry hentry
  rw [h entry hentry]
  exact Function.update_eq_self ..

-- ============================================================== grouping

/-- `d[k].append(x)` on a `defaultdict(list)`. -/
def append {β : Type*} (d : Dict κ (List β)) (k : κ) (x : β) :
    Dict κ (List β) :=
  d.set k ((d.get? k).getD [] ++ [x])

/-- Append every item to the bucket of its class, in order. -/
def groupBy {β : Type*} (f : β → κ) (xs : List β) : Dict κ (List β) :=
  xs.foldl (fun d x => d.append (f x) x) empty

/-- A group is the items of its key, in order. -/
theorem get?_groupBy {β : Type*} (f : β → κ) (xs : List β) (k : κ) :
    (groupBy f xs).get? k
      = if xs.filter (fun x => f x = k) = [] then none
        else some (xs.filter (fun x => f x = k)) := by
  induction xs using List.reverseRecOn with
  | nil => simp [groupBy]
  | append_singleton xs x ih =>
      have hstep : groupBy f (xs ++ [x]) = (groupBy f xs).append (f x) x := by
        simp [groupBy, List.foldl_append]
      rw [hstep, append, get?_set, List.filter_append]
      by_cases hk : k = f x
      · subst hk
        rw [if_pos rfl, ih]
        by_cases he : xs.filter (fun y => f y = f x) = []
        · simp [he]
        · simp [he]
      · rw [if_neg hk, ih]
        have : ([x].filter fun y => f y = k) = [] := by
          simp [Ne.symm hk]
        rw [this, List.append_nil]

/-- The buckets are exactly the classes that occur. -/
theorem mem_values_groupBy {β : Type*} {f : β → κ} {xs : List β}
    {bucket : List β} :
    bucket ∈ (groupBy f xs).values
      ↔ ∃ x ∈ xs, bucket = xs.filter (fun y => f y = f x) := by
  simp only [values, List.mem_map, Prod.exists, exists_eq_right]
  constructor
  · rintro ⟨k, hk⟩
    have hget := get?_eq_some_iff.mpr hk
    rw [get?_groupBy] at hget
    split at hget
    · cases hget
    · next hne =>
      obtain ⟨x, hx⟩ := List.exists_mem_of_ne_nil _ hne
      obtain ⟨hmem, hfx⟩ := List.mem_filter.mp hx
      have hfx' : f x = k := by simpa using hfx
      exact ⟨x, hmem, by rw [hfx', ← Option.some.inj hget]⟩
  · rintro ⟨x, hx, rfl⟩
    refine ⟨f x, get?_eq_some_iff.mp ?_⟩
    rw [get?_groupBy, if_neg]
    exact List.ne_nil_of_mem (List.mem_filter.mpr ⟨hx, by simp⟩)

-- =============================================================== tallies

section Tally

variable {β : Type*} [AddCommMonoid ν]

/-- `d[k] += v` on a `defaultdict` of zeros. -/
def add (d : Dict κ ν) (k : κ) (v : ν) : Dict κ ν :=
  d.set k ((d.get? k).getD 0 + v)

/-- Add up the items of each class. -/
def tally (f : β → κ) (g : β → ν) (xs : List β) : Dict κ ν :=
  xs.foldl (fun d x => d.add (f x) (g x)) empty

/-- One more item adds to its key. -/
theorem tally_append (f : β → κ) (g : β → ν) (xs : List β) (x : β) :
    tally f g (xs ++ [x]) = (tally f g xs).add (f x) (g x) := by
  simp [tally, List.foldl_append]

/-- An addition changes one key. -/
theorem getD_add (d : Dict κ ν) (k k' : κ) (v : ν) :
    ((d.add k v).get? k').getD 0
      = (d.get? k').getD 0 + if k' = k then v else 0 := by
  rw [add, get?_set]
  by_cases hk : k' = k
  · simp [hk]
  · simp [hk]

/-- Adding items in turn adds each to its class. -/
theorem getD_foldl_add (f : β → κ) (g : β → ν) (xs : List β) (d : Dict κ ν)
    (k : κ) : ((xs.foldl (fun d x => d.add (f x) (g x)) d).get? k).getD 0
      = (d.get? k).getD 0 + ((xs.filter fun x => f x = k).map g).sum := by
  induction xs generalizing d with
  | nil => simp
  | cons x xs ih =>
      rw [List.foldl_cons, ih, getD_add, List.filter_cons]
      by_cases hk : k = f x
      · simp [hk, add_assoc]
      · simp [hk, Ne.symm hk]

theorem mem_keys_foldl_add {f : β → κ} {g : β → ν} {xs : List β}
    {d : Dict κ ν} {k : κ} :
    k ∈ (xs.foldl (fun d x => d.add (f x) (g x)) d).keys
      ↔ k ∈ d.keys ∨ ∃ x ∈ xs, f x = k := by
  induction xs generalizing d with
  | nil => simp
  | cons x xs ih =>
      rw [List.foldl_cons, ih, add, mem_keys_set]
      simp only [List.mem_cons, exists_eq_or_imp]
      rw [eq_comm (a := k)]
      tauto

/-- A tally's keys are those of its items. -/
theorem mem_keys_tally {f : β → κ} {g : β → ν} {xs : List β} {k : κ} :
    k ∈ (tally f g xs).keys ↔ ∃ x ∈ xs, f x = k := by
  unfold tally
  rw [mem_keys_foldl_add]
  simp

/-- A class's entry is the sum over the items of the class. -/
theorem getD_tally (f : β → κ) (g : β → ν) (xs : List β) (k : κ) :
    ((tally f g xs).get? k).getD 0
      = ((xs.filter fun x => f x = k).map g).sum := by
  unfold tally
  rw [getD_foldl_add]
  simp

/-- The values, read back through the keys. -/
theorem values_eq (d : Dict κ ν) :
    d.values = d.keys.map fun k => (d.get? k).getD 0 := by
  rw [values, keys, List.map_map]
  refine List.map_congr_left fun e he => ?_
  have hget : d.get? e.1 = some e.2 := get?_eq_some_iff.mpr he
  simp [hget]

/-- An addition adds to the sum of the values. -/
theorem sum_values_add (d : Dict κ ν) (k : κ) (v : ν) :
    (d.add k v).values.sum = d.values.sum + v := by
  rw [values_eq, values_eq d]
  simp only [getD_add]
  rw [add, keys_set]
  have hone : ∀ ks : List κ, ks.Nodup → k ∈ ks →
      (ks.map fun k' => if k' = k then v else 0).sum = v := by
    intro ks hnd hk
    induction ks with
    | nil => cases hk
    | cons k₀ ks ih =>
        rw [List.nodup_cons] at hnd
        rw [List.map_cons, List.sum_cons]
        rcases List.mem_cons.mp hk with rfl | hk
        · have hzero : (ks.map fun k' => if k' = k then v else 0)
              = ks.map fun _ => (0 : ν) := by
            refine List.map_congr_left fun k' hk' => if_neg ?_
            rintro rfl
            exact hnd.1 hk'
          rw [if_pos rfl, hzero]
          simp
        · have hne : k₀ ≠ k := by
            rintro rfl
            exact hnd.1 hk
          rw [if_neg hne, zero_add, ih hnd.2 hk]
  split
  · next hk => rw [List.sum_map_add, hone d.keys d.nodupKeys hk]
  · next hk =>
    have hzero : (d.keys.map fun k' => if k' = k then v else 0)
        = d.keys.map fun _ => (0 : ν) := by
      refine List.map_congr_left fun k' hk' => if_neg ?_
      rintro rfl
      exact hk hk'
    have hnone : d.get? k = none := get?_eq_none_iff.mpr hk
    rw [List.map_append, List.sum_append, List.sum_map_add, hzero]
    simp [hnone]

/-- Keys a dictionary does not have add nothing. -/
theorem sum_getD_of_subset (d : Dict κ ν) {ks : List κ} (hnd : ks.Nodup)
    (hsub : ∀ k ∈ d.keys, k ∈ ks) :
    (ks.map fun k => (d.get? k).getD 0).sum = d.values.sum := by
  have hdrop : ∀ ks : List κ, (ks.map fun k => (d.get? k).getD 0).sum
      = ((ks.filter fun k => k ∈ d.keys).map
          fun k => (d.get? k).getD 0).sum := by
    intro ks
    induction ks with
    | nil => rfl
    | cons k ks ih =>
        by_cases hk : k ∈ d.keys
        · simp [hk, ih]
        · have hnone : d.get? k = none := get?_eq_none_iff.mpr hk
          simp [hk, hnone, ih]
  have hperm : (ks.filter fun k => k ∈ d.keys).Perm d.keys := by
    apply (List.perm_ext_iff_of_nodup (hnd.filter _) d.nodupKeys).mpr
    intro k
    rw [List.mem_filter, decide_eq_true_eq]
    exact ⟨fun h => h.2, fun h => ⟨hsub k h, h⟩⟩
  rw [hdrop, (hperm.map _).sum_eq, values_eq]

/-- Nothing is lost in the tally. -/
theorem sum_values_tally (f : β → κ) (g : β → ν) (xs : List β) :
    (tally f g xs).values.sum = (xs.map g).sum := by
  induction xs using List.reverseRecOn with
  | nil => simp [tally, values, empty]
  | append_singleton xs x ih =>
      rw [tally_append, sum_values_add, ih]
      simp

end Tally

section Shares

variable [Field ν]

/-- The shares are the whole. -/
theorem sum_shares (d : Dict κ ν) (hsum : d.values.sum ≠ 0) :
    (d.keys.map fun k => (d.get? k).getD 0 / d.values.sum).sum = 1 := by
  simp only [div_eq_mul_inv]
  rw [List.sum_map_mul_right, ← values_eq]
  exact mul_inv_cancel₀ hsum

variable [LinearOrder ν] [IsStrictOrderedRing ν]

/-- A share of values that are not negative is a fraction. -/
theorem share_fraction (d : Dict κ ν) (hnonneg : ∀ k, 0 ≤ (d.get? k).getD 0)
    (hpos : 0 < d.values.sum) (k : κ) :
    0 ≤ (d.get? k).getD 0 / d.values.sum
      ∧ (d.get? k).getD 0 / d.values.sum ≤ 1 := by
  have hle : (d.get? k).getD 0 ≤ d.values.sum := by
    by_cases hk : k ∈ d.keys
    · rw [values_eq]
      apply List.single_le_sum
      · intro v hv
        obtain ⟨k', -, rfl⟩ := List.mem_map.mp hv
        exact hnonneg k'
      · exact List.mem_map_of_mem (f := fun k => (d.get? k).getD 0) hk
    · rw [get?_eq_none_iff.mpr hk]
      exact hpos.le
  exact ⟨div_nonneg (hnonneg k) hpos.le, (div_le_one hpos).mpr hle⟩

end Shares

end Dict

end Warehouse.Lib
