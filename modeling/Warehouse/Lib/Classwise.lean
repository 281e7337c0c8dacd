/-
Lists that agree class by class: for every class, the items of that class
are the same in the same order, however the classes interleave.

Such lists are permutations of each other, a stable sort by class makes
one of any list, and a dictionary filled from either reads back the same.
Filled in turn a dictionary keeps the last item of each class and loses
the superseded ones (`Dict.sum_values_ofPairs`); grouped it loses none.

# Superseded items

`superseded` lists the items a later one of their class replaces, in a
dictionary filled in turn. The sum over the dictionary and the sum over
these make up the sum over the list, so the two sums are equal exactly when
the replaced items cancel. Grouping replaces nothing, and its sums are those
of the list.
-/
import Warehouse.Lib.Dict
import Mathlib.Data.List.Perm.Lattice
import Mathlib.Order.Lattice
import Mathlib.Tactic.Abel

namespace Warehouse.Lib

section Order

variable {κ : Type*} [LinearOrder κ]

theorem decide_le_trans (a b c : κ) (hab : decide (a ≤ b) = true)
    (hbc : decide (b ≤ c) = true) : decide (a ≤ c) = true :=
  decide_eq_true ((of_decide_eq_true hab).trans (of_decide_eq_true hbc))

theorem decide_le_total (a b : κ) : (decide (a ≤ b) || decide (b ≤ a)) = true := by
  rw [Bool.or_eq_true, decide_eq_true_eq, decide_eq_true_eq]
  exact le_total a b

theorem decide_le_antisymm (a b : κ) (hab : decide (a ≤ b) = true)
    (hba : decide (b ≤ a) = true) : a = b :=
  le_antisymm (of_decide_eq_true hab) (of_decide_eq_true hba)

end Order

variable {α β κ : Type*} [DecidableEq κ]

/-- The items of each class agree, in order. -/
def Classwise (f : α → κ) (xs ys : List α) : Prop :=
  ∀ k, xs.filter (fun x => f x = k) = ys.filter (fun x => f x = k)

namespace Classwise

variable {f : α → κ} {xs ys zs : List α}

theorem refl (f : α → κ) (xs : List α) : Classwise f xs xs := fun _ => rfl

theorem symm (h : Classwise f xs ys) : Classwise f ys xs := fun k => (h k).symm

theorem trans (h : Classwise f xs ys) (h' : Classwise f ys zs) :
    Classwise f xs zs := fun k => (h k).trans (h' k)

/-- Nothing is added or lost. -/
theorem perm (h : Classwise f xs ys) : xs.Perm ys := by
  classical
  apply List.perm_iff_count.mpr
  intro a
  have hclass : ∀ zs : List α,
      zs.count a = (zs.filter fun x => f x = f a).count a := by
    intro zs
    rw [List.count_filter]
    exact decide_eq_true rfl
  rw [hclass xs, hclass ys, h (f a)]

/-- A map that keeps the classes keeps the agreement. -/
theorem map (h : Classwise f xs ys) {g : β → κ} {m : α → β}
    (hm : ∀ x, g (m x) = f x) : Classwise g (xs.map m) (ys.map m) := by
  intro k
  have hcomp : ((fun y : β => decide (g y = k)) ∘ m)
      = fun x => decide (f x = k) := by
    funext x
    show decide (g (m x) = k) = decide (f x = k)
    rw [hm]
  rw [List.filter_map, List.filter_map, hcomp, h k]

/-- Sorting by class keeps each class's order. -/
theorem mergeSort (f : α → κ) (le : κ → κ → Bool)
    (htrans : ∀ a b c, le a b → le b c → le a c)
    (htotal : ∀ a b, le a b || le b a) (xs : List α) :
    Classwise f xs (xs.mergeSort fun x y => le (f x) (f y)) := by
  intro k
  have hrefl : le k k = true := by
    have h := htotal k k
    simpa using h
  -- the class is a sublist of the sorted list, and as long as its class
  have hconst : (xs.filter fun x => f x = k).Pairwise
      fun x y => le (f x) (f y) = true := by
    apply List.pairwise_of_forall_mem_list
    intro x hx y hy
    have hxk := of_decide_eq_true (List.mem_filter.mp hx).2
    have hyk := of_decide_eq_true (List.mem_filter.mp hy).2
    rw [hxk, hyk]
    exact hrefl
  have hsub : (xs.filter fun x => f x = k).Sublist
      (xs.mergeSort fun x y => le (f x) (f y)) := by
    refine List.sublist_mergeSort ?_ ?_ hconst List.filter_sublist
    · exact fun a b c => htrans (f a) (f b) (f c)
    · exact fun a b => htotal (f a) (f b)
  have hclass := hsub.filter fun x => decide (f x = k)
  rw [List.filter_filter] at hclass
  simp only [Bool.and_self] at hclass
  exact hclass.eq_of_length
    ((List.mergeSort_perm xs _).symm.filter _).length_eq

end Classwise

namespace Dict

theorem ofPairs_map_append {ν : Type*} (f : α → κ) (g : α → ν) (xs : List α)
    (x : α) : ofPairs ((xs ++ [x]).map fun x => (f x, g x))
      = (ofPairs (xs.map fun x => (f x, g x))).set (f x) (g x) := by
  simp [ofPairs, setAll, List.foldl_append]

/-- A dictionary filled in turn holds the last item of each class. -/
theorem get?_ofPairs_map {ν : Type*} (f : α → κ) (g : α → ν) (xs : List α)
    (k : κ) : (ofPairs (xs.map fun x => (f x, g x))).get? k
      = ((xs.filter fun x => f x = k).getLast?).map g := by
  induction xs using List.reverseRecOn with
  | nil => rfl
  | append_singleton xs x ih =>
    rw [ofPairs_map_append, get?_set, List.filter_append]
    by_cases hk : k = f x
    · simp [hk]
    · simp [hk, Ne.symm hk, ih]

section Superseded

variable (f : α → κ)

/-- The items a later item of their class replaces. -/
def superseded : List α → List α
  | [] => []
  | x :: xs =>
      if ∃ y ∈ xs, f y = f x then x :: superseded xs else superseded xs

/-- Where no class recurs nothing is replaced. -/
theorem superseded_eq_nil {f : α → κ} {xs : List α} (h : (xs.map f).Nodup) :
    superseded f xs = [] := by
  induction xs with
  | nil => rfl
  | cons x xs ih =>
    rw [List.map_cons, List.nodup_cons] at h
    unfold superseded
    rw [if_neg, ih h.2]
    rintro ⟨y, hy, hfy⟩
    exact h.1 (hfy ▸ List.mem_map_of_mem hy)

variable {ν : Type*} [AddCommGroup ν] (g : α → ν)

/-- An item replaced already is not the last of its class. -/
theorem getLast?_filter_cons {f : α → κ} {y : α} {ys : List α}
    (hlater : ∃ z ∈ ys, f z = f y) (k : κ) :
    ((y :: ys).filter fun z => f z = k).getLast?
      = (ys.filter fun z => f z = k).getLast? := by
  by_cases hclass : f y = k
  · obtain ⟨z, hz, hfz⟩ := hlater
    have hmem : z ∈ ys.filter fun z => f z = k :=
      List.mem_filter.mpr ⟨hz, decide_eq_true (hfz.trans hclass)⟩
    rw [List.filter_cons, if_pos (by simpa using hclass),
      List.getLast?_cons_of_ne_nil (List.ne_nil_of_mem hmem)]
  · rw [List.filter_cons_of_neg (by simpa using hclass)]

/-- One more item replaces the last of its class so far. -/
theorem sum_superseded_append (xs : List α) (x : α) :
    ((superseded f (xs ++ [x])).map g).sum = ((superseded f xs).map g).sum
      + (((xs.filter fun y => f y = f x).getLast?).map g).getD 0 := by
  induction xs with
  | nil => simp [superseded]
  | cons y ys ih =>
    rw [List.cons_append]
    unfold superseded
    by_cases hlater : ∃ z ∈ ys, f z = f y
    · -- already replaced
      have hlater' : ∃ z ∈ ys ++ [x], f z = f y := by
        obtain ⟨z, hz, hfz⟩ := hlater
        exact ⟨z, List.mem_append_left _ hz, hfz⟩
      rw [if_pos hlater, if_pos hlater', getLast?_filter_cons hlater,
        List.map_cons, List.sum_cons, List.map_cons, List.sum_cons, ih,
        add_assoc]
    · by_cases hclass : f y = f x
      · -- replaced now
        have hlater' : ∃ z ∈ ys ++ [x], f z = f y :=
          ⟨x, by simp, hclass.symm⟩
        have hnone : ys.filter (fun y => f y = f x) = [] := by
          rw [List.filter_eq_nil_iff]
          intro z hz hfz
          exact hlater ⟨z, hz, (of_decide_eq_true hfz).trans hclass.symm⟩
        rw [if_neg hlater, if_pos hlater', List.map_cons, List.sum_cons, ih,
          List.filter_cons, if_pos (by simpa using hclass), hnone]
        simp [add_comm]
      · -- still the last of its class
        have hlater' : ¬∃ z ∈ ys ++ [x], f z = f y := by
          rintro ⟨z, hz, hfz⟩
          rcases List.mem_append.mp hz with hz | hz
          · exact hlater ⟨z, hz, hfz⟩
          · cases List.mem_singleton.mp hz
            exact hclass hfz.symm
        rw [if_neg hlater, if_neg hlater', ih,
          List.filter_cons_of_neg (by simpa using hclass)]

/-- What an assignment adds to the values. -/
theorem sum_values_set (d : Dict κ ν) (k : κ) (v : ν) :
    (d.set k v).values.sum = d.values.sum + (v - (d.get? k).getD 0) := by
  rw [← sum_values_add]
  unfold add
  rw [add_sub_cancel]

/-- A dictionary filled in turn loses what is superseded. -/
theorem sum_values_ofPairs (xs : List α) :
    (ofPairs (xs.map fun x => (f x, g x))).values.sum
      + ((superseded f xs).map g).sum = (xs.map g).sum := by
  induction xs using List.reverseRecOn with
  | nil => simp [ofPairs, setAll, superseded, values, empty]
  | append_singleton xs x ih =>
    rw [ofPairs_map_append, sum_values_set, get?_ofPairs_map, sum_superseded_append,
      List.map_append, List.sum_append, ← ih]
    simp only [List.map_cons, List.map_nil, List.sum_cons, List.sum_nil]
    abel

end Superseded

/-- A dict of last values agrees where the items do, class by class. -/
theorem get?_ofPairs_classwise {ν : Type*} {f : α → κ} (g : α → ν)
    {xs ys : List α} (h : Classwise f xs ys) (k : κ) :
    (ofPairs (xs.map fun x => (f x, g x))).get? k
      = (ofPairs (ys.map fun x => (f x, g x))).get? k := by
  rw [get?_ofPairs_map, get?_ofPairs_map, h k]

-- ====================================================== sorted iteration

variable {ν : Type*} {le : κ → κ → Bool}

omit [DecidableEq κ] in
/-- Dictionaries with the same keys are walked in the same order. -/
theorem mergeSort_keys_eq {ω : Type*} {d : Dict κ ν} {d' : Dict κ ω}
    (htrans : ∀ a b c, le a b → le b c → le a c)
    (htotal : ∀ a b, le a b || le b a)
    (hantisymm : ∀ a b, le a b → le b a → a = b)
    (h : ∀ k, k ∈ d.keys ↔ k ∈ d'.keys) :
    d.keys.mergeSort le = d'.keys.mergeSort le := by
  have hperm : d.keys.Perm d'.keys :=
    (List.perm_ext_iff_of_nodup d.nodupKeys d'.nodupKeys).mpr h
  have hsorted : ∀ ks : List κ, (ks.mergeSort le).Pairwise
      fun a b => le a b = true := List.pairwise_mergeSort htrans htotal
  exact List.Perm.eq_of_pairwise (fun a b _ _ => hantisymm a b) (hsorted _)
    (hsorted _) ((List.mergeSort_perm _ _).trans
      (hperm.trans (List.mergeSort_perm _ _).symm))

theorem mem_keys_groupBy {f : β → κ} {xs : List β} {k : κ} :
    k ∈ (groupBy f xs).keys ↔ ∃ x ∈ xs, f x = k := by
  have hnone := get?_eq_none_iff (d := groupBy f xs) (k := k)
  rw [get?_groupBy] at hnone
  by_cases hempty : xs.filter (fun x => f x = k) = []
  · rw [if_pos hempty] at hnone
    rw [List.filter_eq_nil_iff] at hempty
    constructor
    · exact fun hk => absurd hk (hnone.mp rfl)
    · rintro ⟨x, hx, hfx⟩
      exact absurd (decide_eq_true hfx) (hempty x hx)
  · rw [if_neg hempty] at hnone
    obtain ⟨x, hx⟩ := List.exists_mem_of_ne_nil _ hempty
    obtain ⟨hmem, hfx⟩ := List.mem_filter.mp hx
    constructor
    · exact fun _ => ⟨x, hmem, of_decide_eq_true hfx⟩
    · intro _
      by_contra hk
      exact Option.some_ne_none _ (hnone.mpr hk)

/-- The buckets, read off the keys. -/
theorem entries_groupBy (f : β → κ) (xs : List β) :
    (groupBy f xs).entries = (groupBy f xs).keys.map fun k =>
      (k, xs.filter fun x => f x = k) := by
  rw [keys, List.map_map]
  refine (List.map_id _).symm.trans (List.map_congr_left ?_)
  intro e he
  have hget := get?_eq_some_iff.mpr he
  rw [get?_groupBy] at hget
  split at hget
  · cases hget
  · exact Prod.ext rfl (Option.some.inj hget).symm

/-- The buckets together hold what the items do. -/
theorem sum_groupBy [AddCommMonoid ν] (f : β → κ) (g : β → ν) (xs : List β) :
    ((groupBy f xs).entries.map fun e => (e.2.map g).sum).sum
      = (xs.map g).sum := by
  have htally : ∀ k ∈ (tally f g xs).keys, k ∈ (groupBy f xs).keys := by
    intro k hk
    rw [mem_keys_tally] at hk
    exact mem_keys_groupBy.mpr hk
  rw [entries_groupBy, List.map_map, ← sum_values_tally f g xs,
    ← sum_getD_of_subset (tally f g xs) (groupBy f xs).nodupKeys htally]
  congr 1
  apply List.map_congr_left
  intro k _
  rw [getD_tally]
  rfl

/-- The buckets walked by sorted key. -/
theorem sortedEntries_groupBy (f : β → κ) (xs : List β) :
    ((groupBy f xs).entries.mergeSort fun a b => le a.1 b.1)
      = ((groupBy f xs).keys.mergeSort le).map fun k =>
        (k, xs.filter fun x => f x = k) := by
  rw [entries_groupBy, List.map_mergeSort]
  exact fun _ _ _ _ => rfl

/-- Walked by sorted key, two groupings with the same classes and buckets
that come to the same come to the same. -/
theorem map_sortedEntries_groupBy {γ : Type*} {f : α → κ} {f' : β → κ}
    {xs : List α} {ys : List β} {g : κ × List α → γ} {g' : κ × List β → γ}
    (htrans : ∀ a b c, le a b → le b c → le a c)
    (htotal : ∀ a b, le a b || le b a)
    (hantisymm : ∀ a b, le a b → le b a → a = b)
    (hclasses : ∀ k, (∃ x ∈ xs, f x = k) ↔ ∃ y ∈ ys, f' y = k)
    (hg : ∀ k, g (k, xs.filter fun x => f x = k)
      = g' (k, ys.filter fun y => f' y = k)) :
    ((groupBy f xs).entries.mergeSort fun a b => le a.1 b.1).map g
      = ((groupBy f' ys).entries.mergeSort fun a b => le a.1 b.1).map g' := by
  have hkeys : ∀ k, k ∈ (groupBy f xs).keys ↔ k ∈ (groupBy f' ys).keys := by
    intro k
    rw [mem_keys_groupBy, mem_keys_groupBy]
    exact hclasses k
  rw [sortedEntries_groupBy, sortedEntries_groupBy,
    mergeSort_keys_eq htrans htotal hantisymm hkeys, List.map_map,
    List.map_map]
  exact List.map_congr_left fun k _ => hg k

end Dict

end Warehouse.Lib
