/-
Lists sorted by a key.

A list sorted by a key is in the key's order (`pairwise_sortBy`, and
`pairwise_sortDescending` for the greatest first), sorting by the key of an
image sorts the image (`map_sortBy`), and where the keys are distinct the
order the list came in is forgotten (`sortBy_perm`); the order in which the
keys ascend is the one found (`sortBy_eq_of_ascending`).
-/
import Mathlib.Data.List.Sort

namespace Warehouse.Lib

variable {α β κ : Type*} {r : κ → κ → Prop} [DecidableRel r]

theorem pairwise_sortBy [Std.Total r] [IsTrans κ r] (key : α → κ)
    (xs : List α) :
    (xs.insertionSort fun x y => r (key x) (key y)).Pairwise
      fun x y => r (key x) (key y) := by
  have : Std.Total fun x y : α => r (key x) (key y) :=
    ⟨fun x y => total_of r (key x) (key y)⟩
  have : IsTrans α fun x y => r (key x) (key y) :=
    ⟨fun _ _ _ hxy hyz => trans_of r hxy hyz⟩
  exact List.pairwise_insertionSort _ xs

/-- Greatest key first. -/
theorem pairwise_sortDescending [LinearOrder κ]
    [DecidableRel fun a b : κ => b ≤ a] (key : α → κ) (xs : List α) :
    (xs.insertionSort fun x y => key y ≤ key x).Pairwise
      fun x y => key y ≤ key x := by
  have : Std.Total fun a b : κ => b ≤ a := ⟨fun a b => le_total b a⟩
  have : IsTrans κ fun a b => b ≤ a := ⟨fun _ _ _ hab hbc => hbc.trans hab⟩
  exact pairwise_sortBy (r := fun a b : κ => b ≤ a) key xs

/-- Sorting after a map that keeps the keys. -/
theorem map_sortBy (key : α → κ) (key' : β → κ) {f : α → β}
    (hkey : ∀ x, key' (f x) = key x) (xs : List α) :
    (xs.map f).insertionSort (fun x y => r (key' x) (key' y))
      = (xs.insertionSort fun x y => r (key x) (key y)).map f := by
  refine (List.map_insertionSort _ _ f xs fun x _ y _ => ?_).symm
  rw [hkey, hkey]

/-- Distinct keys: any order of the list sorts to the same one. -/
theorem sortBy_perm [Std.Total r] [IsTrans κ r] [Std.Antisymm r]
    (key : α → κ) {xs ys : List α} (h : xs.Perm ys)
    (hnd : (xs.map key).Nodup) :
    (xs.insertionSort fun x y => r (key x) (key y))
      = ys.insertionSort fun x y => r (key x) (key y) := by
  have hsort := List.perm_insertionSort fun x y : α => r (key x) (key y)
  refine ((hsort xs).trans (h.trans (hsort ys).symm)).eq_of_pairwise ?_
    (pairwise_sortBy key xs) (pairwise_sortBy key ys)
  intro x y hx hy hxy hyx
  rw [List.mem_insertionSort] at hx hy
  exact List.inj_on_of_nodup_map hnd hx (h.mem_iff.mpr hy)
    (antisymm_of r hxy hyx)

/-- Sorting finds the order in which the keys ascend. -/
theorem sortBy_eq_of_ascending [LinearOrder κ] (key : α → κ) {xs ys : List α}
    (h : xs.Perm ys) (hys : ys.Pairwise fun x y => key x < key y) :
    (xs.insertionSort fun x y => key x ≤ key y) = ys := by
  have hnd : (ys.map key).Nodup := List.pairwise_map.mpr (hys.imp ne_of_lt)
  have hsorted := sortBy_perm (r := fun a b : κ => a ≤ b) key h.symm hnd
  rw [← hsorted]
  exact (hys.imp le_of_lt).insertionSort_eq

end Warehouse.Lib
