/-
The newest rows of a log: `ORDER BY stamp DESC LIMIT n`.

In a log each row is stamped later than those before it, so the newest are
its last, whatever order they are found in (`Log.newest`). A log is kept by
appending a log of later rows (`Log.append`), and what a query keeps of one
is one (`Log.filter`).
-/
import Warehouse.Lib.Sorting

namespace Warehouse.Lib

variable {α κ : Type*} [LinearOrder κ] {stamp : α → κ} {lo mid hi : κ}
  {rows rows' : List α}

/-- Rows stamped in their order, from `lo` on and before `hi`. -/
structure Log (stamp : α → κ) (lo hi : κ) (rows : List α) : Prop where
  ordered : rows.Pairwise fun a b => stamp a < stamp b
  within : ∀ row ∈ rows, lo ≤ stamp row ∧ stamp row < hi

theorem Log.nil : Log stamp lo hi [] :=
  ⟨List.Pairwise.nil, List.forall_mem_nil _⟩

theorem Log.single {row : α} (hlo : lo ≤ stamp row) (hhi : stamp row < hi) :
    Log stamp lo hi [row] :=
  ⟨List.pairwise_singleton _ row, fun other hother => by
    rw [List.mem_singleton.mp hother]
    exact ⟨hlo, hhi⟩⟩

/-- Later rows after a log. -/
theorem Log.append (h : Log stamp lo mid rows) (h' : Log stamp mid hi rows')
    (hlo : lo ≤ mid) (hhi : mid ≤ hi) : Log stamp lo hi (rows ++ rows') := by
  constructor
  · rw [List.pairwise_append]
    refine ⟨h.ordered, h'.ordered, fun a ha b hb => ?_⟩
    exact (h.within a ha).2.trans_le (h'.within b hb).1
  · intro row hrow
    rcases List.mem_append.mp hrow with hrow | hrow
    · obtain ⟨hl, hh⟩ := h.within row hrow
      exact ⟨hl, hh.trans_le hhi⟩
    · obtain ⟨hl, hh⟩ := h'.within row hrow
      exact ⟨hlo.trans hl, hh⟩

theorem Log.filter (h : Log stamp lo hi rows) (p : α → Bool) :
    Log stamp lo hi (rows.filter p) :=
  ⟨h.ordered.filter p, fun row hrow => h.within row (List.mem_filter.mp hrow).1⟩

/-- The newest rows of a log are its last. -/
theorem Log.newest [DecidableRel fun a b : κ => b ≤ a]
    (h : Log stamp lo hi rows) {found : List α} (hfound : found.Perm rows)
    (limit : Nat) :
    (found.insertionSort fun a b => stamp b ≤ stamp a).take limit
      = rows.reverse.take limit := by
  congr 1
  have hperm : (found.insertionSort fun a b => stamp b ≤ stamp a).Perm
      rows.reverse :=
    (List.perm_insertionSort _ _).trans
      (hfound.trans (List.reverse_perm rows).symm)
  refine hperm.eq_of_pairwise ?_ (pairwise_sortDescending stamp found)
    (List.pairwise_reverse.mpr (h.ordered.imp le_of_lt))
  intro a b ha hb hba hab
  have hnodup : (rows.map stamp).Nodup :=
    List.pairwise_map.mpr (h.ordered.imp ne_of_lt)
  exact List.inj_on_of_nodup_map hnodup
    (List.mem_reverse.mp (hperm.mem_iff.mp ha)) (List.mem_reverse.mp hb)
    (le_antisymm hab hba)

end Warehouse.Lib
