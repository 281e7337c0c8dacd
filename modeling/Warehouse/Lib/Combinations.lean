/-
Combinations, in the order of their positions, and words joined by a doubled
mark.

The combinations of a list that meet a predicate throughout are the
combinations of what meets it (`filter_combinations`), so both are counted
by binomials. Words that neither double the mark nor begin or end with it
are read back from their join (`joined_injective`).
-/
import Mathlib.Data.List.Sublists

namespace Warehouse.Lib

variable {α : Type*}

-- ============================================================ combinations

/-- `itertools.combinations(xs, k)`. -/
def combinations (k : Nat) (xs : List α) : List (List α) :=
  (xs.sublistsLen k).reverse

/-- A combination is a sublist of its size. -/
theorem mem_combinations {k : Nat} {xs ys : List α} :
    ys ∈ combinations k xs ↔ ys.Sublist xs ∧ ys.length = k := by
  unfold combinations
  rw [List.mem_reverse, List.mem_sublistsLen]

/-- There are as many as the binomial says. -/
theorem length_combinations (k : Nat) (xs : List α) :
    (combinations k xs).length = xs.length.choose k := by
  unfold combinations
  rw [List.length_reverse, List.length_sublistsLen]

/-- One at a time, in order. -/
theorem combinations_one (xs : List α) :
    combinations 1 xs = xs.map fun x => [x] := by
  unfold combinations
  rw [List.sublistsLen_one, ← List.map_reverse, List.reverse_reverse]

/-- Filtering all elements is filtering the list first. -/
theorem filter_sublistsLen (p : α → Bool) (k : Nat) (xs : List α) :
    (xs.sublistsLen k).filter (fun ys => ys.all p)
      = (xs.filter p).sublistsLen k := by
  induction xs generalizing k with
  | nil =>
    cases k with
    | zero => rfl
    | succ k => rfl
  | cons x xs ih =>
    cases k with
    | zero => rw [List.sublistsLen_zero, List.sublistsLen_zero]; rfl
    | succ k =>
      rw [List.sublistsLen_succ_cons, List.filter_append, List.filter_map, ih]
      by_cases hx : p x = true
      · have hrest : ((fun ys : List α => ys.all p) ∘ List.cons x)
            = fun ys => ys.all p := by
          funext ys
          show (x :: ys).all p = ys.all p
          rw [List.all_cons, hx, Bool.true_and]
        rw [hrest, ih, List.filter_cons_of_pos hx, List.sublistsLen_succ_cons]
      · have hnone : ((fun ys : List α => ys.all p) ∘ List.cons x)
            = fun _ => false := by
          funext ys
          show (x :: ys).all p = false
          rw [List.all_cons, Bool.eq_false_iff.mpr hx, Bool.false_and]
        rw [hnone, List.filter_cons_of_neg hx, List.filter_false, List.map_nil,
          List.append_nil]

/-- The combinations that meet `p` throughout are those of what meets it. -/
theorem filter_combinations (p : α → Bool) (k : Nat) (xs : List α) :
    (combinations k xs).filter (fun ys => ys.all p)
      = combinations k (xs.filter p) := by
  unfold combinations
  rw [← filter_sublistsLen, List.filter_reverse]

-- ============================================================ joined words

variable {mark : α}

/-- A word the doubled mark can part from others: the mark does not end it
and does not stand in it twice in a row. -/
structure Parted (mark : α) (word : List α) : Prop where
  nonempty : word ≠ []
  last : ¬ [mark].IsSuffix word
  single : ¬ [mark, mark].IsInfix word

/-- No parted word goes on where another has ended. -/
theorem Parted.not_longer {word other more tail tail' : List α} {c : α}
    (hother : Parted mark other) (hlong : other = word ++ c :: more)
    (h : mark :: mark :: tail = c :: more ++ mark :: mark :: tail') :
    False := by
  obtain ⟨rfl, hrest⟩ := List.cons.inj h
  cases more with
  | nil => exact hother.last ⟨word, hlong.symm⟩
  | cons d more =>
    obtain ⟨rfl, -⟩ := List.cons.inj hrest
    refine hother.single ⟨word, more, ?_⟩
    rw [hlong, List.append_assoc]
    rfl

/-- The doubled mark shows where a parted word ends. -/
theorem Parted.eq_of_append {word other tail tail' : List α}
    (hword : Parted mark word) (hother : Parted mark other)
    (h : word ++ mark :: mark :: tail = other ++ mark :: mark :: tail') :
    word = other ∧ tail = tail' := by
  rcases List.append_eq_append_iff.mp h with ⟨more, hlong, hrest⟩
    | ⟨more, hlong, hrest⟩
  · cases more with
    | nil =>
      obtain ⟨-, -, rfl⟩ := by simpa using hrest
      exact ⟨by rw [hlong, List.append_nil], rfl⟩
    | cons c more => exact (hother.not_longer hlong hrest).elim
  · cases more with
    | nil =>
      obtain ⟨-, -, rfl⟩ := by simpa using hrest
      exact ⟨by rw [hlong, List.append_nil], rfl⟩
    | cons c more => exact (hword.not_longer hlong hrest).elim

/-- Words joined by the doubled mark are read back. -/
theorem joined_injective {words others : List (List α)}
    (hwords : ∀ word ∈ words, Parted mark word)
    (hothers : ∀ word ∈ others, Parted mark word)
    (h : [mark, mark].intercalate words = [mark, mark].intercalate others) :
    words = others := by
  induction words generalizing others with
  | nil =>
    cases others with
    | nil => rfl
    | cons other others =>
      have hne := (hothers other (List.mem_cons_self ..)).nonempty
      cases others with
      | nil =>
        rw [List.intercalate_singleton] at h
        exact absurd h.symm hne
      | cons second others =>
        rw [List.intercalate_cons_cons, List.append_assoc] at h
        exact absurd (List.append_eq_nil_iff.mp h.symm).1 hne
  | cons word words ih =>
    have hword := hwords word (List.mem_cons_self ..)
    have hrest := fun w hw => hwords w (List.mem_cons_of_mem _ hw)
    cases others with
    | nil =>
      cases words with
      | nil =>
        rw [List.intercalate_singleton] at h
        exact absurd h hword.nonempty
      | cons second words =>
        rw [List.intercalate_cons_cons, List.append_assoc] at h
        exact absurd (List.append_eq_nil_iff.mp h).1 hword.nonempty
    | cons other others =>
      have hother := hothers other (List.mem_cons_self ..)
      have hrest' := fun w hw => hothers w (List.mem_cons_of_mem _ hw)
      cases words with
      | nil =>
        cases others with
        | nil =>
          rw [List.intercalate_singleton, List.intercalate_singleton] at h
          rw [h]
        | cons second others =>
          rw [List.intercalate_singleton, List.intercalate_cons_cons,
            List.append_assoc] at h
          refine (hword.single ⟨other, [mark, mark].intercalate
            (second :: others), ?_⟩).elim
          rw [List.append_assoc]
          exact h.symm
      | cons second words =>
        cases others with
        | nil =>
          rw [List.intercalate_singleton, List.intercalate_cons_cons,
            List.append_assoc] at h
          refine (hother.single ⟨word, [mark, mark].intercalate
            (second :: words), ?_⟩).elim
          rw [List.append_assoc]
          exact h
        | cons third others =>
          rw [List.intercalate_cons_cons, List.intercalate_cons_cons,
            List.append_assoc, List.append_assoc] at h
          obtain ⟨rfl, htail⟩ := hword.eq_of_append hother h
          rw [ih hrest hrest' htail]

end Warehouse.Lib
