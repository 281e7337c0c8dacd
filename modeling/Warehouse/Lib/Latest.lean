/-
Logs patched at the latest entry of a kind.

`patchLatest p f` applies `f` to the last entry that satisfies `p`, and to
no other. So an entry can be patched under its key exactly until another
entry of that key is appended after it: up to then a patch lands on it
(`patchLatest_map`), and from then on it is buried, and no patch ever
reaches it again (`Buried.patchLatest`).

# Names and entries

Entries may be named from outside, several under one key. A name is the
latest under its key when no later one in the list of names has that key
(`LatestUnder`); only the latest is reached by a patch, so the others keep
what they had when they were buried. Logs that drop their oldest entries are
long logs cut at the front (`pushBounded_append`).
-/
import Mathlib.Data.List.Nodup
import Mathlib.Logic.Function.Basic

namespace Warehouse.Lib

variable {α ι κ : Type*}

/-- Append to a log of at most `n` entries: a full one drops its oldest. -/
def pushBounded (n : Nat) (log : List α) (x : α) : List α :=
  (log ++ [x]).drop (log.length + 1 - n)

theorem length_pushBounded_le {n : Nat} {log : List α} {x : α} :
    (pushBounded n log x).length ≤ n := by
  unfold pushBounded
  rw [List.length_drop, List.length_append, List.length_singleton]
  omega

/-- A push onto a part that leaves room drops from what is before it. -/
theorem pushBounded_append {n : Nat} (before : List α) {part : List α}
    {x : α} (hroom : part.length < n) :
    ∃ kept, kept ⊆ before
      ∧ pushBounded n (before ++ part) x = kept ++ (part ++ [x]) := by
  refine ⟨before.drop ((before ++ part).length + 1 - n),
    List.drop_subset _ _, ?_⟩
  unfold pushBounded
  rw [List.append_assoc, List.drop_append_of_le_length]
  rw [List.length_append]
  omega

/-- Patch the first entry that satisfies `p`. -/
def patchFirst (p : α → Prop) [DecidablePred p] (f : α → α) :
    List α → List α
  | [] => []
  | x :: rest => if p x then f x :: rest else x :: patchFirst p f rest

/-- Patch the last entry that satisfies `p`. -/
def patchLatest (p : α → Prop) [DecidablePred p] (f : α → α)
    (log : List α) : List α :=
  (patchFirst p f log.reverse).reverse

section Patch

variable {p : α → Prop} [DecidablePred p] {f : α → α} {log : List α}

/-- The first match is patched, what surrounds it is not. -/
theorem patchFirst_append {before after : List α} {x : α}
    (hbefore : ∀ y ∈ before, ¬p y) (hx : p x) :
    patchFirst p f (before ++ x :: after) = before ++ f x :: after := by
  induction before with
  | nil => exact if_pos hx
  | cons y rest ih =>
      rw [List.forall_mem_cons] at hbefore
      rw [List.cons_append]
      show (if p y then _ else _) = _
      rw [if_neg hbefore.1, ih hbefore.2]
      rfl

theorem patchFirst_of_none (h : ∀ y ∈ log, ¬p y) : patchFirst p f log = log := by
  induction log with
  | nil => rfl
  | cons y rest ih =>
      rw [List.forall_mem_cons] at h
      show (if p y then _ else _) = _
      rw [if_neg h.1, ih h.2]

/-- A patch lands on the last entry of its kind. -/
theorem patchLatest_append {before after : List α} {x : α} (hx : p x)
    (hafter : ∀ y ∈ after, ¬p y) :
    patchLatest p f (before ++ x :: after) = before ++ f x :: after := by
  unfold patchLatest
  have hrev : (before ++ x :: after).reverse
      = after.reverse ++ x :: before.reverse := by simp
  rw [hrev, patchFirst_append (fun y hy => hafter y (List.mem_reverse.mp hy)) hx]
  simp

/-- Without a match nothing is patched. -/
theorem patchLatest_of_none (h : ∀ y ∈ log, ¬p y) :
    patchLatest p f log = log := by
  unfold patchLatest
  rw [patchFirst_of_none fun y hy => h y (List.mem_reverse.mp hy),
    List.reverse_reverse]

/-- A log has no entry of a kind, or a last one. -/
theorem exists_latest (p : α → Prop) (log : List α) :
    (∀ y ∈ log, ¬p y) ∨ ∃ before x after, log = before ++ x :: after ∧ p x
      ∧ ∀ y ∈ after, ¬p y := by
  induction log with
  | nil => exact .inl (List.forall_mem_nil _)
  | cons y rest ih =>
      rcases ih with hnone | ⟨before, x, after, rfl, hx, hafter⟩
      · by_cases hy : p y
        · exact .inr ⟨[], y, rest, rfl, hy, hnone⟩
        · exact .inl (List.forall_mem_cons.mpr ⟨hy, hnone⟩)
      · exact .inr ⟨y :: before, x, after, rfl, hx, hafter⟩

/-- A patch lands in the part that ends the log if that has an entry of
its kind, -/
theorem patchLatest_append_right {before part : List α}
    (h : ∃ y ∈ part, p y) :
    patchLatest p f (before ++ part) = before ++ patchLatest p f part := by
  rcases exists_latest p part with hnone | ⟨start, x, after, rfl, hx, hafter⟩
  · obtain ⟨y, hy, hp⟩ := h
    exact absurd hp (hnone y hy)
  · rw [← List.append_assoc, patchLatest_append hx hafter,
      patchLatest_append hx hafter, List.append_assoc]

/-- and leaves it alone otherwise. -/
theorem patchLatest_append_left {before part : List α}
    (h : ∀ y ∈ part, ¬p y) :
    patchLatest p f (before ++ part) = patchLatest p f before ++ part := by
  rcases exists_latest p before with hnone | ⟨start, x, after, rfl, hx, hafter⟩
  · have hall : ∀ y ∈ before ++ part, ¬p y := by
      intro y hy
      rcases List.mem_append.mp hy with hy | hy
      · exact hnone y hy
      · exact h y hy
    rw [patchLatest_of_none hall, patchLatest_of_none hnone]
  · have hall : ∀ y ∈ after ++ part, ¬p y := by
      intro y hy
      rcases List.mem_append.mp hy with hy | hy
      · exact hafter y hy
      · exact h y hy
    rw [List.append_assoc, List.cons_append, patchLatest_append hx hall,
      patchLatest_append hx hafter, List.append_assoc, List.cons_append]

/-- The entries a patch leaves, by position. -/
theorem patchLatest_cases (p : α → Prop) [DecidablePred p] (f : α → α)
    (log : List α) :
    patchLatest p f log = log
      ∨ ∃ i x, log[i]? = some x ∧ p x
        ∧ (∀ j y, i < j → log[j]? = some y → ¬p y)
        ∧ patchLatest p f log = log.set i (f x) := by
  rcases exists_latest p log with hnone | ⟨before, x, after, rfl, hx, hafter⟩
  · exact .inl (patchLatest_of_none hnone)
  · refine .inr ⟨before.length, x, by simp, hx, fun j y hj hy => ?_, ?_⟩
    · rw [List.getElem?_append_right (by omega)] at hy
      obtain ⟨k, hk⟩ : ∃ k, j - before.length = k + 1 :=
        ⟨j - before.length - 1, by omega⟩
      rw [hk, List.getElem?_cons_succ] at hy
      exact hafter y (List.mem_of_getElem? hy)
    · rw [patchLatest_append hx hafter]
      simp

theorem length_patchLatest : (patchLatest p f log).length = log.length := by
  rcases patchLatest_cases p f log with h | ⟨i, x, -, -, -, h⟩
  · rw [h]
  · rw [h, List.length_set]

end Patch

-- ============================================================ named entries

/-- No later name has the key of this one. -/
def LatestUnder (key : ι → κ) (names : List ι) (i : ι) : Prop :=
  ∀ before after, names = before ++ i :: after → ∀ j ∈ after, key j ≠ key i

/-- The last name is. -/
theorem LatestUnder.last {key : ι → κ} {names : List ι} {i : ι}
    (hout : i ∉ names) : LatestUnder key (names ++ [i]) i := by
  intro before after heq j hj
  rcases List.eq_nil_or_concat after with rfl | ⟨rest, last, rfl⟩
  · cases hj
  · -- otherwise it is among the others too
    rw [List.concat_eq_append, ← List.cons_append, ← List.append_assoc] at heq
    obtain ⟨hnames, -⟩ := List.append_inj' heq rfl
    apply absurd _ hout
    rw [hnames]
    simp

/-- A name stays so as others follow under other keys. -/
theorem LatestUnder.append_singleton {key : ι → κ} {names : List ι} {i j : ι}
    (h : LatestUnder key names i) (hne : key j ≠ key i) :
    LatestUnder key (names ++ [j]) i := by
  intro before after heq k hk
  rcases List.eq_nil_or_concat after with rfl | ⟨rest, last, rfl⟩
  · cases hk
  · rw [List.concat_eq_append] at heq hk
    rw [← List.cons_append, ← List.append_assoc] at heq
    obtain ⟨hnames, hlast⟩ := List.append_inj' heq rfl
    cases hlast
    rcases List.mem_append.mp hk with hk | hk
    · exact h before rest hnames k hk
    · cases List.mem_singleton.mp hk
      exact hne

variable [DecidableEq ι] [DecidableEq κ]

/-- In a log with one entry for each name, a patch under the key of a name
that is the latest under it changes that name's entry. -/
theorem patchLatest_map {names : List ι} (hnd : names.Nodup) {i : ι}
    (hi : i ∈ names) {entry : ι → α} {key : α → κ} {name : ι → κ}
    (hkey : ∀ j ∈ names, key (entry j) = name j)
    (hlatest : LatestUnder name names i) (f : α → α) :
    patchLatest (fun x => key x = name i) f (names.map entry)
      = names.map (Function.update entry i (f (entry i))) := by
  obtain ⟨before, after, rfl⟩ := List.append_of_mem hi
  let p := fun x => key x = name i
  have hi' : p (entry i) := hkey i hi
  have hafter : ∀ x ∈ after.map entry, ¬p x := by
    intro x hx
    obtain ⟨j, hj, rfl⟩ := List.mem_map.mp hx
    intro hpx
    apply hlatest before after rfl j hj
    rw [← hkey j (by simp [hj])]
    exact hpx
  have hnotin : i ∉ before ∧ i ∉ after := by
    have := List.nodup_middle.mp hnd
    rw [List.nodup_cons, List.mem_append, not_or] at this
    exact this.1
  have hsame : ∀ others : List ι, i ∉ others →
      others.map (Function.update entry i (f (entry i)))
        = others.map entry := by
    intro others hout
    apply List.map_congr_left
    intro j hj
    apply Function.update_of_ne
    rintro rfl
    exact hout hj
  show patchLatest p f _ = _
  rw [List.map_append, List.map_cons, patchLatest_append hi' hafter,
    List.map_append, List.map_cons, hsame before hnotin.1,
    hsame after hnotin.2, Function.update_self]

-- =========================================================== buried entries

/-- An entry of the log, a `P`, has a later one of its key. -/
def Buried (key : α → κ) (P : α → Prop) (log : List α) : Prop :=
  ∃ i j : Nat, ∃ x y, i < j ∧ log[i]? = some x ∧ log[j]? = some y
    ∧ key x = key y ∧ P x

section Buried

variable {key : α → κ} {P : α → Prop} {log : List α}

omit [DecidableEq κ] in
theorem Buried.exists_mem (h : Buried key P log) : ∃ x ∈ log, P x := by
  obtain ⟨i, j, x, y, -, hx, -, -, hP⟩ := h
  exact ⟨x, List.mem_of_getElem? hx, hP⟩

omit [DecidableEq κ] in
/-- More entries bury it deeper. -/
theorem Buried.append (h : Buried key P log) (more : List α) :
    Buried key P (log ++ more) := by
  obtain ⟨i, j, x, y, hij, hx, hy, hkey, hP⟩ := h
  have hlift : ∀ {k : Nat} {z : α}, log[k]? = some z →
      (log ++ more)[k]? = some z := by
    intro k z hz
    obtain ⟨hlt, -⟩ := List.getElem?_eq_some_iff.mp hz
    rw [List.getElem?_append_left hlt]
    exact hz
  exact ⟨i, j, x, y, hij, hlift hx, hlift hy, hkey, hP⟩

omit [DecidableEq κ] in
/-- An entry with a later one of its key, appended last. -/
theorem Buried.of_append_singleton {x y : α} (hx : x ∈ log)
    (hkey : key x = key y) (hP : P x) : Buried key P (log ++ [y]) := by
  obtain ⟨i, hi⟩ := List.mem_iff_getElem?.mp hx
  obtain ⟨hlt, -⟩ := List.getElem?_eq_some_iff.mp hi
  refine ⟨i, log.length, x, y, hlt, ?_, by simp, hkey, hP⟩
  rw [List.getElem?_append_left hlt]
  exact hi

/-- A patch under a key that keeps the key never reaches it. -/
theorem Buried.patchLatest (h : Buried key P log) (k : κ) {f : α → α}
    (hf : ∀ x, key (f x) = key x) :
    Buried key P (patchLatest (fun x => key x = k) f log) := by
  obtain ⟨i, j, x, y, hij, hx, hy, hkey, hP⟩ := h
  rcases patchLatest_cases (fun x => key x = k) f log with
    hsame | ⟨m, z, hz, hzk, hlast, hset⟩
  · rw [hsame]
    exact ⟨i, j, x, y, hij, hx, hy, hkey, hP⟩
  · -- the patched entry is not this one: the later one has its key
    have hmi : m ≠ i := by
      rintro rfl
      obtain rfl : x = z := Option.some.inj (hx.symm.trans hz)
      exact hlast j y hij hy (hkey ▸ hzk)
    have hx' : (log.set m (f z))[i]? = some x := by
      rw [List.getElem?_set_ne hmi]
      exact hx
    rw [hset]
    by_cases hmj : m = j
    · subst hmj
      obtain rfl : y = z := Option.some.inj (hy.symm.trans hz)
      obtain ⟨hlt, -⟩ := List.getElem?_eq_some_iff.mp hy
      refine ⟨i, m, x, f y, hij, hx', ?_, hkey.trans (hf y).symm, hP⟩
      rw [List.getElem?_set_self hlt]
    · refine ⟨i, j, x, y, hij, hx', ?_, hkey, hP⟩
      rw [List.getElem?_set_ne hmj]
      exact hy

end Buried

end Warehouse.Lib
