/-
Tables: lists of rows known by a key.

`get` is the row under a key, `put` replaces the row under a row's own
key. Both are for tables whose keys are distinct. `put` keeps every key
where it stands, so it keeps them distinct, and so does appending rows
under fresh keys. A key several rows share (an order's approval, a
trade's run) sorts them into buckets (`filter_append_owned`). A fold that
inserts keys into a set collects them (`mem_foldl_insert`).
-/
import Mathlib.Data.List.Basic
import Mathlib.Data.List.Nodup
import Mathlib.Tactic.Tauto

namespace Warehouse.Lib.Keyed

variable {α β κ : Type*} {key : α → κ} {rows : List α}

-- =========================================================== distinct keys

/-- Rows under fresh keys keep the keys distinct. -/
theorem nodup_append {rows' : List α} (hnd : (rows.map key).Nodup)
    (hnd' : (rows'.map key).Nodup)
    (hfresh : ∀ a ∈ rows, ∀ b ∈ rows', key a ≠ key b) :
    ((rows ++ rows').map key).Nodup := by
  rw [List.map_append, List.nodup_append]
  refine ⟨hnd, hnd', fun x hx y hy => ?_⟩
  obtain ⟨a, ha, rfl⟩ := List.mem_map.mp hx
  obtain ⟨b, hb, rfl⟩ := List.mem_map.mp hy
  exact hfresh a ha b hb

/-- A query that only one row answers has that row's results. -/
theorem flatMap_own {f : α → List β} (hnd : (rows.map key).Nodup) {row : α}
    (hmem : row ∈ rows)
    (hothers : ∀ other ∈ rows, key other ≠ key row → f other = []) :
    rows.flatMap f = f row := by
  -- split the table at the row: nothing before or after it answers
  obtain ⟨before, after, rfl⟩ := List.append_of_mem hmem
  rw [List.map_append, List.map_cons] at hnd
  have hnotin : key row ∉ (before ++ after).map key := by
    rw [List.map_append]
    exact (List.nodup_cons.mp (List.nodup_middle.mp hnd)).1
  have hquiet : ∀ other ∈ before ++ after, f other = [] := by
    intro other hother
    apply hothers other
    · rcases List.mem_append.mp hother with hother | hother
      · exact List.mem_append_left _ hother
      · exact List.mem_append_right _ (List.mem_cons_of_mem _ hother)
    · intro heq
      apply hnotin
      rw [← heq]
      exact List.mem_map_of_mem hother
  have hbefore : before.flatMap f = [] := List.flatMap_eq_nil_iff.mpr
    fun other hother => hquiet other (List.mem_append_left _ hother)
  have hafter : after.flatMap f = [] := List.flatMap_eq_nil_iff.mpr
    fun other hother => hquiet other (List.mem_append_right _ hother)
  rw [List.flatMap_append, List.flatMap_cons, hbefore, hafter, List.nil_append,
    List.append_nil]

/-- A query that only one row answers has one result. -/
theorem filterMap_eq_singleton {f : α → Option β}
    (hnd : (rows.map key).Nodup) {row : α} (hmem : row ∈ rows) {b : β}
    (hrow : f row = some b)
    (hothers : ∀ other ∈ rows, key other ≠ key row → f other = none) :
    rows.filterMap f = [b] := by
  have hquiet : ∀ other ∈ rows, key other ≠ key row →
      (f other).toList = [] := by
    intro other hother hne
    rw [hothers other hother hne]
    rfl
  rw [List.filterMap_eq_flatMap_toList, flatMap_own hnd hmem hquiet, hrow]
  rfl

/-- Distinct keys: a row is alone under its key. -/
theorem filter_own [DecidableEq κ] (hnd : (rows.map key).Nodup) {row : α}
    (hmem : row ∈ rows) : rows.filter (key · = key row) = [row] := by
  rw [← List.filterMap_eq_filter]
  apply filterMap_eq_singleton hnd hmem
  · simp
  · intro other _ hne
    simp [hne]

/-- Rows appended under one key reach that key's bucket and no other. -/
theorem filter_append_owned [DecidableEq κ] (rows : List α) {rows' : List α}
    {owner : κ}
    (howned : ∀ row ∈ rows', key row = owner) (k : κ) :
    (rows ++ rows').filter (key · = k)
      = rows.filter (key · = k) ++ if k = owner then rows' else [] := by
  rw [List.filter_append]
  congr 1
  split
  · next h =>
    rw [List.filter_eq_self]
    intro row hr
    simpa [h] using howned row hr
  · next h =>
    rw [List.filter_eq_nil_iff]
    intro row hr heq
    apply h
    rw [← howned row hr]
    exact (of_decide_eq_true heq).symm

-- ============================================================== collecting

section Collecting

variable [BEq κ] [LawfulBEq κ] {σ : Type*} {step : σ → α → σ}
  (seen : σ → List κ) {k : κ}

/-- A fold that inserts the keys of the rows it admits collects them. -/
theorem mem_foldl_insert_if {admits : α → Bool}
    (hstep : ∀ st row, seen (step st row)
      = if admits row then (seen st).insert (key row) else seen st)
    (rows : List α) : ∀ st, k ∈ seen (rows.foldl step st)
      ↔ k ∈ seen st ∨ ∃ row ∈ rows, admits row = true ∧ key row = k := by
  induction rows with
  | nil => simp
  | cons row rest ih =>
      intro st
      rw [List.foldl_cons, ih, hstep]
      cases hadmits : admits row with
      | false => simp [hadmits]
      | true =>
          have hcomm : key row = k ↔ k = key row := eq_comm
          simp only [if_true, List.mem_insert_iff, List.exists_mem_cons_iff,
            hadmits, true_and, hcomm]
          tauto

/-- What a fold has seen is what it started with and every key it met. -/
theorem mem_foldl_insert
    (hstep : ∀ st row, seen (step st row) = (seen st).insert (key row))
    (rows : List α) (st : σ) : k ∈ seen (rows.foldl step st)
      ↔ k ∈ seen st ∨ ∃ row ∈ rows, key row = k := by
  have hall : ∀ st row, seen (step st row)
      = if (fun _ => true) row then (seen st).insert (key row) else seen st :=
    fun st row => hstep st row
  rw [mem_foldl_insert_if seen hall rows st]
  simp only [true_and]

end Collecting

-- ================================================================ updating

/-- Rows updated where they stand, under their keys, keep every key where it
stands. -/
theorem map_key_update (rows : List α) {p : α → Prop} [DecidablePred p]
    (f : α → α) (hf : ∀ row, p row → key (f row) = key row) :
    (rows.map fun row => if p row then f row else row).map key
      = rows.map key := by
  rw [List.map_map]
  refine List.map_congr_left fun row _ => ?_
  show key (if p row then f row else row) = key row
  split
  · next h => exact hf row h
  · rfl

-- ================================================================== lookup

variable [DecidableEq κ]

/-- The row under a key. -/
def get (key : α → κ) (rows : List α) (k : κ) : Option α :=
  rows.find? fun row => key row = k

theorem mem_of_get {k : κ} {row : α} (h : get key rows k = some row) :
    row ∈ rows :=
  List.mem_of_find?_eq_some h

theorem key_of_get {k : κ} {row : α} (h : get key rows k = some row) :
    key row = k := by
  simpa using List.find?_some h

/-- Distinct keys: a row is what its key finds. -/
theorem get_of_mem (hnd : (rows.map key).Nodup) {row : α} (hmem : row ∈ rows) :
    get key rows (key row) = some row := by
  cases hget : get key rows (key row) with
  | none =>
      have := List.find?_eq_none.mp hget row hmem
      simp at this
  | some other =>
      rw [List.inj_on_of_nodup_map hnd (mem_of_get hget) hmem (key_of_get hget)]

/-- Distinct keys: a bucket holds what its key finds. -/
theorem filter_key (hnd : (rows.map key).Nodup) (k : κ) :
    rows.filter (key · = k) = (get key rows k).toList := by
  cases hget : get key rows k with
  | none =>
      rw [List.filter_eq_nil_iff.mpr (List.find?_eq_none.mp hget)]
      rfl
  | some row =>
      have hkey := key_of_get hget
      subst hkey
      exact filter_own hnd (mem_of_get hget)

-- ============================================================= replacement

/-- Replace the row under the key of `row`. -/
def put (key : α → κ) (rows : List α) (row : α) : List α :=
  rows.map fun other => if key other = key row then row else other

/-- After a replacement a row is the new one or an old one. -/
theorem mem_put {row other : α} (h : other ∈ put key rows row) :
    other = row ∨ other ∈ rows := by
  obtain ⟨old, hold, rfl⟩ := List.mem_map.mp h
  split
  · exact Or.inl rfl
  · exact Or.inr hold

/-- A row of a stored key is there after being put. -/
theorem mem_put_self {old row : α} (hold : old ∈ rows)
    (hkey : key old = key row) : row ∈ put key rows row :=
  List.mem_map.mpr ⟨old, hold, if_pos hkey⟩

theorem map_key_put (rows : List α) (row : α) :
    (put key rows row).map key = rows.map key :=
  map_key_update rows (fun _ => row) fun _ h => h.symm

theorem nodup_put (hnd : (rows.map key).Nodup) (row : α) :
    ((put key rows row).map key).Nodup := by
  rw [map_key_put]
  exact hnd

/-- What the new row shares with the old one, the table keeps. -/
theorem map_put {f : α → β} (hnd : (rows.map key).Nodup) {old row : α}
    (hold : old ∈ rows) (hkey : key old = key row) (hf : f row = f old) :
    (put key rows row).map f = rows.map f := by
  unfold put
  rw [List.map_map]
  refine List.map_congr_left fun other ho => ?_
  show f (if key other = key row then row else other) = f other
  split
  · next h =>
    rw [hf, List.inj_on_of_nodup_map hnd hold ho (hkey.trans h.symm)]
  · rfl

/-- A query that reads the old row as it reads the new one answers the
same. -/
theorem filterMap_put {f : α → Option β} (hnd : (rows.map key).Nodup)
    {old row : α} (hold : old ∈ rows) (hkey : key old = key row)
    (hf : f row = f old) :
    (put key rows row).filterMap f = rows.filterMap f := by
  have hmap := congrArg (List.filterMap id) (map_put hnd hold hkey hf)
  rw [List.filterMap_map, List.filterMap_map] at hmap
  exact hmap

/-- Every other key finds what it found. -/
theorem get_put_of_ne {row : α} {k : κ} (hk : k ≠ key row) :
    get key (put key rows row) k = get key rows k := by
  induction rows with
  | nil => rfl
  | cons first rest ih =>
      unfold get put at ih ⊢
      rw [List.map_cons, List.find?_cons, List.find?_cons, ih]
      by_cases hfirst : key first = key row
      · simp [hfirst, hk.symm]
      · rw [if_neg hfirst]

/-- A replacement is found under its key, and nothing else moves. -/
theorem get_put (hnd : (rows.map key).Nodup) {old : α} (row : α)
    (hold : old ∈ rows) (hkey : key old = key row) (k : κ) :
    get key (put key rows row) k
      = if k = key row then some row else get key rows k := by
  by_cases hk : k = key row
  · rw [if_pos hk, hk]
    exact get_of_mem (nodup_put hnd row) (mem_put_self hold hkey)
  · rw [if_neg hk, get_put_of_ne hk]

end Warehouse.Lib.Keyed
