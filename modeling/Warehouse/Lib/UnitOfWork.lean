/-
Units of work over keyed tables: a row added in a session is staged
beside the flushed ones, a look sees the flushed ones only, and a flush
that would leave two rows under one key fails.

`ensureAll` is the loop that adds a row for each item unless the table has
one of the item's owner already. No look sees a staged row, so the loop
stages a row for every item whose owner is missing, the second item of one
owner included (`added_ensureAll`). So its flush succeeds exactly when no
missing owner has two items (`flushable_ensureAll_iff`), and then there is
one row for each of them (`completed_ensureAll`).
-/
import Warehouse.Lib.Keyed

namespace Warehouse.Lib.UnitOfWork

variable {α κ ω : Type*}

/-- A table whose keys are distinct. -/
structure Table (key : α → κ) where
  rows : List α
  keys : (rows.map key).Nodup

/-- A table in a session: the flushed rows, and those added since. -/
structure Staged (α : Type*) where
  flushed : List α
  added : List α := []

/-- A table without rows. -/
def Table.empty (key : α → κ) : Table key := ⟨[], List.nodup_nil⟩

/-- A table at the start of a session: nothing added yet. -/
def Table.staged {key : α → κ} (table : Table key) : Staged α :=
  { flushed := table.rows }

namespace Staged

/-- The row waits for the next flush. -/
def add (staged : Staged α) (row : α) : Staged α :=
  { staged with added := staged.added ++ [row] }

/-- The rows a flush leaves. -/
def rows (staged : Staged α) : List α := staged.flushed ++ staged.added

/-- A look: whether a flushed row is the owner's. -/
def Has (own : α → ω) (staged : Staged α) (owner : ω) : Prop :=
  owner ∈ staged.flushed.map own

instance [DecidableEq ω] (own : α → ω) (staged : Staged α) (owner : ω) :
    Decidable (staged.Has own owner) :=
  inferInstanceAs (Decidable (owner ∈ staged.flushed.map own))

/-- Add a row unless its owner has one. -/
def ensure [DecidableEq ω] (own : α → ω) (staged : Staged α) (row : α) :
    Staged α :=
  if staged.Has own (own row) then staged else staged.add row

/-- Items ensured one after the other. -/
def ensureAll [DecidableEq ω] (own : α → ω) (staged : Staged α)
    (items : List α) : Staged α :=
  items.foldl (ensure own) staged

/-- The table after a flush, unless two rows have one key. -/
def flush [DecidableEq κ] (key : α → κ) (staged : Staged α) :
    Option (Table key) :=
  if h : (staged.rows.map key).Nodup then some ⟨staged.rows, h⟩ else none

/-- Rows under distinct keys are flushed. -/
theorem flush_ok [DecidableEq κ] {key : α → κ} {staged : Staged α}
    (h : (staged.rows.map key).Nodup) :
    staged.flush key = some ⟨staged.rows, h⟩ := dif_pos h

theorem flush_eq_none [DecidableEq κ] {key : α → κ} {staged : Staged α}
    (h : ¬ (staged.rows.map key).Nodup) : staged.flush key = none := dif_neg h

-- ================================================================== ensuring

variable [DecidableEq ω] {own : α → ω}

/-- The items no flushed row is the owner's of. -/
def missing (own : α → ω) (flushed items : List α) : List α :=
  items.filter fun row => own row ∉ flushed.map own

theorem missing_cons_of_mem {table items : List α} {row : α}
    (h : own row ∈ table.map own) :
    missing own table (row :: items) = missing own table items := by
  apply List.filter_cons_of_neg
  rw [decide_eq_true_eq]
  exact not_not.mpr h

theorem missing_cons_of_notMem {table items : List α} {row : α}
    (h : own row ∉ table.map own) :
    missing own table (row :: items) = row :: missing own table items :=
  List.filter_cons_of_pos (decide_eq_true h)

@[simp] theorem flushed_ensure (staged : Staged α) (row : α) :
    (staged.ensure own row).flushed = staged.flushed := by
  unfold ensure
  split <;> rfl

@[simp] theorem flushed_ensureAll (items : List α) : ∀ staged : Staged α,
    (staged.ensureAll own items).flushed = staged.flushed := by
  induction items with
  | nil => exact fun _ => rfl
  | cons row rest ih =>
      intro staged
      show (ensureAll own (staged.ensure own row) rest).flushed = _
      rw [ih, flushed_ensure]

/-- A staged row hides nothing from the looks after it. -/
theorem added_ensureAll (items : List α) : ∀ staged : Staged α,
    (staged.ensureAll own items).added
      = staged.added ++ missing own staged.flushed items := by
  induction items with
  | nil => exact fun _ => (List.append_nil _).symm
  | cons row rest ih =>
      intro staged
      show (ensureAll own (staged.ensure own row) rest).added = _
      rw [ih, flushed_ensure]
      by_cases hhas : staged.Has own (own row)
      · unfold ensure
        rw [if_pos hhas, missing_cons_of_mem hhas]
      · unfold ensure
        rw [if_neg hhas, missing_cons_of_notMem hhas]
        show (staged.added ++ [row]) ++ _ = _
        rw [List.append_assoc]
        rfl

/-- Ensuring items adds the missing ones, each once. -/
theorem rows_ensureAll (table items : List α) :
    (ensureAll own { flushed := table } items).rows
      = table ++ missing own table items := by
  unfold rows
  rw [flushed_ensureAll, added_ensureAll]
  rfl

theorem ensureAll_append (items items' : List α) (staged : Staged α) :
    staged.ensureAll own (items ++ items')
      = (staged.ensureAll own items).ensureAll own items' :=
  List.foldl_append

-- ================================================================== flushing

/-- What is missing: the items nobody owns yet. -/
theorem mem_missing {table items : List α} {row : α} :
    row ∈ missing own table items
      ↔ row ∈ items ∧ own row ∉ table.map own := by
  unfold missing
  rw [List.mem_filter, decide_eq_true_eq]

/-- Where no item's owner has a row, every item has one after the loop. -/
theorem rows_ensureAll_of_fresh {table items : List α}
    (h : ∀ row ∈ items, own row ∉ table.map own) :
    (ensureAll own { flushed := table } items).rows = table ++ items := by
  have hall : missing own table items = items :=
    List.filter_eq_self.mpr fun row hrow => decide_eq_true (h row hrow)
  rw [rows_ensureAll, hall]

/-- A row after the loop was there or is an item. -/
theorem mem_ensureAll {table items : List α} {row : α}
    (h : row ∈ (ensureAll own { flushed := table } items).rows) :
    row ∈ table ∨ row ∈ items := by
  rw [rows_ensureAll, List.mem_append] at h
  exact h.imp_right fun hmissing => (mem_missing.mp hmissing).1

/-- By owner, they are the owners not there. -/
theorem map_missing (table items : List α) :
    (missing own table items).map own
      = (items.map own).filter fun owner => owner ∉ table.map own := by
  unfold missing
  rw [List.filter_map]
  rfl

/-- Distinct among the missing: no missing owner twice among the items. -/
theorem nodup_missing_iff {table items : List α} :
    ((missing own table items).map own).Nodup
      ↔ ∀ owner, 1 < (items.map own).count owner → owner ∈ table.map own := by
  rw [map_missing, List.nodup_iff_count_le_one]
  constructor
  · intro hnodup owner htwice
    by_contra hmissing
    have hle := hnodup owner
    rw [List.count_filter (by simpa using hmissing)] at hle
    omega
  · intro hshared owner
    by_cases hthere : owner ∈ table.map own
    · rw [List.count_eq_zero_of_not_mem]
      · omega
      · intro hmem
        have hgone := (List.mem_filter.mp hmem).2
        simp only [decide_eq_true_eq] at hgone
        exact hgone hthere
    · rw [List.count_filter (by simpa using hthere)]
      by_contra htwice
      exact hthere (hshared owner (by omega))

/-- The loop takes no owner's row. -/
theorem kept_ensureAll {table items : List α} {owner : ω}
    (h : owner ∈ table.map own) :
    owner ∈ (ensureAll own { flushed := table } items).rows.map own := by
  rw [rows_ensureAll, List.map_append]
  exact List.mem_append_left _ h

/-- After the loop every item's owner has a row. -/
theorem owned_ensureAll {table items : List α} {item : α}
    (hitem : item ∈ items) :
    own item ∈ (ensureAll own { flushed := table } items).rows.map own := by
  rw [rows_ensureAll, List.map_append, List.mem_append]
  by_cases hthere : own item ∈ table.map own
  · exact .inl hthere
  · exact .inr (List.mem_map_of_mem (mem_missing.mpr ⟨hitem, hthere⟩))

/-- Where a key tells the owner, and the items of one owner have one key,
the loop's rows fit the table exactly when every owner with two items had
a row before. -/
theorem flushable_ensureAll_iff {key : α → κ} {table items : List α}
    (htable : (table.map key).Nodup)
    (hown : ∀ a b, key a = key b → own a = own b)
    (hkey : ∀ a ∈ items, ∀ b ∈ items, own a = own b → key a = key b) :
    ((ensureAll own { flushed := table } items).rows.map key).Nodup
      ↔ ∀ owner, 1 < (items.map own).count owner → owner ∈ table.map own := by
  rw [rows_ensureAll, ← nodup_missing_iff, List.map_append, List.nodup_append]
  have hapart : ∀ k ∈ table.map key, ∀ k' ∈ (missing own table items).map key,
      k ≠ k' := by
    intro k hk k' hk' heq
    obtain ⟨a, ha, rfl⟩ := List.mem_map.mp hk
    obtain ⟨b, hb, rfl⟩ := List.mem_map.mp hk'
    apply (mem_missing.mp hb).2
    rw [← hown a b heq]
    exact List.mem_map_of_mem ha
  have hsame : ((missing own table items).map key).Nodup
      ↔ ((missing own table items).map own).Nodup := by
    constructor
    · intro hnodup
      refine List.Nodup.map_on ?_ (List.Nodup.of_map key hnodup)
      intro a ha b hb heq
      exact List.inj_on_of_nodup_map hnodup ha hb
        (hkey a (mem_missing.mp ha).1 b (mem_missing.mp hb).1 heq)
    · intro hnodup
      refine List.Nodup.map_on ?_ (List.Nodup.of_map own hnodup)
      intro a ha b hb heq
      exact List.inj_on_of_nodup_map hnodup ha hb (hown a b heq)
  constructor
  · intro hall
    exact hsame.mp hall.2.1
  · intro hnodup
    exact ⟨htable, hsame.mpr hnodup, hapart⟩

/-- Items of distinct owners, each its own key, always fit. -/
theorem flushable_ensureAll {key : α → κ} [DecidableEq κ] {table items : List α}
    (htable : (table.map key).Nodup) (hitems : (items.map key).Nodup) :
    ((ensureAll key { flushed := table } items).rows.map key).Nodup := by
  rw [flushable_ensureAll_iff htable (fun _ _ h => h) (fun _ _ _ _ h => h)]
  intro owner htwice
  have hle := List.nodup_iff_count_le_one.mp hitems owner
  omega

-- ================================================================ completion

/-- One of the items for every owner that had no row; the rows of the
others are what they were. -/
structure Completed (own : α → ω) (items table table' : List α) : Prop where
  filled : ∀ item ∈ items, own item ∉ table.map own →
    ∃ row ∈ items, table'.filter (own · = own item) = [row]
  kept : ∀ owner, owner ∈ table.map own ∨ owner ∉ items.map own →
    table'.filter (own · = owner) = table.filter (own · = owner)

/-- A loop whose rows fit has completed its table. -/
theorem completed_ensureAll {table items : List α}
    (hshared : ∀ owner, 1 < (items.map own).count owner →
      owner ∈ table.map own) :
    Completed own items table
      (ensureAll own { flushed := table } items).rows := by
  rw [rows_ensureAll]
  constructor
  · intro item hitem hmissing
    have hgone : table.filter (own · = own item) = [] := by
      rw [List.filter_eq_nil_iff]
      intro row hrow heq
      apply hmissing
      rw [← of_decide_eq_true heq]
      exact List.mem_map_of_mem hrow
    have hnodup := nodup_missing_iff.mpr hshared
    have hmem : item ∈ missing own table items :=
      mem_missing.mpr ⟨hitem, hmissing⟩
    refine ⟨item, hitem, ?_⟩
    rw [List.filter_append, hgone, List.nil_append]
    exact Keyed.filter_own hnodup hmem
  · intro owner howner
    have hnone : (missing own table items).filter (own · = owner) = [] := by
      rw [List.filter_eq_nil_iff]
      intro row hrow heq
      have hwhose := of_decide_eq_true heq
      have hrow := mem_missing.mp hrow
      rcases howner with hthere | hother
      · apply hrow.2
        rw [hwhose]
        exact hthere
      · apply hother
        rw [← hwhose]
        exact List.mem_map_of_mem hrow.1
    rw [List.filter_append, hnone, List.append_nil]

/-- So has one whose items have distinct owners. -/
theorem completed_ensureAll_of_nodup {table items : List α}
    (hitems : (items.map own).Nodup) :
    Completed own items table
      (ensureAll own { flushed := table } items).rows := by
  apply completed_ensureAll
  intro owner htwice
  have hle := List.nodup_iff_count_le_one.mp hitems owner
  omega

end Staged

end Warehouse.Lib.UnitOfWork
