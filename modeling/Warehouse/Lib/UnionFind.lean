/-
Union-find with path halving, over an arbitrary key type.

A parent map is a total function `α → α`; a key that is its own parent
is a root. `UnionFind` carries the forest condition as a field, so a
cyclic parent map cannot be built, and `find` is a total function: its
loop is well founded because every turn of it shortens the way to the
root (`height`).

# The argument

Everything is said through `root`, the fixed point a key's parent chain
ends in:

- halving (`halve`) re-points a key at its grandparent, so it moves no
  root and lengthens no chain (`root_halve`, `height_halve_le`);
- `find` is a run of halvings, so it returns the root and moves none
  (`find_snd`, `root_find`);
- `union` re-points one root at another, so it merges exactly two
  classes and names the merged class by the left root (`root_union`).

`sameClass_unionAll` then reads a whole sequence of unions: two keys
share a root exactly when the linked pairs connect them.
-/
import Mathlib.Logic.Relation
import Mathlib.Logic.Function.Iterate
import Mathlib.Tactic.Conv

namespace Warehouse.Lib

variable {α : Type*} [DecidableEq α]

-- ========================================================= the structure

/-- `depth` drops along every parent edge that is not a root's loop. -/
def Ranks (parent : α → α) (depth : α → Nat) : Prop :=
  ∀ x, parent x ≠ x → depth (parent x) < depth x

/-- A parent map without cycles other than the roots' self-loops. -/
structure UnionFind (α : Type*) where
  parent : α → α
  acyclic : ∃ depth : α → Nat, Ranks parent depth

namespace UnionFind

/-- Every key its own class. -/
def new : UnionFind α where
  parent := id
  acyclic := ⟨fun _ => 0, fun _ h => absurd rfl h⟩

/-- The number of parent edges between a key and its root. -/
def height (uf : UnionFind α) (x : α) : Nat :=
  if _h : uf.parent x = x then 0 else uf.height (uf.parent x) + 1
termination_by Classical.choose uf.acyclic x
decreasing_by exact Classical.choose_spec uf.acyclic x _h

/-- The fixed point a key's parent chain ends in. -/
def root (uf : UnionFind α) (x : α) : α :=
  if _h : uf.parent x = x then x else uf.root (uf.parent x)
termination_by Classical.choose uf.acyclic x
decreasing_by exact Classical.choose_spec uf.acyclic x _h

theorem height_of_isRoot {uf : UnionFind α} {x : α} (h : uf.parent x = x) :
    uf.height x = 0 := by
  rw [height, dif_pos h]

/-- Any other element is one above its parent. -/
theorem height_of_not_isRoot {uf : UnionFind α} {x : α} (h : uf.parent x ≠ x) :
    uf.height x = uf.height (uf.parent x) + 1 := by
  rw [height, dif_neg h]

theorem root_of_isRoot {uf : UnionFind α} {x : α} (h : uf.parent x = x) :
    uf.root x = x := by
  rw [root, dif_pos h]

/-- `height` is itself a rank function: the canonical one. -/
theorem ranks_height (uf : UnionFind α) : Ranks uf.parent uf.height := by
  intro x h
  rw [height_of_not_isRoot h]
  exact Nat.lt_succ_self _

/-- Induction along the parent chain: roots, then children of keys done. -/
theorem chain_induction (uf : UnionFind α) {P : α → Prop}
    (hroot : ∀ x, uf.parent x = x → P x)
    (hstep : ∀ x, uf.parent x ≠ x → P (uf.parent x) → P x) (x : α) : P x := by
  induction hn : uf.height x using Nat.strongRecOn generalizing x with
  | ind n ih =>
      by_cases h : uf.parent x = x
      · exact hroot x h
      · exact hstep x h (ih _ (hn ▸ uf.ranks_height x h) _ rfl)

/-- `height` is the least rank function. -/
theorem height_le {uf : UnionFind α} {depth : α → Nat}
    (h : Ranks uf.parent depth) (x : α) : uf.height x ≤ depth x := by
  induction x using uf.chain_induction with
  | hroot x hx => rw [height_of_isRoot hx]; exact Nat.zero_le _
  | hstep x hx ih =>
      rw [height_of_not_isRoot hx]
      exact Nat.succ_le_of_lt (Nat.lt_of_le_of_lt ih (h x hx))

/-- A parent has the same root. -/
@[simp] theorem root_parent (uf : UnionFind α) (x : α) :
    uf.root (uf.parent x) = uf.root x := by
  by_cases h : uf.parent x = x
  · rw [h]
  · exact (show uf.root x = _ by rw [root, dif_neg h]).symm

@[simp] theorem parent_root (uf : UnionFind α) (x : α) :
    uf.parent (uf.root x) = uf.root x := by
  induction x using uf.chain_induction with
  | hroot x hx => rw [root_of_isRoot hx, hx]
  | hstep x _ ih => rwa [root_parent] at ih

@[simp] theorem root_root (uf : UnionFind α) (x : α) :
    uf.root (uf.root x) = uf.root x :=
  root_of_isRoot (uf.parent_root x)

/-- Before any union every element is a root. -/
theorem root_new (x : α) : (new : UnionFind α).root x = x :=
  root_of_isRoot rfl

/-- A map that is constant along parent edges and fixes the roots is
`root`: the way every operation below identifies the new roots. -/
theorem root_eq_of_invariant (uf : UnionFind α) {ρ : α → α}
    (hfix : ∀ x, uf.parent x = x → ρ x = x)
    (hstep : ∀ x, ρ (uf.parent x) = ρ x) (x : α) : uf.root x = ρ x := by
  induction x using uf.chain_induction with
  | hroot x hx => rw [root_of_isRoot hx, hfix x hx]
  | hstep x _ ih => rw [← root_parent, ih, hstep]

-- ============================================================== halving

/-- Re-point one key at its grandparent. -/
def halve (uf : UnionFind α) (key : α) : UnionFind α where
  parent := Function.update uf.parent key (uf.parent (uf.parent key))
  acyclic := by
    refine ⟨uf.height, fun x hx => ?_⟩
    by_cases hk : x = key
    · subst hk
      rw [Function.update_self] at hx ⊢
      by_cases hp : uf.parent x = x
      · rw [hp, hp] at hx
        exact absurd rfl hx
      · by_cases hpp : uf.parent (uf.parent x) = uf.parent x
        · rw [hpp]
          exact uf.ranks_height x hp
        · exact Nat.lt_trans (uf.ranks_height _ hpp) (uf.ranks_height x hp)
    · rw [Function.update_of_ne hk] at hx ⊢
      exact uf.ranks_height x hx

/-- Halving points an element at its grandparent. -/
theorem halve_parent_self (uf : UnionFind α) (key : α) :
    (uf.halve key).parent key = uf.parent (uf.parent key) :=
  Function.update_self ..

theorem halve_parent_of_ne (uf : UnionFind α) {key x : α} (h : x ≠ key) :
    (uf.halve key).parent x = uf.parent x :=
  Function.update_of_ne h ..

/-- The old heights still rank the halved map. -/
theorem ranks_halve (uf : UnionFind α) (key : α) :
    Ranks (uf.halve key).parent uf.height := by
  intro x hx
  by_cases hk : x = key
  · subst hk
    rw [halve_parent_self] at hx ⊢
    by_cases hp : uf.parent x = x
    · rw [hp, hp] at hx
      exact absurd rfl hx
    · by_cases hpp : uf.parent (uf.parent x) = uf.parent x
      · rw [hpp]
        exact uf.ranks_height x hp
      · exact Nat.lt_trans (uf.ranks_height _ hpp) (uf.ranks_height x hp)
  · rw [halve_parent_of_ne uf hk] at hx ⊢
    exact uf.ranks_height x hx

theorem height_halve_le (uf : UnionFind α) (key x : α) :
    (uf.halve key).height x ≤ uf.height x :=
  height_le (uf.ranks_halve key) x

@[simp] theorem root_halve (uf : UnionFind α) (key x : α) :
    (uf.halve key).root x = uf.root x := by
  refine (uf.halve key).root_eq_of_invariant ?_ ?_ x
  · intro x hx
    by_cases hk : x = key
    · subst hk
      rw [halve_parent_self] at hx
      by_cases hp : uf.parent x = x
      · exact root_of_isRoot hp
      · -- a two-cycle would rank below itself
        have h₁ := uf.ranks_height x hp
        have h₂ := uf.ranks_height (uf.parent x) (by rw [hx]; exact Ne.symm hp)
        rw [hx] at h₂
        exact absurd (Nat.lt_trans h₁ h₂) (Nat.lt_irrefl _)
    · rw [halve_parent_of_ne uf hk] at hx
      exact root_of_isRoot hx
  · intro x
    by_cases hk : x = key
    · subst hk
      rw [halve_parent_self, root_parent, root_parent]
    · rw [halve_parent_of_ne uf hk, root_parent]

-- ================================================================= find

/-- Walk to the root, halving the chain on the way: the updated map and
the root. -/
def find (uf : UnionFind α) (key : α) : UnionFind α × α :=
  if _h : uf.parent key = key then (uf, key)
  else (uf.halve key).find ((uf.halve key).parent key)
termination_by uf.height key
decreasing_by
  rw [halve_parent_self]
  refine Nat.lt_of_le_of_lt (uf.height_halve_le key _) ?_
  by_cases hpp : uf.parent (uf.parent key) = uf.parent key
  · rw [hpp]
    exact uf.ranks_height key _h
  · exact Nat.lt_trans (uf.ranks_height _ hpp) (uf.ranks_height key _h)

/-- What the loop returns, and that it moves no root. -/
theorem find_spec (uf : UnionFind α) (key : α) :
    (uf.find key).2 = uf.root key ∧ ∀ x, (uf.find key).1.root x = uf.root x := by
  induction uf, key using find.induct with
  | case1 uf key h =>
      rw [find, dif_pos h]
      exact ⟨(root_of_isRoot h).symm, fun _ => rfl⟩
  | case2 uf key h ih =>
      rw [find, dif_neg h]
      obtain ⟨hret, hroots⟩ := ih
      refine ⟨?_, fun x => ?_⟩
      · rw [hret, root_parent, root_halve]
      · rw [hroots, root_halve]

/-- `find` answers with the root. -/
@[simp] theorem find_snd (uf : UnionFind α) (key : α) :
    (uf.find key).2 = uf.root key :=
  (uf.find_spec key).1

@[simp] theorem root_find (uf : UnionFind α) (key x : α) :
    (uf.find key).1.root x = uf.root x :=
  (uf.find_spec key).2 x

/-- One turn of the loop body on a bare parent map and the key in hand. -/
def loopBody (s : (α → α) × α) : (α → α) × α :=
  let parent := Function.update s.1 s.2 (s.1 (s.1 s.2))
  (parent, parent s.2)

/-- The loop's exit test: the key in hand is its own parent. -/
def loopDone (s : (α → α) × α) : Prop := s.1 s.2 = s.2

/-- The bare loop leaves after finitely many turns, with the map and the
root `find` returns. -/
theorem loop_terminates (uf : UnionFind α) (key : α) :
    ∃ turns : Nat, (loopBody^[turns] (uf.parent, key))
        = ((uf.find key).1.parent, (uf.find key).2)
      ∧ loopDone (loopBody^[turns] (uf.parent, key))
      ∧ ∀ earlier < turns, ¬ loopDone (loopBody^[earlier] (uf.parent, key)) := by
  induction uf, key using find.induct with
  | case1 uf key h =>
      refine ⟨0, ?_, h, fun _ h => absurd h (Nat.not_lt_zero _)⟩
      rw [find, dif_pos h]
      rfl
  | case2 uf key h ih =>
      obtain ⟨turns, hret, hdone, hfirst⟩ := ih
      have hbody : loopBody (uf.parent, key)
          = ((uf.halve key).parent, (uf.halve key).parent key) := rfl
      refine ⟨turns + 1, ?_, ?_, fun earlier hlt => ?_⟩
      · rw [Function.iterate_succ_apply, hbody, hret, find.eq_def uf, dif_neg h]
      · rw [Function.iterate_succ_apply, hbody]
        exact hdone
      · cases earlier with
        | zero => exact h
        | succ earlier =>
            rw [Function.iterate_succ_apply, hbody]
            exact hfirst earlier (Nat.lt_of_succ_lt_succ hlt)

-- ================================================================ union

@[simp] theorem find_isRoot (uf : UnionFind α) (key : α) :
    (uf.find key).1.parent (uf.find key).2 = (uf.find key).2 := by
  have h := (uf.find key).1.parent_root key
  rwa [root_find, ← find_snd] at h

/-- Re-point a root at a key of a different class. -/
def link (uf : UnionFind α) (left right : α) (hr : uf.parent right = right)
    (hne : uf.root left ≠ right) : UnionFind α where
  parent := Function.update uf.parent right left
  acyclic := by
    -- the right class hangs below the left key, so it ranks above it
    refine ⟨fun x => if uf.root x = right then uf.height x + uf.height left + 1
      else uf.height x, fun x hx => ?_⟩
    by_cases hk : x = right
    · subst hk
      simp only [Function.update_self]
      rw [if_neg hne, if_pos (root_of_isRoot hr)]
      omega
    · rw [Function.update_of_ne hk] at hx ⊢
      have := uf.ranks_height x hx
      simp only [root_parent]
      split <;> omega

/-- Linking points a root at the other one. -/
theorem link_parent_self {uf : UnionFind α} {left right : α}
    (hr : uf.parent right = right) (hne : uf.root left ≠ right) :
    (uf.link left right hr hne).parent right = left :=
  Function.update_self ..

theorem link_parent_of_ne {uf : UnionFind α} {left right x : α}
    (hr : uf.parent right = right) (hne : uf.root left ≠ right)
    (hx : x ≠ right) :
    (uf.link left right hr hne).parent x = uf.parent x :=
  Function.update_of_ne hx ..

/-- Linking moves exactly the keys of the linked root's class. -/
theorem root_link {uf : UnionFind α} {left right : α}
    (hr : uf.parent right = right) (hne : uf.root left ≠ right) (x : α) :
    (uf.link left right hr hne).root x
      = if uf.root x = right then uf.root left else uf.root x := by
  refine (uf.link left right hr hne).root_eq_of_invariant
    (ρ := fun x => if uf.root x = right then uf.root left else uf.root x)
    (fun x hx => ?_) (fun x => ?_) x
  · by_cases hk : x = right
    · subst hk
      rw [link_parent_self] at hx
      rw [hx, root_of_isRoot hr] at hne
      exact absurd rfl hne
    · rw [link_parent_of_ne hr hne hk] at hx
      simp only [root_of_isRoot hx, if_neg hk]
  · by_cases hk : x = right
    · subst hk
      simp only [link_parent_self]
      rw [if_neg hne, if_pos (root_of_isRoot hr)]
    · simp only [link_parent_of_ne hr hne hk, root_parent]

/-- Merge the classes of two keys: the right root goes below the left. -/
def union (uf : UnionFind α) (left right : α) : UnionFind α :=
  let rootLeft := (uf.find left).2
  let uf₁ := (uf.find left).1
  let rootRight := (uf₁.find right).2
  let uf₂ := (uf₁.find right).1
  if h : rootLeft = rootRight then uf₂
  else uf₂.link rootLeft rootRight (uf₁.find_isRoot right)
    (by simpa [rootLeft, uf₂, uf₁] using h)

/-- A union redirects one root to the other. -/
theorem root_union (uf : UnionFind α) (left right x : α) :
    (uf.union left right).root x
      = if uf.root x = uf.root right then uf.root left else uf.root x := by
  unfold union
  by_cases h : (uf.find left).2 = ((uf.find left).1.find right).2
  · rw [dif_pos h, root_find, root_find]
    simp only [find_snd, root_find] at h
    split
    · next hx => rw [hx, h]
    · rfl
  · rw [dif_neg h, root_link]
    simp only [find_snd, root_find, root_root]

/-- Two keys share a class after a union exactly when they shared one
before or the union joined theirs. -/
theorem root_union_eq_iff (uf : UnionFind α) (left right x y : α) :
    (uf.union left right).root x = (uf.union left right).root y
      ↔ uf.root x = uf.root y
        ∨ (uf.root x = uf.root left ∧ uf.root y = uf.root right)
        ∨ (uf.root x = uf.root right ∧ uf.root y = uf.root left) := by
  rw [root_union, root_union]
  split <;> split <;> grind

-- ======================================================= bare parent maps

/-- The bare parent maps that turns of the `find` loop and links of two
distinct roots reach from the singletons: everything a union can leave
behind, the middle of its two walks included. -/
inductive Built : (α → α) → Prop
  | new : Built id
  | turn {p : α → α} (key : α) :
      Built p → ¬ loopDone (p, key) → Built (loopBody (p, key)).1
  | link {p : α → α} (left right : α) :
      Built p → p left = left → p right = right → left ≠ right →
      Built (Function.update p right left)

/-- Every built map is a forest. -/
theorem Built.exists_unionFind {p : α → α} (h : Built p) :
    ∃ uf : UnionFind α, uf.parent = p := by
  induction h with
  | new => exact ⟨UnionFind.new, rfl⟩
  | turn key _ _ ih =>
      obtain ⟨uf, rfl⟩ := ih
      exact ⟨uf.halve key, rfl⟩
  | link left right _ hl hr hne ih =>
      obtain ⟨uf, rfl⟩ := ih
      exact ⟨uf.link left right hr (by rwa [root_of_isRoot hl]), rfl⟩

/-- The bare loop leaves every built map, whatever key it starts at. -/
theorem Built.loop_terminates {p : α → α} (h : Built p) (key : α) :
    ∃ turns : Nat, loopDone (loopBody^[turns] (p, key)) := by
  obtain ⟨uf, rfl⟩ := h.exists_unionFind
  obtain ⟨turns, -, hdone, -⟩ := uf.loop_terminates key
  exact ⟨turns, hdone⟩

/-- Structures that finds and unions can build: after a find, -/
theorem built_find (uf : UnionFind α) (key : α) (h : Built uf.parent) :
    Built (uf.find key).1.parent := by
  induction uf, key using find.induct with
  | case1 uf key hroot =>
      rw [find, dif_pos hroot]
      exact h
  | case2 uf key hroot ih =>
      rw [find, dif_neg hroot]
      exact ih (.turn key h hroot)

theorem built_union (uf : UnionFind α) (left right : α)
    (h : Built uf.parent) : Built (uf.union left right).parent := by
  have h₁ := built_find uf left h
  have h₂ := built_find (uf.find left).1 right h₁
  unfold union
  by_cases heq : (uf.find left).2 = ((uf.find left).1.find right).2
  · rw [dif_pos heq]
    exact h₂
  · rw [dif_neg heq]
    refine .link _ _ h₂ ?_ (find_isRoot _ _) heq
    have hroot := ((uf.find left).1.find right).1.parent_root left
    rwa [root_find, root_find, ← find_snd] at hroot

-- =========================================================== many unions

/-- A sequence of unions. -/
def unionAll (uf : UnionFind α) (pairs : List (α × α)) : UnionFind α :=
  pairs.foldl (fun u p => u.union p.1 p.2) uf

theorem built_unionAll (pairs : List (α × α)) :
    ∀ uf : UnionFind α, Built uf.parent → Built (uf.unionAll pairs).parent := by
  induction pairs with
  | nil => intro uf h; exact h
  | cons p rest ih =>
      intro uf h
      exact ih (uf.union p.1 p.2) (built_union uf p.1 p.2 h)

omit [DecidableEq α] in
/-- An equivalence that contains a relation contains its closure. -/
private theorem eqvGen_le {r e : α → α → Prop} (he : Equivalence e)
    (h : ∀ x y, r x y → e x y) {x y : α} (hxy : Relation.EqvGen r x y) :
    e x y :=
  he.eqvGen_iff.mp (Relation.EqvGen.mono h x y hxy)

/-- The classes after a sequence of unions are the closure of the classes
before and the joined pairs. -/
theorem root_unionAll_eq_iff (pairs : List (α × α)) :
    ∀ (uf : UnionFind α) (x y : α),
      (uf.unionAll pairs).root x = (uf.unionAll pairs).root y
        ↔ Relation.EqvGen
            (fun a b => uf.root a = uf.root b ∨ (a, b) ∈ pairs) x y := by
  induction pairs with
  | nil =>
      intro uf x y
      constructor
      · intro h
        exact .rel _ _ (Or.inl h)
      · refine eqvGen_le (e := fun a b => uf.root a = uf.root b)
          ⟨fun _ => rfl, Eq.symm, Eq.trans⟩ fun a b h => ?_
        simpa using h
  | cons p pairs ih =>
      obtain ⟨l, r⟩ := p
      intro uf x y
      have hstep : (uf.unionAll ((l, r) :: pairs))
          = (uf.union l r).unionAll pairs := rfl
      rw [hstep, ih]
      let old : α → α → Prop := fun a b =>
        uf.root a = uf.root b ∨ (a, b) ∈ (l, r) :: pairs
      have hroot : ∀ {a b}, uf.root a = uf.root b → Relation.EqvGen old a b :=
        fun h => .rel _ _ (Or.inl h)
      have hlr : Relation.EqvGen old l r :=
        .rel _ _ (Or.inr (List.mem_cons_self ..))
      constructor
      · refine eqvGen_le (Relation.EqvGen.is_equivalence _) fun a b h => ?_
        rcases h with h | h
        · rcases (root_union_eq_iff uf l r a b).mp h with h | ⟨ha, hb⟩ | ⟨ha, hb⟩
          · exact hroot h
          · exact ((hroot ha).trans _ _ _ hlr).trans _ _ _ (hroot hb.symm)
          · exact ((hroot ha).trans _ _ _ (hlr.symm _ _)).trans _ _ _
              (hroot hb.symm)
        · exact .rel _ _ (Or.inr (List.mem_cons_of_mem _ h))
      · refine Relation.EqvGen.mono (fun a b h => ?_) x y
        rcases h with h | h
        · exact Or.inl ((root_union_eq_iff uf l r a b).mpr (Or.inl h))
        · rcases List.mem_cons.mp h with h | h
          · cases h
            exact Or.inl ((root_union_eq_iff uf l r l r).mpr
              (Or.inr (Or.inl ⟨rfl, rfl⟩)))
          · exact Or.inr h

/-- From singletons: two keys share a root exactly when the joined pairs
connect them. -/
theorem sameClass_unionAll (pairs : List (α × α)) (x y : α) :
    (new.unionAll pairs).root x = (new.unionAll pairs).root y
      ↔ Relation.EqvGen (fun a b => (a, b) ∈ pairs) x y := by
  rw [root_unionAll_eq_iff]
  simp only [root_new]
  constructor
  · refine eqvGen_le (Relation.EqvGen.is_equivalence _) fun a b h => ?_
    rcases h with rfl | h
    · exact .refl _
    · exact .rel _ _ h
  · exact Relation.EqvGen.mono (fun _ _ h => Or.inr h) x y

end UnionFind

end Warehouse.Lib
