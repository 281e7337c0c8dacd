/-
Units of work: computations that may raise and whose state outlives the
raise, and the scope that commits what they leave or takes it back.

A handler runs on the state the failing body has left (`exec_tryCatch`),
so what it writes is in the unit of work; whether it is in the committed
state is up to the scope (`scope_error`). `Keeps` is a two-state
postcondition over both outcomes: proved per operation, closed under
sequencing, loops and handlers.

# Using it

Proofs do not unfold the monads: `exec` runs a unit of work from a state,
every constructor has its `exec` lemma, and the lemmas on binds follow the
successful or the failing step. A property of states that survives every
step of a unit of work survives the unit (`holds_bind`), whether it ends in
a value or in an exception.
-/
import Mathlib.Order.Defs.Unbundled

namespace Warehouse.Lib

/-- A computation on a state that returns or raises. -/
abbrev Work (σ ε α : Type) := ExceptT ε (StateM σ) α

namespace Work

variable {σ ε α β : Type}

/-- The outcome, and the state it leaves. -/
def exec (work : Work σ ε α) (s : σ) : Except ε α × σ :=
  (ExceptT.run work).run s

/-- A call that takes the state and returns its outcome with a new one. -/
def call (f : σ → Except ε α × σ) : Work σ ε α :=
  ExceptT.mk f

/-- A call that leaves the state alone when it raises. -/
def attempt (f : σ → Except ε (α × σ)) : Work σ ε α :=
  call fun s =>
    match f s with
    | .ok (a, s') => (.ok a, s')
    | .error e => (.error e, s)

-- ================================================================ execution

@[simp] theorem exec_pure (a : α) (s : σ) :
    exec (pure a : Work σ ε α) s = (.ok a, s) := rfl

@[simp] theorem exec_throw (e : ε) (s : σ) :
    exec (throw e : Work σ ε α) s = (.error e, s) := rfl

@[simp] theorem exec_get (s : σ) :
    exec (get : Work σ ε σ) s = (.ok s, s) := rfl

@[simp] theorem exec_modify (f : σ → σ) (s : σ) :
    exec (modify f : Work σ ε PUnit) s = (.ok ⟨⟩, f s) := rfl

@[simp] theorem exec_call (f : σ → Except ε α × σ) (s : σ) :
    exec (call f) s = f s := rfl

@[simp] theorem exec_liftExcept (outcome : Except ε α) (s : σ) :
    exec (liftExcept outcome : Work σ ε α) s = (outcome, s) := by
  cases outcome <;> rfl

/-- What follows a computation runs on the state it leaves, or not at
all. -/
theorem exec_bind (work : Work σ ε α) (next : α → Work σ ε β) (s : σ) :
    exec (work >>= next) s
      = match exec work s with
        | (.ok a, s') => exec (next a) s'
        | (.error e, s') => (.error e, s') := by
  have hrun : exec (work >>= next) s
      = (ExceptT.bindCont next (exec work s).1) (exec work s).2 := rfl
  rw [hrun]
  cases exec work s with
  | mk outcome s' => cases outcome <;> rfl

/-- Work that returns hands its state to the next. -/
theorem exec_bind_ok {work : Work σ ε α} {s s' : σ} {a : α}
    (h : exec work s = (.ok a, s')) (next : α → Work σ ε β) :
    exec (work >>= next) s = exec (next a) s' := by
  rw [exec_bind, h]

/-- Work that raises keeps what it did. -/
theorem exec_bind_error {work : Work σ ε α} {s s' : σ} {e : ε}
    (h : exec work s = (.error e, s')) (next : α → Work σ ε β) :
    exec (work >>= next) s = (.error e, s') := by
  rw [exec_bind, h]

theorem exec_lift_bind_ok (a : α) (next : α → Work σ ε β) (s : σ) :
    exec (liftExcept (.ok a : Except ε α) >>= next) s = exec (next a) s :=
  exec_bind_ok (exec_liftExcept _ s) next

theorem exec_lift_bind_error (e : ε) (next : α → Work σ ε β) (s : σ) :
    exec (liftExcept (.error e : Except ε α) >>= next) s = (.error e, s) :=
  exec_bind_error (exec_liftExcept _ s) next

theorem exec_get_bind (next : σ → Work σ ε β) (s : σ) :
    exec (get >>= next) s = exec (next s) s :=
  exec_bind_ok (exec_get s) next

/-- A handler runs on the state the raising body has left. -/
theorem exec_tryCatch (work : Work σ ε α) (handler : ε → Work σ ε α) (s : σ) :
    exec (tryCatch work handler) s
      = match exec work s with
        | (.ok a, s') => (.ok a, s')
        | (.error e, s') => exec (handler e) s' := by
  have hrun : exec (tryCatch work handler) s
      = (match (exec work s).1 with
          | .ok a => pure (.ok a)
          | .error e => handler e : StateM σ (Except ε α)) (exec work s).2 :=
    rfl
  rw [hrun]
  cases exec work s with
  | mk outcome s' => cases outcome <;> rfl

-- ==================================================================== keeps

/-- Whatever the outcome, the state left is related to the state found. -/
structure Keeps (R : σ → σ → Prop) (work : Work σ ε α) : Prop where
  left : ∀ s, R s (exec work s).2

section Keeps

variable {R : σ → σ → Prop}

theorem Keeps.pure (hrefl : ∀ s, R s s) (a : α) :
    Keeps R (Pure.pure a : Work σ ε α) := ⟨fun s => hrefl s⟩

theorem Keeps.throw (hrefl : ∀ s, R s s) (e : ε) :
    Keeps R (MonadExcept.throw e : Work σ ε α) := ⟨fun s => hrefl s⟩

theorem Keeps.get (hrefl : ∀ s, R s s) :
    Keeps R (MonadState.get : Work σ ε σ) := ⟨fun s => hrefl s⟩

theorem Keeps.modify {f : σ → σ} (hf : ∀ s, R s (f s)) :
    Keeps R (MonadState.modifyGet fun s => (PUnit.unit, f s)
      : Work σ ε PUnit) :=
  ⟨fun s => hf s⟩

theorem Keeps.call {f : σ → Except ε α × σ} (hf : ∀ s, R s (f s).2) :
    Keeps R (Work.call f) := ⟨fun s => hf s⟩

theorem Keeps.lift (hrefl : ∀ s, R s s) (outcome : Except ε α) :
    Keeps R (liftExcept outcome : Work σ ε α) := by
  constructor
  intro s
  rw [exec_liftExcept]
  exact hrefl s

theorem Keeps.attempt (hrefl : ∀ s, R s s) {f : σ → Except ε (α × σ)}
    (hf : ∀ s a s', f s = .ok (a, s') → R s s') :
    Keeps R (Work.attempt f) := by
  constructor
  intro s
  unfold Work.attempt
  rw [exec_call]
  cases h : f s with
  | error e => exact hrefl s
  | ok result => exact hf s result.1 result.2 h

/-- Two pieces of work that keep a transitive relation keep it in sequence. -/
theorem Keeps.bind (htrans : ∀ s t u, R s t → R t u → R s u)
    {work : Work σ ε α} {next : α → Work σ ε β} (hwork : Keeps R work)
    (hnext : ∀ a, Keeps R (next a)) : Keeps R (work >>= next) := by
  constructor
  intro s
  have hfirst := hwork.left s
  rw [exec_bind]
  cases h : exec work s with
  | mk outcome s' =>
    rw [h] at hfirst
    cases outcome with
    | error e => exact hfirst
    | ok a => exact htrans _ _ _ hfirst ((hnext a).left s')

theorem Keeps.forM (hrefl : ∀ s, R s s)
    (htrans : ∀ s t u, R s t → R t u → R s u) {step : α → Work σ ε PUnit}
    (hstep : ∀ a, Keeps R (step a)) (xs : List α) :
    Keeps R (xs.forM step) := by
  induction xs with
  | nil => exact Keeps.pure hrefl _
  | cons x rest ih => exact Keeps.bind htrans (hstep x) fun _ => ih

/-- A traversal keeps what each of its items keeps. -/
theorem Keeps.mapM (hrefl : ∀ s, R s s)
    (htrans : ∀ s t u, R s t → R t u → R s u) {step : α → Work σ ε β}
    (xs : List α) (hstep : ∀ a ∈ xs, Keeps R (step a)) :
    Keeps R (xs.mapM step) := by
  induction xs with
  | nil =>
    rw [List.mapM_nil]
    exact Keeps.pure hrefl _
  | cons x rest ih =>
    rw [List.mapM_cons]
    have hrest := ih fun a ha => hstep a (List.mem_cons_of_mem _ ha)
    exact Keeps.bind htrans (hstep x List.mem_cons_self) fun _ =>
      Keeps.bind htrans hrest fun _ => Keeps.pure hrefl _

/-- A handled failure keeps what work and handler keep. -/
theorem Keeps.tryCatch (htrans : ∀ s t u, R s t → R t u → R s u)
    {work : Work σ ε α} {handler : ε → Work σ ε α} (hwork : Keeps R work)
    (hhandler : ∀ e, Keeps R (handler e)) :
    Keeps R (MonadExcept.tryCatch work handler) := by
  constructor
  intro s
  have hfirst := hwork.left s
  rw [exec_tryCatch]
  cases h : exec work s with
  | mk outcome s' =>
    rw [h] at hfirst
    cases outcome with
    | ok a => exact hfirst
    | error e => exact htrans _ _ _ hfirst ((hhandler e).left s')

theorem Keeps.mono {R' : σ → σ → Prop} (hsub : ∀ s t, R s t → R' s t)
    {work : Work σ ε α} (hwork : Keeps R work) : Keeps R' work :=
  ⟨fun s => hsub s _ (hwork.left s)⟩

/-- What holds of the state a computation leaves, and is kept by all that
may follow, holds at the end. -/
theorem holds_bind {P : σ → Prop} (hkeep : ∀ s t, P s → R s t → P t)
    {work : Work σ ε α} {next : α → Work σ ε β} {s : σ}
    (hwork : P (exec work s).2) (hnext : ∀ a, Keeps R (next a)) :
    P (exec (work >>= next) s).2 := by
  rw [exec_bind]
  cases h : exec work s with
  | mk outcome s' =>
    rw [h] at hwork
    cases outcome with
    | error e => exact hwork
    | ok a => exact hkeep _ _ hwork ((hnext a).left s')

end Keeps

-- ==================================================================== scope

/-- Commit what the work leaves; when it raises, take it back and
re-raise. `rollback found left` is what outlives that. -/
def scope (rollback : σ → σ → σ) (work : Work σ ε α) (s : σ) :
    Except ε α × σ :=
  match exec work s with
  | (.ok a, s') => (.ok a, s')
  | (.error e, s') => (.error e, rollback s s')

variable {rollback : σ → σ → σ} {work : Work σ ε α}

/-- A scope answers with its work's outcome. -/
theorem scope_fst (s : σ) :
    (scope rollback work s).1 = (exec work s).1 := by
  unfold scope
  cases exec work s with
  | mk outcome s' => cases outcome <;> rfl

/-- A scope that raises commits nothing, the handlers' writes included. -/
theorem scope_error {s : σ} {e : ε}
    (h : (scope rollback work s).1 = .error e) :
    (scope rollback work s).2 = rollback s (exec work s).2 := by
  rw [scope_fst] at h
  unfold scope
  cases hexec : exec work s with
  | mk outcome s' =>
    rw [hexec] at h
    cases h
    rfl

end Work

end Warehouse.Lib
