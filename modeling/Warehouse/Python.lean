/-
The Python values the warehouse code computes with.

Dates are day ordinals and timestamps are instants, both integers: the
code only subtracts and compares them. `Decimal` and `float` values are
rationals (every finite value of either is one), so arithmetic is exact;
the two places where the source rounds on purpose, `quantize` and the
fixed-point format specifiers, round half to even as `Decimal` does.

`Exc` is the part of the exception hierarchy the modelled functions
raise; the constructors keep the message text.

# Exceptions as values

A function that may raise returns an `Except Exc`, and a loop over it is a
fold or a `mapM`. The lemmas on both go two ways: a run that returned is
taken apart into its steps (`bind_ok_iff`, `mapM_eq_ok_iff`), and what a
loop raises some item has raised (`mapM_error`).

# Texts

Numbers are formatted from their rounded value, digit by digit, and dates
are written in ISO form from their ordinal, by the Gregorian calendar
extended backwards. Texts are lists of characters where they are taken apart
and strings otherwise.
-/
import Mathlib.Data.Rat.Floor
import Mathlib.Tactic.Linarith

namespace Warehouse

/-- `datetime.date` as its proleptic ordinal. -/
abbrev Date := Int

/-- `datetime.datetime` as an instant. -/
abbrev DateTime := Int

/-- The exceptions the modelled functions raise. -/
inductive Exc where
  | valueError (msg : String)
  | keyError (key : String)
  | typeError (msg : String)
  | validationError (model field : String)
  | orderTransition (msg : String)
  | performanceError (msg : String)
  | optimizerInfeasible (msg : String)
  | fileNotFoundError (msg : String)
  | osError (msg : String)
  | reportWriterError (msg : String)
  | attributionError (msg : String)
  | thesisError (msg : String)
  | invalidOperation (msg : String)
  | singularCovariance (msg : String)
  | viewMapping (msg : String)
  | walkForward (msg : String)
  | fiijIngest (msg : String)
  | fiijMapping (msg : String)
  | zeroDivision (msg : String)
  | runtimeError (msg : String)
  | attributeError (msg : String)
  | csvError (msg : String)
  | ipsValidation (msg : String)
  | integrityError (msg : String)
  deriving DecidableEq, Repr

/-- `f"{s!r}"` of a plain string. -/
def reprText (s : String) : String := "'" ++ s ++ "'"

/-- `str(err)`: a `KeyError` shows its key's repr; of pydantic's text the
first two lines. -/
def Exc.str : Exc → String
  | valueError msg => msg
  | keyError key => reprText key
  | typeError msg => msg
  | validationError model field =>
      "1 validation error for " ++ model ++ "\n" ++ field
  | orderTransition msg => msg
  | performanceError msg => msg
  | optimizerInfeasible msg => msg
  | fileNotFoundError msg => msg
  | osError msg => msg
  | reportWriterError msg => msg
  | attributionError msg => msg
  | thesisError msg => msg
  | invalidOperation msg => msg
  | singularCovariance msg => msg
  | viewMapping msg => msg
  | walkForward msg => msg
  | fiijIngest msg => msg
  | fiijMapping msg => msg
  | zeroDivision msg => msg
  | runtimeError msg => msg
  | attributeError msg => msg
  | csvError msg => msg
  | ipsValidation msg => msg
  | integrityError msg => msg

/-- `type(err).__name__`. -/
def Exc.typeName : Exc → String
  | valueError _ => "ValueError"
  | keyError _ => "KeyError"
  | typeError _ => "TypeError"
  | validationError _ _ => "ValidationError"
  | orderTransition _ => "OrderTransitionError"
  | performanceError _ => "PerformanceError"
  | optimizerInfeasible _ => "OptimizerInfeasibleError"
  | fileNotFoundError _ => "FileNotFoundError"
  | osError _ => "OSError"
  | reportWriterError _ => "ReportWriterError"
  | attributionError _ => "AttributionError"
  | thesisError _ => "ThesisError"
  | invalidOperation _ => "InvalidOperation"
  | singularCovariance _ => "SingularCovarianceError"
  | viewMapping _ => "ViewMappingError"
  | walkForward _ => "WalkForwardError"
  | fiijIngest _ => "FiijIngestError"
  | fiijMapping _ => "FiijMappingError"
  | zeroDivision _ => "ZeroDivisionError"
  | runtimeError _ => "RuntimeError"
  | attributeError _ => "AttributeError"
  | csvError _ => "Error"
  | ipsValidation _ => "IpsValidationError"
  | integrityError _ => "IntegrityError"

/-- `isinstance(err, ValueError)`. -/
def Exc.isValueError : Exc → Bool
  | keyError _ | typeError _ | fileNotFoundError _ | osError _
  | invalidOperation _ | zeroDivision _ | runtimeError _ | attributeError _
  | csvError _ | integrityError _ => false
  | _ => true

/-- `xs[:stop]`; a negative stop counts from the end. -/
def sliceTo {α : Type*} (xs : List α) (stop : Int) : List α :=
  if 0 ≤ stop then xs.take stop.toNat
  else xs.take (xs.length - (-stop).toNat)

/-- `if s:` on an optional string: neither `None` nor empty. -/
def truthy : Option String → Bool
  | none => false
  | some s => s ≠ ""

/-- A fraction as pydantic validates it: `Field(ge=0, le=1)`. -/
def IsFraction (q : ℚ) : Prop := 0 ≤ q ∧ q ≤ 1

instance (q : ℚ) : Decidable (IsFraction q) :=
  inferInstanceAs (Decidable (0 ≤ q ∧ q ≤ 1))

theorem isFraction_zero : IsFraction 0 := by norm_num [IsFraction]

/-- An optional fraction that is absent. -/
theorem isFraction_none : ∀ q ∈ (none : Option ℚ), IsFraction q := nofun

/-- What the decimal context answers where the exact result need not be
rational, `Decimal.sqrt` and `**`, and where the value alone does not say:
the text of a decimal, which also shows its exponent. -/
structure DecimalContext where
  sqrt : ℚ → ℚ
  pow : ℚ → ℚ → ℚ
  str : ℚ → String

/-- `v[i]`, for an index within bounds. -/
def item (v : List ℚ) (i : Nat) : ℚ := v.getD i 0

/-- `sum(f(i) for i in range(n))`. -/
def sumRange (n : Nat) (f : Nat → ℚ) : ℚ := ((List.range n).map f).sum

theorem item_map {α : Type*} {xs : List α} (f : α → ℚ) {i : Nat}
    (hi : i < xs.length) : item (xs.map f) i = f xs[i] := by
  simp [item, List.getD_eq_getElem?_getD, hi]

theorem getD_map_range {α : Type*} {n i : Nat} (f : Nat → α) (hi : i < n)
    (d : α) : ((List.range n).map f).getD i d = f i := by
  simp [List.getD_eq_getElem?_getD, hi]

theorem item_map_range {n i : Nat} (f : Nat → ℚ) (hi : i < n) :
    item ((List.range n).map f) i = f i := getD_map_range f hi 0

/-- A step that returned hands on what it did. -/
theorem ok_bind {α β : Type} (a : α) (next : α → Except Exc β) :
    (.ok a >>= next) = next a := rfl

/-- What returns has returned at its every step. -/
theorem bind_ok_iff {α β : Type} {step : Except Exc α}
    {next : α → Except Exc β} {b : β} :
    (step >>= next) = .ok b ↔ ∃ a, step = .ok a ∧ next a = .ok b := by
  cases step with
  | error err => exact ⟨fun h => (nomatch h), fun ⟨_, h, _⟩ => (nomatch h)⟩
  | ok a =>
      constructor
      · exact fun h => ⟨a, rfl, h⟩
      · rintro ⟨a', ha, h⟩
        cases ha
        exact h

/-- What returns a mapped result has returned one. -/
theorem map_ok_iff {α β : Type} {f : α → β} {result : Except Exc α} {b : β} :
    result.map f = .ok b ↔ ∃ a, result = .ok a ∧ f a = b := by
  cases result with
  | error e =>
    constructor
    · intro h; cases h
    · rintro ⟨a, h, -⟩; cases h
  | ok a =>
    constructor
    · intro h
      exact ⟨a, rfl, Except.ok.inj h⟩
    · rintro ⟨a', h, rfl⟩
      obtain rfl := Except.ok.inj h
      rfl

/-- A comprehension whose every call returns is a `map`. -/
theorem mapM_eq_map {α β : Type*} {f : α → Except Exc β} {g : α → β}
    (xs : List α) (h : ∀ x ∈ xs, f x = .ok (g x)) :
    xs.mapM f = .ok (xs.map g) := by
  induction xs with
  | nil => rfl
  | cons x rest ih =>
      rw [List.mapM_cons, h x (List.mem_cons_self ..),
        ih fun y hy => h y (List.mem_cons_of_mem _ hy)]
      rfl

/-- A comprehension sees its calls on its own items only. -/
theorem mapM_congr {α β : Type*} {f g : α → Except Exc β} {xs : List α}
    (h : ∀ x ∈ xs, f x = g x) : xs.mapM f = xs.mapM g := by
  induction xs with
  | nil => rfl
  | cons x rest ih =>
      rw [List.mapM_cons, List.mapM_cons, h x List.mem_cons_self,
        ih fun y hy => h y (List.mem_cons_of_mem _ hy)]

/-- What is written item by item is read back item by item. -/
theorem mapM_map_ok {α β : Type*} {f : α → β} {g : β → Except Exc α}
    (h : ∀ x, g (f x) = .ok x) (xs : List α) :
    (xs.map f).mapM g = .ok xs := by
  induction xs with
  | nil => rfl
  | cons x rest ih =>
      rw [List.map_cons, List.mapM_cons, h x, ih]
      rfl

/-- The results of a comprehension, each known by a property. -/
theorem mapM_forall₂ {α β : Type*} {f : α → Except Exc β} {P : α → β → Prop}
    (xs : List α) (h : ∀ x ∈ xs, ∃ y, f x = .ok y ∧ P x y) :
    ∃ ys, xs.mapM f = .ok ys ∧ List.Forall₂ P xs ys := by
  induction xs with
  | nil => exact ⟨[], rfl, .nil⟩
  | cons x rest ih =>
      obtain ⟨y, hy, hP⟩ := h x (List.mem_cons_self ..)
      obtain ⟨ys, hys, hrest⟩ := ih fun z hz =>
        h z (List.mem_cons_of_mem _ hz)
      exact ⟨y :: ys, by rw [List.mapM_cons, hy, hys]; rfl, .cons hP hrest⟩

/-- A comprehension returns exactly when its every call does. -/
theorem mapM_ok_iff {α β : Type*} {f : α → Except Exc β} (xs : List α) :
    (∃ ys, xs.mapM f = .ok ys) ↔ ∀ x ∈ xs, ∃ y, f x = .ok y := by
  induction xs with
  | nil => exact ⟨fun _ _ hx => (nomatch hx), fun _ => ⟨[], rfl⟩⟩
  | cons x rest ih =>
      rw [List.forall_mem_cons, ← ih, List.mapM_cons]
      simp only [bind, Except.bind]
      cases f x with
      | error e =>
          exact ⟨fun ⟨_, h⟩ => (nomatch h), fun ⟨⟨_, h⟩, _⟩ => (nomatch h)⟩
      | ok y =>
          cases rest.mapM f with
          | error e =>
              exact ⟨fun ⟨_, h⟩ => (nomatch h), fun ⟨_, _, h⟩ => (nomatch h)⟩
          | ok ys => exact ⟨fun _ => ⟨⟨y, rfl⟩, ys, rfl⟩, fun _ => ⟨_, rfl⟩⟩

/-- The results of a comprehension, call by call. -/
theorem mapM_eq_ok_iff {α β : Type} {f : α → Except Exc β} {xs : List α}
    {ys : List β} :
    xs.mapM f = .ok ys ↔ List.Forall₂ (fun x y => f x = .ok y) xs ys := by
  induction xs generalizing ys with
  | nil =>
      rw [List.forall₂_nil_left_iff]
      exact ⟨fun h => (Except.ok.inj h).symm, fun h => h ▸ rfl⟩
  | cons x rest ih =>
      rw [List.forall₂_cons_left_iff, List.mapM_cons]
      constructor
      · intro h
        obtain ⟨first, hfirst, h⟩ := bind_ok_iff.mp h
        obtain ⟨others, hothers, h⟩ := bind_ok_iff.mp h
        cases h
        exact ⟨first, others, hfirst, ih.mp hothers, rfl⟩
      · intro ⟨first, others, hfirst, hothers, hys⟩
        subst hys
        rw [hfirst, ih.mpr hothers]
        rfl

/-- Every item on the right has its partner. -/
theorem forall₂_mem_right {α β : Type*} {R : α → β → Prop} {xs : List α}
    {ys : List β} (h : List.Forall₂ R xs ys) {y : β} (hy : y ∈ ys) :
    ∃ x ∈ xs, R x y := by
  induction h with
  | nil => cases hy
  | cons hxy _ ih =>
      rcases List.mem_cons.mp hy with rfl | hy
      · exact ⟨_, List.mem_cons_self .., hxy⟩
      · obtain ⟨x, hx, hR⟩ := ih hy
        exact ⟨x, List.mem_cons_of_mem _ hx, hR⟩

theorem forall₂_mem_left {α β : Type*} {R : α → β → Prop} {xs : List α}
    {ys : List β} (h : List.Forall₂ R xs ys) {x : α} (hx : x ∈ xs) :
    ∃ y ∈ ys, R x y :=
  forall₂_mem_right h.flip hx

/-- A selection that keeps every item, read off the paired results. -/
theorem filterMap_of_forall₂ {α β γ : Type*} {R : α → β → Prop}
    {f : α → Option γ} {g : β → γ} {xs : List α} {ys : List β}
    (h : List.Forall₂ R xs ys)
    (hone : ∀ x ∈ xs, ∀ y ∈ ys, R x y → f x = some (g y)) :
    xs.filterMap f = ys.map g := by
  induction h with
  | nil => rfl
  | @cons x y _ _ hfirst _ ih =>
      have hsome := hone x List.mem_cons_self y List.mem_cons_self hfirst
      rw [List.filterMap_cons_some hsome, List.map_cons,
        ih fun x hx y hy => hone x (List.mem_cons_of_mem _ hx) y
          (List.mem_cons_of_mem _ hy)]

/-- Every result of a comprehension is an item's. -/
theorem mapM_mem {α β : Type} {f : α → Except Exc β} {xs : List α}
    {ys : List β} (h : xs.mapM f = .ok ys) {y : β} (hy : y ∈ ys) :
    ∃ x ∈ xs, f x = .ok y :=
  forall₂_mem_right (mapM_eq_ok_iff.mp h) hy

/-- What every result of a comprehension reads as, its item does. -/
theorem mapM_map_eq {α β γ : Type} {f : α → Except Exc β} {g : α → γ}
    {read : β → γ} {xs : List α} {ys : List β} (h : xs.mapM f = .ok ys)
    (hread : ∀ x y, f x = .ok y → read y = g x) : ys.map read = xs.map g := by
  have hall : List.Forall₂ (fun x y => g x = read y) xs ys :=
    (mapM_eq_ok_iff.mp h).imp fun x y hxy => (hread x y hxy).symm
  rw [← List.forall₂_eq_eq_eq, List.forall₂_map_left_iff,
    List.forall₂_map_right_iff]
  exact hall.flip.imp fun y x hxy => hxy.symm

/-- What a comprehension raises, an item raised. -/
theorem mapM_error {α β : Type} {f : α → Except Exc β} {xs : List α}
    {err : Exc} (h : xs.mapM f = .error err) : ∃ x ∈ xs, f x = .error err := by
  induction xs with
  | nil => cases h
  | cons x rest ih =>
      rw [List.mapM_cons] at h
      cases hfirst : f x with
      | error err' =>
          rw [hfirst] at h
          cases h
          exact ⟨x, List.mem_cons_self .., hfirst⟩
      | ok y =>
          rw [hfirst, ok_bind] at h
          cases hrest : rest.mapM f with
          | error err' =>
              rw [hrest] at h
              cases h
              obtain ⟨x', hx', hfx'⟩ := ih hrest
              exact ⟨x', List.mem_cons_of_mem _ hx', hfx'⟩
          | ok others =>
              rw [hrest] at h
              cases h

-- ============================================================= rounding

/-- Round to the nearest integer, ties to even. -/
def roundHalfEven (q : ℚ) : Int :=
  if q - ⌊q⌋ < 1 / 2 then ⌊q⌋
  else if 1 / 2 < q - ⌊q⌋ then ⌊q⌋ + 1
  else if ⌊q⌋ % 2 = 0 then ⌊q⌋ else ⌊q⌋ + 1

/-- `Decimal.quantize(10^-places, ROUND_HALF_EVEN)`. -/
def quantize (places : Nat) (q : ℚ) : ℚ :=
  roundHalfEven (q * 10 ^ places) / 10 ^ places

/-- Rounding moves a value by at most one half. -/
theorem abs_roundHalfEven_sub_le (q : ℚ) :
    |(roundHalfEven q : ℚ) - q| ≤ 1 / 2 := by
  have hle := Int.floor_le q
  have hlt := Int.lt_floor_add_one q
  unfold roundHalfEven
  split
  · rw [abs_le]
    constructor <;> linarith
  · next h₁ =>
    split
    · next h₂ =>
      push_cast
      rw [abs_le]
      constructor <;> linarith
    · next h₂ =>
      -- the tie: both neighbours are exactly one half away
      split
      · rw [abs_le]
        constructor <;> linarith
      · push_cast
        rw [abs_le]
        constructor <;> linarith

/-- Quantizing moves a value by at most half a quantum. -/
theorem abs_quantize_sub_le (places : Nat) (q : ℚ) :
    |quantize places q - q| ≤ 1 / 2 / 10 ^ places := by
  have hpos : (0 : ℚ) < 10 ^ places := by positivity
  have h := abs_roundHalfEven_sub_le (q * 10 ^ places)
  have heq : quantize places q - q
      = ((roundHalfEven (q * 10 ^ places) : ℚ) - q * 10 ^ places)
        / 10 ^ places := by
    unfold quantize
    field_simp
  rw [heq, abs_div, abs_of_pos hpos]
  exact div_le_div_of_nonneg_right h hpos.le

theorem roundHalfEven_intCast (n : Int) : roundHalfEven (n : ℚ) = n := by
  simp [roundHalfEven]

theorem roundHalfEven_mono {p q : ℚ} (h : p ≤ q) :
    roundHalfEven p ≤ roundHalfEven q := by
  by_contra hlt
  rw [not_le] at hlt
  have hp := abs_le.mp (abs_roundHalfEven_sub_le p)
  have hq := abs_le.mp (abs_roundHalfEven_sub_le q)
  have hgap : (roundHalfEven q : ℚ) + 1 ≤ roundHalfEven p := by
    exact_mod_cast hlt
  -- the two roundings can only cross at one shared tie
  have hpq : p = q := by linarith
  subst hpq
  exact absurd hlt (lt_irrefl _)

theorem quantize_mono (places : Nat) {p q : ℚ} (h : p ≤ q) :
    quantize places p ≤ quantize places q := by
  have hpos : (0 : ℚ) < 10 ^ places := by positivity
  refine div_le_div_of_nonneg_right ?_ hpos.le
  exact_mod_cast roundHalfEven_mono (mul_le_mul_of_nonneg_right h hpos.le)

theorem quantize_zero (places : Nat) : quantize places 0 = 0 := by
  have h := roundHalfEven_intCast 0
  simp only [Int.cast_zero] at h
  simp [quantize, h]

theorem quantize_one (places : Nat) : quantize places 1 = 1 := by
  have h := roundHalfEven_intCast (10 ^ places)
  have hpos : (10 : ℚ) ^ places ≠ 0 := by positivity
  push_cast at h
  rw [quantize, one_mul, h]
  push_cast
  exact div_self hpos

/-- A quantized value is a multiple of the quantum, and quantizing keeps
it. -/
theorem quantize_quantize (places : Nat) (q : ℚ) :
    quantize places (quantize places q) = quantize places q := by
  have hpos : (10 : ℚ) ^ places ≠ 0 := by positivity
  unfold quantize
  rw [div_mul_cancel₀ _ hpos, roundHalfEven_intCast]

/-- A sum rounded part by part is off by at most one quantum: the three
half quanta do not add up to two. -/
theorem abs_quantize_sub_add_le (places : Nat) (p q : ℚ) :
    |quantize places p - (quantize places q + quantize places (p - q))|
      ≤ 1 / 10 ^ places := by
  have hpos : (0 : ℚ) < 10 ^ places := by positivity
  have hp := abs_le.mp (abs_roundHalfEven_sub_le (p * 10 ^ places))
  have hq := abs_le.mp (abs_roundHalfEven_sub_le (q * 10 ^ places))
  have hd := abs_le.mp (abs_roundHalfEven_sub_le ((p - q) * 10 ^ places))
  unfold quantize
  generalize roundHalfEven (p * 10 ^ places) = a at *
  generalize roundHalfEven (q * 10 ^ places) = b at *
  generalize roundHalfEven ((p - q) * 10 ^ places) = c at *
  have hlow : (-2 : ℚ) < a - b - c := by linarith
  have hhigh : (a - b - c : ℚ) < 2 := by linarith
  have hint : |a - b - c| ≤ 1 := by
    have hlow' : -2 < a - b - c := by exact_mod_cast hlow
    have hhigh' : a - b - c < 2 := by exact_mod_cast hhigh
    rw [abs_le]
    omega
  have hquot : (a : ℚ) / 10 ^ places - (b / 10 ^ places + c / 10 ^ places)
      = ((a - b - c : ℤ) : ℚ) / 10 ^ places := by
    push_cast
    ring
  rw [hquot, abs_div, abs_of_pos hpos]
  refine div_le_div_of_nonneg_right ?_ hpos.le
  exact_mod_cast hint

-- =========================================================== formatting

/-- `format(q, f".{places}f")`: fixed point, ties to even. -/
def formatFixed (places : Nat) (q : ℚ) : String :=
  let n := (roundHalfEven (q * 10 ^ places)).natAbs
  let frac := toString (n % 10 ^ places)
  let pad := String.ofList (List.replicate (places - frac.length) '0')
  let sign := if q < 0 then "-" else ""
  let whole := sign ++ toString (n / 10 ^ places)
  if places = 0 then whole else whole ++ "." ++ pad ++ frac

/-- `s.rstrip(c)`. -/
def rstrip (c : Char) (s : String) : String :=
  String.ofList (s.toList.reverse.dropWhile (· = c)).reverse

/-- `format(q, f".{places}%")`. -/
def formatPercent (places : Nat) (q : ℚ) : String :=
  formatFixed places (q * 100) ++ "%"

/-- `format(q, f"+.{places}%")`. -/
def formatSignedPercent (places : Nat) (q : ℚ) : String :=
  (if q < 0 then "" else "+") ++ formatPercent places q

/-- Digits, last first, with a comma after every three. -/
def groupThousands : List Char → List Char
  | a :: b :: c :: d :: rest => a :: b :: c :: ',' :: groupThousands (d :: rest)
  | short => short

/-- `format(q, f",.{places}f")`. -/
def formatGrouped (places : Nat) (q : ℚ) : String :=
  let plain := (formatFixed places |q|).toList
  let whole := plain.takeWhile (· ≠ '.')
  (if q < 0 then "-" else "") ++ String.ofList
    ((groupThousands whole.reverse).reverse ++ plain.dropWhile (· ≠ '.'))

example : formatGrouped 0 1234567 = "1,234,567"
    ∧ formatGrouped 2 (-100000) = "-100,000.00"
    ∧ formatGrouped 2 (1 / 3) = "0.33" := by decide +kernel

/-- A decimal numeral left-padded with zeros to `width`. -/
def zeroPad (width : Nat) (n : Int) : String :=
  let digits := toString n.natAbs
  String.ofList (List.replicate (width - digits.length) '0') ++ digits

/-- `date.isoformat()`: the proleptic Gregorian date of an ordinal,
counted in 400-year eras of years that start in March. -/
def isoformat (d : Date) : String :=
  let z := d + 305
  let era := z / 146097
  let dayOfEra := z % 146097
  let yearOfEra := (dayOfEra - dayOfEra / 1460 + dayOfEra / 36524
    - dayOfEra / 146096) / 365
  let dayOfYear := dayOfEra
    - (365 * yearOfEra + yearOfEra / 4 - yearOfEra / 100)
  let monthFromMarch := (5 * dayOfYear + 2) / 153
  let day := dayOfYear - (153 * monthFromMarch + 2) / 5 + 1
  let month := if monthFromMarch < 10 then monthFromMarch + 3
    else monthFromMarch - 9
  let year := yearOfEra + era * 400 + (if month ≤ 2 then 1 else 0)
  zeroPad 4 year ++ "-" ++ zeroPad 2 month ++ "-" ++ zeroPad 2 day

example : isoformat 739791 = "2026-06-24" := by decide

/-- `date(year, 1, 1)`. -/
def newYear (year : Int) : Date :=
  365 * (year - 1) + (year - 1) / 4 - (year - 1) / 100 + (year - 1) / 400 + 1

/-- `date(year, month, day)`. -/
def dateOf (year month day : Int) : Date :=
  let before := [0, 31, 59, 90, 120, 151, 181, 212, 243, 273, 304, 334]
  let leap := year % 4 = 0 ∧ (year % 100 ≠ 0 ∨ year % 400 = 0)
  newYear year + before.getD (month - 1).toNat 0
    + (if 2 < month ∧ leap then 1 else 0) + (day - 1)

example : isoformat (dateOf 2024 2 29) = "2024-02-29"
    ∧ isoformat (dateOf 2024 3 1) = "2024-03-01"
    ∧ isoformat (dateOf 2026 12 31) = "2026-12-31" := by decide

/-- `d.year`: the mean year of an ordinal is its own or next to it. -/
def yearOf (d : Date) : Int :=
  let mean := d * 400 / 146097 + 1
  if d < newYear mean then mean - 1
  else if newYear (mean + 1) ≤ d then mean + 1 else mean

example : yearOf 739791 = 2026 ∧ isoformat (newYear 2026) = "2026-01-01" := by
  decide

/-- `d.month`, by the eras of `isoformat`. -/
def monthOf (d : Date) : Int :=
  let dayOfEra := (d + 305) % 146097
  let yearOfEra := (dayOfEra - dayOfEra / 1460 + dayOfEra / 36524
    - dayOfEra / 146096) / 365
  let dayOfYear := dayOfEra
    - (365 * yearOfEra + yearOfEra / 4 - yearOfEra / 100)
  let monthFromMarch := (5 * dayOfYear + 2) / 153
  if monthFromMarch < 10 then monthFromMarch + 3 else monthFromMarch - 9

example : monthOf 739791 = 6 := by decide

/-- `c.isspace()`. -/
def isSpace (c : Char) : Bool :=
  (9 ≤ c.toNat ∧ c.toNat ≤ 13) ∨ (28 ≤ c.toNat ∧ c.toNat ≤ 32)
    ∨ c.toNat ∈ [0x85, 0xa0, 0x1680, 0x2028, 0x2029, 0x202f, 0x205f, 0x3000]
    ∨ (0x2000 ≤ c.toNat ∧ c.toNat ≤ 0x200a)

/-- `s.strip()`, on characters. -/
def strip (s : List Char) : List Char :=
  ((s.dropWhile isSpace).reverse.dropWhile isSpace).reverse

/-- `s.lower()`, of ASCII text. -/
def lower (s : String) : String := String.ofList (s.toList.map Char.toLower)

/-- `f"{xs}"` of a list of plain strings. -/
def listText (xs : List String) : String :=
  "[" ++ ", ".intercalate (xs.map fun x => "'" ++ x ++ "'") ++ "]"

end Warehouse
