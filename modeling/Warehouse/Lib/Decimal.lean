/-
Decimal numerals: a sign, a coefficient and an exponent, written by the
to-scientific-string rules and read back by the numeric-string grammar
(an optional sign, digits with an optional point, an optional exponent).

`parse_str` is the round trip: a numeral's text reads back as the numeral
itself, exponent and sign of zero included, so no less than its value.

# The parts of a text

A numeral is written as a sign, digits with a point placed by the exponent,
and an exponent where the point would be too far out. Reading takes these
parts off the front one by one, and each part has its own lemma: what is
written for it is what is taken (`takeSign_text`, `readExponent_text`,
`readText_parts`). Special values are no numerals here.
-/
import Mathlib.Algebra.Order.Field.Rat

namespace Warehouse.Lib

/-- A finite decimal as it is spelled. -/
structure Decimal where
  negative : Bool := false
  coefficient : Nat
  exponent : Int
  deriving DecidableEq, Repr

namespace Decimal

/-- The number spelled. -/
def value (d : Decimal) : ℚ :=
  (if d.negative then -1 else 1) * d.coefficient * 10 ^ d.exponent

-- ================================================================ writing

/-- The sign a numeral starts with. -/
def signText (negative : Bool) : List Char := if negative then ['-'] else []

/-- The point and what follows it, where anything does. -/
def pointText (frac : List Char) : List Char :=
  if frac = [] then [] else '.' :: frac

/-- An exponent with its sign; none is written for zero. -/
def exponentText (e : Int) : List Char :=
  if e = 0 then []
  else 'E' :: (if e < 0 then '-' else '+') :: Nat.toDigits 10 e.natAbs

/-- The digits before and after the point, `dotplace` of the coefficient's
before it. -/
def splitDigits (digits : List Char) (dotplace : Int) :
    List Char × List Char :=
  if dotplace ≤ 0 then
    (['0'], List.replicate (-dotplace).toNat '0' ++ digits)
  else if (digits.length : Int) ≤ dotplace then
    (digits ++ List.replicate (dotplace - digits.length).toNat '0', [])
  else (digits.take dotplace.toNat, digits.drop dotplace.toNat)

/-- Where the point stands: no exponent is written for one that is not
positive and not too small. -/
def dotplace (d : Decimal) : Int :=
  let leftdigits := d.exponent + (Nat.toDigits 10 d.coefficient).length
  if d.exponent ≤ 0 ∧ -6 < leftdigits then leftdigits else 1

/-- The numeral `str` prints: plain while the exponent allows it, else
scientific. -/
def text (d : Decimal) : List Char :=
  let digits := Nat.toDigits 10 d.coefficient
  let leftdigits := d.exponent + digits.length
  let parts := splitDigits digits d.dotplace
  signText d.negative ++ (parts.1 ++ (pointText parts.2
    ++ exponentText (leftdigits - d.dotplace)))

/-- `str(d)`. -/
def str (d : Decimal) : String := String.ofList d.text

-- ================================================================ reading

/-- An optional sign, and what follows it. -/
def takeSign : List Char → Bool × List Char
  | '-' :: rest => (true, rest)
  | '+' :: rest => (false, rest)
  | rest => (false, rest)

/-- The digits after a point, and the rest. -/
def takeFraction : List Char → List Char × List Char
  | '.' :: rest => (rest.takeWhile Char.isDigit, rest.dropWhile Char.isDigit)
  | rest => ([], rest)

/-- A signed integer, and nothing after it. -/
def readInt (cs : List Char) : Option Int :=
  let (negative, digits) := takeSign cs
  if digits ≠ [] ∧ digits.all Char.isDigit then
    let n : Int := Nat.ofDigitChars 10 digits 0
    some (if negative then -n else n)
  else none

/-- An optional exponent: nothing reads as zero. -/
def readExponent : List Char → Option Int
  | [] => some 0
  | c :: rest => if c = 'E' ∨ c = 'e' then readInt rest else none

/-- A numeral read: sign, digits, fraction, exponent. -/
def readText (cs : List Char) : Option Decimal :=
  let (negative, rest) := takeSign cs
  let int := rest.takeWhile Char.isDigit
  let (frac, rest) := takeFraction (rest.dropWhile Char.isDigit)
  if int = [] ∧ frac = [] then none
  else
    (readExponent rest).map fun e =>
      { negative := negative
        coefficient := Nat.ofDigitChars 10 (int ++ frac) 0
        exponent := e - frac.length }

/-- `Decimal(s)`, of a finite one. -/
def parse (s : String) : Option Decimal := readText s.toList

example : (Decimal.mk true 15 (-2)).str = "-0.15"
    ∧ (Decimal.mk false 1 2).str = "1E+2"
    ∧ Decimal.parse "2.50e-3" = some ⟨false, 250, -5⟩ := by decide +kernel

-- ============================================================== round trip

theorem isDigit_toDigits {n : Nat} : ∀ c ∈ Nat.toDigits 10 n, c.isDigit :=
  fun _ hc => Nat.isDigit_of_mem_toDigits (by omega) (by omega) hc

/-- Digits up to a character that is none. -/
theorem takeWhile_digits {ds rest : List Char} (hds : ∀ c ∈ ds, c.isDigit)
    (hrest : ∀ c ∈ rest.head?, ¬c.isDigit) :
    (ds ++ rest).takeWhile Char.isDigit = ds
      ∧ (ds ++ rest).dropWhile Char.isDigit = rest := by
  rw [List.takeWhile_append_of_pos hds, List.dropWhile_append_of_pos hds]
  cases rest with
  | nil => simp
  | cons c rest =>
      have hc : ¬c.isDigit := hrest c (by simp)
      constructor
      · rw [List.takeWhile_cons, if_neg hc, List.append_nil]
      · rw [List.dropWhile_cons, if_neg hc]

/-- The sign is read off the front of a text that goes on with a digit. -/
theorem takeSign_text (negative : Bool) {rest : List Char}
    (hrest : ∃ c cs, rest = c :: cs ∧ c.isDigit) :
    takeSign (signText negative ++ rest) = (negative, rest) := by
  cases negative with
  | true => rfl
  | false =>
      obtain ⟨c, cs, rfl, hc⟩ := hrest
      show takeSign (c :: cs) = (false, c :: cs)
      unfold takeSign
      split
      · next h =>
        cases h
        cases hc
      · next h =>
        cases h
        cases hc
      · rfl

theorem readInt_signed (negative : Bool) (n : Nat) :
    readInt ((if negative then '-' else '+') :: Nat.toDigits 10 n)
      = some (if negative then -(n : Int) else n) := by
  have hne : Nat.toDigits 10 n ≠ [] := Nat.toDigits_ne_nil
  have hall : (Nat.toDigits 10 n).all Char.isDigit = true :=
    List.all_eq_true.mpr isDigit_toDigits
  have hsign : takeSign ((if negative then '-' else '+')
      :: Nat.toDigits 10 n) = (negative, Nat.toDigits 10 n) := by
    cases negative <;> rfl
  unfold readInt
  rw [hsign]
  dsimp only
  rw [if_pos ⟨hne, hall⟩, Nat.ofDigitChars_ten_toDigits]

theorem readExponent_text (e : Int) : readExponent (exponentText e) = some e := by
  unfold exponentText
  by_cases he : e = 0
  · subst he
    rfl
  · rw [if_neg he]
    have hread := readInt_signed (decide (e < 0)) e.natAbs
    simp only [decide_eq_true_eq] at hread
    have habs : (if e < 0 then -(e.natAbs : Int) else e.natAbs) = e := by
      split <;> omega
    show readInt _ = _
    rw [hread, habs]

/-- What is written part by part is read part by part. -/
theorem readText_parts (negative : Bool) {int frac : List Char} (e : Int)
    (hint : ∀ c ∈ int, c.isDigit) (hne : int ≠ [])
    (hfrac : ∀ c ∈ frac, c.isDigit) :
    readText (signText negative ++ (int ++ (pointText frac
        ++ exponentText e)))
      = some ⟨negative, Nat.ofDigitChars 10 (int ++ frac) 0,
        e - frac.length⟩ := by
  have hexp : ∀ c ∈ (exponentText e).head?, ¬c.isDigit := by
    intro c hc
    unfold exponentText at hc
    split at hc
    · cases hc
    · cases hc
      decide
  have hpoint : ∀ c ∈ (pointText frac ++ exponentText e).head?,
      ¬c.isDigit := by
    intro c hc
    unfold pointText at hc
    split at hc
    · exact hexp c hc
    · cases hc
      decide
  have hfraction : takeFraction (pointText frac ++ exponentText e)
      = (frac, exponentText e) := by
    unfold pointText
    by_cases hnil : frac = []
    · subst hnil
      rw [if_pos rfl]
      show takeFraction (exponentText e) = _
      unfold exponentText
      split <;> rfl
    · rw [if_neg hnil]
      obtain ⟨htake, hdrop⟩ := takeWhile_digits hfrac hexp
      show ((frac ++ exponentText e).takeWhile Char.isDigit,
        (frac ++ exponentText e).dropWhile Char.isDigit) = _
      rw [htake, hdrop]
  obtain ⟨htake, hdrop⟩ := takeWhile_digits hint hpoint
  have hhead : ∃ c cs, int ++ (pointText frac ++ exponentText e) = c :: cs
      ∧ c.isDigit := by
    cases int with
    | nil => exact absurd rfl hne
    | cons c cs => exact ⟨c, _, rfl, hint c (List.mem_cons_self ..)⟩
  unfold readText
  rw [takeSign_text negative hhead]
  dsimp only
  rw [htake, hdrop, hfraction]
  dsimp only
  rw [if_neg fun h => hne h.1, readExponent_text]
  rfl

/-- The two parts of the digits spell the coefficient, and the digits after
the point are what the exponent lacks. -/
theorem splitDigits_spec (d : Decimal) :
    let parts := splitDigits (Nat.toDigits 10 d.coefficient) d.dotplace
    (∀ c ∈ parts.1, c.isDigit) ∧ parts.1 ≠ [] ∧ (∀ c ∈ parts.2, c.isDigit)
      ∧ Nat.ofDigitChars 10 (parts.1 ++ parts.2) 0 = d.coefficient
      ∧ d.exponent + (Nat.toDigits 10 d.coefficient).length - d.dotplace
        - parts.2.length = d.exponent := by
  have hdigits : ∀ c ∈ Nat.toDigits 10 d.coefficient, c.isDigit :=
    isDigit_toDigits
  have hcoeff := Nat.ofDigitChars_ten_toDigits (n := d.coefficient)
  have hlen : 0 < (Nat.toDigits 10 d.coefficient).length :=
    Nat.length_toDigits_pos
  have hzero : ∀ (n : Nat), ∀ c ∈ List.replicate n '0', c.isDigit := by
    intro n c hc
    rw [List.eq_of_mem_replicate hc]
    decide
  have hdot : d.dotplace = d.exponent
        + (Nat.toDigits 10 d.coefficient).length ∧ d.exponent ≤ 0
      ∨ d.dotplace = 1 := by
    unfold dotplace
    dsimp only
    split
    · next h => exact .inl ⟨rfl, h.1⟩
    · exact .inr rfl
  generalize hgen : Nat.toDigits 10 d.coefficient = digits at *
  unfold splitDigits
  dsimp only
  split
  · next hle =>
    refine ⟨by simp [Char.isDigit], by simp, ?_, ?_, ?_⟩
    · intro c hc
      rcases List.mem_append.mp hc with hc | hc
      · exact hzero _ c hc
      · exact hdigits c hc
    · simp [Nat.ofDigitChars_append, Nat.ofDigitChars_cons,
        Nat.ofDigitChars_replicate_zero, hcoeff]
    · simp only [List.length_append, List.length_replicate]
      omega
  · split
    · next hpos hge =>
      -- the point is right of the last digit only where the exponent is
      -- zero, or where there is one digit
      have hnone : d.dotplace - (digits.length : Int) = 0 := by omega
      rw [hnone]
      refine ⟨by simpa using hdigits, ?_, by simp, by simpa using hcoeff, ?_⟩
      · rintro hnil
        rw [List.append_eq_nil_iff] at hnil
        rw [hnil.1] at hlen
        exact absurd hlen (lt_irrefl 0)
      · simp only [List.length_nil]
        omega
    · next hpos hlt =>
      refine ⟨fun c hc => hdigits c (List.mem_of_mem_take hc), ?_,
        fun c hc => hdigits c (List.mem_of_mem_drop hc), ?_, ?_⟩
      · intro hnil
        have hzero' := congrArg List.length hnil
        rw [List.length_take, List.length_nil] at hzero'
        omega
      · rw [List.take_append_drop]
        exact hcoeff
      · rw [List.length_drop]
        omega

/-- A numeral's text reads back as the numeral. -/
theorem parse_str (d : Decimal) : parse d.str = some d := by
  obtain ⟨hint, hne, hfrac, hcoeff, hexp⟩ := splitDigits_spec d
  have hread := readText_parts d.negative
    (d.exponent + (Nat.toDigits 10 d.coefficient).length - d.dotplace)
    hint hne hfrac
  rw [hcoeff, hexp] at hread
  unfold parse str
  rw [String.toList_ofList]
  exact hread

end Decimal

end Warehouse.Lib
