import GlyphCanvas.Numeral.Signed

/-!
# Decimal numerals

* `Decimal`: a number `± coefficient · 10 ^ exponent`.
* `decimal?` reads one: at most one sign, digits with at most one point and at least one digit,
  then perhaps `e` or `E`, at most one sign and one or more digits.
* `Decimal.FitsDouble`: the value lies below `2 ^ 1024 - 2 ^ 970` in magnitude, which is where
  rounding to a double stops giving a finite one. `fitsDouble` decides it without ever raising ten
  to a power that the length of the numeral does not bound (`Decimal.fitsDouble_iff`).
-/

namespace GlyphCanvas.Numeral

/-- A decimal number: the sign, the digits read as one number, and the power of ten it is
scaled by. `length` bounds the number of digits of the coefficient. -/
structure Decimal where
  negative : Bool
  coefficient : Nat
  length : Nat
  exponent : Int
deriving DecidableEq

/-- The exponent part of a numeral: nothing, or `e` or `E` before an integer of any size. -/
def exponentPart? : List Char → Option Int
  | [] => some 0
  | mark :: rest =>
    let (negative, digits) := splitSign rest
    if (mark = 'e' ∨ mark = 'E') ∧ digits ≠ [] ∧ digits.all Char.isDigit then
      some (withSign negative (ofDigits digits))
    else none

/-- The fraction digits of what follows the integer digits, and what follows them. -/
def fractionPart : List Char → List Char × List Char
  | '.' :: rest => (rest.takeWhile Char.isDigit, rest.dropWhile Char.isDigit)
  | rest => ([], rest)

/-- The number that a word denotes, if it is a decimal numeral. -/
def decimal? (word : List Char) : Option Decimal :=
  let (negative, body) := splitSign word
  let whole := body.takeWhile Char.isDigit
  let (fraction, rest) := fractionPart (body.dropWhile Char.isDigit)
  let digits := whole ++ fraction
  if digits = [] then none
  else (exponentPart? rest).map fun exponent =>
    { negative, coefficient := ofDigits digits, length := digits.length,
      exponent := exponent - fraction.length }

namespace Decimal

/-- From this magnitude on, the nearest double is infinite. -/
def doubleBound : Nat := Nat.pow 2 1024 - Nat.pow 2 970

/-- The magnitude of the number lies below `doubleBound`. -/
def FitsDouble (d : Decimal) : Prop :=
  if 0 ≤ d.exponent then d.coefficient * Nat.pow 10 d.exponent.toNat < doubleBound
  else d.coefficient < doubleBound * Nat.pow 10 (-d.exponent).toNat

/-- Decides `FitsDouble`. Powers of ten are only taken where the exponent is at most 308 or at
most the number of digits. -/
def fitsDouble (d : Decimal) : Bool :=
  if d.coefficient = 0 then true
  else if 0 ≤ d.exponent then
    d.exponent ≤ 308 && d.coefficient * Nat.pow 10 d.exponent.toNat < doubleBound
  else
    d.length ≤ (-d.exponent).toNat + 308 ||
      d.coefficient < doubleBound * Nat.pow 10 (-d.exponent).toNat

theorem pow_ten_le {a b : Nat} (h : a ≤ b) : Nat.pow 10 a ≤ Nat.pow 10 b :=
  Nat.pow_le_pow_right (by decide) h

theorem fitsDouble_iff {d : Decimal} (h : d.coefficient < Nat.pow 10 d.length) :
    d.fitsDouble = true ↔ d.FitsDouble := by
  -- the two bounds stay variables below, so that no step computes a power of ten
  obtain ⟨m, hm⟩ : ∃ m, m = 308 := ⟨_, rfl⟩
  have hlow : Nat.pow 10 m ≤ doubleBound := by
    subst hm
    decide +kernel
  obtain ⟨n, hn⟩ : ∃ n, n = 309 := ⟨_, rfl⟩
  have hhigh : doubleBound ≤ Nat.pow 10 n := by
    subst hn
    decide +kernel
  unfold fitsDouble FitsDouble
  by_cases hz : d.coefficient = 0
  · have hpos : 0 < doubleBound := Nat.lt_of_lt_of_le (Nat.pow_pos (by decide)) hlow
    simp only [hz, if_true, Nat.zero_mul, true_iff]
    split
    · exact hpos
    · exact Nat.mul_pos hpos (Nat.pow_pos (by decide))
  by_cases he : 0 ≤ d.exponent
  · simp only [hz, he, if_false, if_true, Bool.and_eq_true, decide_eq_true_eq]
    refine ⟨And.right, fun hlt => ⟨?_, hlt⟩⟩
    apply Decidable.byContradiction
    intro hbig
    have hk : n ≤ d.exponent.toNat := by omega
    have h₁ := pow_ten_le hk
    have h₂ : Nat.pow 10 d.exponent.toNat ≤ d.coefficient * Nat.pow 10 d.exponent.toNat :=
      Nat.le_mul_of_pos_left _ (Nat.pos_of_ne_zero hz)
    exact Nat.not_lt.2 (Nat.le_trans hhigh (Nat.le_trans h₁ h₂)) hlt
  · simp only [hz, he, if_false, Bool.or_eq_true, decide_eq_true_eq]
    refine ⟨fun hor => ?_, Or.inr⟩
    rcases hor with hlen | hlt
    · rw [← hm] at hlen
      have h₁ := pow_ten_le hlen
      have h₂ : Nat.pow 10 ((-d.exponent).toNat + m) =
          Nat.pow 10 (-d.exponent).toNat * Nat.pow 10 m := Nat.pow_add ..
      have h₃ : Nat.pow 10 (-d.exponent).toNat * Nat.pow 10 m ≤
          Nat.pow 10 (-d.exponent).toNat * doubleBound := Nat.mul_le_mul_left _ hlow
      rw [Nat.mul_comm doubleBound]
      omega
    · exact hlt

end Decimal

theorem ofDigits_lt {digits : List Char} (h : ∀ d ∈ digits, d.isDigit = true) :
    ofDigits digits < Nat.pow 10 digits.length := by
  have all : ∀ (ds : List Char) (n : Nat), (∀ d ∈ ds, d.isDigit = true) →
      Nat.ofDigitChars 10 ds n < (n + 1) * Nat.pow 10 ds.length := by
    intro ds
    induction ds with
    | nil => intro n _; simp [Nat.pow_eq]
    | cons d rest ih =>
      intro n hd
      have hdig : d.toNat - '0'.toNat ≤ 9 := by
        have := hd d (List.mem_cons_self ..)
        simp only [Char.isDigit, ge_iff_le, Bool.and_eq_true, decide_eq_true_eq] at this
        have h9 : d.toNat ≤ 57 := this.2
        have h0 : '0'.toNat = 48 := rfl
        omega
      have := ih (10 * n + (d.toNat - '0'.toNat)) fun x hx => hd x (List.mem_cons_of_mem _ hx)
      rw [Nat.ofDigitChars_cons]
      refine Nat.lt_of_lt_of_le this ?_
      have hp : Nat.pow 10 (d :: rest).length = Nat.pow 10 rest.length * 10 := rfl
      rw [hp, Nat.mul_comm (Nat.pow 10 rest.length), ← Nat.mul_assoc]
      exact Nat.mul_le_mul_right _ (by omega)
  have := all digits 0 h
  simpa [ofDigits] using this

theorem coefficient_lt_of_decimal? {word : List Char} {d : Decimal}
    (h : decimal? word = some d) : d.coefficient < Nat.pow 10 d.length := by
  unfold decimal? at h
  simp only at h
  split at h
  · cases h
  · obtain ⟨exponent, -, rfl⟩ := Option.map_eq_some_iff.1 h
    refine ofDigits_lt fun c hc => ?_
    rcases List.mem_append.1 hc with hc | hc
    · exact List.all_eq_true.1 List.all_takeWhile c hc
    · unfold fractionPart at hc
      split at hc
      · exact List.all_eq_true.1 List.all_takeWhile c hc
      · cases hc

/-- A word that denotes a decimal number whose nearest double is finite. -/
def isFiniteDecimal (word : List Char) : Bool :=
  (decimal? word).any Decimal.fitsDouble

theorem isFiniteDecimal_iff {word : List Char} :
    isFiniteDecimal word = true ↔ ∃ d, decimal? word = some d ∧ d.FitsDouble := by
  unfold isFiniteDecimal
  cases h : decimal? word with
  | none => simp
  | some d => simp [Decimal.fitsDouble_iff (coefficient_lt_of_decimal? h)]

example : isFiniteDecimal "2.5".toList ∧ isFiniteDecimal ".5e-999999999999".toList ∧
    isFiniteDecimal "0e999999999999".toList ∧ ¬ isFiniteDecimal "1e309".toList ∧
    ¬ isFiniteDecimal "inf".toList ∧ ¬ isFiniteDecimal ".".toList := by decide +kernel

end GlyphCanvas.Numeral
