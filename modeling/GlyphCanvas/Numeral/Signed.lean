/-!
# Signed integers in 64 bits

* `signed?` reads an integer: at most one sign, then one or more ASCII digits, of a value that
  64 bits hold. Leading zeros are allowed.
* `write` is the shortest such numeral: a minus if needed, no leading zeros.
-/

namespace GlyphCanvas.Numeral

/-- The least integer of 64 bits, `-2 ^ 63`. -/
def least : Int := -0x8000000000000000

/-- The greatest integer of 64 bits, `2 ^ 63 - 1`. -/
def greatest : Int := 0x7FFFFFFFFFFFFFFF

/-- Takes off one leading sign. The flag says whether it was a minus. -/
def splitSign : List Char → Bool × List Char
  | '-' :: rest => (true, rest)
  | '+' :: rest => (false, rest)
  | rest => (false, rest)

/-- The number with these decimal digits, most significant first. -/
def ofDigits (digits : List Char) : Nat :=
  Nat.ofDigitChars 10 digits 0

/-- A number with a sign in front. -/
def withSign (negative : Bool) (magnitude : Nat) : Int :=
  if negative then -magnitude else magnitude

/-- The integer that a word denotes, if it is a numeral within 64 bits. -/
def signed? (word : List Char) : Option Int :=
  let (negative, digits) := splitSign word
  let value := withSign negative (ofDigits digits)
  if digits ≠ [] ∧ digits.all Char.isDigit ∧ least ≤ value ∧ value ≤ greatest then some value
  else none

/-- The decimal numeral of an integer. -/
def write : Int → List Char
  | .ofNat n => Nat.toDigits 10 n
  | .negSucc n => '-' :: Nat.toDigits 10 (n + 1)

example : signed? "+007".toList = some 7 ∧ signed? "-".toList = none ∧
    signed? "9223372036854775808".toList = none ∧
    signed? "-9223372036854775808".toList = some least := by decide +kernel

end GlyphCanvas.Numeral
