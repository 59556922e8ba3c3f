/-!
# The shortest decimal that reads back

* `Binary`: a positive number `mantissa · 2 ^ exponent` among the doubles, with the interval of
  reals that round to it.
* `Binary.hit?`: a multiple of a power of ten in that interval, the nearest to the number.
* `Binary.shortest`: the hit on the coarsest grid of multiples that has one, so no decimal with
  fewer digits reads back as the number.

All comparisons are between whole numbers.
-/

namespace GlyphCanvas.Numeral

/-- A positive double `mantissa · 2 ^ exponent`. Below it the next double is only half as far away
as above it if `narrowBelow`. -/
structure Binary where
  mantissa : Nat
  exponent : Int
  narrowBelow : Bool
deriving DecidableEq

namespace Binary

/-- The double of 64 bits without their sign, if it is positive and finite. -/
def ofBits? (bits : Nat) : Option Binary :=
  let biased : Nat := bits / Nat.pow 2 52 % Nat.pow 2 11
  let fraction : Nat := bits % Nat.pow 2 52
  if biased = 0 then
    if fraction = 0 then none
    else some { mantissa := fraction, exponent := -1074, narrowBelow := false }
  else if biased = 2047 then none
  else some {
    mantissa := Nat.pow 2 52 + fraction
    exponent := (biased : Int) - 1075
    narrowBelow := fraction = 0 ∧ 1 < biased }

/-- Four times the mantissa, the middle of the interval in quarters of a unit. -/
def middle (b : Binary) : Nat :=
  4 * b.mantissa

/-- The lower end of the interval that rounds to the double, in quarters of a unit. -/
def lower (b : Binary) : Nat :=
  b.middle - if b.narrowBelow then 1 else 2

/-- The upper end of the interval, in quarters of a unit. -/
def upper (b : Binary) : Nat :=
  b.middle + 2

/-- Quarters of a unit and multiples of `10 ^ power` on one scale: `q` quarters and `d` multiples
are equal if `q * (scale power).1 = d * (scale power).2`. -/
def scale (b : Binary) (power : Int) : Nat × Nat :=
  let quarter := b.exponent - 2
  (Nat.pow 2 quarter.toNat * Nat.pow 10 (-power).toNat,
    Nat.pow 2 (-quarter).toNat * Nat.pow 10 power.toNat)

/-- The interval contains `digits · 10 ^ power`. Its ends belong to it if the mantissa is even. -/
def reads (b : Binary) (digits : Nat) (power : Int) : Bool :=
  let (left, right) := b.scale power
  if b.mantissa % 2 = 0 then
    b.lower * left ≤ digits * right && digits * right ≤ b.upper * left
  else
    b.lower * left < digits * right && digits * right < b.upper * left

/-- The multiple of `10 ^ power` nearest to the double, as its factor, if one of the two around the
double reads back. Of two equally near the even one is taken. -/
def hit? (b : Binary) (power : Int) : Option Nat :=
  let (left, right) := b.scale power
  let below := b.middle * left / right
  let excess := 2 * (b.middle * left % right)
  let preferBelow := excess < right ∨ excess = right ∧ below % 2 = 0
  match b.reads below power, b.reads (below + 1) power with
  | true, true => some (if preferBelow then below else below + 1)
  | true, false => some below
  | false, true => some (below + 1)
  | false, false => none

/-- The power of ten on whose grid the double itself lies. -/
def finest (b : Binary) : Int :=
  min b.exponent 0

/-- The number of grids from `finest` up to one that is coarser than the double is large. -/
def grids (b : Binary) : Nat :=
  let bits := b.exponent + (b.mantissa.log2 + 1 : Nat)
  ((if 0 ≤ bits then bits * 31 / 100 else -(-bits * 30 / 100)) + 1 - b.finest).toNat

/-- Searches `n` grids above the finest, the coarsest first. -/
def search (b : Binary) : Nat → Nat × Int
  | 0 => (b.mantissa * Nat.pow 2 b.exponent.toNat * Nat.pow 5 (-b.exponent).toNat, b.finest)
  | n + 1 =>
    let power := b.finest + (n + 1 : Nat)
    match b.hit? power with
    | some digits => (digits, power)
    | none => b.search n

/-- The digits and the power of ten of the shortest decimal that reads back as the double. -/
def shortest (b : Binary) : Nat × Int :=
  b.search b.grids

end Binary

example : (Binary.ofBits? 0x3FB999999999999A).map Binary.shortest = some (1, -1) ∧
    (Binary.ofBits? 1).map Binary.shortest = some (5, -324) ∧
    (Binary.ofBits? 0x7FEFFFFFFFFFFFFF).map Binary.shortest =
      some (17976931348623157, 292) := by decide +kernel

end GlyphCanvas.Numeral
