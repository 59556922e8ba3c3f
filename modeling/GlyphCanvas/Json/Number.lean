import GlyphCanvas.Numeral.Shortest

/-!
# JSON numbers

* `writeNumber`: the shortest digits that read back, with a point from `1e-5` up to `1e16` and with
  an exponent outside; `null` for what is no number.
* `readNumber?`: a number of the JSON grammar as a double. The digits are gathered in a significand
  of 64 bits, which is rounded once and then scaled by a power of ten, so the last bit can differ
  from that of the nearest double. A number beyond the range of the doubles is refused.
-/

namespace GlyphCanvas.Json

open Numeral

/-! ## Writing -/

/-- Digits and a power of ten in positional notation if the point stands close to the digits, else
with one digit before the point and an exponent. -/
def layout (digits : List Char) (power : Int) : List Char :=
  let point : Int := power + digits.length
  if 0 < point ∧ point ≤ 16 then
    if 0 ≤ power then digits ++ List.replicate power.toNat '0' ++ ['.', '0']
    else digits.take point.toNat ++ '.' :: digits.drop point.toNat
  else if -5 < point ∧ point ≤ 0 then
    ['0', '.'] ++ List.replicate (-point).toNat '0' ++ digits
  else
    let fraction := if digits.length ≤ 1 then [] else '.' :: digits.tail
    let sign := if 0 < point then '+' else '-'
    digits.take 1 ++ fraction ++ 'e' :: sign :: Nat.toDigits 10 (point - 1).natAbs

/-- A magnitude as a JSON number. -/
def writeMagnitude (bits : Nat) : List Char :=
  match Binary.ofBits? bits with
  | some b =>
    let (digits, power) := b.shortest
    layout (Nat.toDigits 10 digits) power
  | none => ['0', '.', '0']

/-- A double as a JSON number; infinities and what is no number become `null`. -/
def writeNumber (value : Float) : List Char :=
  let bits := value.toBits.toNat
  let magnitude := bits % Nat.pow 2 63
  if 2047 * Nat.pow 2 52 ≤ magnitude then ['n', 'u', 'l', 'l']
  else (if bits = magnitude then [] else ['-']) ++ writeMagnitude magnitude

/-! ## Reading -/

/-- The greatest significand, the greatest number of 64 bits. -/
def maxSignificand : Nat := 0xFFFFFFFFFFFFFFFF

/-- The value of a digit. -/
def digitValue (c : Char) : Nat :=
  c.toNat - 48

/-- Gathers the digits before the point. From the first one that no longer fits, each counts as a
power of ten only. -/
def gatherWhole (significand dropped : Nat) : List Char → Nat × Nat
  | [] => (significand, dropped)
  | d :: rest =>
    let next := significand * 10 + digitValue d
    if dropped = 0 ∧ next ≤ maxSignificand then gatherWhole next 0 rest
    else gatherWhole significand (dropped + 1) rest

/-- Gathers the digits behind the point, up to the first that no longer fits. The result is the
significand and the number of digits gathered. -/
def gatherFraction (significand gathered : Nat) : List Char → Nat × Nat
  | [] => (significand, gathered)
  | d :: rest =>
    let next := significand * 10 + digitValue d
    if next ≤ maxSignificand then gatherFraction next (gathered + 1) rest
    else (significand, gathered)

/-- A power of ten as the nearest double. -/
def powerOfTen (exponent : Nat) : Float :=
  Float.ofScientific 1 false exponent

/-- A double times a power of ten. Powers that are no doubles are divided by in steps of `1e308`,
until the result is zero. -/
def scaleNumber? (value : Float) (exponent : Int) : Option Float :=
  if exponent.natAbs ≤ 308 then
    if 0 ≤ exponent then
      let scaled := value * powerOfTen exponent.natAbs
      if scaled.isInf then none else some scaled
    else some (value / powerOfTen exponent.natAbs)
  else if value == 0.0 then some value
  else if 0 ≤ exponent then none
  else scaleNumber? (value / powerOfTen 308) (exponent + 308)
termination_by exponent.natAbs

/-- The digits at the beginning of a text, at least one, and what follows them. -/
def someDigits? (s : List Char) : Option (List Char × List Char) :=
  match s.takeWhile Char.isDigit with
  | [] => none
  | digits => some (digits, s.dropWhile Char.isDigit)

/-- The digits before the point. A zero is not followed by digits. -/
def whole? (s : List Char) : Option (List Char × List Char) :=
  (someDigits? s).filter fun (digits, _) => digits.length = 1 ∨ digits.head? ≠ some '0'

/-- The digits behind a point, if there is one. -/
def fraction? : List Char → Option (List Char × List Char)
  | '.' :: rest => someDigits? rest
  | rest => some ([], rest)

/-- The integer behind an exponent mark, if there is one. -/
def exponent? : List Char → Option (Int × List Char)
  | [] => some (0, [])
  | mark :: rest =>
    if mark = 'e' ∨ mark = 'E' then do
      let (negative, body) := match rest with
        | '-' :: body => (true, body)
        | '+' :: body => (false, body)
        | body => (false, body)
      let (digits, rest) ← someDigits? body
      let magnitude : Int := Nat.ofDigitChars 10 digits 0
      return (if negative then -magnitude else magnitude, rest)
    else some (0, mark :: rest)

/-- A number without its sign, and what follows it. -/
def readMagnitude? (s : List Char) : Option (Float × List Char) := do
  let (whole, rest) ← whole? s
  let (fraction, rest) ← fraction? rest
  let (exponent, rest) ← exponent? rest
  let (significand, dropped) := gatherWhole 0 0 whole
  let (significand, gathered) := gatherFraction significand 0 fraction
  let value ← scaleNumber? (Float.ofNat significand) (dropped - gathered + exponent)
  return (value, rest)

/-- A number, and what follows it. -/
def readNumber? : List Char → Option (Float × List Char)
  | '-' :: rest => (readMagnitude? rest).map fun (value, rest) => (-value, rest)
  | s => readMagnitude? s

end GlyphCanvas.Json
