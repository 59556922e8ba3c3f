import GlyphCanvas.Command.Basic
import GlyphCanvas.Error
import GlyphCanvas.Numeral.Decimal
import GlyphCanvas.Text.Blank

/-!
# Reading commands

* `Directive`: a line cut into its action and its arguments, which are words still.
* `Directive.ofLine`: fails if the first word names no action.
* `Directive.readInteger`, `Directive.readSide`, `Directive.readColour`: what a word means in its
  place.
* `Directive.command`: the number of arguments is checked first, then each argument from the left.
* `Command.ofLine`: both in a row.
-/

namespace GlyphCanvas

/-- An action and the words that follow it on its line. -/
structure Directive where
  action : Action
  arguments : List String
deriving DecidableEq

namespace Directive

/-- The integer that a word denotes. -/
def readInteger (word : String) : Except CommandError Int :=
  match Numeral.signed? word.toList with
  | some value => .ok value
  | none => .error (.invalidArgument (.notInteger word))

/-- A side length as a script writes it. A number that is no integer of 64 bits is told apart from
a word that is no number. -/
def readSide (word : String) : Except CommandError Int :=
  match Numeral.signed? word.toList with
  | some value => .ok value
  | none =>
    if Numeral.isFiniteDecimal word.toList then .error (.invalidDimension (.notWhole word))
    else .error (.invalidArgument (.notInteger word))

/-- A point as two words, the column first. -/
def readPoint (x y : String) : Except CommandError Point := do
  return ⟨← readInteger x, ← readInteger y⟩

/-- A colour: a word of one character. -/
def readColour (word : String) : Except CommandError Char :=
  match word.toList with
  | [colour] => .ok colour
  | _ => .error (.invalidArgument (.notOneCharacter word))

/-- Cuts a line into words, the first of which must name an action. A line without words counts
as having an empty one. -/
def ofLine (line : String) : Except CommandError Directive :=
  let words := Text.words line
  let code := words.headD ""
  match Action.ofCode? code with
  | some action => .ok { action, arguments := words.tail }
  | none => .error (.unknownAction code)

/-- Understands the arguments of a directive. -/
def command (d : Directive) : Except CommandError Command :=
  match d.action, d.arguments with
  | .create, [width, height] => return .create (← readSide width) (← readSide height)
  | .line, [x₁, y₁, x₂, y₂] => return .line (← readPoint x₁ y₁) (← readPoint x₂ y₂)
  | .rectangle, [x₁, y₁, x₂, y₂] => return .rectangle (← readPoint x₁ y₁) (← readPoint x₂ y₂)
  | .fill, [x, y, colour] => return .fill (← readPoint x y) (← readColour colour)
  | action, arguments => throw (.invalidArgument (.count action arguments.length))

end Directive

/-- The command that a line of a script stands for. -/
def Command.ofLine (line : String) : Except CommandError Command := do
  (← Directive.ofLine line).command

end GlyphCanvas
