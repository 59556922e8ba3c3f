import GlyphCanvas.Action
import GlyphCanvas.Point
import GlyphCanvas.Numeral.Signed

/-!
# Commands

`Command` is a script line with its arguments understood, and `Command.line` is the one line that
writes it without anything superfluous: the code and the arguments, a space between any two.
-/

namespace GlyphCanvas

/-- A request with its arguments. -/
inductive Command where
  /-- Start a blank canvas of this size. -/
  | create (width height : Int)
  /-- Draw the straight line between two points. -/
  | line (start stop : Point)
  /-- Draw the outline of the box with two opposite corners. -/
  | rectangle (first opposite : Point)
  /-- Recolour the region around a point. -/
  | fill (seed : Point) (colour : Char)
deriving DecidableEq

namespace Command

/-- What a command asks for. -/
def action : Command → Action
  | create .. => .create
  | line .. => .line
  | rectangle .. => .rectangle
  | fill .. => .fill

/-- The two numerals of a point. -/
def pointWords (p : Point) : List String :=
  [String.ofList (Numeral.write p.x), String.ofList (Numeral.write p.y)]

/-- The arguments of a command as a script writes them. -/
def arguments : Command → List String
  | create width height => pointWords ⟨width, height⟩
  | line start stop => pointWords start ++ pointWords stop
  | rectangle first opposite => pointWords first ++ pointWords opposite
  | fill seed colour => pointWords seed ++ [colour.toString]

/-- The command as a line of a script. -/
def text (command : Command) : String :=
  " ".intercalate (command.action.code :: command.arguments)

end Command

end GlyphCanvas
