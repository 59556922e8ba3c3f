import GlyphCanvas.Action
import GlyphCanvas.Point
import GlyphCanvas.Text.Quoted

/-!
# What can go wrong with a command

`CommandError` lists the causes, `CommandError.kind` groups them, and `CommandError.message` is
the one place where they are put into words.
-/

namespace GlyphCanvas

/-- The two sides of a canvas. -/
inductive Side where
  | width
  | height
deriving DecidableEq

/-- The side's name in error texts. -/
def Side.name : Side → String
  | width => "width"
  | height => "height"

/-- What is wrong with the arguments of a script line. -/
inductive ArgumentFault where
  /-- The action takes another number of arguments than were found. -/
  | count (action : Action) (found : Nat)
  /-- The word stands where an integer of 64 bits is expected. -/
  | notInteger (word : String)
  /-- The word stands where one character is expected. -/
  | notOneCharacter (word : String)
deriving DecidableEq

/-- The fault in words. -/
def ArgumentFault.message : ArgumentFault → String
  | count action found => s!"{action.code} expects {action.arity} arguments, got {found}"
  | notInteger word => s!"{Text.quoted word} is not an integer"
  | notOneCharacter word => s!"fill colour must be a single character, got {Text.quoted word}"

/-- What is wrong with the size asked for a canvas. -/
inductive DimensionFault where
  /-- The word is a number but not an integer of 64 bits. -/
  | notWhole (word : String)
  /-- A side must be at least 1. -/
  | notPositive (side : Side) (value : Int)
  /-- The canvas with its frame would have too many cells. -/
  | tooLarge (width height : Nat)
deriving DecidableEq

/-- The fault in words. -/
def DimensionFault.message : DimensionFault → String
  | notWhole word => s!"{word} is not a whole number"
  | notPositive side value => s!"{side.name} must be a positive integer, got {value}"
  | tooLarge width height => s!"{width}x{height} is too large"

/-- Why a command was refused. -/
inductive CommandError where
  /-- The arguments are too few, too many or malformed. -/
  | invalidArgument (fault : ArgumentFault)
  /-- The first word names no action. -/
  | unknownAction (word : String)
  /-- There is no canvas to work on yet. -/
  | noCanvas
  /-- A point lies outside the canvas, whose size is given. -/
  | outOfBounds (point : Point) (width height : Nat)
  /-- A line is neither horizontal nor vertical. -/
  | unsupportedGeometry (start stop : Point)
  /-- A canvas of that size cannot be made. -/
  | invalidDimension (fault : DimensionFault)
deriving DecidableEq

namespace CommandError

/-- The kinds of refusal, without their details. -/
inductive Kind where
  | invalidArgument
  | unknownAction
  | noCanvas
  | outOfBounds
  | unsupportedGeometry
  | invalidDimension
deriving DecidableEq

/-- The kind of a refusal. -/
def kind : CommandError → Kind
  | invalidArgument _ => .invalidArgument
  | unknownAction _ => .unknownAction
  | noCanvas => .noCanvas
  | outOfBounds .. => .outOfBounds
  | unsupportedGeometry .. => .unsupportedGeometry
  | invalidDimension _ => .invalidDimension

/-- The refusal in words. -/
def message : CommandError → String
  | invalidArgument fault =>
    s!"Couldn't perform the action: inputs are not numbers ({fault.message})"
  | unknownAction word => s!"Couldn't perform unknown action on canvas: {word}"
  | noCanvas => "Couldn't paint on non-existent canvas"
  | outOfBounds point width height =>
    s!"point {point.text} is outside the {width}x{height} canvas"
  | unsupportedGeometry start stop =>
    s!"line from {start.text} to {stop.text} is neither horizontal nor vertical"
  | invalidDimension fault => s!"invalid canvas dimension: {fault.message}"

end CommandError

end GlyphCanvas
