import GlyphCanvas.Canvas.Flood
import GlyphCanvas.Command.Reader

/-!
# Applying commands to a slot

A slot holds at most one canvas. A command, or a line that stands for one, changes the slot and is
answered.

* `Reply`: the slot afterwards, the percentages shown on the way, and the canvas as text or the
  refusal.
* `Slot.apply`: `create` replaces what the slot holds; all other commands need a canvas.
* `Slot.applyLine`: the same for a line. As long as the slot is empty, every line whose first word
  is not the code of `create` is refused for want of a canvas, whatever else is wrong with it.
-/

namespace GlyphCanvas

/-- A place for one canvas. -/
abbrev Slot := Option Canvas

/-- What becomes of a slot, and the answer. -/
structure Reply where
  slot : Slot
  shown : List Nat
  answer : Except CommandError String

namespace Slot

/-- The command is refused and the slot stays as it is. -/
def refuse (slot : Slot) (error : CommandError) : Reply :=
  { slot, shown := [], answer := .error error }

/-- The slot holds a new canvas, which is also the answer. -/
def accept (change : Canvas.Change) : Reply :=
  { slot := some change.canvas, shown := change.shown, answer := .ok change.canvas.render }

/-- Changes the canvas in the slot, if there is one and the change is possible. -/
def change (slot : Slot) (draw : Canvas → Except CommandError Canvas.Change) : Reply :=
  match slot with
  | none => refuse none .noCanvas
  | some canvas =>
    match draw canvas with
    | .ok change => accept change
    | .error error => refuse (some canvas) error

/-- Carries out a command. -/
def apply (slot : Slot) : Command → Reply
  | .create width height =>
    match Canvas.create width height with
    | .ok canvas => accept { canvas, shown := [] }
    | .error error => refuse slot error
  | .line start stop => slot.change (·.drawLine start stop)
  | .rectangle first opposite => slot.change (·.drawRectangle first opposite)
  | .fill seed colour => slot.change (·.fill seed colour)

/-- Whether the first word of a line asks for something other than a new canvas. -/
def wantsCanvas (line : String) : Bool :=
  match Action.ofCode? ((Text.words line).headD "") with
  | some action => action.needsCanvas
  | none => true

/-- Carries out the command that a line stands for. -/
def applyLine (slot : Slot) (line : String) : Reply :=
  if slot.isNone && wantsCanvas line then slot.refuse .noCanvas
  else
    match Command.ofLine line with
    | .ok command => slot.apply command
    | .error error => slot.refuse error

end Slot

end GlyphCanvas
