import GlyphCanvas.Canvas.Basic
import GlyphCanvas.Command.Basic

/-!
# Transposed and recoloured commands

* `Command.swap`: the command with rows and columns exchanged, and `Canvas.Transposed`, what that is
  to do to a canvas.
* `Command.recolour`: the command with another colour in its place, and `Canvas.Recoloured`, what
  that is to do to a canvas.
-/

namespace GlyphCanvas

namespace Command

/-- The command with rows and columns exchanged. -/
def swap : Command → Command
  | create width height => create height width
  | line start stop => line start.swap stop.swap
  | rectangle first opposite => rectangle first.swap opposite.swap
  | fill seed colour => fill seed.swap colour

@[simp] theorem swap_swap (command : Command) : command.swap.swap = command := by
  cases command <;> rfl

/-- The command with its colour, if it has one, replaced by another. -/
def recolour (paint : Char → Char) : Command → Command
  | fill seed colour => fill seed (paint colour)
  | command => command

end Command

namespace Canvas

/-- The second canvas is the first with rows and columns exchanged. -/
structure Transposed (c d : Canvas) : Prop where
  width_eq : d.width = c.height
  height_eq : d.height = c.width
  get_eq : ∀ p, d.get? p.swap = c.get? p

/-- The second canvas is the first with every drawable character replaced, inside the same
frame. -/
structure Recoloured (paint : Char → Char) (c d : Canvas) : Prop where
  width_eq : d.width = c.width
  height_eq : d.height = c.height
  get_eq : ∀ p, d.get? p = (c.get? p).map paint
  frame_eq : ∀ (x : Fin (c.width + 2)) (y : Fin (c.height + 2)),
    x.val = 0 ∨ x.val = c.width + 1 ∨ y.val = 0 ∨ y.val = c.height + 1 →
      d.grid.charAt (x.cast (by rw [width_eq])) (y.cast (by rw [height_eq])) = c.grid.charAt x y

end Canvas

end GlyphCanvas
