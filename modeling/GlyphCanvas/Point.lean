/-!
# Points

A point is a pair of integers as a script writes it: columns and rows count from 1, and nothing
says yet that it lies on a canvas.
-/

namespace GlyphCanvas

/-- A column and a row, both counted from 1. -/
structure Point where
  x : Int
  y : Int
deriving DecidableEq

namespace Point

/-- The point in parentheses, as error texts show it. -/
def text (p : Point) : String :=
  s!"({p.x}, {p.y})"

/-- The point reflected in the diagonal: its column becomes its row. -/
def swap (p : Point) : Point :=
  ⟨p.y, p.x⟩

@[simp] theorem swap_swap (p : Point) : p.swap.swap = p := rfl

end Point

end GlyphCanvas
