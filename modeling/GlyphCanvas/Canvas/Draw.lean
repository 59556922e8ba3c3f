import GlyphCanvas.Canvas.Basic
import GlyphCanvas.Progress.Meter

/-!
# Lines and rectangles

* `Cell.across`, `Cell.down`: the cells of a row or a column between two cells, ends included.
* `Cell.outline`: the border of the box that two cells span, each cell once, clockwise from the
  top left corner.
* `Canvas.drawLine`, `Canvas.drawRectangle`: put ink on those cells. Every check comes before the
  first mark, so a refused drawing leaves no trace.
-/

namespace GlyphCanvas

namespace Cell

variable {width height : Nat}

/-- The cells from the column of `a` to the column of `b`, left to right, in the row of `a`. -/
def across (a b : Cell width height) : List (Cell width height) :=
  List.ofFn fun i : Fin (max a.x b.x - min a.x b.x + 1) =>
    { a with
      x := min a.x b.x + i
      one_le_x := by have := a.one_le_x; have := b.one_le_x; omega
      x_le := by have := a.x_le; have := b.x_le; omega }

/-- The cells from the row of `a` to the row of `b`, top to bottom, in the column of `a`. -/
def down (a b : Cell width height) : List (Cell width height) :=
  List.ofFn fun i : Fin (max a.y b.y - min a.y b.y + 1) =>
    { a with
      y := min a.y b.y + i
      one_le_y := by have := a.one_le_y; have := b.one_le_y; omega
      y_le := by have := a.y_le; have := b.y_le; omega }

/-- The cell further left, or `a` if both are in one column. -/
def leftmost (a b : Cell width height) : Cell width height :=
  if b.x < a.x then b else a

/-- The cell further right, or `b` if both are in one column. -/
def rightmost (a b : Cell width height) : Cell width height :=
  if b.x < a.x then a else b

/-- The cell further up, or `a` if both are in one row. -/
def topmost (a b : Cell width height) : Cell width height :=
  if b.y < a.y then b else a

/-- The cell further down, or `b` if both are in one row. -/
def bottommost (a b : Cell width height) : Cell width height :=
  if b.y < a.y then a else b

/-- The cells of a list that are neither its first nor its last. -/
def between (cells : List (Cell width height)) : List (Cell width height) :=
  cells.tail.dropLast

/-- The border of the box with opposite corners `a` and `b`, in different rows and columns:
the top row, the right side, the bottom row backwards, the left side upwards. -/
def outline (a b : Cell width height) : List (Cell width height) :=
  let (left, right) := (leftmost a b, rightmost a b)
  let (top, bottom) := (topmost a b, bottommost a b)
  across top bottom ++ between (down right left) ++
    (across bottom top).reverse ++ (between (down left right)).reverse

end Cell

namespace Canvas

/-- A canvas after a change, and the percentages shown on the way. -/
structure Change where
  canvas : Canvas
  shown : List Nat

/-- The straight path between two drawable points: along a row or along a column. -/
def path (c : Canvas) (start stop : Point) :
    Except CommandError (List (Cell c.width c.height)) := do
  let a ← c.locate start
  let b ← c.locate stop
  if a.y = b.y then return Cell.across a b
  else if a.x = b.x then return Cell.down a b
  else throw (.unsupportedGeometry start stop)

/-- Puts ink on some cells; each of them is one unit of the work. -/
def ink (c : Canvas) (cells : List (Cell c.width c.height)) : Change :=
  { canvas := { c with grid := c.grid.putAll cells inkGlyph }
    shown := Progress.readings cells.length cells.length }

/-- Draws the straight line between two points. -/
def drawLine (c : Canvas) (start stop : Point) : Except CommandError Change := do
  return c.ink (← c.path start stop)

/-- Draws the outline of the box with two opposite corners. A box of one row or one column is the
line between them. -/
def drawRectangle (c : Canvas) (first opposite : Point) : Except CommandError Change := do
  let a ← c.locate first
  let b ← c.locate opposite
  if a.x = b.x ∨ a.y = b.y then c.drawLine first opposite
  else return c.ink (Cell.outline a b)

end Canvas

end GlyphCanvas
