import GlyphCanvas.Canvas.Grid
import GlyphCanvas.Error

/-!
# Canvases

* `Canvas`: a size and the characters of a canvas of that size.
* `Canvas.create`: a blank canvas inside its frame, or why there is none of that size.
* `Canvas.get?`: the character at a point, if the point is drawable.
* `Canvas.render`: the rows of the canvas, frame included, one per line.
-/

namespace GlyphCanvas

/-- A drawable part of `width` columns and `height` rows, and the characters in it and around
it. -/
structure Canvas where
  width : Nat
  height : Nat
  grid : Grid width height
deriving DecidableEq

namespace Canvas

/-- The most cells that a canvas may have, frame included: `2 ^ 24`. -/
def maxCells : Nat := 0x1000000

/-- A side length that a canvas can have, or what is wrong with it. -/
def side (which : Side) (value : Int) : Except CommandError Nat :=
  if 0 < value then .ok value.toNat else .error (.invalidDimension (.notPositive which value))

/-- A blank canvas inside its frame. Refused are sides below 1, the width first, and sizes with
more than `maxCells` cells. -/
def create (width height : Int) : Except CommandError Canvas := do
  let width ← side .width width
  let height ← side .height height
  if (width + 2) * (height + 2) ≤ maxCells then
    return { width, height, grid := Grid.fresh width height }
  else
    throw (.invalidDimension (.tooLarge width height))

/-- The drawable cell at a point; other points are out of bounds. -/
def locate (c : Canvas) (p : Point) : Except CommandError (Cell c.width c.height) :=
  match Cell.ofPoint? p with
  | some cell => .ok cell
  | none => .error (.outOfBounds p c.width c.height)

theorem locate_eq_ok_iff {c : Canvas} {p : Point} {cell : Cell c.width c.height} :
    c.locate p = .ok cell ↔ cell.toPoint = p := by
  rw [← Cell.ofPoint?_eq_some_iff]
  unfold locate
  split
  · next h => rw [h]; simp
  · next h => rw [h]; simp

/-- The character at a drawable point. -/
def get? (c : Canvas) (p : Point) : Option Char :=
  (Cell.ofPoint? p).map c.grid.glyph

/-- The characters of one row, frame included; row 0 is the top of the frame. -/
def row (c : Canvas) (y : Fin (c.height + 2)) : List Char :=
  List.ofFn fun x => c.grid.charAt x y

/-- All rows from top to bottom, frame included. -/
def rows (c : Canvas) : List (List Char) :=
  List.ofFn c.row

/-- The canvas as text: its rows, one per line, with no line end after the last. -/
def render (c : Canvas) : String :=
  "\n".intercalate (c.rows.map String.ofList)

end Canvas

end GlyphCanvas
