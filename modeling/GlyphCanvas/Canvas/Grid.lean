import GlyphCanvas.Canvas.Cell

/-!
# Grids

* `Grid`: all characters of a canvas, the frame included, row by row.
* `Grid.fresh`: blanks inside a frame.
* `Grid.charAt`: what stands in a column and a row, frame included.
* `Grid.glyph`, `Grid.put`: what a cell holds, and the grid in which it holds something else.
  Writing a cell shows at that cell (`Grid.glyph_put_self`) and at no other
  (`Grid.glyph_put_of_ne`).
-/

namespace GlyphCanvas

/-- The characters of a canvas with its frame, row by row. -/
abbrev Grid (width height : Nat) := Vector Char ((width + 2) * (height + 2))

/-- What an empty drawable cell holds. -/
def blankGlyph : Char := ' '

/-- What lines and outlines are drawn with. -/
def inkGlyph : Char := 'x'

/-- What a fresh canvas holds in column `x` and row `y`, both counted from 0: dashes above and
below, bars at both ends of the other rows, blanks between them. -/
def freshGlyph (width height x y : Nat) : Char :=
  if y = 0 ∨ y = height + 1 then '-'
  else if x = 0 ∨ x = width + 1 then '|'
  else blankGlyph

namespace Grid

variable {width height : Nat}

/-- The character in column `x` and row `y`, both counted from 0, the frame included. -/
def charAt (g : Grid width height) (x : Fin (width + 2)) (y : Fin (height + 2)) : Char :=
  g.get ⟨y.val * (width + 2) + x.val, rowMajor_lt x.isLt y.isLt⟩

/-- The character in a cell. -/
def glyph (g : Grid width height) (p : Cell width height) : Char :=
  g[p.index]

/-- The grid with another character in one cell. -/
def put (g : Grid width height) (p : Cell width height) (c : Char) : Grid width height :=
  g.set p.index c p.index.isLt

/-- The grid with one character in all of some cells. -/
def putAll (g : Grid width height) (cells : List (Cell width height)) (c : Char) :
    Grid width height :=
  cells.foldl (fun g p => g.put p c) g

/-- The grid of a fresh canvas. -/
def fresh (width height : Nat) : Grid width height :=
  Vector.ofFn fun i => freshGlyph width height (i % (width + 2)) (i / (width + 2))

@[simp] theorem glyph_put_self (g : Grid width height) (p : Cell width height) (c : Char) :
    (g.put p c).glyph p = c := by
  simp [glyph, put]

theorem glyph_put_of_ne (g : Grid width height) {p q : Cell width height} (h : p ≠ q)
    (c : Char) : (g.put p c).glyph q = g.glyph q := by
  have hi : p.index.val ≠ q.index.val := fun e => h (Cell.index_injective (Fin.ext e))
  simp [glyph, put, Vector.getElem_set_ne, hi]

end Grid

end GlyphCanvas
