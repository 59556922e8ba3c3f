import GlyphCanvas.Canvas.Draw

/-!
# Flood fill

A flood recolours the cells of one character that hang together with a seed, through left, right,
upper and lower neighbours.

* `Flood`: a flood under way: the grid so far, the cells whose neighbours are still to be looked
  at, and the number of cells recoloured.
* `Flood.step`: looks at the neighbours of one cell. A cell is recoloured when it is put on the
  stack, so it is put there once.
* `Flood.run`: steps until the stack is empty. Each recoloured cell costs one that still has the
  old character, so `Flood.fuel`, twice those cells and the stack, falls with every step.
* `Canvas.fill`: a flood on a canvas. The frame is not among the cells and stays as it is.
-/

namespace GlyphCanvas

/-- The drawable neighbours of a cell: left, right, above, below. -/
def Cell.neighbours {width height : Nat} (p : Cell width height) : List (Cell width height) :=
  (ofNat? (p.x - 1) p.y).toList ++ (ofNat? (p.x + 1) p.y).toList ++
    (ofNat? p.x (p.y - 1)).toList ++ (ofNat? p.x (p.y + 1)).toList

/-- A flood under way. -/
structure Flood (width height : Nat) where
  grid : Grid width height
  /-- Recoloured cells whose neighbours have not been looked at. -/
  stack : List (Cell width height)
  /-- The number of cells recoloured so far. -/
  filled : Nat

namespace Flood

variable {width height : Nat}

/-- Recolours a cell that holds the old character and notes that its neighbours are to be looked
at. Other cells are barriers. -/
def visit (old new : Char) (f : Flood width height) (p : Cell width height) :
    Flood width height :=
  if f.grid.glyph p = old then
    { grid := f.grid.put p new, stack := p :: f.stack, filled := f.filled + 1 }
  else f

/-- Visits the cell at a column and a row, if it is drawable. -/
def visitAt (old new : Char) (f : Flood width height) (x y : Nat) : Flood width height :=
  match Cell.ofNat? x y with
  | some p => f.visit old new p
  | none => f

/-- Visits the neighbours of a cell that was taken from the stack. -/
def step (old new : Char) (f : Flood width height) (p : Cell width height)
    (rest : List (Cell width height)) : Flood width height :=
  let f := { f with stack := rest }
  let f := f.visitAt old new (p.x - 1) p.y
  let f := f.visitAt old new (p.x + 1) p.y
  let f := f.visitAt old new p.x (p.y - 1)
  f.visitAt old new p.x (p.y + 1)

theorem visitAt_eq_foldl (old new : Char) (f : Flood width height) (x y : Nat) :
    f.visitAt old new x y = (Cell.ofNat? x y).toList.foldl (visit old new) f := by
  unfold visitAt
  cases Cell.ofNat? x y <;> rfl

theorem step_eq_foldl (old new : Char) (f : Flood width height) (p : Cell width height)
    (rest : List (Cell width height)) :
    f.step old new p rest = p.neighbours.foldl (visit old new) { f with stack := rest } := by
  simp only [Cell.neighbours, List.foldl_append, ← visitAt_eq_foldl]
  rfl

/-- What a flood has left to do: cells to recolour, counted twice, and cells to look around. -/
def fuel (old : Char) (f : Flood width height) : Nat :=
  2 * f.grid.count old + f.stack.length

theorem fuel_visit_le {old new : Char} (h : new ≠ old) (f : Flood width height)
    (p : Cell width height) : (visit old new f p).fuel old ≤ f.fuel old := by
  unfold visit
  split
  · next hp =>
    have hpos : 0 < f.grid.count old := by
      rw [Vector.count_pos_iff]
      rw [← hp]
      exact Vector.getElem_mem _
    have hc : (f.grid.put p new).count old = f.grid.count old - 1 := by
      have hp' : f.grid[p.index.val] = old := hp
      rw [Grid.put, Vector.count_set]
      simp [hp', h]
    simp only [fuel, hc, List.length_cons]
    omega
  · exact Nat.le_refl _

theorem fuel_foldl_visit_le {old new : Char} (h : new ≠ old) (cells : List (Cell width height))
    (f : Flood width height) : (cells.foldl (visit old new) f).fuel old ≤ f.fuel old := by
  induction cells generalizing f with
  | nil => exact Nat.le_refl _
  | cons p rest ih => exact Nat.le_trans (ih _) (fuel_visit_le h f p)

theorem fuel_step_lt {old new : Char} (h : new ≠ old) {f : Flood width height}
    {p : Cell width height} {rest : List (Cell width height)} (hs : f.stack = p :: rest) :
    (f.step old new p rest).fuel old < f.fuel old := by
  rw [step_eq_foldl]
  refine Nat.lt_of_le_of_lt (fuel_foldl_visit_le h _ _) ?_
  simp [fuel, hs]

/-- Steps until no cell is left to look around. -/
def run {old new : Char} (h : new ≠ old) (f : Flood width height) : Flood width height :=
  match _hs : f.stack with
  | [] => f
  | p :: rest => run h (f.step old new p rest)
termination_by f.fuel old
decreasing_by exact fuel_step_lt h _hs

/-- Induction along a run: no cell is left to look around, or the next one is taken. -/
@[elab_as_elim]
theorem run_induction {old new : Char} (h : new ≠ old) {motive : Flood width height → Prop}
    (ended : ∀ f, f.stack = [] → motive f)
    (taken : ∀ f p rest, f.stack = p :: rest → motive (f.step old new p rest) → motive f)
    (f : Flood width height) : motive f :=
  run.induct h motive ended taken f

/-- A flood that has recoloured its seed. -/
def start (g : Grid width height) (seed : Cell width height) (new : Char) :
    Flood width height :=
  { grid := g.put seed new, stack := [seed], filled := 1 }

end Flood

namespace Canvas

/-- Recolours the region around a point. One unit of the work is a recoloured cell, and the whole
is the drawable part of the canvas. A region that has the colour already is left alone. -/
def fill (c : Canvas) (point : Point) (colour : Char) : Except CommandError Change := do
  let seed ← c.locate point
  let old := c.grid.glyph seed
  if h : colour = old then
    return { canvas := c, shown := Progress.readings (c.width * c.height) 0 }
  else
    let flood := (Flood.start c.grid seed colour).run h
    return {
      canvas := { c with grid := flood.grid }
      shown := Progress.readings (c.width * c.height) flood.filled }

end Canvas

end GlyphCanvas
