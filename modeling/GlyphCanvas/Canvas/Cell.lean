import GlyphCanvas.Point

/-!
# Cells

* `Cell`: a drawable cell of a canvas of a given size; columns and rows count from 1.
* `Cell.ofNat?`, `Cell.ofPoint?`: the cell at a column and a row, if there is one
  (`Cell.ofNat?_eq_some_iff`).
* `Cell.index`: the place of a cell among all characters of the canvas, which are kept row by row
  with a frame of one character around the drawable part. Different cells have different places
  (`Cell.index_injective`).
-/

namespace GlyphCanvas

/-- A drawable cell of a canvas: column `x` of `1 … width`, row `y` of `1 … height`. -/
@[ext] structure Cell (width height : Nat) where
  x : Nat
  y : Nat
  one_le_x : 1 ≤ x
  x_le : x ≤ width
  one_le_y : 1 ≤ y
  y_le : y ≤ height
deriving DecidableEq

/-- Row-major places stay below the number of cells. -/
theorem rowMajor_lt {width height x y : Nat} (hx : x < width + 2) (hy : y < height + 2) :
    y * (width + 2) + x < (width + 2) * (height + 2) := by
  have h : (y + 1) * (width + 2) ≤ (height + 2) * (width + 2) := Nat.mul_le_mul_right _ hy
  rw [Nat.mul_comm (width + 2)]
  rw [Nat.add_mul] at h
  omega

namespace Cell

variable {width height : Nat}

/-- The drawable cell at a column and a row, if there is one. -/
@[inline] def ofNat? (x y : Nat) : Option (Cell width height) :=
  if h : (1 ≤ x ∧ x ≤ width) ∧ 1 ≤ y ∧ y ≤ height then
    some ⟨x, y, h.1.1, h.1.2, h.2.1, h.2.2⟩
  else none

/-- The drawable cell at a point, if there is one. A negative coordinate counts as 0 here, which
no cell has either. -/
def ofPoint? (p : Point) : Option (Cell width height) :=
  ofNat? p.x.toNat p.y.toNat

/-- The cell as a point. -/
def toPoint (p : Cell width height) : Point :=
  ⟨p.x, p.y⟩

theorem ofNat?_eq_some_iff {x y : Nat} {p : Cell width height} :
    ofNat? x y = some p ↔ p.x = x ∧ p.y = y := by
  have := p.one_le_x
  have := p.x_le
  have := p.one_le_y
  have := p.y_le
  unfold ofNat?
  split
  · simp only [Option.some.injEq, Cell.ext_iff]
    omega
  · simp only [reduceCtorEq, false_iff]
    omega

@[simp] theorem ofNat?_x_y (p : Cell width height) : ofNat? p.x p.y = some p :=
  ofNat?_eq_some_iff.2 ⟨rfl, rfl⟩

@[simp] theorem ofPoint?_toPoint (p : Cell width height) : ofPoint? p.toPoint = some p :=
  ofNat?_x_y p

theorem ofPoint?_eq_some_iff {point : Point} {p : Cell width height} :
    ofPoint? point = some p ↔ p.toPoint = point := by
  have := p.one_le_x
  have := p.one_le_y
  obtain ⟨x, y⟩ := point
  simp only [ofPoint?, ofNat?_eq_some_iff, toPoint, Point.mk.injEq]
  omega

/-- The place of a cell in the grid. -/
def index (p : Cell width height) : Fin ((width + 2) * (height + 2)) :=
  ⟨p.y * (width + 2) + p.x,
    rowMajor_lt (by have := p.x_le; omega) (by have := p.y_le; omega)⟩

theorem index_injective {p q : Cell width height} (h : p.index = q.index) : p = q := by
  have hv : p.y * (width + 2) + p.x = q.y * (width + 2) + q.x := congrArg Fin.val h
  have hp : p.x < width + 2 := by have := p.x_le; omega
  have hq : q.x < width + 2 := by have := q.x_le; omega
  have hx : p.x = q.x := by
    have := congrArg (· % (width + 2)) hv
    simpa [Nat.mul_add_mod_self_right, Nat.mod_eq_of_lt hp, Nat.mod_eq_of_lt hq] using this
  have hy : p.y = q.y := by
    rw [hx] at hv
    exact Nat.eq_of_mul_eq_mul_right (by omega) (Nat.add_right_cancel hv)
  exact Cell.ext hx hy

end Cell

end GlyphCanvas
