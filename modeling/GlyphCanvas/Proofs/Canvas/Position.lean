import GlyphCanvas.Canvas.Basic

/-!
# Grids by position

A grid is compared with another one character by character, through `Grid.charAt`.

* `Cell.At`: the cell lies in that column and row. A position with no cell is on the frame
  (`Cell.exists_at_iff`).
* `Grid.ext_charAt`: a grid is determined by its characters.
* `Grid.glyph_putAll`, `Grid.charAt_putAll`: putting a character into some cells shows in these
  cells and at no other position.
* `Grid.Framed`: dashes above and below, bars at both ends of the other rows. A fresh grid is
  framed, and cells cannot spoil a frame (`Grid.Framed.putAll`).
* `Canvas.paint`: what every drawing command does to a canvas, for cells and a character of its own.
-/

namespace GlyphCanvas

/-- Row-major places of different positions are different. -/
theorem rowMajor_inj {width x y x' y' : Nat} (hx : x < width + 2) (hx' : x' < width + 2)
    (h : y * (width + 2) + x = y' * (width + 2) + x') : x = x' ∧ y = y' := by
  have hxx : x = x' := by
    have := congrArg (· % (width + 2)) h
    simpa [Nat.mul_add_mod_self_right, Nat.mod_eq_of_lt hx, Nat.mod_eq_of_lt hx'] using this
  refine ⟨hxx, ?_⟩
  rw [hxx] at h
  exact Nat.eq_of_mul_eq_mul_right (by omega) (Nat.add_right_cancel h)

variable {width height : Nat}

namespace Cell

/-- The cell lies in column `x` and row `y`, both counted from 0, the frame included. -/
def At (p : Cell width height) (x : Fin (width + 2)) (y : Fin (height + 2)) : Prop :=
  p.x = x ∧ p.y = y

instance (p : Cell width height) (x : Fin (width + 2)) (y : Fin (height + 2)) :
    Decidable (p.At x y) :=
  inferInstanceAs (Decidable (p.x = x ∧ p.y = y))

/-- The column of a cell, the frame included. -/
def column (p : Cell width height) : Fin (width + 2) :=
  ⟨p.x, Nat.lt_succ_of_lt (Nat.lt_succ_of_le p.x_le)⟩

/-- The row of a cell, the frame included. -/
def row (p : Cell width height) : Fin (height + 2) :=
  ⟨p.y, Nat.lt_succ_of_lt (Nat.lt_succ_of_le p.y_le)⟩

theorem at_column_row (p : Cell width height) : p.At p.column p.row := ⟨rfl, rfl⟩

theorem At.eq {p q : Cell width height} {x : Fin (width + 2)} {y : Fin (height + 2)}
    (hp : p.At x y) (hq : q.At x y) : p = q :=
  Cell.ext (hp.1.trans hq.1.symm) (hp.2.trans hq.2.symm)

theorem at_column_row_iff {p q : Cell width height} : p.At q.column q.row ↔ p = q :=
  ⟨fun h => h.eq q.at_column_row, fun h => h ▸ p.at_column_row⟩

/-- The positions of cells are those inside the frame. -/
theorem exists_at_iff {x : Fin (width + 2)} {y : Fin (height + 2)} :
    (∃ p : Cell width height, p.At x y) ↔
      (1 ≤ x.val ∧ x.val ≤ width) ∧ 1 ≤ y.val ∧ y.val ≤ height := by
  constructor
  · rintro ⟨p, hx, hy⟩
    rw [← hx, ← hy]
    exact ⟨⟨p.one_le_x, p.x_le⟩, p.one_le_y, p.y_le⟩
  · rintro ⟨⟨hx₁, hx⟩, hy₁, hy⟩
    exact ⟨⟨x, y, hx₁, hx, hy₁, hy⟩, rfl, rfl⟩

end Cell

namespace Grid

theorem charAt_of_at (g : Grid width height) {p : Cell width height} {x : Fin (width + 2)}
    {y : Fin (height + 2)} (h : p.At x y) : g.charAt x y = g.glyph p := by
  obtain ⟨hx, hy⟩ := h
  simp only [charAt, glyph, Cell.index, hx, hy]
  rfl

/-- A grid is determined by its characters. -/
theorem ext_charAt {g g' : Grid width height} (h : ∀ x y, g.charAt x y = g'.charAt x y) :
    g = g' := by
  apply Vector.ext
  intro i hi
  have hx : i % (width + 2) < width + 2 := Nat.mod_lt _ (by omega)
  have hy : i / (width + 2) < height + 2 := Nat.div_lt_of_lt_mul hi
  have hplace : i / (width + 2) * (width + 2) + i % (width + 2) = i := by
    rw [Nat.mul_comm]
    exact Nat.div_add_mod i (width + 2)
  have hchar : ∀ g : Grid width height, g.charAt ⟨_, hx⟩ ⟨_, hy⟩ = g[i] := fun g => by
    simp only [charAt, hplace]
    rfl
  rw [← hchar g, ← hchar g', h]

/-! ## Writing cells -/

theorem charAt_put (g : Grid width height) (p : Cell width height) (c : Char)
    (x : Fin (width + 2)) (y : Fin (height + 2)) :
    (g.put p c).charAt x y = if p.At x y then c else g.charAt x y := by
  split
  · next h => rw [charAt_of_at _ h, glyph_put_self]
  · next h =>
    have hne : p.index.val ≠ y.val * (width + 2) + x.val := fun e =>
      h (rowMajor_inj (by have := p.x_le; omega) x.isLt e)
    exact Vector.getElem_set_ne _ _ hne

@[simp] theorem putAll_nil (g : Grid width height) (c : Char) : g.putAll [] c = g := rfl

theorem putAll_cons (g : Grid width height) (p : Cell width height)
    (cells : List (Cell width height)) (c : Char) :
    g.putAll (p :: cells) c = (g.put p c).putAll cells c := rfl

theorem putAll_append (g : Grid width height) (cells more : List (Cell width height)) (c : Char) :
    g.putAll (cells ++ more) c = (g.putAll cells c).putAll more c :=
  List.foldl_append

theorem charAt_putAll (g : Grid width height) (cells : List (Cell width height)) (c : Char)
    (x : Fin (width + 2)) (y : Fin (height + 2)) :
    (g.putAll cells c).charAt x y = if ∃ p ∈ cells, p.At x y then c else g.charAt x y := by
  induction cells generalizing g with
  | nil => simp
  | cons p rest ih =>
    rw [putAll_cons, ih, charAt_put]
    by_cases hp : p.At x y <;> simp [hp]

theorem glyph_putAll (g : Grid width height) (cells : List (Cell width height)) (c : Char)
    (q : Cell width height) : (g.putAll cells c).glyph q = if q ∈ cells then c else g.glyph q := by
  rw [← charAt_of_at _ q.at_column_row, charAt_putAll, charAt_of_at _ q.at_column_row]
  simp only [Cell.at_column_row_iff, exists_eq_right]

/-- Only the set of the cells counts. -/
theorem putAll_congr (g : Grid width height) {cells cells' : List (Cell width height)}
    (h : ∀ q, q ∈ cells ↔ q ∈ cells') (c : Char) : g.putAll cells c = g.putAll cells' c := by
  refine ext_charAt fun x y => ?_
  simp only [charAt_putAll, h]

/-! ## The frame -/

/-- Dashes in the first and the last row, bars at both ends of the rows between them. -/
structure Framed (g : Grid width height) : Prop where
  top : ∀ x, g.charAt x 0 = '-'
  bottom : ∀ x, g.charAt x (Fin.last _) = '-'
  left : ∀ y : Fin (height + 2), 1 ≤ y.val → y.val ≤ height → g.charAt 0 y = '|'
  right : ∀ y : Fin (height + 2), 1 ≤ y.val → y.val ≤ height → g.charAt (Fin.last _) y = '|'

/-- What a fresh grid holds at a position. -/
theorem charAt_fresh (x : Fin (width + 2)) (y : Fin (height + 2)) :
    (fresh width height).charAt x y = freshGlyph width height x y := by
  have hx : (y.val * (width + 2) + x.val) % (width + 2) = x := by
    rw [Nat.mul_add_mod_self_right, Nat.mod_eq_of_lt x.isLt]
  have hy : (y.val * (width + 2) + x.val) / (width + 2) = y := by
    rw [Nat.add_comm, Nat.add_mul_div_right _ _ (by omega), Nat.div_eq_of_lt x.isLt, Nat.zero_add]
  have hlt := rowMajor_lt x.isLt y.isLt
  show (fresh width height)[y.val * (width + 2) + x.val] = _
  rw [fresh, Vector.getElem_ofFn, hx, hy]

theorem glyph_fresh (p : Cell width height) : (fresh width height).glyph p = blankGlyph := by
  have := p.one_le_x
  have := p.x_le
  have := p.one_le_y
  have := p.y_le
  have hx : p.column.val = p.x := rfl
  have hy : p.row.val = p.y := rfl
  rw [← charAt_of_at _ p.at_column_row, charAt_fresh, hx, hy, freshGlyph, if_neg (by omega),
    if_neg (by omega)]

theorem framed_fresh : (fresh width height).Framed where
  top x := by simp [charAt_fresh, freshGlyph]
  bottom x := by simp [charAt_fresh, freshGlyph]
  left y h₁ h := by
    rw [charAt_fresh, freshGlyph, if_neg (by omega)]
    simp
  right y h₁ h := by
    rw [charAt_fresh, freshGlyph, if_neg (by omega)]
    simp

/-- No cell is on the frame. -/
theorem charAt_putAll_of_frame (g : Grid width height) (cells : List (Cell width height))
    (c : Char) {x : Fin (width + 2)} {y : Fin (height + 2)}
    (h : ¬((1 ≤ x.val ∧ x.val ≤ width) ∧ 1 ≤ y.val ∧ y.val ≤ height)) :
    (g.putAll cells c).charAt x y = g.charAt x y := by
  rw [charAt_putAll, if_neg]
  rintro ⟨p, -, hp⟩
  exact h (Cell.exists_at_iff.1 ⟨p, hp⟩)

theorem Framed.putAll {g : Grid width height} (h : g.Framed) (cells : List (Cell width height))
    (c : Char) : (g.putAll cells c).Framed where
  top x := by
    rw [charAt_putAll_of_frame _ _ _ (by simp)]
    exact h.top x
  bottom x := by
    rw [charAt_putAll_of_frame _ _ _ (by simp)]
    exact h.bottom x
  left y h₁ hy := by
    rw [charAt_putAll_of_frame _ _ _ (by simp)]
    exact h.left y h₁ hy
  right y h₁ hy := by
    rw [charAt_putAll_of_frame _ _ _ (by simp only [Fin.val_last]; omega)]
    exact h.right y h₁ hy

end Grid

namespace Canvas

/-- The canvas with one character in all of some cells. -/
def paint (c : Canvas) (cells : List (Cell c.width c.height)) (glyph : Char) : Canvas :=
  { c with grid := c.grid.putAll cells glyph }

/-- A point is drawable exactly if it is within the size of the canvas. -/
theorem exists_toPoint_iff {c : Canvas} {p : Point} :
    (∃ cell : Cell c.width c.height, cell.toPoint = p) ↔
      (1 ≤ p.x ∧ p.x ≤ c.width) ∧ 1 ≤ p.y ∧ p.y ≤ c.height := by
  constructor
  · rintro ⟨cell, rfl⟩
    have := cell.one_le_x
    have := cell.x_le
    have := cell.one_le_y
    have := cell.y_le
    simp only [Cell.toPoint]
    omega
  · obtain ⟨x, y⟩ := p
    rintro ⟨⟨hx₁, hx⟩, hy₁, hy⟩
    refine ⟨⟨x.toNat, y.toNat, ?_, ?_, ?_, ?_⟩, ?_⟩ <;> simp only [Cell.toPoint, Point.mk.injEq] at * <;>
      omega

end Canvas

end GlyphCanvas
