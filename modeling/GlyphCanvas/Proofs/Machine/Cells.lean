import GlyphCanvas.Proofs.Canvas.Machine
import Mathlib.Order.Defs.LinearOrder

/-!
# Cells with machine integers

* `Machine.subtract`, `Machine.multiply`, `Machine.count`: operations that break down where the
  result is no machine integer.
* `Machine.index`, `Machine.read`, `Machine.write`: the place of a position among the stored
  characters, and what is there. An access behind the last of them breaks down.
* `Machine.locate`, `Machine.get?`: the column and the row of a point, and what stands there.
* `Canvas.Small`: the canvas has no more cells than one that can be created. Then none of this
  breaks down at a drawable cell (`Machine.index_cell`, `Machine.read_index`,
  `Machine.write_index`) or at any point (`Machine.locate_eq`, `Machine.get?_eq`).
-/

namespace GlyphCanvas

namespace Machine

/-- The difference, unchecked. -/
def subtract (a b : UInt64) : Machine UInt64 :=
  ExceptT.lift (word? (a.toNat - b.toNat))

/-- The product, unchecked. -/
def multiply (a b : UInt64) : Machine UInt64 :=
  ExceptT.lift (word? (a.toNat * b.toNat))

/-- The number of elements of a list. -/
def count {α : Type} (elements : List α) : Machine UInt64 :=
  ExceptT.lift (word? elements.length)

/-- The place of a position among the cells. -/
def index (s : Stored) (x y : UInt64) : Machine UInt64 := do
  add (← multiply y (← add s.width 2)) x

/-- What a place holds. -/
def read (s : Stored) (place : UInt64) : Machine Char :=
  ExceptT.lift s.cells[place.toNat]?

/-- Another character in a place. -/
def write (s : Stored) (place : UInt64) (glyph : Char) : Machine Stored :=
  ExceptT.lift
    (if place.toNat < s.cells.length then some { s with cells := s.cells.set place.toNat glyph }
    else none)

/-- The position is inside the frame. -/
def isInterior (s : Stored) (x y : UInt64) : Bool :=
  1 ≤ x && x ≤ s.width && 1 ≤ y && y ≤ s.height

/-- The column and the row of a drawable point. -/
def locate (s : Stored) (p : Point) : Machine (UInt64 × UInt64) :=
  match word? p.x, word? p.y with
  | some x, some y =>
    if isInterior s x y then return (x, y)
    else throw (.outOfBounds p s.width.toNat s.height.toNat)
  | _, _ => throw (.outOfBounds p s.width.toNat s.height.toNat)

/-- The character at a drawable point. -/
def get? (s : Stored) (p : Point) : Machine (Option Char) :=
  try
    let (x, y) ← locate s p
    return some (← read s (← index s x y))
  catch _ => return none

/-! ## Operations on small numbers -/

section Operations

variable {a b : Nat}

theorem word?_natCast (h : a < 2 ^ 64) : word? a = some (.ofNat a) :=
  word?_eq_some_iff.2 (congrArg Nat.cast (UInt64.toNat_ofNat_of_lt' h))

theorem lift_word? (h : a < 2 ^ 64) :
    ExceptT.lift (word? a) = (pure (.ofNat a) : Machine UInt64) := by
  rw [word?_natCast h]
  rfl

theorem add_ofNat (h : a + b < 2 ^ 64) : add (.ofNat a) (.ofNat b) = pure (.ofNat (a + b)) := by
  have ha : a < 2 ^ 64 := by omega
  have hb : b < 2 ^ 64 := by omega
  rw [add, UInt64.toNat_ofNat_of_lt' ha, UInt64.toNat_ofNat_of_lt' hb]
  exact lift_word? h

theorem add_one (h : a + 1 < 2 ^ 64) : add (.ofNat a) 1 = pure (.ofNat (a + 1)) :=
  add_ofNat (b := 1) h

theorem subtract_ofNat (hle : b ≤ a) (ha : a < 2 ^ 64) :
    subtract (.ofNat a) (.ofNat b) = pure (.ofNat (a - b)) := by
  have hb : b < 2 ^ 64 := hle.trans_lt ha
  rw [subtract, UInt64.toNat_ofNat_of_lt' ha, UInt64.toNat_ofNat_of_lt' hb, ← Int.ofNat_sub hle]
  exact lift_word? ((Nat.sub_le a b).trans_lt ha)

theorem subtract_one (hpos : 1 ≤ a) (ha : a < 2 ^ 64) :
    subtract (.ofNat a) 1 = pure (.ofNat (a - 1)) :=
  subtract_ofNat (b := 1) hpos ha

theorem multiply_ofNat (ha : a < 2 ^ 64) (hb : b < 2 ^ 64) (h : a * b < 2 ^ 64) :
    multiply (.ofNat a) (.ofNat b) = pure (.ofNat (a * b)) := by
  rw [multiply, UInt64.toNat_ofNat_of_lt' ha, UInt64.toNat_ofNat_of_lt' hb]
  exact lift_word? h

theorem count_eq {α : Type} {elements : List α} (hlength : elements.length = a)
    (h : a < 2 ^ 64) : count elements = pure (.ofNat a) := by
  subst hlength
  exact lift_word? h

theorem ofNat_inj (ha : a < 2 ^ 64) (hb : b < 2 ^ 64) :
    UInt64.ofNat a = UInt64.ofNat b ↔ a = b := by
  rw [← UInt64.toNat_inj, UInt64.toNat_ofNat_of_lt' ha, UInt64.toNat_ofNat_of_lt' hb]

theorem ofNat_ne_zero (hpos : 0 < a) (ha : a < 2 ^ 64) : UInt64.ofNat a ≠ 0 :=
  mt (ofNat_inj (b := 0) ha (by decide)).1 (Nat.ne_of_gt hpos)

theorem ofNat_le_ofNat_iff (ha : a < 2 ^ 64) (hb : b < 2 ^ 64) :
    UInt64.ofNat a ≤ UInt64.ofNat b ↔ a ≤ b := by
  rw [UInt64.le_iff_toNat_le, UInt64.toNat_ofNat_of_lt' ha, UInt64.toNat_ofNat_of_lt' hb]

theorem min_ofNat (ha : a < 2 ^ 64) (hb : b < 2 ^ 64) :
    min (UInt64.ofNat a) (.ofNat b) = .ofNat (min a b) := by
  rw [UInt64.min_def, Nat.min_def]
  simp only [ofNat_le_ofNat_iff ha hb]
  split <;> rfl

theorem max_ofNat (ha : a < 2 ^ 64) (hb : b < 2 ^ 64) :
    max (UInt64.ofNat a) (.ofNat b) = .ofNat (max a b) := by
  rw [UInt64.max_def, Nat.max_def]
  simp only [ofNat_le_ofNat_iff ha hb]
  split <;> rfl

end Operations

/-- What comes of a computation that does not break down. -/
theorem run_ofExcept {α : Type} (x : Except CommandError α) :
    (MonadExcept.ofExcept x : Machine α).run = some x := by
  cases x <;> rfl

end Machine

/-! ## Small canvases -/

/-- There are no more cells than a canvas may have that is created. -/
def Canvas.Small (c : Canvas) : Prop :=
  (c.width + 2) * (c.height + 2) ≤ maxCells

theorem Canvas.maxCells_lt : maxCells < 2 ^ 64 := by decide

namespace Canvas.Small

variable {c : Canvas} (h : c.Small)
include h

theorem width_le : c.width + 2 ≤ maxCells :=
  (Nat.le_mul_of_pos_right _ (Nat.succ_pos _)).trans h

theorem height_le : c.height + 2 ≤ maxCells :=
  (Nat.le_mul_of_pos_left _ (Nat.succ_pos _)).trans h

theorem width_lt : c.width + 2 < 2 ^ 64 :=
  h.width_le.trans_lt maxCells_lt

theorem height_lt : c.height + 2 < 2 ^ 64 :=
  h.height_le.trans_lt maxCells_lt

theorem x_lt (p : Cell c.width c.height) : p.x < 2 ^ 64 :=
  p.x_le.trans_lt (Nat.lt_of_succ_lt (Nat.lt_of_succ_lt h.width_lt))

theorem y_lt (p : Cell c.width c.height) : p.y < 2 ^ 64 :=
  p.y_le.trans_lt (Nat.lt_of_succ_lt (Nat.lt_of_succ_lt h.height_lt))

theorem index_lt (p : Cell c.width c.height) : p.index.val < 2 ^ 64 :=
  (p.index.isLt.trans_le h).trans maxCells_lt

theorem toNat_width : c.stored.width.toNat = c.width :=
  UInt64.toNat_ofNat_of_lt' (Nat.lt_of_succ_lt (Nat.lt_of_succ_lt h.width_lt))

theorem toNat_height : c.stored.height.toNat = c.height :=
  UInt64.toNat_ofNat_of_lt' (Nat.lt_of_succ_lt (Nat.lt_of_succ_lt h.height_lt))

theorem area_le : c.width * c.height ≤ maxCells :=
  (Nat.mul_le_mul (Nat.le_add_right _ _) (Nat.le_add_right _ _)).trans h

end Canvas.Small

/-- The column and the row of a cell as machine integers. -/
def Cell.words {width height : Nat} (p : Cell width height) : UInt64 × UInt64 :=
  (.ofNat p.x, .ofNat p.y)

namespace Machine

variable {c : Canvas} (h : c.Small)
include h

theorem isInterior_ofNat {x y : Nat} (hx : x < 2 ^ 64) (hy : y < 2 ^ 64) :
    isInterior c.stored (.ofNat x) (.ofNat y) =
      (Cell.ofNat? x y : Option (Cell c.width c.height)).isSome := by
  have hwidth : c.width < 2 ^ 64 := by have := h.width_lt; omega
  have hheight : c.height < 2 ^ 64 := by have := h.height_lt; omega
  have hone : ∀ {a : Nat}, a < 2 ^ 64 → (1 ≤ UInt64.ofNat a ↔ 1 ≤ a) :=
    ofNat_le_ofNat_iff (a := 1) (by decide)
  rw [Bool.eq_iff_iff]
  simp only [isInterior, Canvas.stored, Bool.and_eq_true, decide_eq_true_eq, hone hx, hone hy,
    ofNat_le_ofNat_iff hx hwidth, ofNat_le_ofNat_iff hy hheight, Cell.ofNat?, Option.isSome_dite,
    and_assoc]

theorem index_cell (p : Cell c.width c.height) :
    index c.stored (.ofNat p.x) (.ofNat p.y) = pure (.ofNat p.index) := by
  have hplace : p.y * (c.width + 2) + p.x < 2 ^ 64 := h.index_lt p
  have hwidth := h.width_lt
  have hheight := h.height_lt
  have hy := p.y_le
  have hstride : add c.stored.width 2 = pure (.ofNat (c.width + 2)) := add_ofNat (by omega)
  rw [index, hstride, pure_bind, multiply_ofNat (by omega) (by omega) (by omega),
    pure_bind, add_ofNat hplace]
  rfl

theorem read_index (p : Cell c.width c.height) :
    read c.stored (.ofNat p.index) = pure (c.grid.glyph p) := by
  have hcell : c.grid.toList[p.index.val]? = some (c.grid.glyph p) := by
    rw [Vector.getElem?_toList, Vector.getElem?_eq_getElem p.index.isLt]
    rfl
  rw [read, UInt64.toNat_ofNat_of_lt' (h.index_lt p), Canvas.stored, hcell]
  rfl

theorem write_index (p : Cell c.width c.height) (glyph : Char) :
    write c.stored (.ofNat p.index) glyph =
      pure (Canvas.stored { c with grid := c.grid.put p glyph }) := by
  have hlt : p.index.val < c.grid.toList.length := by
    rw [Vector.length_toList]
    exact p.index.isLt
  rw [write, UInt64.toNat_ofNat_of_lt' (h.index_lt p), Canvas.stored, if_pos hlt,
    ← Vector.toList_set p.index.isLt]
  rfl

theorem locate_eq (p : Point) :
    locate c.stored p = MonadExcept.ofExcept ((c.locate p).map Cell.words) := by
  unfold Canvas.locate locate
  rw [h.toNat_width, h.toNat_height]
  cases hcell : (Cell.ofPoint? p : Option (Cell c.width c.height)) with
  | some cell =>
    obtain rfl := Cell.ofPoint?_eq_some_iff.1 hcell
    have hx := h.x_lt cell
    have hy := h.y_lt cell
    have hcolumn : word? cell.toPoint.x = some (.ofNat cell.x) := word?_natCast hx
    have hrow : word? cell.toPoint.y = some (.ofNat cell.y) := word?_natCast hy
    have hin : isInterior c.stored (.ofNat cell.x) (.ofNat cell.y) = true := by
      rw [isInterior_ofNat h hx hy, Cell.ofNat?_x_y]
      rfl
    rw [hcolumn, hrow]
    dsimp only
    rw [if_pos hin]
    rfl
  | none =>
    split
    · next x y hx hy =>
      rw [word?_eq_some_iff] at hx hy
      have hout := isInterior_ofNat h x.toNat_lt y.toNat_lt
      rw [UInt64.ofNat_toNat, UInt64.ofNat_toNat] at hout
      rw [Cell.ofPoint?, ← hx, ← hy, Int.toNat_natCast, Int.toNat_natCast] at hcell
      rw [hout, hcell]
      rfl
    · rfl

/-- What stands at a point is the same, and to look it up never breaks down. -/
theorem get?_eq (p : Point) : get? c.stored p = pure (c.get? p) := by
  rw [get?, locate_eq h, Canvas.get?, Canvas.locate]
  cases (Cell.ofPoint? p : Option (Cell c.width c.height)) with
  | some cell =>
    simp only [Except.map, MonadExcept.ofExcept, Cell.words, pure_bind, index_cell h, read_index h]
    rfl
  | none => rfl

/-- A canvas that had lost its characters could not be read. -/
example : (get? { cells := [], width := 1, height := 1 } ⟨1, 1⟩).run = none := by decide

end Machine

end GlyphCanvas
