import GlyphCanvas.Proofs.Slot.Drawings
import GlyphCanvas.Proofs.Slot.Work

/-!
# Rectangles

* `Cell.SameBox`: two pairs of cells are opposite corners of one box. They give the same border
  (`Cell.SameBox.border_perm`).
* `Command.sides`: the four sides of a box as lines, which cover what the rectangle covers
  (`Command.covers_sides_iff`).
* `Work.drawRectangle_toPoint`: a rectangle, character by character.
* `Canvas.Outlined`, `Canvas.exists_outlined`: a rectangle puts ink on the border of the box, each
  cell once. So do the lines along its sides, and the rectangle by its other corners.
-/

namespace GlyphCanvas

namespace Cell

variable {width height : Nat} {a b a' b' q : Cell width height}

/-- Both pairs of cells are opposite corners of the same box. -/
structure SameBox (a b a' b' : Cell width height) : Prop where
  left : min a'.x b'.x = min a.x b.x
  right : max a'.x b'.x = max a.x b.x
  top : min a'.y b'.y = min a.y b.y
  bottom : max a'.y b'.y = max a.y b.y

/-- The sides of a box in terms of its smallest and largest columns and rows. -/
theorem onBorder_iff_box : OnBorder a b q ↔
    (min a.x b.x ≤ q.x ∧ q.x ≤ max a.x b.x) ∧ (min a.y b.y ≤ q.y ∧ q.y ≤ max a.y b.y) ∧
      (q.x = min a.x b.x ∨ q.x = max a.x b.x ∨ q.y = min a.y b.y ∨ q.y = max a.y b.y) := by
  have hx : q.x = min a.x b.x ∨ q.x = max a.x b.x ↔ q.x = a.x ∨ q.x = b.x := by omega
  have hy : q.y = min a.y b.y ∨ q.y = max a.y b.y ↔ q.y = a.y ∨ q.y = b.y := by omega
  rw [hy, ← or_assoc, hx, or_assoc]
  exact ⟨fun ⟨hx, hy, hside⟩ => ⟨hx, hy, hside⟩, fun ⟨hx, hy, hside⟩ => ⟨hx, hy, hside⟩⟩

theorem exists_mem_border_at_iff {x : Fin (width + 2)} {y : Fin (height + 2)} :
    (∃ q ∈ border a b, q.At x y) ↔
      (min a.x b.x ≤ x ∧ x ≤ max a.x b.x) ∧ (min a.y b.y ≤ y ∧ y ≤ max a.y b.y) ∧
        (x = min a.x b.x ∨ x = max a.x b.x ∨ y = min a.y b.y ∨ y = max a.y b.y) := by
  constructor
  · rintro ⟨q, hq, hx, hy⟩
    rw [← hx, ← hy]
    exact onBorder_iff_box.1 (mem_border_iff.1 hq)
  · intro h
    have hx₁ := le_min a.one_le_x b.one_le_x
    have hx := max_le a.x_le b.x_le
    have hy₁ := le_min a.one_le_y b.one_le_y
    have hy := max_le a.y_le b.y_le
    obtain ⟨q, hqx, hqy⟩ := exists_at_iff.2
      ⟨⟨hx₁.trans h.1.1, h.1.2.trans hx⟩, hy₁.trans h.2.1.1, h.2.1.2.trans hy⟩
    rw [← hqx, ← hqy] at h
    exact ⟨q, mem_border_iff.2 (onBorder_iff_box.2 h), hqx, hqy⟩

theorem SameBox.onBorder_iff (h : SameBox a b a' b') : OnBorder a' b' q ↔ OnBorder a b q := by
  rw [onBorder_iff_box, onBorder_iff_box, h.left, h.right, h.top, h.bottom]

/-- The cells of the border come in another order only. -/
theorem SameBox.border_perm (h : SameBox a b a' b') : (border a' b').Perm (border a b) := by
  rw [List.perm_ext_iff_of_nodup (nodup_border a' b') (nodup_border a b)]
  intro q
  rw [mem_border_iff, mem_border_iff, h.onBorder_iff]

end Cell

/-! ## Sides -/

namespace Command

/-- The lines along the four sides of the box with opposite corners `a` and `b`: two in rows, two in
columns. -/
def sides (a b : Point) : List Command :=
  [.line a ⟨b.x, a.y⟩, .line ⟨a.x, b.y⟩ b, .line a ⟨a.x, b.y⟩, .line ⟨b.x, a.y⟩ b]

theorem covers_row_iff {x x' y : Int} {p : Point} :
    (line ⟨x, y⟩ ⟨x', y⟩).Covers p ↔ (min x x' ≤ p.x ∧ p.x ≤ max x x') ∧ p.y = y := by
  simp only [Covers, Point.Within]
  omega

theorem covers_column_iff {x y y' : Int} {p : Point} :
    (line ⟨x, y⟩ ⟨x, y'⟩).Covers p ↔ p.x = x ∧ min y y' ≤ p.y ∧ p.y ≤ max y y' := by
  simp only [Covers, Point.Within]
  omega

theorem covers_sides_iff {a b p : Point} :
    (∃ d ∈ sides a b, d.Covers p) ↔ (rectangle a b).Covers p := by
  obtain ⟨x, y⟩ := a
  obtain ⟨x', y'⟩ := b
  have hx : p.x = x ∨ p.x = x' → min x x' ≤ p.x ∧ p.x ≤ max x x' := by omega
  have hy : p.y = y ∨ p.y = y' → min y y' ≤ p.y ∧ p.y ≤ max y y' := by omega
  simp only [sides, List.exists_mem_cons_iff, List.not_mem_nil, false_and, exists_false, or_false,
    covers_row_iff, covers_column_iff]
  rw [Covers, Point.Within]
  tauto

end Command

theorem drawable_sides {width height : Nat} (a b : Cell width height) :
    Drawable width height (Command.sides a.toPoint b.toPoint) := by
  let across : Cell width height := ⟨b.x, a.y, b.one_le_x, b.x_le, a.one_le_y, a.y_le⟩
  let below : Cell width height := ⟨a.x, b.y, a.one_le_x, a.x_le, b.one_le_y, b.y_le⟩
  simp only [Drawable, Command.sides, List.forall_mem_cons]
  exact ⟨⟨a, across, .line (.inr rfl)⟩, ⟨below, b, .line (.inr rfl)⟩, ⟨a, below, .line (.inl rfl)⟩,
    ⟨across, b, .line (.inl rfl)⟩, by simp⟩

/-! ## Character by character -/

namespace Work

theorem drawLine_toPoint (c : Canvas) {a b : Cell c.width c.height} (h : a.x = b.x ∨ a.y = b.y) :
    drawLine c a.toPoint b.toPoint = ink c (Cell.border a b) := by
  have hpath : c.path a.toPoint b.toPoint = .ok (Cell.border a b) := c.path_toPoint h
  rw [drawLine, hpath]
  rfl

theorem drawRectangle_toPoint (c : Canvas) (a b : Cell c.width c.height) :
    drawRectangle c a.toPoint b.toPoint = ink c (Cell.border a b) := by
  rw [drawRectangle, c.locate_toPoint, c.locate_toPoint]
  show (if a.x = b.x ∨ a.y = b.y then _ else _) = _
  by_cases h : a.x = b.x ∨ a.y = b.y
  · rw [if_pos h, drawLine_toPoint c h]
  · rw [if_neg h, Cell.border_eq_outline h]

end Work

/-! ## Rectangles -/

namespace Canvas

/-- What a rectangle with opposite corners `a` and `b` makes of a canvas. -/
structure Outlined (c : Canvas) (a b : Cell c.width c.height) (change : Change) : Prop where
  drawn : c.drawRectangle a.toPoint b.toPoint = .ok change
  shows : ∃ grid : Grid c.width c.height, change.canvas = { c with grid } ∧
    ∀ x y, grid.charAt x y =
      if (min a.x b.x ≤ x ∧ x ≤ max a.x b.x) ∧ (min a.y b.y ≤ y ∧ y ≤ max a.y b.y) ∧
        (x = min a.x b.x ∨ x = max a.x b.x ∨ y = min a.y b.y ∨ y = max a.y b.y)
      then 'x' else c.grid.charAt x y
  /-- Each cell of the border is painted once, and no other cell. -/
  once : ∃ cells : List (Cell c.width c.height),
    cells.Nodup ∧ (∀ q, q ∈ cells ↔ Cell.OnBorder a b q) ∧
      Work.drawRectangle c a.toPoint b.toPoint = Work.ink c cells ∧ change = c.ink cells
  /-- The lines along the four sides, in any order and direction, make the same of the canvas. -/
  sides : ∀ lines, Rearranged (Command.sides a.toPoint b.toPoint) lines →
    (∀ reply ∈ Slot.replies (some c) lines, ∃ text, reply.answer = .ok text) ∧
      Slot.afterAll (some c) (lines.map .command) = some change.canvas
  /-- So does the rectangle by any two opposite corners of the box, with the same progress. -/
  corners : ∀ a' b', Cell.SameBox a b a' b' →
    c.drawRectangle a'.toPoint b'.toPoint = .ok change

/-- A rectangle is drawn between any two cells, also of one row or column. -/
theorem exists_outlined (c : Canvas) (a b : Cell c.width c.height) :
    ∃ change, c.Outlined a b change := by
  have hcells : ∀ q, q ∈ Cell.border a b ↔
      ∃ d ∈ Command.sides a.toPoint b.toPoint, d.Covers q.toPoint := fun q => by
    rw [Command.covers_sides_iff, Command.DrawsBetween.rectangle.covers_iff]
  refine ⟨c.ink (Cell.border a b),
    { drawn := c.drawRectangle_toPoint a b
      shows := ⟨_, rfl, fun x y => ?_⟩
      once := ⟨_, Cell.nodup_border a b, fun q => Cell.mem_border_iff,
        Work.drawRectangle_toPoint c a b, rfl⟩
      sides := fun lines hlines => Slot.run_rearranged (drawable_sides a b) hcells hlines
      corners := fun a' b' hbox => ?_ }⟩
  · rw [Grid.charAt_putAll]
    simp only [Cell.exists_mem_border_at_iff]
    rfl
  · rw [c.drawRectangle_toPoint, ink_eq_of_perm hbox.border_perm]

end Canvas

end GlyphCanvas
