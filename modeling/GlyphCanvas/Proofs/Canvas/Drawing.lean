import GlyphCanvas.Proofs.Canvas.Flood
import GlyphCanvas.Proofs.Canvas.Outline
import GlyphCanvas.Proofs.Outcome

/-!
# What a drawing makes of a canvas

One statement each that says when a line or a rectangle succeeds and what it does then, ink on the
border of the box that two cells span, and one for a fill that succeeds.

* `Canvas.drawLine_eq_ok_iff`: a line is drawn between two cells of one row or one column.
* `Canvas.drawRectangle_eq_ok_iff`: a rectangle is drawn between any two cells.
* `Canvas.fill_eq_ok`: a fill puts the colour in the region of the point.
* `Canvas.ink_eq_of_perm`: the order of the cells does not matter.
-/

namespace GlyphCanvas

namespace Canvas

variable {c : Canvas} {start stop first opposite : Point} {change : Change}

/-- Neither the canvas nor the progress depends on the order of the cells. -/
theorem ink_eq_of_perm {cells cells' : List (Cell c.width c.height)} (h : cells.Perm cells') :
    c.ink cells = c.ink cells' := by
  rw [ink, ink, c.grid.putAll_congr (fun q => h.mem_iff) inkGlyph, h.length_eq]

/-- The path between two cells of one row or column is the box that they span. -/
theorem path_toPoint (c : Canvas) {a b : Cell c.width c.height} (h : a.x = b.x ∨ a.y = b.y) :
    c.path a.toPoint b.toPoint = .ok (Cell.border a b) := by
  simp only [path, locate_toPoint, Cell.border, bind, Except.bind]
  by_cases hy : a.y = b.y
  · rw [if_pos hy, if_pos hy]
    rfl
  · have hx : a.x = b.x := h.resolve_right hy
    rw [if_neg hy, if_pos hx, if_neg hy, if_pos hx]
    rfl

theorem drawLine_toPoint (c : Canvas) {a b : Cell c.width c.height} (h : a.x = b.x ∨ a.y = b.y) :
    c.drawLine a.toPoint b.toPoint = .ok (c.ink (Cell.border a b)) := by
  rw [drawLine, c.path_toPoint h]
  rfl

theorem drawRectangle_toPoint (c : Canvas) (a b : Cell c.width c.height) :
    c.drawRectangle a.toPoint b.toPoint = .ok (c.ink (Cell.border a b)) := by
  rw [drawRectangle, c.locate_toPoint, c.locate_toPoint]
  show (if a.x = b.x ∨ a.y = b.y then _ else _) = _
  by_cases h : a.x = b.x ∨ a.y = b.y
  · rw [if_pos h, c.drawLine_toPoint h]
  · rw [if_neg h, Cell.border_eq_outline h]
    rfl

theorem drawLine_eq_ok_iff : c.drawLine start stop = .ok change ↔
    ∃ a b : Cell c.width c.height, a.toPoint = start ∧ b.toPoint = stop ∧
      (a.x = b.x ∨ a.y = b.y) ∧ change = c.ink (Cell.border a b) := by
  constructor
  · intro h
    obtain ⟨cells, hpath, -⟩ := bind_eq_ok_iff.1 h
    obtain ⟨a, ha, hpath⟩ := bind_eq_ok_iff.1 hpath
    obtain ⟨b, hb, hpath⟩ := bind_eq_ok_iff.1 hpath
    obtain rfl := locate_eq_ok_iff.1 ha
    obtain rfl := locate_eq_ok_iff.1 hb
    have hstraight : a.x = b.x ∨ a.y = b.y := by
      by_contra hbent
      obtain ⟨hx, hy⟩ := not_or.1 hbent
      rw [if_neg hy, if_neg hx] at hpath
      cases hpath
    rw [c.drawLine_toPoint hstraight, Except.ok.injEq] at h
    exact ⟨a, b, rfl, rfl, hstraight, h.symm⟩
  · rintro ⟨a, b, rfl, rfl, hstraight, rfl⟩
    exact c.drawLine_toPoint hstraight

theorem drawRectangle_eq_ok_iff : c.drawRectangle first opposite = .ok change ↔
    ∃ a b : Cell c.width c.height, a.toPoint = first ∧ b.toPoint = opposite ∧
      change = c.ink (Cell.border a b) := by
  constructor
  · intro h
    obtain ⟨a, ha, -⟩ := bind_eq_ok_iff.1 h
    obtain rfl := locate_eq_ok_iff.1 ha
    obtain ⟨_, -, hb⟩ := bind_eq_ok_iff.1 h
    obtain ⟨b, hb, -⟩ := bind_eq_ok_iff.1 hb
    obtain rfl := locate_eq_ok_iff.1 hb
    rw [drawRectangle_toPoint, Except.ok.injEq] at h
    exact ⟨a, b, rfl, rfl, h.symm⟩
  · rintro ⟨a, b, rfl, rfl, rfl⟩
    exact c.drawRectangle_toPoint a b

theorem fill_eq_ok {c : Canvas} {p : Point} {colour : Char} {change : Change}
    (h : c.fill p colour = .ok change) :
    ∃ (seed : Cell c.width c.height) (cells : List (Cell c.width c.height)),
      seed.toPoint = p ∧ cells.Nodup ∧
      (∀ q, q ∈ cells ↔ colour ≠ c.grid.glyph seed ∧ c.grid.Joined seed q) ∧
      change =
        { canvas := c.paint cells colour
          shown := Progress.readings (c.width * c.height) cells.length } := by
  obtain ⟨seed, hseed, -⟩ := bind_eq_ok_iff.1 (show (c.locate p >>= _) = _ from h)
  obtain rfl := locate_eq_ok_iff.1 hseed
  obtain ⟨cells, hnodup, hmem, hfill⟩ := c.fill_toPoint seed colour
  rw [hfill, Except.ok.injEq] at h
  exact ⟨seed, cells, rfl, hnodup, hmem, h.symm⟩

end Canvas

end GlyphCanvas
