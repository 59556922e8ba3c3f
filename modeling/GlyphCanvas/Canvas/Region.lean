import GlyphCanvas.Canvas.Flood

/-!
# Regions

* `Cell.Adjacent`: two cells share a side. The neighbours that a flood visits are exactly the
  adjacent cells (`Cell.mem_neighbours_iff`).
* `Grid.Joined`: a path of adjacent cells leads from one cell to another, and all cells on it hold
  the character of the first. This is the region that a flood is to recolour, said without one.
-/

namespace GlyphCanvas

namespace Cell

variable {width height : Nat}

/-- The cells share a side. -/
def Adjacent (p q : Cell width height) : Prop :=
  p.x = q.x ∧ (p.y = q.y + 1 ∨ q.y = p.y + 1) ∨ p.y = q.y ∧ (p.x = q.x + 1 ∨ q.x = p.x + 1)

theorem Adjacent.symm {p q : Cell width height} (h : p.Adjacent q) : q.Adjacent p := by
  unfold Adjacent at h ⊢
  omega

theorem mem_neighbours_iff {p q : Cell width height} : q ∈ p.neighbours ↔ p.Adjacent q := by
  have := p.one_le_x
  have := p.one_le_y
  have := q.one_le_x
  have := q.one_le_y
  simp only [neighbours, List.mem_append, Option.mem_toList, ofNat?_eq_some_iff, Adjacent]
  omega

end Cell

namespace Grid

variable {width height : Nat}

/-- A path of adjacent cells with one character leads from `p` to a cell. -/
inductive Joined (g : Grid width height) (p : Cell width height) : Cell width height → Prop where
  | refl : Joined g p p
  | step {q r : Cell width height} (path : Joined g p q) (adjacent : q.Adjacent r)
      (same : g.glyph r = g.glyph p) : Joined g p r

theorem Joined.glyph_eq {g : Grid width height} {p q : Cell width height} (h : g.Joined p q) :
    g.glyph q = g.glyph p := by
  cases h with
  | refl => rfl
  | step _ _ same => exact same

theorem Joined.trans {g : Grid width height} {p q r : Cell width height} (h : g.Joined p q)
    (k : g.Joined q r) : g.Joined p r := by
  induction k with
  | refl => exact h
  | step _ adjacent same ih => exact .step ih adjacent (same.trans h.glyph_eq)

theorem Joined.symm {g : Grid width height} {p q : Cell width height} (h : g.Joined p q) :
    g.Joined q p := by
  induction h with
  | refl => exact .refl
  | step path adjacent same ih =>
    have back := path.glyph_eq.trans same.symm
    exact (Joined.step .refl adjacent.symm back).trans ih

end Grid

end GlyphCanvas
