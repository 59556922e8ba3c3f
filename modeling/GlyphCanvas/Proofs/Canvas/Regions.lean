import GlyphCanvas.Proofs.Canvas.Flood
import Mathlib.Data.List.Nodup

/-!
# Fills of different regions

* `Grid.putAll_comm`: characters put into cells of which no two are the same come to the same in
  either order.
* `Grid.joined_putAll_iff`: a region stays as it is when cells outside of it get a character that is
  not the one of the region.
* `Canvas.Fills`: the cells that a fill paints, each once. They are those that its region and its
  colour tell (`Canvas.Fills.perm`), and they tell everything about the fill
  (`Canvas.Fills.fill_eq`).
* `Canvas.fills_commute`: so two fills of different regions come to the same in either order, if
  neither of them paints with the character of the other region.
-/

namespace GlyphCanvas

namespace Grid

variable {width height : Nat} {g : Grid width height} {cells cells' : List (Cell width height)}
  {seed p q r : Cell width height} {c : Char}

theorem putAll_comm (g : Grid width height) (hdisjoint : cells.Disjoint cells') (c d : Char) :
    (g.putAll cells c).putAll cells' d = (g.putAll cells' d).putAll cells c := by
  refine ext_charAt fun x y => ?_
  simp only [charAt_putAll]
  by_cases hin : ∃ p ∈ cells, p.At x y
  · have hout : ¬∃ q ∈ cells', q.At x y := by
      obtain ⟨p, hp, hat⟩ := hin
      rintro ⟨q, hq, hat'⟩
      exact hdisjoint hp (hat.eq hat' ▸ hq)
    rw [if_neg hout, if_pos hin, if_pos hin]
  · rw [if_neg hin, if_neg hin]

/-- What stands in other cells does not matter to a region, unless it is the region's character. -/
theorem joined_putAll_iff (houtside : ∀ q ∈ cells, ¬g.Joined seed q) (hne : c ≠ g.glyph seed) :
    (g.putAll cells c).Joined seed r ↔ g.Joined seed r := by
  have hkept : ∀ q, g.Joined seed q → (g.putAll cells c).glyph q = g.glyph q := fun q hq => by
    rw [glyph_putAll, if_neg fun hin => houtside q hin hq]
  constructor
  · intro h
    induction h with
    | refl => exact .refl
    | @step q r _ adjacent same ih =>
      rw [hkept seed .refl, glyph_putAll] at same
      split at same
      · exact absurd same hne
      · exact .step ih adjacent same
  · intro h
    induction h with
    | refl => exact .refl
    | @step q r path adjacent same ih =>
      refine .step ih adjacent ?_
      rw [hkept r (.step path adjacent same), hkept seed .refl, same]

/-- A cell none of whose neighbours holds its character is a region. -/
theorem Joined.eq_of_neighbours_ne (hne : ∀ q ∈ p.neighbours, g.glyph q ≠ g.glyph p)
    (h : g.Joined p q) : q = p := by
  induction h with
  | refl => rfl
  | step _ adjacent same ih =>
    subst ih
    exact absurd same (hne _ (Cell.mem_neighbours_iff.2 adjacent))

end Grid

namespace Canvas

/-- The cells are those that a fill from the seed paints, and each of them is there once. -/
structure Fills (c : Canvas) (seed : Cell c.width c.height) (colour : Char)
    (cells : List (Cell c.width c.height)) : Prop where
  nodup : cells.Nodup
  mem_iff : ∀ q, q ∈ cells ↔ colour ≠ c.grid.glyph seed ∧ c.grid.Joined seed q

variable {c : Canvas} {seed p q : Cell c.width c.height} {a b colour : Char}
  {cells cells' : List (Cell c.width c.height)}

theorem exists_fills (c : Canvas) (seed : Cell c.width c.height) (colour : Char) :
    ∃ cells, c.Fills seed colour cells := by
  obtain ⟨cells, hnodup, hmem, -⟩ := c.fill_toPoint seed colour
  exact ⟨cells, hnodup, hmem⟩

theorem Fills.perm (h : c.Fills seed colour cells) (h' : c.Fills seed colour cells') :
    cells'.Perm cells := by
  rw [List.perm_ext_iff_of_nodup h'.nodup h.nodup]
  intro q
  rw [h.mem_iff, h'.mem_iff]

theorem Fills.fill_eq (h : c.Fills seed colour cells) :
    c.fill seed.toPoint colour = .ok
      { canvas := c.paint cells colour
        shown := Progress.readings (c.width * c.height) cells.length } := by
  obtain ⟨cells', hnodup, hmem, hfill⟩ := c.fill_toPoint seed colour
  have hperm := h.perm ⟨hnodup, hmem⟩
  rw [hfill, hperm.length_eq, paint, c.grid.putAll_congr (fun q => hperm.mem_iff)]
  rfl

/-- A region is filled from any of its cells. -/
theorem Fills.of_joined (h : c.Fills seed colour cells) (hq : c.grid.Joined seed q) :
    c.Fills q colour cells where
  nodup := h.nodup
  mem_iff r := by
    rw [h.mem_iff, hq.glyph_eq]
    exact and_congr_right fun _ => ⟨hq.symm.trans, hq.trans⟩

/-- A fill of another region paints the same cells before and after. -/
theorem Fills.paint (hcells : c.Fills p a cells) (hregions : ¬c.grid.Joined p q)
    (ha : a ≠ c.grid.glyph q) (hcells' : c.Fills q b cells') :
    (c.paint cells a).Fills q b cells' where
  nodup := hcells'.nodup
  mem_iff := by
    intro (r : Cell c.width c.height)
    have houtside : ∀ s ∈ cells, ¬c.grid.Joined q s := fun s hs hqs =>
      hregions (((hcells.mem_iff s).1 hs).2.trans hqs.symm)
    have hglyph : (c.grid.putAll cells a).glyph q = c.grid.glyph q := by
      rw [Grid.glyph_putAll, if_neg fun hin => houtside q hin .refl]
    have hr : r ∈ cells' ↔
        b ≠ (c.grid.putAll cells a).glyph q ∧ (c.grid.putAll cells a).Joined q r := by
      rw [hcells'.mem_iff, hglyph, Grid.joined_putAll_iff houtside ha]
    exact hr

/-- Both drawings are possible on the canvas one after the other, in either order. They end in the
same canvas, and each of them shows the same percentages in both orders. -/
def Commute (c : Canvas) (draw draw' : Canvas → Except CommandError Change) : Prop :=
  ∃ first second first' second' : Change,
    (draw c = .ok first ∧ draw' first.canvas = .ok second) ∧
    (draw' c = .ok second' ∧ draw second'.canvas = .ok first') ∧
    second.canvas = first'.canvas ∧ first.shown = first'.shown ∧ second.shown = second'.shown

/-- The order of two fills does not matter, if neither starts in the region of the other and
neither has the colour of the cell in which the other starts. -/
theorem fills_commute (hregions : ¬c.grid.Joined p q) (ha : a ≠ c.grid.glyph q)
    (hb : b ≠ c.grid.glyph p) : c.Commute (·.fill p.toPoint a) (·.fill q.toPoint b) := by
  obtain ⟨cells, hcells⟩ := c.exists_fills p a
  obtain ⟨cells', hcells'⟩ := c.exists_fills q b
  have hsecond := hcells.paint hregions ha hcells'
  have hfirst := hcells'.paint (mt Grid.Joined.symm hregions) hb hcells
  have hdisjoint : cells.Disjoint cells' := fun r hr hr' =>
    hregions (((hcells.mem_iff r).1 hr).2.trans ((hcells'.mem_iff r).1 hr').2.symm)
  refine ⟨_, _, _, _, ⟨hcells.fill_eq, hsecond.fill_eq⟩, ⟨hcells'.fill_eq, hfirst.fill_eq⟩,
    ?_, rfl, rfl⟩
  exact congrArg (fun grid => { c with grid }) (c.grid.putAll_comm hdisjoint a b)

/-- Two blanks that touch at a corner only. The second is filled with ink and then hangs together
with the two cells between them. -/
theorem fills_commute_diagonal :
    let c : Canvas :=
      { width := 2, height := 2
        grid := (Grid.fresh 2 2).putAll [⟨2, 1, by decide, by decide, by decide, by decide⟩,
          ⟨1, 2, by decide, by decide, by decide, by decide⟩] inkGlyph }
    let p : Cell c.width c.height := ⟨1, 1, by decide, by decide, by decide, by decide⟩
    let q : Cell c.width c.height := ⟨2, 2, by decide, by decide, by decide, by decide⟩
    (¬c.grid.Joined p q ∧ 'o' ≠ c.grid.glyph q ∧ 'x' ≠ c.grid.glyph p) ∧
      c.Commute (·.fill p.toPoint 'o') (·.fill q.toPoint 'x') := by
  intro c p q
  have hregions : ¬c.grid.Joined p q := by
    intro h
    have := h.eq_of_neighbours_ne (by decide +kernel)
    exact absurd this (by decide)
  have ha : 'o' ≠ c.grid.glyph q := by decide +kernel
  have hb : 'x' ≠ c.grid.glyph p := by decide +kernel
  exact ⟨⟨hregions, ha, hb⟩, fills_commute hregions ha hb⟩

end Canvas

end GlyphCanvas
