import GlyphCanvas.Proofs.Canvas.Flood
import Mathlib.Data.List.Nodup
import Mathlib.Logic.Equiv.Defs

/-!
# Canvases that look alike

Two grids, possibly of different sizes, whose cells correspond: cells are moved and characters are
replaced on the way from the first to the second. Commands on two such canvases are compared by
their outcomes. How much of an error is compared is left to a function `view`.

* `Agree`: two outcomes are both errors that look the same, or both values that are related. A
  sequence of such steps is followed with `Agree.bind`.
* `Grid.Like`: each cell of the second grid holds the character that stands for the one in the cell
  it comes from. Frames are not compared.
* `Grid.Like.putAll`: writing corresponding cells keeps grids alike.
* `Grid.Like.joined_iff`: regions correspond if neighbours stay neighbours and different characters
  stay different.
* `Canvas.fill_agrees`: fills from corresponding cells paint corresponding cells and show the same
  percentages.
-/

namespace GlyphCanvas

variable {κ : Type} {view : CommandError → κ}

/-- Both outcomes are errors that look the same, or both are values that are related. -/
inductive Agree {α β : Type} (view : CommandError → κ) (R : α → β → Prop) :
    Except CommandError α → Except CommandError β → Prop where
  | refused {e e' : CommandError} (same : view e = view e') : Agree view R (.error e) (.error e')
  | done {a : α} {b : β} (related : R a b) : Agree view R (.ok a) (.ok b)

theorem Agree.refl {α : Type} (x : Except CommandError α) :
    Agree view (fun a b => b = a) x x := by
  cases x with
  | error e => exact .refused rfl
  | ok a => exact .done rfl

theorem Agree.bind {α β γ δ : Type} {R : α → β → Prop} {S : γ → δ → Prop}
    {x : Except CommandError α} {y : Except CommandError β} {f : α → Except CommandError γ}
    {g : β → Except CommandError δ} (h : Agree view R x y)
    (next : ∀ a b, R a b → Agree view S (f a) (g b)) : Agree view S (x >>= f) (y >>= g) := by
  cases h with
  | refused same => exact .refused same
  | done related => exact next _ _ related

variable {width height width' height' : Nat} {move : Cell width height ≃ Cell width' height'}
  {paint : Char → Char}

namespace Cell

/-- Cells are moved in such a way that those that share a side are the same as before. -/
def KeepsSides (move : Cell width height ≃ Cell width' height') : Prop :=
  ∀ p q, (move p).Adjacent (move q) ↔ p.Adjacent q

/-- Corresponding cells are the same in number. -/
theorem length_eq_of_mem_iff {cells : List (Cell width height)}
    {cells' : List (Cell width' height')} (hnodup : cells.Nodup) (hnodup' : cells'.Nodup)
    (hcells : ∀ p, move p ∈ cells' ↔ p ∈ cells) : cells'.length = cells.length := by
  have hperm : cells'.Perm (cells.map move) := by
    rw [List.perm_ext_iff_of_nodup hnodup' (hnodup.map move.injective)]
    intro q
    rw [← move.apply_symm_apply q, hcells, List.mem_map_of_injective move.injective]
  rw [hperm.length_eq, List.length_map]

end Cell

namespace Grid

/-- The second grid is the first with its cells moved and the characters in them replaced. -/
def Like (move : Cell width height ≃ Cell width' height') (paint : Char → Char)
    (g : Grid width height) (g' : Grid width' height') : Prop :=
  ∀ p, g'.glyph (move p) = paint (g.glyph p)

variable {g : Grid width height} {g' : Grid width' height'}

theorem Like.putAll (h : Like move paint g g') {cells : List (Cell width height)}
    {cells' : List (Cell width' height')} (hcells : ∀ p, move p ∈ cells' ↔ p ∈ cells) (c : Char) :
    Like move paint (g.putAll cells c) (g'.putAll cells' (paint c)) := by
  intro p
  rw [glyph_putAll, glyph_putAll, h p]
  by_cases hp : p ∈ cells
  · rw [if_pos hp, if_pos ((hcells p).2 hp)]
  · rw [if_neg hp, if_neg (mt (hcells p).1 hp)]

theorem Like.glyph_eq_iff (h : Like move paint g g') (hpaint : paint.Injective)
    {p q : Cell width height} :
    g'.glyph (move p) = g'.glyph (move q) ↔ g.glyph p = g.glyph q := by
  rw [h p, h q, hpaint.eq_iff]

/-- A path in one of the grids is a path in the other. -/
theorem Like.joined_iff (h : Like move paint g g') (hmove : Cell.KeepsSides move)
    (hpaint : paint.Injective) {p q : Cell width height} :
    g'.Joined (move p) (move q) ↔ g.Joined p q := by
  constructor
  · intro hjoined
    have back : ∀ q', g'.Joined (move p) q' → g.Joined p (move.symm q') := by
      intro q' hq'
      induction hq' with
      | refl =>
        rw [Equiv.symm_apply_apply]
        exact .refl
      | @step q' r' _ adjacent same ih =>
        rw [← move.apply_symm_apply q', ← move.apply_symm_apply r', hmove] at adjacent
        rw [← move.apply_symm_apply r', h.glyph_eq_iff hpaint] at same
        exact .step ih adjacent same
    simpa using back _ hjoined
  · intro hjoined
    induction hjoined with
    | refl => exact .refl
    | step _ adjacent same ih =>
      exact .step ih ((hmove _ _).2 adjacent) ((h.glyph_eq_iff hpaint).2 same)

end Grid

namespace Canvas

/-- The canvases are alike after the two changes, and the same percentages were shown. -/
structure Change.Alike (like : Canvas → Canvas → Prop) (a b : Change) : Prop where
  canvas : like a.canvas b.canvas
  shown : a.shown = b.shown

/-- Fills from corresponding points, with a colour and with the one that stands for it, agree if
canvases in which corresponding cells are painted count as alike. -/
theorem fill_agrees {c d : Canvas} {move : Cell c.width c.height ≃ Cell d.width d.height}
    (h : Grid.Like move paint c.grid d.grid) (hmove : Cell.KeepsSides move)
    (hpaint : paint.Injective) (hsize : d.width * d.height = c.width * c.height)
    {like : Canvas → Canvas → Prop} {colour : Char}
    (hlike : ∀ cells cells', (∀ p, move p ∈ cells' ↔ p ∈ cells) →
      like (c.paint cells colour) (d.paint cells' (paint colour)))
    {p p' : Point} (hlocate : Agree view (fun a b => b = move a) (c.locate p) (d.locate p')) :
    Agree view (Change.Alike like) (c.fill p colour) (d.fill p' (paint colour)) := by
  generalize hc : c.locate p = x at hlocate
  generalize hd : d.locate p' = y at hlocate
  cases hlocate with
  | refused same =>
    rw [fill_of_locate_error hc, fill_of_locate_error hd]
    exact .refused same
  | @done seed _ related =>
    subst related
    obtain rfl := locate_eq_ok_iff.1 hc
    obtain rfl := locate_eq_ok_iff.1 hd
    obtain ⟨cells, hnodup, hmem, hfill⟩ := c.fill_toPoint seed colour
    obtain ⟨cells', hnodup', hmem', hfill'⟩ := d.fill_toPoint (move seed) (paint colour)
    have hcells : ∀ p, move p ∈ cells' ↔ p ∈ cells := by
      intro p
      rw [hmem, hmem', h seed, Ne, hpaint.eq_iff, h.joined_iff hmove hpaint]
    rw [hfill, hfill', hsize, Cell.length_eq_of_mem_iff hnodup hnodup' hcells]
    exact .done { canvas := hlike cells cells' hcells, shown := rfl }

end Canvas

end GlyphCanvas
