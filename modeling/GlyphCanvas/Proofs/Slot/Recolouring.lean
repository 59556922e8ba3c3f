import GlyphCanvas.Command.Symmetry
import GlyphCanvas.Proofs.Canvas.Creation
import GlyphCanvas.Proofs.Slot.Agreement
import Mathlib.Logic.Equiv.Basic

/-!
# Exchanging the colours

Different characters are replaced by different ones, blanks and ink by themselves.

* `Canvas.recoloured_iff`: a recoloured canvas is one with the same cells, in which the characters
  have been replaced, inside the same frame.
* `Canvas.ink_recoloured`, `Canvas.fill_recoloured`, `Canvas.create_recoloured`: what a command with
  the replaced colour does to the recoloured canvas is what the command does to the canvas.
* `Slot.replies_recoloured`: so a run of commands and the run with all colours replaced agree at
  every step, and errors are the very same.
-/

namespace GlyphCanvas

variable {paint : Char → Char}

namespace Canvas

variable {c d : Canvas}

theorem recoloured_iff : c.Recoloured paint d ↔
    ∃ g : Grid c.width c.height, d = { c with grid := g } ∧
      Grid.Like (Equiv.refl _) paint c.grid g ∧
      ∀ (x : Fin (c.width + 2)) (y : Fin (c.height + 2)),
        x.val = 0 ∨ x.val = c.width + 1 ∨ y.val = 0 ∨ y.val = c.height + 1 →
          g.charAt x y = c.grid.charAt x y := by
  constructor
  · intro h
    obtain ⟨width, height, g⟩ := d
    obtain rfl : width = c.width := h.width_eq
    obtain rfl : height = c.height := h.height_eq
    refine ⟨g, rfl, fun p => ?_, h.frame_eq⟩
    have hp := h.get_eq p.toPoint
    rw [get?, get?, Cell.ofPoint?_toPoint] at hp
    exact Option.some.inj hp
  · rintro ⟨g, rfl, hlike, hframe⟩
    refine ⟨rfl, rfl, fun p => ?_, hframe⟩
    rw [get?, get?, Option.map_map]
    congr 1
    funext q
    exact hlike q

/-- What is painted in a canvas is painted in the recoloured one, and the frame has no cells. -/
theorem paint_recoloured {g : Grid c.width c.height}
    (h : c.Recoloured paint { c with grid := g }) {cells cells' : List (Cell c.width c.height)}
    (hcells : ∀ p, p ∈ cells' ↔ p ∈ cells) (glyph : Char) :
    (c.paint cells glyph).Recoloured paint
      (Canvas.paint { c with grid := g } cells' (paint glyph)) := by
  obtain ⟨g', hg', hlike, hframe⟩ := recoloured_iff.1 h
  cases hg'
  refine recoloured_iff.2 ⟨g.putAll cells' (paint glyph), rfl, hlike.putAll hcells glyph, ?_⟩
  intro (x : Fin (c.width + 2)) (y : Fin (c.height + 2)) hxy
  have hout : ¬((1 ≤ x.val ∧ x.val ≤ c.width) ∧ 1 ≤ y.val ∧ y.val ≤ c.height) := by
    simp only [Canvas.paint] at hxy
    omega
  calc (g.putAll cells' (paint glyph)).charAt x y
    _ = g.charAt x y := Grid.charAt_putAll_of_frame _ _ _ hout
    _ = c.grid.charAt x y := hframe x y hxy
    _ = (c.grid.putAll cells glyph).charAt x y := (Grid.charAt_putAll_of_frame _ _ _ hout).symm

/-! ## Commands on recoloured canvases

Where a command draws depends on the size of the canvas alone. -/

theorem locate_recoloured (c : Canvas) (g : Grid c.width c.height) (p : Point) :
    Agree id (fun a b => b = a) (c.locate p) (locate { c with grid := g } p) := by
  unfold locate
  cases (Cell.ofPoint? p : Option (Cell c.width c.height)) with
  | none => exact .refused rfl
  | some a => exact .done rfl

theorem path_recoloured (c : Canvas) (g : Grid c.width c.height) (start stop : Point) :
    Agree id (fun cells cells' => cells' = cells) (c.path start stop)
      (path { c with grid := g } start stop) := by
  refine (locate_recoloured c g start).bind fun _ a ha => ?_
  refine (locate_recoloured c g stop).bind fun _ b hb => ?_
  subst ha hb
  exact .refl _

theorem ink_recoloured {g : Grid c.width c.height} (h : c.Recoloured paint { c with grid := g })
    (hink : paint inkGlyph = inkGlyph) (cells : List (Cell c.width c.height)) :
    (c.ink cells).Alike (Recoloured paint) (Canvas.ink { c with grid := g } cells) where
  canvas := by
    have hpainted : (c.paint cells inkGlyph).Recoloured paint
        (Canvas.paint { c with grid := g } cells (paint inkGlyph)) :=
      paint_recoloured h (fun _ => Iff.rfl) inkGlyph
    rwa [hink] at hpainted
  shown := rfl

theorem drawLine_recoloured (h : c.Recoloured paint d) (hink : paint inkGlyph = inkGlyph)
    (start stop : Point) :
    Agree id (Change.Alike (Recoloured paint)) (c.drawLine start stop) (d.drawLine start stop) := by
  obtain ⟨g, rfl, -⟩ := recoloured_iff.1 h
  refine (path_recoloured c g start stop).bind fun _ cells hcells => .done ?_
  subst hcells
  exact ink_recoloured h hink cells

theorem drawRectangle_recoloured (h : c.Recoloured paint d) (hink : paint inkGlyph = inkGlyph)
    (first opposite : Point) :
    Agree id (Change.Alike (Recoloured paint)) (c.drawRectangle first opposite)
      (d.drawRectangle first opposite) := by
  obtain ⟨g, rfl, -⟩ := recoloured_iff.1 h
  refine (locate_recoloured c g first).bind fun _ a ha => ?_
  refine (locate_recoloured c g opposite).bind fun _ b hb => ?_
  subst ha hb
  by_cases hline : a.x = b.x ∨ a.y = b.y
  · rw [if_pos hline, if_pos hline]
    exact drawLine_recoloured h hink first opposite
  · rw [if_neg hline, if_neg hline]
    exact .done (ink_recoloured h hink _)

theorem fill_recoloured (h : c.Recoloured paint d) (hpaint : paint.Injective) (p : Point)
    (colour : Char) :
    Agree id (Change.Alike (Recoloured paint)) (c.fill p colour) (d.fill p (paint colour)) := by
  obtain ⟨g, rfl, hlike, -⟩ := recoloured_iff.1 h
  exact fill_agrees (d := { c with grid := g }) hlike (fun _ _ => Iff.rfl) hpaint rfl
    (fun _ _ hcells => paint_recoloured h hcells colour) (locate_recoloured c g p)

theorem create_recoloured (hblank : paint blankGlyph = blankGlyph) (w h : Int) :
    Agree id (Recoloured paint) (create w h) (create w h) := by
  cases hc : create w h with
  | error e => exact .refused rfl
  | ok c =>
    obtain ⟨-, -, -, -, -, hgrid⟩ := create_eq_ok_iff.1 hc
    refine .done (recoloured_iff.2 ⟨c.grid, rfl, fun p => ?_, fun _ _ _ => rfl⟩)
    rw [Equiv.refl_apply, hgrid, Grid.glyph_fresh, hblank]

end Canvas

namespace Slot

/-- A command and the one with its colour replaced, on slots with recoloured canvases. -/
theorem apply_recoloured (hpaint : paint.Injective) (hblank : paint blankGlyph = blankGlyph)
    (hink : paint inkGlyph = inkGlyph) {s t : Slot}
    (h : Option.Rel (Canvas.Recoloured paint) s t) (command : Command) :
    (s.apply command).Agrees id (Canvas.Recoloured paint) (t.apply (command.recolour paint)) := by
  cases command with
  | create width height => exact apply_create_agrees (Canvas.create_recoloured hblank _ _) h
  | line start stop =>
    exact change_agrees (fun _ _ hcd => Canvas.drawLine_recoloured hcd hink start stop) h
  | rectangle first opposite =>
    exact change_agrees (fun _ _ hcd => Canvas.drawRectangle_recoloured hcd hink first opposite) h
  | fill seed colour =>
    exact change_agrees (fun _ _ hcd => Canvas.fill_recoloured hcd hpaint seed colour) h

/-- Replacing the colours in all commands replaces the characters in all canvases, the frames being
left alone, and is not noticed otherwise, as long as blanks and ink stand for themselves: at every
step both commands succeed or both are refused with the same error, and they show the same
percentages. -/
theorem replies_recoloured (hpaint : paint.Bijective) (hblank : paint ' ' = ' ')
    (hink : paint 'x' = 'x') (commands : List Command) :
    List.Forall₂ (Reply.Agrees id (Canvas.Recoloured paint))
      (replies none commands) (replies none (commands.map (Command.recolour paint))) :=
  replies_agree (fun _ _ => apply_recoloured hpaint.injective hblank hink) .none commands

/-- A dash and an `o` change places, in fills along the frame, next to ink and over one another. -/
theorem replies_recoloured_dash :
    let paint := Equiv.swap '-' 'o'
    let commands : List Command := [.create 3 2, .line ⟨2, 1⟩ ⟨2, 1⟩, .fill ⟨1, 1⟩ '-',
      .fill ⟨4, 1⟩ '|', .fill ⟨2, 1⟩ 'o', .fill ⟨1, 2⟩ '|', .create 0 0]
    let others : List Command := [.create 3 2, .line ⟨2, 1⟩ ⟨2, 1⟩, .fill ⟨1, 1⟩ 'o',
      .fill ⟨4, 1⟩ '|', .fill ⟨2, 1⟩ '-', .fill ⟨1, 2⟩ '|', .create 0 0]
    (Function.Bijective paint ∧ paint ' ' = ' ' ∧ paint 'x' = 'x') ∧
      List.Forall₂ (Reply.Agrees id (Canvas.Recoloured paint))
        (replies none commands) (replies none others) := by
  intro paint commands others
  have hblank : paint ' ' = ' ' := by decide
  have hink : paint 'x' = 'x' := by decide
  have hothers : commands.map (Command.recolour paint) = others := by decide
  refine ⟨⟨paint.bijective, hblank, hink⟩, ?_⟩
  rw [← hothers]
  exact replies_recoloured paint.bijective hblank hink commands

end Slot

end GlyphCanvas
