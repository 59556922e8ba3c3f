import GlyphCanvas.Proofs.Canvas.Rows
import GlyphCanvas.Proofs.Command.Display
import GlyphCanvas.Proofs.Slot.Effect
import Mathlib.Data.List.Induction

/-!
# What the text of a canvas tells

No line of a script can put a line end into a cell, because a colour is a word. So the text of a
canvas that was made by lines has one line for each of its rows.

* `Slot.Effect.legible`, `Slot.legible_of_lines`: canvases made by lines are legible.
* `Slot.canvas_told_by_text`: the lines of their text show the canvas, and no two of them have the
  same text.
-/

namespace GlyphCanvas.Slot

/-- A command whose colour can stand in a line makes no line end inside a canvas. -/
theorem Effect.legible {slot : Slot} {command : Command} {change : Canvas.Change}
    (heffect : Effect slot command change) (hslot : ∀ c, slot = some c → c.Legible)
    (hcolour : command.ColourInWord) : change.canvas.Legible := by
  cases heffect with
  | created hc => exact .create hc
  | inked hs _ cells => exact (hslot _ hs).paint cells (by decide)
  | @filled p colour c hs cells =>
    refine (hslot c hs).paint cells ?_
    rintro rfl
    have hblank : Text.isBlank '\n' = false := hcolour
    exact absurd hblank (by decide)

theorem legible_of_lines {lines : List String} {c : Canvas}
    (h : after (lines.map .line) = some c) : c.Legible := by
  induction lines using List.reverseRecOn generalizing c with
  | nil => simp at h
  | append_singleton lines line ih =>
    rw [List.map_append, List.map_singleton, after_append_singleton, serve] at h
    obtain ⟨error, he⟩ | ⟨command, change, hread, heffect, he⟩ :=
      (after (lines.map .line)).applyLine_cases line
    · rw [he, refuse_slot] at h
      exact ih h
    · rw [he, accept_slot, Option.some.injEq] at h
      exact h ▸ heffect.legible (fun _ => ih) (Command.colourInWord_of_ofLine hread)

/-- The lines of the text of a canvas that was made by lines show the canvas, frame included, and
another canvas made by lines has another text. -/
theorem canvas_told_by_text {lines : List String} {c : Canvas}
    (h : after (lines.map .line) = some c) :
    c.ShownBy (c.render.toList.splitOn '\n') ∧
      ∀ (lines' : List String) (c' : Canvas), after (lines'.map .line) = some c' →
        c'.render = c.render → c' = c := by
  have hc := legible_of_lines h
  refine ⟨?_, fun lines' c' h' hrender => (legible_of_lines h').eq_of_render_eq hc hrender⟩
  rw [hc.splitOn_render]
  exact c.shownBy_rows

/-- A canvas with both glyphs of the frame inside it, with a line end among the words of a line and
with refused lines on the way. -/
theorem canvas_told_by_text_frame_glyphs :
    let lines := ["B 1 1 o", "C 3\n1", "B 1 1 |", "L 0 1 1 1", "B 3 1 \n", "L 2 1 2 1", "B 3 1 -"]
    ∃ c, (after (lines.map .line) = some c ∧ c.render = "-----\n||x-|\n-----") ∧
      c.ShownBy (c.render.toList.splitOn '\n') ∧
      ∀ (lines' : List String) (c' : Canvas), after (lines'.map .line) = some c' →
        c'.render = c.render → c' = c := by
  intro lines
  have hrender : (after (lines.map .line)).map Canvas.render = some "-----\n||x-|\n-----" := by
    decide +kernel
  obtain ⟨c, hc, htext⟩ := Option.map_eq_some_iff.1 hrender
  exact ⟨c, ⟨hc, htext⟩, canvas_told_by_text hc⟩

end GlyphCanvas.Slot
