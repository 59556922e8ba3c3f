import GlyphCanvas.Proofs.Canvas.Counting
import GlyphCanvas.Proofs.Canvas.Regions
import GlyphCanvas.Proofs.Progress.Readings
import GlyphCanvas.Proofs.Slot.Drawings
import GlyphCanvas.Proofs.Slot.Work

/-!
# What drawings show on the way

* `Canvas.ncard_covers`: what a line or a rectangle covers is as many cells as its border has.
* `Canvas.Paced`: work that shows the percentages of its units, one after the other.
* `Canvas.shown_eq_percentages`: lines, rectangles and fills are such work, of as many units as there
  are cells that they are about.
-/

namespace GlyphCanvas

open Progress

namespace Canvas

variable {c : Canvas} {command : Command}

theorem ncard_covers {a b : Cell c.width c.height} (h : command.DrawsBetween a b) :
    {p | command.Covers p}.ncard = (Cell.border a b).length := by
  rw [← List.length_map Cell.toPoint]
  refine ncard_eq_length ((Cell.nodup_border a b).map Cell.toPoint_injective) fun p => ?_
  rw [List.mem_map]
  constructor
  · rintro ⟨q, hq, rfl⟩
    exact h.covers_iff.2 hq
  · intro hp
    obtain ⟨q, rfl⟩ := h.exists_cell hp
    exact ⟨q, h.covers_iff.1 hp, rfl⟩

/-- The work, done one character after the other, comes to the change. On the way it shows the
different percentages that its units make of the whole, with 100 at the end, and these climb to
100. -/
structure Paced (work : Work Unit) (c : Canvas) (change : Change) (total units : Nat) : Prop where
  draws : Work.Draws work c (.ok change)
  shown_eq : change.shown = closed (percentages total units)
  rise : Rise change.shown

/-- Ink on all that a drawing covers shows the percentages of that many units. -/
theorem paced_ink {a b : Cell c.width c.height} {work : Work Unit} (h : command.DrawsBetween a b)
    (hwork : Work.Draws work c (.ok (c.ink (Cell.border a b)))) :
    let n := {p | command.Covers p}.ncard
    Paced work c (c.ink (Cell.border a b)) n n := by
  rw [ncard_covers h]
  exact ⟨hwork, readings_eq le_rfl, rise_readings le_rfl⟩

theorem Fills.ncard_eq {seed : Cell c.width c.height} {colour : Char}
    {cells : List (Cell c.width c.height)} (h : c.Fills seed colour cells) :
    (if c.grid.glyph seed = colour then 0 else {q | c.grid.Joined seed q}.ncard) =
      cells.length := by
  split
  · next hsame =>
    have hempty : cells = [] := List.eq_nil_iff_forall_not_mem.2 fun q hq =>
      ((h.mem_iff q).1 hq).1 hsame.symm
    rw [hempty, List.length_nil]
  · next hne =>
    refine ncard_eq_length h.nodup fun q => ?_
    rw [h.mem_iff, and_iff_right (Ne.symm hne)]

/-- A line or a rectangle is work of as many units as it covers points, and all of them are done. A
fill is work of as many units as the canvas has cells, of which those of the region are done, or
none if the region has the colour already. What a fill shows is the same from every cell of the
region. -/
theorem shown_eq_percentages (c : Canvas) :
    (∀ start stop change, c.drawLine start stop = .ok change →
      let n := {p | (Command.line start stop).Covers p}.ncard
      Paced (Work.drawLine c start stop) c change n n) ∧
    (∀ first opposite change, c.drawRectangle first opposite = .ok change →
      let n := {p | (Command.rectangle first opposite).Covers p}.ncard
      Paced (Work.drawRectangle c first opposite) c change n n) ∧
    ∀ p colour change, c.fill p colour = .ok change →
      ∃ seed : Cell c.width c.height, seed.toPoint = p ∧
        (let n := if c.grid.glyph seed = colour then 0 else {q | c.grid.Joined seed q}.ncard
        Paced (Work.fill c p colour) c change (c.width * c.height) n) ∧
        ∀ q, c.grid.Joined seed q →
          ∃ change', c.fill q.toPoint colour = .ok change' ∧ change'.shown = change.shown := by
  refine ⟨fun start stop change h => ?_, fun first opposite change h => ?_,
    fun p colour change h => ?_⟩
  · have hwork := Work.draws_drawLine c start stop
    rw [h] at hwork
    obtain ⟨a, b, rfl, rfl, straight, rfl⟩ := drawLine_eq_ok_iff.1 h
    exact paced_ink (.line straight) hwork
  · have hwork := Work.draws_drawRectangle c first opposite
    rw [h] at hwork
    obtain ⟨a, b, rfl, rfl, rfl⟩ := drawRectangle_eq_ok_iff.1 h
    exact paced_ink .rectangle hwork
  · have hwork := Work.draws_fill c p colour
    rw [h] at hwork
    obtain ⟨seed, cells, rfl, hnodup, hmem, rfl⟩ := fill_eq_ok h
    have hcells : c.Fills seed colour cells := ⟨hnodup, hmem⟩
    have hle := Cell.length_le_of_nodup hnodup
    refine ⟨seed, rfl, ?_, fun q hq => ⟨_, (hcells.of_joined hq).fill_eq, rfl⟩⟩
    rw [hcells.ncard_eq]
    exact ⟨hwork, readings_eq hle, rise_readings hle⟩

/-- A line backwards, a rectangle and a fill that stops short of the whole canvas. -/
theorem shown_eq_percentages_small :
    let c : Canvas :=
      { width := 3, height := 1
        grid := (Grid.fresh 3 1).put ⟨2, 1, by decide, by decide, by decide, by decide⟩ inkGlyph }
    (∃ change, c.drawLine ⟨3, 1⟩ ⟨1, 1⟩ = .ok change ∧ change.shown = [33, 66, 100] ∧
      let n := {p | (Command.line ⟨3, 1⟩ ⟨1, 1⟩).Covers p}.ncard
      Paced (Work.drawLine c ⟨3, 1⟩ ⟨1, 1⟩) c change n n) ∧
    (∃ change, c.drawRectangle ⟨1, 1⟩ ⟨2, 1⟩ = .ok change ∧ change.shown = [50, 100] ∧
      let n := {p | (Command.rectangle ⟨1, 1⟩ ⟨2, 1⟩).Covers p}.ncard
      Paced (Work.drawRectangle c ⟨1, 1⟩ ⟨2, 1⟩) c change n n) ∧
    ∃ change, c.fill ⟨1, 1⟩ 'o' = .ok change ∧ change.shown = [33, 100] ∧
      ∃ seed : Cell c.width c.height, seed.toPoint = ⟨1, 1⟩ ∧
        (let n := if c.grid.glyph seed = 'o' then 0 else {q | c.grid.Joined seed q}.ncard
        Paced (Work.fill c ⟨1, 1⟩ 'o') c change (c.width * c.height) n) ∧
        ∀ q, c.grid.Joined seed q →
          ∃ change', c.fill q.toPoint 'o' = .ok change' ∧ change'.shown = change.shown := by
  intro c
  obtain ⟨hline, hrectangle, hfill⟩ := shown_eq_percentages c
  exact ⟨⟨_, rfl, by decide +kernel, hline _ _ _ rfl⟩,
    ⟨_, rfl, by decide +kernel, hrectangle _ _ _ rfl⟩,
    ⟨_, rfl, by decide +kernel, hfill _ _ _ rfl⟩⟩

end Canvas

end GlyphCanvas
