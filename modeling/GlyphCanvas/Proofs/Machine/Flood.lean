import GlyphCanvas.Proofs.Canvas.Counting
import GlyphCanvas.Proofs.Canvas.Flood
import GlyphCanvas.Proofs.Machine.Ticker

/-!
# Flood fill with machine integers

* `Machine.Loop`: a flood under way, with the progress that it has made.
* `Machine.Loop.step`: looks around a cell. The columns and rows next to it are computed unchecked,
  and only then is it asked whether they are inside the frame.
* `Machine.Loop.run`: steps until the stack is empty. Whatever the stored characters are, a step that
  does not break down leaves less to do (`Machine.Loop.fuel_step_lt`).
* `Machine.run_loop`: as long as the invariant of the flood holds, the loop ends and has done what
  the flood does.
* `Machine.fill_eq`: so on a small canvas a fill never breaks down.
-/

namespace GlyphCanvas

namespace Machine

/-- A flood under way. -/
structure Loop where
  canvas : Stored
  stack : List (UInt64 × UInt64)
  ticker : Ticker
  filled : UInt64

/-- The positions left and right of a position, above it and below it. -/
def around (x y : UInt64) : Machine (List (UInt64 × UInt64)) := do
  let left ← subtract x 1
  let right ← add x 1
  let above ← subtract y 1
  let below ← add y 1
  return [(left, y), (right, y), (x, above), (x, below)]

namespace Loop

/-- Recolours a position if it is inside the frame and holds the old character. -/
def visit (old new : Char) (l : Loop) (position : UInt64 × UInt64) : Machine Loop := do
  if !isInterior l.canvas position.1 position.2 then return l
  let place ← index l.canvas position.1 position.2
  if (← read l.canvas place) ≠ old then return l
  let canvas ← write l.canvas place new
  let ticker ← l.ticker.step
  let filled ← add l.filled 1
  return { canvas, stack := position :: l.stack, ticker, filled }

/-- Looks around a position that was taken from the stack. -/
def step (old new : Char) (l : Loop) (position : UInt64 × UInt64) : Machine Loop := do
  (← around position.1 position.2).foldlM (visit old new) l

/-- What a flood has left to do: characters to recolour, counted twice, and positions to look
around. -/
def fuel (old : Char) (l : Loop) : Nat :=
  2 * l.canvas.cells.count old + l.stack.length

/-! ## What is left to do -/

section Fuel

open LawfulMonadAttach MonadAttach

theorem eq_of_canReturn_lift {α : Type} {x : Option α} {a : α}
    (ha : CanReturn (ExceptT.lift x : Machine α) a) : x = some a := by
  cases x with
  | none => cases ha
  | some b =>
    cases ha
    rfl

variable {old new : Char} (h : new ≠ old) {l l' : Loop}
include h

/-- A position that is put on the stack has lost the old character. -/
theorem fuel_visit_le {position : UInt64 × UInt64} (hl : CanReturn (l.visit old new position) l') :
    l'.fuel old ≤ l.fuel old := by
  unfold visit at hl
  split at hl
  · exact eq_of_canReturn_pure hl ▸ Nat.le_refl _
  obtain ⟨place, -, hl⟩ := canReturn_bind_imp' hl
  obtain ⟨glyph, hread, hl⟩ := canReturn_bind_imp' hl
  split at hl
  · exact eq_of_canReturn_pure hl ▸ Nat.le_refl _
  · next hglyph =>
    obtain ⟨canvas, hwrite, hl⟩ := canReturn_bind_imp' hl
    obtain ⟨ticker, -, hl⟩ := canReturn_bind_imp' hl
    obtain ⟨filled, -, hl⟩ := canReturn_bind_imp' hl
    obtain rfl := eq_of_canReturn_pure hl
    have hcell := eq_of_canReturn_lift hread
    rw [not_not.1 hglyph] at hcell
    obtain ⟨hlt, hold⟩ := List.getElem?_eq_some_iff.1 hcell
    have hstored := eq_of_canReturn_lift hwrite
    rw [if_pos hlt, Option.some.injEq] at hstored
    subst hstored
    have hpos : 0 < l.canvas.cells.count old := List.count_pos_iff.2 (List.mem_of_getElem? hcell)
    simp only [fuel, List.count_set hlt, hold, List.length_cons, beq_self_eq_true, beq_iff_eq, h,
      if_true, if_false]
    omega

theorem fuel_foldlM_visit_le {positions : List (UInt64 × UInt64)}
    (hl : CanReturn (positions.foldlM (visit old new) l) l') : l'.fuel old ≤ l.fuel old := by
  induction positions generalizing l with
  | nil => exact eq_of_canReturn_pure hl ▸ Nat.le_refl _
  | cons position rest ih =>
    rw [List.foldlM_cons] at hl
    obtain ⟨next, hnext, hl⟩ := canReturn_bind_imp' hl
    exact (ih hl).trans (fuel_visit_le h hnext)

theorem fuel_step_lt {position : UInt64 × UInt64} {rest : List (UInt64 × UInt64)}
    (hs : l.stack = position :: rest)
    (hl : CanReturn (step old new { l with stack := rest } position) l') :
    l'.fuel old < l.fuel old := by
  obtain ⟨positions, -, hl⟩ := canReturn_bind_imp' hl
  refine (fuel_foldlM_visit_le h hl).trans_lt ?_
  simp [fuel, hs]

end Fuel

/-! ## The loop -/

/-- Looks around the positions on the stack until none is left. -/
def run {old new : Char} (h : new ≠ old) (l : Loop) : Machine Loop :=
  match _hs : l.stack with
  | [] => return l
  | position :: rest =>
    MonadAttach.pbind (step old new { l with stack := rest } position) fun l' _ => run h l'
termination_by l.fuel old
decreasing_by exact fuel_step_lt h _hs ‹_›

theorem run_of_nil {old new : Char} (h : new ≠ old) {l : Loop} (hs : l.stack = []) :
    l.run h = pure l := by
  unfold run
  split
  · rfl
  · next hs' => simp [hs] at hs'

theorem run_of_cons {old new : Char} (h : new ≠ old) {l : Loop} {position : UInt64 × UInt64}
    {rest : List (UInt64 × UInt64)} (hs : l.stack = position :: rest) :
    l.run h = step old new { l with stack := rest } position >>= run h := by
  rw [run]
  split
  · next hs' => simp [hs] at hs'
  · next hs' =>
    rw [hs] at hs'
    cases hs'
    exact WeaklyLawfulMonadAttach.pbind_eq_bind

end Loop

/-- Recolours the region around a point. -/
def fill (s : Stored) (point : Point) (colour : Char) : Machine (Stored × List Nat) := do
  let (x, y) ← locate s point
  let old ← read s (← index s x y)
  let ticker := Ticker.start (← multiply s.width s.height)
  if h : old = colour then return (s, ticker.finish)
  else
    let canvas ← write s (← index s x y) colour
    let ticker ← ticker.step
    let l ← Loop.run (Ne.symm h) { canvas, stack := [(x, y)], ticker, filled := 1 }
    return (l.canvas, l.ticker.finish)

/-- A flood with machine integers, one unit of progress for each recoloured cell. -/
def loop (c : Canvas) (f : Flood c.width c.height) : Loop :=
  { canvas := Canvas.stored { c with grid := f.grid }
    stack := f.stack.map Cell.words
    ticker := (Work.meter (c.width * c.height) f.filled).ticker
    filled := .ofNat f.filled }

/-! ## One position -/

variable {c : Canvas} (h : c.Small)

theorem filled_le_visitAt (old new : Char) (f : Flood c.width c.height) (x y : Nat) :
    f.filled ≤ (f.visitAt old new x y).filled := by
  unfold Flood.visitAt Flood.visit
  split
  · split
    · exact Nat.le_succ _
    · exact Nat.le_refl _
  · exact Nat.le_refl _

include h

theorem around_cell (p : Cell c.width c.height) :
    around (.ofNat p.x) (.ofNat p.y) = pure
      [(.ofNat (p.x - 1), .ofNat p.y), (.ofNat (p.x + 1), .ofNat p.y),
        (.ofNat p.x, .ofNat (p.y - 1)), (.ofNat p.x, .ofNat (p.y + 1))] := by
  have hx := p.x_le
  have hy := p.y_le
  have hwidth := h.width_lt
  have hheight := h.height_lt
  rw [around, subtract_one p.one_le_x (h.x_lt p), pure_bind, add_one (by omega), pure_bind,
    subtract_one p.one_le_y (h.y_lt p), pure_bind, add_one (by omega), pure_bind]

/-- Left of the frame there is no column. -/
example : (around 0 1).run = none := by decide

/-- A cell is recoloured if it holds the old character. -/
theorem visit_loop_cell {old new : Char} {f : Flood c.width c.height} (p : Cell c.width c.height)
    (hfilled : (f.visit old new p).filled ≤ c.width * c.height) :
    (loop c f).visit old new p.words = pure (loop c (f.visit old new p)) := by
  have hin : isInterior (loop c f).canvas (.ofNat p.x) (.ofNat p.y) = true := by
    refine (isInterior_ofNat (c := { c with grid := f.grid }) h (h.x_lt p) (h.y_lt p)).trans ?_
    rw [Cell.ofNat?_x_y, Option.isSome_some]
  have hindex : index (loop c f).canvas (.ofNat p.x) (.ofNat p.y) = pure (.ofNat p.index) :=
    index_cell h p
  have hread : read (loop c f).canvas (.ofNat p.index) = pure (f.grid.glyph p) :=
    read_index (c := { c with grid := f.grid }) h p
  dsimp only [Loop.visit, Cell.words]
  rw [hin, Bool.not_true, if_neg Bool.false_ne_true, hindex, pure_bind, hread, pure_bind]
  by_cases hp : f.grid.glyph p = old
  · rw [Flood.visit_of_eq hp] at hfilled ⊢
    have hwrite : write (loop c f).canvas (.ofNat p.index) new =
        pure (Canvas.stored { c with grid := f.grid.put p new }) :=
      write_index (c := { c with grid := f.grid }) h p new
    have htick : (loop c f).ticker.step =
        pure (Work.meter (c.width * c.height) (f.filled + 1)).ticker :=
      step_meter hfilled h.area_le
    have hcount : add (loop c f).filled 1 = pure (.ofNat (f.filled + 1)) :=
      add_one ((hfilled.trans h.area_le).trans_lt Canvas.maxCells_lt)
    rw [if_neg (not_not_intro hp), hwrite, pure_bind, htick, pure_bind, hcount, pure_bind]
    rfl
  · rw [Flood.visit_of_ne hp, if_pos hp]

theorem visit_loop {old new : Char} {f : Flood c.width c.height} {x y : Nat} (hx : x < 2 ^ 64)
    (hy : y < 2 ^ 64) (hfilled : (f.visitAt old new x y).filled ≤ c.width * c.height) :
    (loop c f).visit old new (.ofNat x, .ofNat y) = pure (loop c (f.visitAt old new x y)) := by
  unfold Flood.visitAt at hfilled ⊢
  cases hcell : (Cell.ofNat? x y : Option (Cell c.width c.height)) with
  | none =>
    have hout := isInterior_ofNat (c := { c with grid := f.grid }) h hx hy
    rw [hcell] at hout
    dsimp only [Loop.visit, loop]
    rw [hout]
    rfl
  | some p =>
    obtain ⟨rfl, rfl⟩ := Cell.ofNat?_eq_some_iff.1 hcell
    rw [hcell] at hfilled
    exact visit_loop_cell h p hfilled

/-! ## The positions around a cell -/

/-- One step of the flood. The number of recoloured cells only grows, so it is bounded all along if
it is bounded in the end. -/
theorem step_loop {old new : Char} {f : Flood c.width c.height} {p : Cell c.width c.height}
    {rest : List (Cell c.width c.height)}
    (hfilled : (f.step old new p rest).filled ≤ c.width * c.height) :
    (loop c { f with stack := rest }).step old new p.words =
      pure (loop c (f.step old new p rest)) := by
  have hx := p.x_le
  have hy := p.y_le
  have hwidth := h.width_lt
  have hheight := h.height_lt
  dsimp only [Flood.step, Loop.step, Cell.words] at hfilled ⊢
  have habove := (filled_le_visitAt old new _ _ _).trans hfilled
  have hright := (filled_le_visitAt old new _ _ _).trans habove
  have hleft := (filled_le_visitAt old new _ _ _).trans hright
  rw [around_cell h, pure_bind,
    List.foldlM_cons, visit_loop h (by omega) (by omega) hleft, pure_bind,
    List.foldlM_cons, visit_loop h (by omega) (by omega) hright, pure_bind,
    List.foldlM_cons, visit_loop h (by omega) (by omega) habove, pure_bind,
    List.foldlM_cons, visit_loop h (by omega) (by omega) hfilled, pure_bind,
    List.foldlM_nil]

/-! ## A whole flood -/

theorem run_loop {g : Grid c.width c.height} {seed : Cell c.width c.height} {new : Char}
    {pushed : List (Cell c.width c.height)} {f : Flood c.width c.height}
    (hf : Flood.Invariant g seed new pushed f) (hne : new ≠ g.glyph seed) :
    Loop.run hne (loop c f) = pure (loop c (f.run hne)) := by
  induction f using Flood.run_induction hne generalizing pushed with
  | ended f hs =>
    rw [Flood.run_of_nil hne hs, Loop.run_of_nil]
    exact congrArg (List.map Cell.words) hs
  | taken f p rest hs ih =>
    obtain ⟨more, hf', -⟩ := hf.step hne hs
    have hfilled : (f.step (g.glyph seed) new p rest).filled ≤ c.width * c.height :=
      hf'.filled_eq ▸ Cell.length_le_of_nodup hf'.nodup
    have hstack : (loop c f).stack = p.words :: rest.map Cell.words :=
      congrArg (List.map Cell.words) hs
    rw [Flood.run_of_cons hne hs, ← ih hf', Loop.run_of_cons hne hstack]
    exact congrArg (· >>= Loop.run hne) (step_loop h hfilled)

theorem fill_eq (point : Point) (colour : Char) :
    fill c.stored point colour =
      MonadExcept.ofExcept ((c.fill point colour).map Canvas.Change.stored) := by
  rw [fill, locate_eq h]
  cases hpoint : c.locate point with
  | error error =>
    rw [Canvas.fill_of_locate_error hpoint]
    rfl
  | ok seed =>
    obtain rfl := Canvas.locate_eq_ok_iff.1 hpoint
    have harea := h.area_le
    have hwidth := h.width_lt
    have hheight := h.height_lt
    have hmultiply : multiply c.stored.width c.stored.height = pure (.ofNat (c.width * c.height)) :=
      multiply_ofNat (by omega) (by omega) (harea.trans_lt Canvas.maxCells_lt)
    dsimp only [Except.map, MonadExcept.ofExcept, Cell.words]
    rw [pure_bind]
    dsimp only
    rw [index_cell h, pure_bind, read_index h, pure_bind, hmultiply, pure_bind, start_eq harea]
    by_cases hc : c.grid.glyph seed = colour
    · rw [dif_pos hc, finish_meter, c.fill_of_eq hc.symm]
      rfl
    · have hpos : 0 < c.width * c.height :=
        Nat.mul_pos (seed.one_le_x.trans seed.x_le) (seed.one_le_y.trans seed.y_le)
      have hrun : Loop.run (Ne.symm hc)
          { canvas := Canvas.stored { c with grid := c.grid.put seed colour }
            stack := [(.ofNat seed.x, .ofNat seed.y)]
            ticker := (Work.meter (c.width * c.height) 1).ticker, filled := 1 } =
          pure (loop c ((Flood.start c.grid seed colour).run (Ne.symm hc))) :=
        run_loop h (.start c.grid seed colour) (Ne.symm hc)
      rw [dif_neg hc, c.fill_of_ne (Ne.symm hc), pure_bind, write_index h, pure_bind,
        step_meter hpos harea, pure_bind, hrun, pure_bind]
      dsimp only [loop]
      rw [finish_meter]
      rfl

end Machine

end GlyphCanvas
