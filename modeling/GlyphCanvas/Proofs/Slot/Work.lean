import GlyphCanvas.Proofs.Slot.Effect

/-!
# Commands carried out step by step

A command on a slot as a sequence of checks, written characters and shown percentages. A check that
fails ends the work, and what was done before it stays done.

* `Desk`: a slot and the percentages shown so far, which is all that the work can change.
* `Work.strokes`, `Work.flood`: a line or an outline, and a flood, one character after the other.
* `Work.apply`, `Work.applyLine`: a command and a line.
* `Work.run_apply`, `Work.run_applyLine`: what comes of this work is what `Slot.apply` and
  `Slot.applyLine` say.
-/

namespace GlyphCanvas

open Progress

/-- A slot, and the percentages shown so far. -/
structure Desk where
  slot : Slot
  shown : List Nat

/-- Work that may be refused on the way. What was done before a refusal stays done. -/
abbrev Work := EStateM CommandError Desk

namespace Work

/-! ## One step -/

/-- A check, after which the work goes on with a value or is refused. -/
def check {α : Type} : Except CommandError α → Work α
  | .ok value => pure value
  | .error error => throw error

/-- The canvas in the slot. There must be one. -/
def canvas : Work Canvas := do
  match (← get).slot with
  | some c => return c
  | none => throw .noCanvas

/-- The slot holds this canvas from now on. -/
def store (c : Canvas) : Work Unit :=
  modify fun desk => { desk with slot := some c }

/-- One more percentage is shown. -/
def report (percent : Nat) : Work Unit :=
  modify fun desk => { desk with shown := desk.shown ++ [percent] }

/-- One more unit is done. -/
def tick (m : Meter) : Work Meter := do
  let reached := percent m.total (m.done + 1)
  if m.shown.back? ≠ some reached then report reached
  return m.advance

/-- The last unit is done. -/
def close (m : Meter) : Work Unit := do
  if m.shown.back? ≠ some 100 then report 100

/-! ## Drawing on a canvas -/

/-- Puts ink on the cells, one after the other. The canvas has come to hold the given grid. -/
def strokes (c : Canvas) : Grid c.width c.height → Meter → List (Cell c.width c.height) → Work Unit
  | _, m, [] => close m
  | g, m, p :: rest => do
    store { c with grid := g.put p inkGlyph }
    strokes c (g.put p inkGlyph) (← tick m) rest

def ink (c : Canvas) (cells : List (Cell c.width c.height)) : Work Unit :=
  strokes c c.grid (.start cells.length) cells

def drawLine (c : Canvas) (start stop : Point) : Work Unit := do
  ink c (← check (c.path start stop))

def drawRectangle (c : Canvas) (first opposite : Point) : Work Unit := do
  let a ← check (c.locate first)
  let b ← check (c.locate opposite)
  if a.x = b.x ∨ a.y = b.y then drawLine c first opposite
  else ink c (Cell.outline a b)

/-- Looks at cells one after the other and recolours those that hold the old character. -/
def visits (c : Canvas) (old new : Char) :
    Flood c.width c.height → Meter → List (Cell c.width c.height) → Work Meter
  | _, m, [] => return m
  | f, m, p :: rest =>
    if f.grid.glyph p = old then do
      store { c with grid := f.grid.put p new }
      visits c old new (f.visit old new p) (← tick m) rest
    else visits c old new f m rest

/-- Takes cells from the stack and looks at their neighbours until no cell is left. -/
def flood (c : Canvas) {old new : Char} (h : new ≠ old) (f : Flood c.width c.height) (m : Meter) :
    Work Unit :=
  match _hs : f.stack with
  | [] => close m
  | p :: rest => do
    let m ← visits c old new { f with stack := rest } m p.neighbours
    flood c h (f.step old new p rest) m
termination_by f.fuel old
decreasing_by exact Flood.fuel_step_lt h _hs

def fill (c : Canvas) (point : Point) (colour : Char) : Work Unit := do
  let seed ← check (c.locate point)
  let m := Meter.start (c.width * c.height)
  if h : colour = c.grid.glyph seed then close m
  else
    store { c with grid := c.grid.put seed colour }
    flood c h (.start c.grid seed colour) (← tick m)

/-! ## Commands and lines -/

/-- Draws on the canvas in the slot, and answers with its text. -/
def onCanvas (work : Canvas → Work Unit) : Work String := do
  work (← canvas)
  return (← canvas).render

/-- Carries out a command. -/
def apply : Command → Work String
  | .create width height => do
    let c ← check (Canvas.create width height)
    store c
    return c.render
  | .line start stop => onCanvas (drawLine · start stop)
  | .rectangle first opposite => onCanvas (drawRectangle · first opposite)
  | .fill seed colour => onCanvas (fill · seed colour)

/-- Carries out the command that a line stands for. -/
def applyLine (line : String) : Work String := do
  if (← get).slot.isNone && Slot.wantsCanvas line then throw .noCanvas
  apply (← check (Command.ofLine line))

end Work

/-! ## What comes of the work -/

/-- A reply as the end of work before which some percentages had been shown. -/
def Reply.after (reply : Reply) (before : List Nat) : EStateM.Result CommandError Desk String :=
  let desk : Desk := { slot := reply.slot, shown := before ++ reply.shown }
  match reply.answer with
  | .ok text => .ok text desk
  | .error error => .error error desk

theorem Slot.refuse_after (slot : Slot) (error : CommandError) (before : List Nat) :
    (slot.refuse error).after before = .error error { slot, shown := before } := by
  rw [Reply.after, Slot.refuse_answer, Slot.refuse_shown, Slot.refuse_slot, List.append_nil]

namespace Work

section Steps

variable {α β : Type} {work : Work α} {next : α → Work β} {d d' : Desk}

theorem run_bind_of_ok {a : α} (h : work.run d = .ok a d') :
    (work >>= next).run d = (next a).run d' := by
  rw [EStateM.run_bind, h]

theorem run_bind_of_error {error : CommandError} (h : work.run d = .error error d') :
    (work >>= next).run d = .error error d' := by
  rw [EStateM.run_bind, h]

theorem run_store (c : Canvas) : (store c).run d = .ok () { d with slot := some c } := rfl

theorem run_canvas (c : Canvas) (shown : List Nat) :
    canvas.run { slot := some c, shown } = .ok c { slot := some c, shown } := rfl

theorem run_report (percent : Nat) :
    (report percent).run d = .ok () { d with shown := d.shown ++ [percent] } := rfl

end Steps

/-! ## Percentages -/

/-- The state of a piece of work when some of its units are done. -/
def meter (total done : Nat) : Meter :=
  Nat.repeat Meter.advance done (.start total)

variable (slot : Slot) (before : List Nat)

theorem shown_meter_zero (total : Nat) :
    before ++ (meter total 0).shown.toList = before :=
  List.append_nil before

/-- What the meter has shown since it began is what has been reported. -/
theorem run_tick (m : Meter) :
    (tick m).run { slot, shown := before ++ m.shown.toList } =
      .ok m.advance { slot, shown := before ++ m.advance.shown.toList } := by
  unfold tick Meter.advance
  by_cases h : m.shown.back? = some (percent m.total (m.done + 1))
  · simp [h]
  · simp only [if_neg h, if_pos (show _ ≠ _ from h), EStateM.run_bind, run_report,
      EStateM.run_pure, Array.toList_push, List.append_assoc]

theorem run_close (m : Meter) :
    (close m).run { slot, shown := before ++ m.shown.toList } =
      .ok () { slot, shown := before ++ m.finish } := by
  unfold close Meter.finish
  by_cases h : m.shown.back? = some 100
  · simp [h]
  · simp only [if_neg h, if_pos (show _ ≠ _ from h), run_report, List.append_assoc]

/-! ## Drawing -/

theorem run_strokes (c : Canvas) (g : Grid c.width c.height) (total done : Nat)
    (cells : List (Cell c.width c.height)) :
    (strokes c g (meter total done) cells).run
        { slot := some { c with grid := g }, shown := before ++ (meter total done).shown.toList } =
      .ok ()
        { slot := some { c with grid := g.putAll cells inkGlyph }
          shown := before ++ readings total (done + cells.length) } := by
  induction cells generalizing g done with
  | nil => exact run_close _ _ _
  | cons p rest ih =>
    rw [strokes, run_bind_of_ok (run_store _), run_bind_of_ok (run_tick _ _ _), List.length_cons,
      Nat.add_comm rest.length, ← Nat.add_assoc]
    exact ih (g.put p inkGlyph) (done + 1)

/-- The cells are visited in turn, and every one that is recoloured is one more unit. -/
theorem run_visits (c : Canvas) (old new : Char) (total : Nat) (f : Flood c.width c.height)
    (cells : List (Cell c.width c.height)) :
    (visits c old new f (meter total f.filled) cells).run
        { slot := some { c with grid := f.grid }
          shown := before ++ (meter total f.filled).shown.toList } =
      .ok (meter total (cells.foldl (Flood.visit old new) f).filled)
        { slot := some { c with grid := (cells.foldl (Flood.visit old new) f).grid }
          shown := before ++
            (meter total (cells.foldl (Flood.visit old new) f).filled).shown.toList } := by
  induction cells generalizing f with
  | nil => rfl
  | cons p rest ih =>
    have hnext := ih (f.visit old new p)
    rw [List.foldl_cons, visits]
    split
    · next hp =>
      rw [Flood.visit_of_eq hp] at hnext ⊢
      rw [run_bind_of_ok (run_store _), run_bind_of_ok (run_tick _ _ _)]
      exact hnext
    · next hp =>
      rw [Flood.visit_of_ne hp] at hnext ⊢
      exact hnext

theorem run_flood (c : Canvas) {old new : Char} (h : new ≠ old) (total : Nat)
    (f : Flood c.width c.height) :
    (flood c h f (meter total f.filled)).run
        { slot := some { c with grid := f.grid }
          shown := before ++ (meter total f.filled).shown.toList } =
      .ok ()
        { slot := some { c with grid := (f.run h).grid }
          shown := before ++ readings total (f.run h).filled } := by
  induction f using Flood.run_induction h with
  | ended f hs =>
    rw [Flood.run_of_nil h hs]
    unfold flood
    split
    · exact run_close _ _ _
    · next hs' => simp [hs] at hs'
  | taken f p rest hs ih =>
    rw [Flood.run_of_cons h hs]
    unfold flood
    split
    · next hs' => simp [hs] at hs'
    · next hs' =>
      rw [hs] at hs'
      cases hs'
      have hvisits := run_visits before c old new total { f with stack := rest }
        p.neighbours
      rw [← Flood.step_eq_foldl] at hvisits
      rw [run_bind_of_ok hvisits]
      exact ih

/-- On a slot that holds the canvas, the work ends as the outcome says: the change is made and its
percentages are shown, or nothing is done and the error is the same. -/
def Draws (work : Work Unit) (c : Canvas) (outcome : Except CommandError Canvas.Change) : Prop :=
  ∀ before, work.run { slot := some c, shown := before } =
    match outcome with
    | .ok change => .ok () { slot := some change.canvas, shown := before ++ change.shown }
    | .error error => .error error { slot := some c, shown := before }

/-- A check in front of a drawing. -/
theorem Draws.check {α : Type} {c : Canvas} {x : Except CommandError α} {work : α → Work Unit}
    {draw : α → Except CommandError Canvas.Change}
    (h : ∀ a, Draws (work a) c (draw a)) : Draws (check x >>= work) c (x >>= draw) := by
  intro before
  cases x with
  | ok a => exact h a before
  | error error => rfl

theorem draws_ink (c : Canvas) (cells : List (Cell c.width c.height)) :
    Draws (ink c cells) c (.ok (c.ink cells)) := by
  intro before
  have h := run_strokes before c c.grid cells.length 0 cells
  rw [shown_meter_zero, Nat.zero_add] at h
  exact h

theorem draws_drawLine (c : Canvas) (start stop : Point) :
    Draws (drawLine c start stop) c (c.drawLine start stop) :=
  .check fun cells => draws_ink c cells

theorem draws_drawRectangle (c : Canvas) (first opposite : Point) :
    Draws (drawRectangle c first opposite) c (c.drawRectangle first opposite) := by
  refine .check fun a => .check fun b => ?_
  split
  · exact draws_drawLine c first opposite
  · exact draws_ink c _

theorem draws_fill (c : Canvas) (p : Point) (colour : Char) :
    Draws (fill c p colour) c (c.fill p colour) := by
  refine .check fun seed => ?_
  intro before
  have hbefore := shown_meter_zero before (c.width * c.height)
  by_cases h : colour = c.grid.glyph seed
  · have hclose := run_close (some c) before (meter (c.width * c.height) 0)
    rw [hbefore] at hclose
    rw [dif_pos h, dif_pos h]
    exact hclose
  · have htick := run_tick (some { c with grid := c.grid.put seed colour }) before
      (meter (c.width * c.height) 0)
    rw [hbefore] at htick
    rw [dif_neg h, dif_neg h, run_bind_of_ok (run_store _)]
    exact (run_bind_of_ok htick).trans
      (run_flood before c h (c.width * c.height) (.start c.grid seed colour))

/-! ## Commands and lines -/

/-- A drawing on the canvas in the slot. -/
theorem run_onCanvas {work : Canvas → Work Unit}
    {draw : Canvas → Except CommandError Canvas.Change} (h : ∀ c, Draws (work c) c (draw c)) :
    (onCanvas work).run { slot, shown := before } = (slot.change draw).after before := by
  cases slot with
  | none => exact (Slot.refuse_after ..).symm
  | some c =>
    have hwork := h c before
    rw [onCanvas, run_bind_of_ok (run_canvas c before)]
    cases hd : draw c with
    | ok change =>
      rw [hd] at hwork
      rw [run_bind_of_ok hwork, Slot.change, hd]
      rfl
    | error error =>
      rw [hd] at hwork
      rw [run_bind_of_error hwork, Slot.change, hd, Slot.refuse_after]

/-- A command carried out step by step does what `Slot.apply` says, whatever was shown before. -/
theorem run_apply (command : Command) :
    (apply command).run { slot, shown := before } = (slot.apply command).after before := by
  cases command with
  | create width height =>
    rw [apply, Slot.apply]
    cases hc : Canvas.create width height with
    | ok c =>
      rw [Reply.after, Slot.accept_answer, Slot.accept_shown, List.append_nil]
      rfl
    | error error => exact (Slot.refuse_after ..).symm
  | line start stop => exact run_onCanvas slot before fun c => draws_drawLine c start stop
  | rectangle first opposite =>
    exact run_onCanvas slot before fun c => draws_drawRectangle c first opposite
  | fill seed colour => exact run_onCanvas slot before fun c => draws_fill c seed colour

theorem run_applyLine (line : String) :
    (applyLine line).run { slot, shown := before } = (slot.applyLine line).after before := by
  unfold applyLine Slot.applyLine
  rw [run_bind_of_ok (EStateM.run_get _)]
  cases hempty : slot.isNone && Slot.wantsCanvas line with
  | true => exact (Slot.refuse_after ..).symm
  | false =>
    cases hread : Command.ofLine line with
    | ok command => exact run_apply slot before command
    | error error => exact (Slot.refuse_after ..).symm

end Work

end GlyphCanvas
