import GlyphCanvas.Command.History
import GlyphCanvas.Proofs.Canvas.Drawing

/-!
# What a request can do to a slot

* `Slot.Effect`: the changes that a command can make. It puts a fresh canvas into the slot or
  paints cells of the canvas that is there.
* `Slot.apply_cases`, `Slot.applyLine_cases`, `Slot.serve_cases`: a command, a line or a request is
  refused and leaves no trace, or it has such an effect.
* `Slot.apply_eq_refuse`, `Slot.applyLine_eq_refuse`: a command or a line that is answered with an
  error has changed and shown nothing.
-/

namespace GlyphCanvas.Slot

/-- The changes that a command can make to a slot. -/
inductive Effect (slot : Slot) : Command → Canvas.Change → Prop where
  | created {w h : Int} {c : Canvas} (hc : Canvas.create w h = .ok c) :
      Effect slot (.create w h) { canvas := c, shown := [] }
  | inked {command : Command} {c : Canvas} (hs : slot = some c)
      (hcommand : command.action = .line ∨ command.action = .rectangle)
      (cells : List (Cell c.width c.height)) : Effect slot command (c.ink cells)
  | filled {p : Point} {colour : Char} {c : Canvas} (hs : slot = some c)
      (cells : List (Cell c.width c.height)) :
      Effect slot (.fill p colour)
        { canvas := c.paint cells colour
          shown := Progress.readings (c.width * c.height) cells.length }

/-! ## Replies -/

@[simp] theorem refuse_slot (slot : Slot) (error : CommandError) :
    (slot.refuse error).slot = slot := rfl

@[simp] theorem refuse_shown (slot : Slot) (error : CommandError) :
    (slot.refuse error).shown = [] := rfl

@[simp] theorem refuse_answer (slot : Slot) (error : CommandError) :
    (slot.refuse error).answer = .error error := rfl

@[simp] theorem accept_slot (change : Canvas.Change) : (accept change).slot = some change.canvas :=
  rfl

@[simp] theorem accept_shown (change : Canvas.Change) : (accept change).shown = change.shown := rfl

@[simp] theorem accept_answer (change : Canvas.Change) :
    (accept change).answer = .ok change.canvas.render := rfl

/-- A reply that gives an error is the refusal for it. -/
theorem eq_refuse_of_answer {slot : Slot} {reply : Reply} {error : CommandError}
    (hreply : (∃ error, reply = slot.refuse error) ∨ ∃ change, reply = accept change)
    (h : reply.answer = .error error) : reply = slot.refuse error := by
  obtain ⟨error', rfl⟩ | ⟨change, rfl⟩ := hreply
  · rw [refuse_answer, Except.error.injEq] at h
    rw [h]
  · cases h

/-! ## Commands -/

/-- A drawing is refused, or there is a canvas and the drawing is possible on it. -/
theorem change_cases (slot : Slot) (draw : Canvas → Except CommandError Canvas.Change) :
    (∃ error, slot.change draw = slot.refuse error) ∨
      ∃ c change, slot = some c ∧ draw c = .ok change ∧ slot.change draw = accept change := by
  cases slot with
  | none => exact .inl ⟨_, rfl⟩
  | some c =>
    cases hd : draw c with
    | error error => exact .inl ⟨error, by simp [change, hd]⟩
    | ok change => exact .inr ⟨c, change, rfl, hd, by simp [Slot.change, hd]⟩

theorem apply_cases (slot : Slot) (command : Command) :
    (∃ error, slot.apply command = slot.refuse error) ∨
      ∃ change, Effect slot command change ∧ slot.apply command = accept change := by
  cases command with
  | create w h =>
    cases hc : Canvas.create w h with
    | error error => exact .inl ⟨error, by simp [apply, hc]⟩
    | ok c => exact .inr ⟨_, .created hc, by simp [apply, hc]⟩
  | line start stop =>
    obtain he | ⟨c, change, hs, hd, h⟩ := slot.change_cases (·.drawLine start stop)
    · exact .inl he
    · obtain ⟨a, b, -, -, -, rfl⟩ := Canvas.drawLine_eq_ok_iff.1 hd
      exact .inr ⟨_, .inked hs (.inl rfl) (Cell.border a b), h⟩
  | rectangle first opposite =>
    obtain he | ⟨c, change, hs, hd, h⟩ := slot.change_cases (·.drawRectangle first opposite)
    · exact .inl he
    · obtain ⟨a, b, -, -, rfl⟩ := Canvas.drawRectangle_eq_ok_iff.1 hd
      exact .inr ⟨_, .inked hs (.inr rfl) (Cell.border a b), h⟩
  | fill p colour =>
    obtain he | ⟨c, change, hs, hd, h⟩ := slot.change_cases (·.fill p colour)
    · exact .inl he
    · obtain ⟨seed, cells, -, -, -, rfl⟩ := Canvas.fill_eq_ok hd
      exact .inr ⟨_, .filled hs cells, h⟩

/-- A command that is refused leaves no trace. -/
theorem apply_eq_refuse {slot : Slot} {command : Command} {error : CommandError}
    (h : (slot.apply command).answer = .error error) :
    slot.apply command = slot.refuse error :=
  eq_refuse_of_answer ((slot.apply_cases command).imp_right fun ⟨change, _, h⟩ => ⟨change, h⟩) h

/-! ## Lines and requests -/

/-- A line is refused, or it is carried out as the command that it stands for. -/
theorem applyLine_cases (slot : Slot) (line : String) :
    (∃ error, slot.applyLine line = slot.refuse error) ∨
      ∃ command change, Command.ofLine line = .ok command ∧ Effect slot command change ∧
        slot.applyLine line = accept change := by
  unfold applyLine
  split
  · exact .inl ⟨_, rfl⟩
  · cases hc : Command.ofLine line with
    | error error => exact .inl ⟨error, rfl⟩
    | ok command =>
      obtain he | ⟨change, heffect, h⟩ := slot.apply_cases command
      · exact .inl he
      · exact .inr ⟨command, change, rfl, heffect, h⟩

/-- A line that is refused leaves no trace. -/
theorem applyLine_eq_refuse {slot : Slot} {line : String} {error : CommandError}
    (h : (slot.applyLine line).answer = .error error) :
    slot.applyLine line = slot.refuse error :=
  eq_refuse_of_answer
    ((slot.applyLine_cases line).imp_right fun ⟨_, change, _, _, h⟩ => ⟨change, h⟩) h

/-- The command that a request stands for, if it stands for one. -/
def Request.command? : Request → Option Command
  | .command asked => some asked
  | .line text => (Command.ofLine text).toOption

theorem serve_cases (slot : Slot) (request : Request) :
    (∃ error, slot.serve request = slot.refuse error) ∨
      ∃ command change, request.command? = some command ∧ Effect slot command change ∧
        slot.serve request = accept change := by
  cases request with
  | command command =>
    obtain he | ⟨change, heffect, h⟩ := slot.apply_cases command
    · exact .inl he
    · exact .inr ⟨command, change, rfl, heffect, h⟩
  | line text =>
    obtain he | ⟨command, change, hc, heffect, h⟩ := slot.applyLine_cases text
    · exact .inl he
    · exact .inr ⟨command, change, by simp [Request.command?, hc, Except.toOption], heffect, h⟩

end GlyphCanvas.Slot
