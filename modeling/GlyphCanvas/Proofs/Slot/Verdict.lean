import GlyphCanvas.Proofs.Canvas.Creation
import GlyphCanvas.Proofs.Slot.Effect

/-!
# Which commands are refused

* `Command.refusal?`: why a command is refused, from the size of the canvas, if there is one, and the
  command alone.
* `Canvas.locate_of_not_inside`, `Command.exists_cells`: a point outside is an error, and the points of
  a command with none outside are cells.
* `Canvas.error_drawLine`, `Canvas.error_drawRectangle`, `Canvas.error_fill`: what a drawing on a canvas
  fails with.
* `Slot.refusal_apply`: the answer of a slot to a command is what `Command.refusal?` says.
-/

namespace GlyphCanvas

/-! ## The table -/

/-- The point is drawable on a canvas of that size. -/
def Point.Inside (p : Point) (width height : Nat) : Prop :=
  (1 ≤ p.x ∧ p.x ≤ width) ∧ 1 ≤ p.y ∧ p.y ≤ height

instance (p : Point) (width height : Nat) : Decidable (p.Inside width height) :=
  inferInstanceAs (Decidable (_ ∧ _))

namespace Command

/-- The points of a command on a canvas, in the order of its arguments. -/
def points : Command → List Point
  | create .. => []
  | line start stop => [start, stop]
  | rectangle first opposite => [first, opposite]
  | fill seed _ => [seed]

/-- The first point of the command that is outside of a canvas of that size. -/
def outside? (command : Command) (width height : Nat) : Option Point :=
  command.points.find? fun p => ¬p.Inside width height

/-- What is wrong with the shape that the command asks for. -/
def bent? : Command → Option CommandError
  | line start stop =>
    if start.x ≠ stop.x ∧ start.y ≠ stop.y then some (.unsupportedGeometry start stop) else none
  | _ => none

/-- What is wrong with a drawing on a canvas of that size. A point outside comes before the shape. -/
def fault? (command : Command) (width height : Nat) : Option CommandError :=
  match command.outside? width height with
  | some p => some (.outOfBounds p width height)
  | none => command.bent?

/-- Why a command is refused on a canvas of that size, or where there is none. -/
def refusal? : Command → Option (Nat × Nat) → Option CommandError
  | create width height, _ => (Canvas.sizeFault? width height).map .invalidDimension
  | _, none => some .noCanvas
  | command, some (width, height) => command.fault? width height

end Command

/-- The error of an outcome, if it is one. -/
def error? {α : Type} : Except CommandError α → Option CommandError
  | .ok _ => none
  | .error error => some error

/-- Why the command was refused, if it was. -/
def Reply.refusal? (reply : Reply) : Option CommandError :=
  error? reply.answer

/-- The size of the canvas, if there is one. -/
def Slot.size? (slot : Slot) : Option (Nat × Nat) :=
  slot.map fun c => (c.width, c.height)

/-! ## Points -/

theorem Command.exists_cells {command : Command} {width height : Nat}
    (h : command.outside? width height = none) :
    ∀ p ∈ command.points, ∃ a : Cell width height, a.toPoint = p := by
  intro p hp
  have hinside : p.Inside width height := by simpa using List.find?_eq_none.1 h p hp
  exact (Canvas.exists_toPoint_iff (c := ⟨width, height, .fresh width height⟩)).2 hinside

namespace Canvas

variable {c : Canvas} {p q bad : Point}

theorem locate_of_not_inside (h : ¬p.Inside c.width c.height) :
    c.locate p = .error (.outOfBounds p c.width c.height) := by
  unfold locate
  cases hp : Cell.ofPoint? p with
  | none => rfl
  | some a => exact absurd (exists_toPoint_iff.1 ⟨a, Cell.ofPoint?_eq_some_iff.1 hp⟩) h

/-- Points are looked up one after the other, so the first of them that is outside is the error. -/
theorem locate_bind_locate {α : Type} (h : [p, q].find? (¬·.Inside c.width c.height) = some bad)
    (next : Cell c.width c.height → Cell c.width c.height → Except CommandError α) :
    (c.locate p >>= fun a => c.locate q >>= next a) =
      .error (.outOfBounds bad c.width c.height) := by
  by_cases hp : p.Inside c.width c.height
  · obtain ⟨a, rfl⟩ := exists_toPoint_iff.2 hp
    rw [List.find?_cons_of_neg (by simpa using hp)] at h
    obtain rfl := List.mem_singleton.1 (List.mem_of_find?_eq_some h)
    have hq : ¬bad.Inside c.width c.height := by simpa using List.find?_some h
    rw [locate_toPoint, locate_of_not_inside hq]
    rfl
  · rw [List.find?_cons_of_pos (by simpa using hp), Option.some.injEq] at h
    rw [locate_of_not_inside hp, h]
    rfl

/-! ## Drawings -/

/-- A line between cells of different rows and columns is refused. -/
theorem drawLine_bent {a b : Cell c.width c.height} (h : ¬(a.x = b.x ∨ a.y = b.y)) :
    c.drawLine a.toPoint b.toPoint = .error (.unsupportedGeometry a.toPoint b.toPoint) := by
  obtain ⟨hx, hy⟩ := not_or.1 h
  simp only [drawLine, path, locate_toPoint, bind, Except.bind]
  rw [if_neg hy, if_neg hx]
  rfl

theorem error_drawLine (c : Canvas) (start stop : Point) :
    error? (c.drawLine start stop) = (Command.line start stop).fault? c.width c.height := by
  unfold Command.fault?
  cases ho : (Command.line start stop).outside? c.width c.height with
  | some bad =>
    rw [drawLine, path, locate_bind_locate ho]
    rfl
  | none =>
    obtain ⟨a, rfl⟩ := Command.exists_cells ho start (by simp [Command.points])
    obtain ⟨b, rfl⟩ := Command.exists_cells ho stop (by simp [Command.points])
    have hbent : (a.toPoint.x ≠ b.toPoint.x ∧ a.toPoint.y ≠ b.toPoint.y) ↔
        ¬(a.x = b.x ∨ a.y = b.y) := by
      simp only [Cell.toPoint]
      omega
    by_cases h : a.x = b.x ∨ a.y = b.y
    · rw [c.drawLine_toPoint h]
      exact (if_neg (mt hbent.1 (not_not_intro h))).symm
    · rw [drawLine_bent h]
      exact (if_pos (hbent.2 h)).symm

theorem error_drawRectangle (c : Canvas) (first opposite : Point) :
    error? (c.drawRectangle first opposite) =
      (Command.rectangle first opposite).fault? c.width c.height := by
  unfold Command.fault?
  cases ho : (Command.rectangle first opposite).outside? c.width c.height with
  | some bad =>
    rw [drawRectangle, locate_bind_locate ho]
    rfl
  | none =>
    obtain ⟨a, rfl⟩ := Command.exists_cells ho first (by simp [Command.points])
    obtain ⟨b, rfl⟩ := Command.exists_cells ho opposite (by simp [Command.points])
    rw [drawRectangle_toPoint]
    rfl

theorem error_fill (c : Canvas) (seed : Point) (colour : Char) :
    error? (c.fill seed colour) = (Command.fill seed colour).fault? c.width c.height := by
  unfold Command.fault?
  cases ho : (Command.fill seed colour).outside? c.width c.height with
  | some bad =>
    obtain rfl := List.mem_singleton.1 (List.mem_of_find?_eq_some ho)
    have hbad : ¬bad.Inside c.width c.height := by simpa using List.find?_some ho
    rw [fill_of_locate_error (locate_of_not_inside hbad)]
    rfl
  | none =>
    obtain ⟨a, rfl⟩ := Command.exists_cells ho seed (by simp [Command.points])
    obtain ⟨cells, -, -, hfill⟩ := c.fill_toPoint a colour
    rw [hfill]
    rfl

end Canvas

/-! ## Slots -/

namespace Slot

theorem refusal_change (slot : Slot) (draw : Canvas → Except CommandError Canvas.Change) :
    (slot.change draw).refusal? =
      match slot with
      | none => some .noCanvas
      | some c => error? (draw c) := by
  cases slot with
  | none => rfl
  | some c =>
    simp only [change]
    cases draw c <;> rfl

/-- Whether a command is refused, and why, is a matter of the command and of the size of the canvas,
or of there being none. What is drawn on it does not count. -/
theorem refusal_apply (slot : Slot) (command : Command) :
    (slot.apply command).refusal? = command.refusal? slot.size? := by
  cases command with
  | create width height =>
    simp only [apply, Canvas.create_eq, Command.refusal?]
    cases Canvas.sizeFault? width height <;> rfl
  | line start stop =>
    rw [apply, refusal_change]
    cases slot with
    | none => rfl
    | some c => exact c.error_drawLine start stop
  | rectangle first opposite =>
    rw [apply, refusal_change]
    cases slot with
    | none => rfl
    | some c => exact c.error_drawRectangle first opposite
  | fill seed colour =>
    rw [apply, refusal_change]
    cases slot with
    | none => rfl
    | some c => exact c.error_fill seed colour

-- a point outside comes before the shape, and the first one before the second
example : (Command.line ⟨0, 1⟩ ⟨4, 9⟩).refusal? (some (3, 2)) = some (.outOfBounds ⟨0, 1⟩ 3 2) := by
  decide

end Slot

end GlyphCanvas
