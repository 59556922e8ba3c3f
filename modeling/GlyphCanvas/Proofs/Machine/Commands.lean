import GlyphCanvas.Proofs.Canvas.Rows
import GlyphCanvas.Proofs.Command.Display
import GlyphCanvas.Proofs.Machine.Drawing
import GlyphCanvas.Proofs.Machine.Flood

/-!
# Commands with machine integers

* `Machine.print`: the stored characters in rows, as text.
* `Machine.apply`: a command with fields of 64 bits, on a slot with a stored canvas or none.
* `Machine.after`: the slot after some commands, if none of them breaks down.
* `Slot.Reached.small`: a canvas that any requests leave in a slot is small.
* `Machine.apply_eq`: on a slot with a small canvas no command breaks down, and it comes to what
  `Slot.apply` says.
* `Slot.apply_within_machine`: so no sequence of commands breaks down.
-/

namespace GlyphCanvas

/-- The slot afterwards as it is stored, what was shown and the text; or the refusal. -/
def Reply.stored (reply : Reply) : Except CommandError (Option Stored × List Nat × String) :=
  reply.answer.map fun text => (reply.slot.map Canvas.stored, reply.shown, text)

namespace Machine

/-- Pieces of a size one after the other, of which the last may be shorter. -/
def chunks {α : Type} (size : Nat) (elements : List α) : List (List α) :=
  (List.range ((elements.length + size - 1) / size)).map fun i =>
    (elements.drop (i * size)).take size

/-- The characters in rows of a length, which must not be 0. -/
def rows (s : Stored) (stride : UInt64) : Machine (List (List Char)) :=
  ExceptT.lift (if stride = 0 then none else some (chunks stride.toNat s.cells))

/-- The canvas as text. Room is made for its cells and its line ends before it is put together. -/
def print (s : Stored) : Machine String := do
  let stride ← add s.width 2
  let _ ← add (← add (← count s.cells) s.height) 1
  return "\n".intercalate ((← rows s stride).map String.ofList)

/-- Draws on the canvas in the slot. -/
def change (slot : Option Stored) (draw : Stored → Machine (Stored × List Nat)) :
    Machine (Option Stored × List Nat × String) := do
  match slot with
  | none => throw .noCanvas
  | some s =>
    let (s, shown) ← draw s
    return (some s, shown, ← print s)

/-- Carries out a command. -/
def apply (slot : Option Stored) : Command → Machine (Option Stored × List Nat × String)
  | .create width height => do
    let s ← create (.ofInt width) (.ofInt height)
    return (some s, [], ← print s)
  | .line start stop => change slot (drawLine · start stop)
  | .rectangle first opposite => change slot (drawRectangle · first opposite)
  | .fill seed colour => change slot (fill · seed colour)

/-- The slot after one command, which stays as it is if the command is refused. -/
def serve (slot : Option Stored) (command : Command) : Option (Option Stored) := do
  match ← (apply slot command).run with
  | .ok (slot, _, _) => return slot
  | .error _ => return slot

/-- The slot after some commands, which starts empty. -/
def after (commands : List Command) : Option (Option Stored) :=
  commands.foldlM serve none

/-! ## Text -/

/-- The rows of a canvas stand one after the other in its grid. -/
theorem chunks_grid (c : Canvas) : chunks (c.width + 2) c.grid.toList = c.rows := by
  have hrows : ((c.width + 2) * (c.height + 2) + (c.width + 2) - 1) / (c.width + 2) =
      c.height + 2 := by
    rw [Nat.add_sub_assoc (by omega), Nat.mul_add_div (by omega), Nat.div_eq_of_lt (by omega)]
  rw [chunks, Vector.length_toList, hrows, Canvas.rows]
  refine List.ext_getElem (by rw [List.length_map, List.length_range, List.length_ofFn]) ?_
  intro y _ hy
  rw [List.length_ofFn] at hy
  have hend : y * (c.width + 2) + (c.width + 2) ≤ (c.width + 2) * (c.height + 2) := by
    rw [← Nat.succ_mul, Nat.mul_comm (c.width + 2)]
    exact Nat.mul_le_mul_right _ hy
  rw [List.getElem_map, List.getElem_range, List.getElem_ofFn, Canvas.row]
  refine List.ext_getElem ?_ fun x _ hx => ?_
  · rw [List.length_take, List.length_drop, Vector.length_toList, List.length_ofFn]
    omega
  · rw [List.getElem_take, List.getElem_drop, List.getElem_ofFn, Vector.getElem_toList]
    rfl

theorem print_eq {c : Canvas} (h : c.Small) : print c.stored = pure c.render := by
  have hcells : (c.width + 2) * (c.height + 2) ≤ Canvas.maxCells := h
  have hword : Canvas.maxCells + Canvas.maxCells < 2 ^ 64 := by decide
  have hheight := h.height_le
  have hstride : add c.stored.width 2 = pure (.ofNat (c.width + 2)) := add_ofNat (b := 2) h.width_lt
  have hcount : count c.stored.cells = pure (.ofNat ((c.width + 2) * (c.height + 2))) :=
    count_eq Vector.length_toList (by omega)
  have hroom : add (.ofNat ((c.width + 2) * (c.height + 2))) c.stored.height =
      pure (.ofNat ((c.width + 2) * (c.height + 2) + c.height)) := add_ofNat (by omega)
  have hne : UInt64.ofNat (c.width + 2) ≠ 0 := ofNat_ne_zero (Nat.succ_pos _) h.width_lt
  have hrows : rows c.stored (.ofNat (c.width + 2)) = pure c.rows := by
    rw [rows, if_neg hne, UInt64.toNat_ofNat_of_lt' h.width_lt, Canvas.stored, chunks_grid]
    rfl
  rw [print, hstride, pure_bind, hcount, pure_bind, hroom, pure_bind, add_one (by omega),
    pure_bind, hrows, pure_bind, Canvas.render]

end Machine

namespace Slot

/-! ## Reached slots -/

/-- A canvas in the slot has no more cells than one that can be created. -/
def Small (slot : Slot) : Prop :=
  ∀ c, slot = some c → c.Small

theorem Effect.small {slot : Slot} {command : Command} {change : Canvas.Change}
    (heffect : Effect slot command change) (hslot : slot.Small) : change.canvas.Small := by
  cases heffect with
  | created hc => exact (Canvas.create_eq_ok_iff.1 hc).2.2.2.2.1
  | @inked _ c hs => exact (hslot c hs : c.Small)
  | @filled _ _ c hs => exact (hslot c hs : c.Small)

theorem Small.serve {slot : Slot} (hslot : slot.Small) (request : Request) :
    (slot.serve request).slot.Small := by
  obtain ⟨error, he⟩ | ⟨command, change, -, heffect, he⟩ := slot.serve_cases request
  · rw [he, refuse_slot]
    exact hslot
  · rw [he, accept_slot]
    rintro _ ⟨⟩
    exact heffect.small hslot

theorem Reached.small {slot : Slot} (h : slot.Reached) : slot.Small :=
  h.induction (P := Small) (fun _ hc => nomatch hc) fun _ hslot => hslot.serve

end Slot

/-! ## Commands -/

namespace Machine

variable {slot : Slot} (hslot : slot.Small)
include hslot

/-- A drawing on a small canvas that leaves a small canvas. -/
theorem change_eq {draw : Stored → Machine (Stored × List Nat)}
    {draw' : Canvas → Except CommandError Canvas.Change}
    (hdraw : ∀ c, c.Small →
      draw c.stored = MonadExcept.ofExcept ((draw' c).map Canvas.Change.stored))
    (hreply : (slot.change draw').slot.Small) :
    change (slot.map Canvas.stored) draw = MonadExcept.ofExcept (slot.change draw').stored := by
  cases slot with
  | none => rfl
  | some c =>
    have hc := hdraw c (hslot c rfl)
    rw [Option.map_some, Machine.change]
    dsimp only
    rw [hc]
    cases hd : draw' c with
    | error error =>
      have hchange : Slot.change (some c) draw' = Slot.refuse (some c) error := by
        simp only [Slot.change, hd]
      rw [hchange]
      rfl
    | ok change =>
      have hchange : Slot.change (some c) draw' = Slot.accept change := by
        simp only [Slot.change, hd]
      rw [hchange] at hreply ⊢
      have hprint := print_eq (hreply change.canvas rfl)
      dsimp only [Except.map, MonadExcept.ofExcept, Canvas.Change.stored]
      rw [pure_bind]
      dsimp only
      rw [hprint]
      rfl

theorem apply_eq {command : Command} (hcommand : command.InRange)
    (hreply : (slot.apply command).slot.Small) :
    apply (slot.map Canvas.stored) command =
      MonadExcept.ofExcept (slot.apply command).stored := by
  cases command with
  | create width height =>
    obtain ⟨hwidth, hheight⟩ := hcommand
    have hw := Int64.toInt_ofInt_of_le hwidth.1 (Int.lt_of_le_sub_one hwidth.2)
    have hh := Int64.toInt_ofInt_of_le hheight.1 (Int.lt_of_le_sub_one hheight.2)
    have hcreate := create_eq (.ofInt width) (.ofInt height)
    rw [hw, hh] at hcreate
    rw [apply, hcreate]
    cases hc : Canvas.create width height with
    | error error =>
      have happly : slot.apply (.create width height) = slot.refuse error := by
        simp only [Slot.apply, hc]
      rw [happly]
      rfl
    | ok c =>
      have happly : slot.apply (.create width height) =
          Slot.accept { canvas := c, shown := [] } := by
        simp only [Slot.apply, hc]
      rw [happly] at hreply ⊢
      dsimp only
      rw [pure_bind, print_eq (hreply c rfl)]
      rfl
  | line start stop =>
    exact change_eq hslot (fun c hc => drawLine_eq hc start stop) hreply
  | rectangle first opposite =>
    exact change_eq hslot (fun c hc => drawRectangle_eq hc first opposite) hreply
  | fill seed colour =>
    exact change_eq hslot (fun c hc => fill_eq hc seed colour) hreply

theorem serve_eq {command : Command} (hcommand : command.InRange) :
    serve (slot.map Canvas.stored) command =
      some ((slot.apply command).slot.map Canvas.stored) := by
  have happly := apply_eq hslot hcommand (hslot.serve (.command command))
  rw [serve, happly, run_ofExcept, Reply.stored]
  cases hanswer : (slot.apply command).answer with
  | ok text => rfl
  | error error =>
    rw [Slot.apply_eq_refuse hanswer]
    rfl

/-- Commands one after the other. What each of them leaves is small again. -/
theorem foldlM_serve {commands : List Command}
    (hcommands : ∀ command ∈ commands, command.InRange) :
    commands.foldlM serve (slot.map Canvas.stored) =
      some ((commands.foldl (fun slot command => (slot.apply command).slot) slot).map
        Canvas.stored) := by
  induction commands generalizing slot with
  | nil => rfl
  | cons command rest ih =>
    obtain ⟨hcommand, hrest⟩ := List.forall_mem_cons.1 hcommands
    rw [List.foldlM_cons, serve_eq hslot hcommand]
    exact ih (hslot.serve (.command command)) hrest

end Machine

namespace Slot

/-- Commands with fields of 64 bits that begin with an empty slot never break down: no operation
with machine integers on the way is without a result, and every place that is read or written is one
of the canvas. Neither does one more command, whatever it is, or looking up any point. All of it
comes to what it does without bounds on the integers. -/
theorem apply_within_machine {commands : List Command}
    (hcommands : ∀ command ∈ commands, command.InRange) :
    let slot := after (commands.map .command)
    Machine.after commands = some (slot.map Canvas.stored) ∧
      (∀ command : Command, command.InRange →
        (Machine.apply (slot.map Canvas.stored) command).run = some (slot.apply command).stored) ∧
      ∀ c, slot = some c → ∀ p, (Machine.get? c.stored p).run = some (.ok (c.get? p)) := by
  have hslot : (after (commands.map .command)).Small := Reached.small ⟨_, rfl⟩
  refine ⟨?_, fun command hcommand => ?_, fun c hc p => ?_⟩
  · rw [after, List.foldl_map]
    exact Machine.foldlM_serve Reached.none.small hcommands
  · rw [Machine.apply_eq hslot hcommand (hslot.serve (.command command)), Machine.run_ofExcept]
  · rw [Machine.get?_eq (hslot c hc)]
    rfl

/-- A line, a rectangle that is refused for a corner as far away as can be, and a fill next to the
frame. -/
theorem apply_within_machine_corner :
    let commands := [Command.create 3 3, .line ⟨1, 2⟩ ⟨3, 2⟩,
      .rectangle ⟨1, 1⟩ ⟨9223372036854775807, 2⟩]
    let slot := after (commands.map .command)
    (∀ command ∈ commands, command.InRange) ∧ (Command.fill ⟨3, 1⟩ '-').InRange ∧
      (slot.apply (.fill ⟨3, 1⟩ '-')).shown = [11, 22, 33, 100] ∧
      (slot.apply (.fill ⟨3, 1⟩ '-')).answer = .ok "-----\n|---|\n|xxx|\n|   |\n-----" ∧
      Machine.after commands = some (slot.map Canvas.stored) ∧
      (Machine.apply (slot.map Canvas.stored) (.fill ⟨3, 1⟩ '-')).run =
        some (slot.apply (.fill ⟨3, 1⟩ '-')).stored ∧
      ∃ c, slot = some c ∧
        (Machine.get? c.stored ⟨2, 2⟩).run = some (.ok (c.get? ⟨2, 2⟩)) := by
  intro commands slot
  have hcommands : ∀ command ∈ commands, command.InRange := by
    simp [commands, Command.InRange, Point.InRange, Numeral.InRange, Numeral.least,
      Numeral.greatest]
  have hfill : (Command.fill ⟨3, 1⟩ '-').InRange := by
    simp [Command.InRange, Point.InRange, Numeral.InRange, Numeral.least, Numeral.greatest]
  obtain ⟨hafter, happly, hget⟩ := apply_within_machine hcommands
  obtain ⟨c, hc⟩ : ∃ c, slot = some c := Option.isSome_iff_exists.1 (by decide +kernel)
  exact ⟨hcommands, hfill, by decide +kernel, by decide +kernel, hafter, happly _ hfill,
    c, hc, hget c hc _⟩

end Slot

end GlyphCanvas
