import GlyphCanvas.Proofs.Command.Grammar
import GlyphCanvas.Proofs.Slot.Effect

/-!
# Lines and the commands that they stand for

Whether a slot must hold a canvas is decided twice for a line: by its first word before the line is
read, and by the command when it is carried out.

* `Slot.wantsCanvas_eq_false_iff`: the only first word that asks for no canvas is the code of
  `create`.
* `Slot.applyLine_of_ok`, `Slot.applyLine_of_error`: what becomes of a line that stands for a
  command, and of one that does not.
* `Slot.applyLine_eq_apply_or_refuse`: so a line does what its command does, and a line without one
  is refused with the want of a canvas or with the fault of the line.
* `Slot.applyLine_create_cases`: all slots deal alike with a line that asks for a new canvas.
-/

namespace GlyphCanvas

/-- The first word of a line that stands for a command names the action. -/
theorem Command.head?_words_of_ofLine {line : String} {command : Command}
    (h : ofLine line = .ok command) : (Text.words line).head? = some command.action.code := by
  obtain ⟨arguments, hwords⟩ := (ofLine_eq_ok_iff.1 h).words_eq
  rw [hwords, List.head?_cons]

namespace Slot

variable {line : String}

/-! ## The first word -/

theorem wantsCanvas_of_head? {a : Action} (h : (Text.words line).head? = some a.code) :
    wantsCanvas line = a.needsCanvas := by
  rw [wantsCanvas, List.headD_eq_head?_getD, h, Option.getD_some, Action.ofCode?_code]

theorem wantsCanvas_eq_false_iff :
    wantsCanvas line = false ↔ (Text.words line).head? = some "C" := by
  refine ⟨fun h => ?_, wantsCanvas_of_head? (a := .create)⟩
  obtain ⟨a, arguments, hwords⟩ | hunknown := Command.head_cases (Text.words line)
  · have hhead : (Text.words line).head? = some a.code := by rw [hwords, List.head?_cons]
    rw [wantsCanvas_of_head? hhead] at h
    cases a with
    | create => exact hhead
    | line => cases h
    | rectangle => cases h
    | fill => cases h
  · have hcode : Action.ofCode? ((Text.words line).headD "") = none :=
      Option.eq_none_iff_forall_ne_some.2 fun a ha => hunknown a (Action.ofCode?_eq_some_iff.1 ha)
    rw [wantsCanvas, hcode] at h
    cases h

/-! ## Lines that stand for a command -/

/-- Without a canvas there is nothing to draw on. -/
theorem apply_none_of_needsCanvas {command : Command} (h : command.action.needsCanvas = true) :
    apply none command = refuse none .noCanvas := by
  cases command with
  | create width height => cases h
  | line start stop => rfl
  | rectangle first opposite => rfl
  | fill seed colour => rfl

theorem applyLine_of_ok {command : Command} (h : Command.ofLine line = .ok command) (slot : Slot) :
    slot.applyLine line = slot.apply command := by
  unfold applyLine
  rw [h, wantsCanvas_of_head? (Command.head?_words_of_ofLine h)]
  cases slot with
  | some c => rfl
  | none =>
    -- The refusal comes before the reading on the one side and from the command on the other.
    cases hneeds : command.action.needsCanvas with
    | true => exact (apply_none_of_needsCanvas hneeds).symm
    | false => rfl

/-! ## Lines that stand for none -/

/-- The want of a canvas hides what is wrong with a line that does not ask for one. -/
theorem applyLine_of_error {fault : CommandError} (h : Command.ofLine line = .error fault)
    (slot : Slot) :
    slot.applyLine line =
      slot.refuse (if slot = none ∧ (Text.words line).head? ≠ some "C" then .noCanvas
        else fault) := by
  unfold applyLine
  rw [h]
  cases slot with
  | some c => rfl
  | none =>
    cases hwants : wantsCanvas line with
    | true =>
      have hhead : (Text.words line).head? ≠ some "C" := by
        rw [Ne, ← wantsCanvas_eq_false_iff, hwants]
        exact Bool.noConfusion
      exact congrArg (refuse none) (if_pos ⟨rfl, hhead⟩).symm
    | false =>
      have hhead : (Text.words line).head? = some "C" := wantsCanvas_eq_false_iff.1 hwants
      exact congrArg (refuse none) (if_neg fun hempty => hempty.2 hhead).symm

/-- A line that stands for a command leaves the slot, shows the percentages and gives the answer
that the command does. A line that stands for none is refused and changes nothing. The error is that
of the line, except that an empty slot refuses every line whose first word is not the code of
`create` for want of a canvas, be the word unknown or missing or the arguments malformed. -/
theorem applyLine_eq_apply_or_refuse (slot : Slot) (line : String) :
    slot.applyLine line =
      match Command.ofLine line with
      | .ok command => slot.apply command
      | .error fault =>
        slot.refuse (if slot = none ∧ (Text.words line).head? ≠ some "C" then .noCanvas
          else fault) := by
  cases h : Command.ofLine line with
  | ok command => exact applyLine_of_ok h slot
  | error fault => exact applyLine_of_error h slot

example : (applyLine none "L 1").answer = .error .noCanvas ∧
    (applyLine none "C 1").answer = .error (.invalidArgument (.count .create 1)) := by
  constructor <;> rfl

/-! ## Lines that ask for a new canvas -/

/-- A line that begins with the code of `create` is refused by every slot with the same error, or it
puts the same canvas into every slot. -/
theorem applyLine_create_cases (h : (Text.words line).head? = some "C") :
    (∃ error, ∀ slot : Slot, slot.applyLine line = slot.refuse error) ∨
      ∃ change, ∀ slot : Slot, slot.applyLine line = accept change := by
  cases hread : Command.ofLine line with
  | error fault =>
    refine .inl ⟨fault, fun slot => ?_⟩
    rw [applyLine_of_error hread, if_neg fun hempty => hempty.2 h]
  | ok command =>
    have hcode : command.action.code = "C" :=
      Option.some.inj ((Command.head?_words_of_ofLine hread).symm.trans h)
    have hcreate : command.action = .create := Action.code_injective hcode
    cases command with
    | line start stop => cases hcreate
    | rectangle first opposite => cases hcreate
    | fill seed colour => cases hcreate
    | create width height =>
      cases hc : Canvas.create width height with
      | error error =>
        refine .inl ⟨error, fun slot => ?_⟩
        rw [applyLine_of_ok hread, apply, hc]
      | ok canvas =>
        refine .inr ⟨{ canvas, shown := [] }, fun slot => ?_⟩
        rw [applyLine_of_ok hread, apply, hc]

end Slot

end GlyphCanvas
