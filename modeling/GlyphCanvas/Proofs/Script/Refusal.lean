import GlyphCanvas.Proofs.Script.Steps
import GlyphCanvas.Proofs.Slot.Work

/-!
# A refusal leaves no trace

* `Run.step_cases`: everything that a step can do. The run had ended before, or it carries out its
  next line, or there is none and it is completed.
* `Run.step_of_error`: a step that is answered with an error has changed the state and nothing else.
* `Run.no_trace_of_error`: the same of commands, lines and steps. Commands and lines leave no trace
  even if they are carried out one character after the other.
-/

namespace GlyphCanvas

open Script Progress

namespace Run

variable {α : Type} [Percentage α]

theorem step_of_not_live {r : Run α} (h : ¬r.Live) :
    r.step = { run := r, reports := [], answer := .ok false } := by
  unfold step
  cases hs : r.state with
  | idle => exact absurd (.inl hs) h
  | running => exact absurd (.inr hs) h
  | completed => rfl
  | failed => rfl

theorem step_cases (r : Run α) :
    ¬r.Live ∧ r.step = { run := r, reports := [], answer := .ok false } ∨
      r.Live ∧ (∃ line, r.lines[r.progress.done]? = some line ∧ r.step = r.advance line) ∨
      r.Live ∧ r.lines[r.progress.done]? = none ∧
        r.step = { run := { r with progress := r.progress.conclude.1, state := .completed }
                   reports := r.progress.conclude.2
                   answer := .ok false } := by
  by_cases hlive : r.Live
  · cases hl : r.lines[r.progress.done]? with
    | some line => exact .inr (.inl ⟨hlive, line, rfl, step_of_some hlive hl⟩)
    | none => exact .inr (.inr ⟨hlive, rfl, step_of_none hlive hl⟩)
  · exact .inl ⟨hlive, step_of_not_live hlive⟩

/-- The error of a step is that of its next line, which a run between two steps still has. -/
theorem step_of_error {r : Run α} {error : Script.Error} (h : r.step.answer = .error error) :
    ∃ line, r.Live ∧ r.lines[r.progress.done]? = some line ∧ line.number = error.line ∧
      (r.slot.applyLine line.text).answer = .error error.cause ∧
      r.step = { run := { r with state := .failed }, reports := [], answer := .error error } := by
  obtain ⟨-, he⟩ | ⟨hlive, line, hline, he⟩ | ⟨-, -, he⟩ := r.step_cases
  · simp [he] at h
  · cases ha : (r.slot.applyLine line.text).answer with
    | ok snapshot => simp [he, advance_of_ok ha] at h
    | error cause =>
      rw [he, advance_of_error ha] at h ⊢
      cases h
      exact ⟨line, hlive, hline, rfl, ha, rfl⟩
  · simp [he] at h

/-- A refused command or line leaves the slot as it was and shows no progress. Carried out step by
step, it has written nothing and shown nothing when it is refused. A step of a run that fails leaves
the whole run as it was, except that its state is failed, and reports nothing. -/
theorem no_trace_of_error :
    (∀ (slot : Slot) (command : Command) (error : CommandError),
      (slot.apply command).answer = .error error →
        (slot.apply command).slot = slot ∧ (slot.apply command).shown = [] ∧
          ∀ before, (Work.apply command).run { slot, shown := before } =
            .error error { slot, shown := before }) ∧
    (∀ (slot : Slot) (line : String) (error : CommandError),
      (slot.applyLine line).answer = .error error →
        (slot.applyLine line).slot = slot ∧ (slot.applyLine line).shown = [] ∧
          ∀ before, (Work.applyLine line).run { slot, shown := before } =
            .error error { slot, shown := before }) ∧
    ∀ (r : Run α) (error : Script.Error), r.step.answer = .error error →
      r.step.run = { r with state := .failed } ∧ r.step.reports = [] := by
  refine ⟨?_, ?_, ?_⟩
  · intro slot command error h
    have hrefuse := Slot.apply_eq_refuse h
    refine ⟨by rw [hrefuse, Slot.refuse_slot], by rw [hrefuse, Slot.refuse_shown], ?_⟩
    intro before
    rw [Work.run_apply, hrefuse, Slot.refuse_after]
  · intro slot line error h
    have hrefuse := Slot.applyLine_eq_refuse h
    refine ⟨by rw [hrefuse, Slot.refuse_slot], by rw [hrefuse, Slot.refuse_shown], ?_⟩
    intro before
    rw [Work.run_applyLine, hrefuse, Slot.refuse_after]
  · intro r error h
    obtain ⟨line, -, -, -, -, hstep⟩ := step_of_error h
    rw [hstep]
    exact ⟨rfl, rfl⟩

/-- A box whose second corner is outside, a fill whose last argument is too long, and a slanted line
as the second command of a script. -/
theorem no_trace_of_error_late :
    let slot := Slot.after [.line "C 3 2", .line "B 1 1 -"]
    let box : Command := .rectangle ⟨1, 1⟩ ⟨4, 2⟩
    let r : Run Float := (Run.start "C 3 3\n\nL 1 1 2 2\nB 1 1 o").after 1
    let outside : CommandError := .outOfBounds ⟨4, 2⟩ 3 2
    let long : CommandError := .invalidArgument (.notOneCharacter "oo")
    let slanted : Script.Error := ⟨3, .unsupportedGeometry ⟨1, 1⟩ ⟨2, 2⟩⟩
    ((slot.apply box).answer = .error outside ∧
      (slot.apply box).slot = slot ∧ (slot.apply box).shown = [] ∧
      ∀ before, (Work.apply box).run { slot, shown := before } =
        .error outside { slot, shown := before }) ∧
    ((slot.applyLine "B 1 1 oo").answer = .error long ∧
      (slot.applyLine "B 1 1 oo").slot = slot ∧ (slot.applyLine "B 1 1 oo").shown = [] ∧
      ∀ before, (Work.applyLine "B 1 1 oo").run { slot, shown := before } =
        .error long { slot, shown := before }) ∧
    (r.step.answer = .error slanted ∧
      r.step.run = { r with state := .failed } ∧ r.step.reports = []) := by
  intro slot box r outside long slanted
  have hbox : (slot.apply box).answer = .error outside := by rfl
  have hline : (slot.applyLine "B 1 1 oo").answer = .error long := by rfl
  have hstep : ((Run.start "C 3 3\n\nL 1 1 2 2\nB 1 1 o" : Run Float).after 1).step.answer =
      .error ⟨3, .unsupportedGeometry ⟨1, 1⟩ ⟨2, 2⟩⟩ := by with_unfolding_all rfl
  obtain ⟨happly, happlyLine, hrun⟩ := @no_trace_of_error Float _
  exact ⟨⟨hbox, happly slot box _ hbox⟩, ⟨hline, happlyLine slot _ _ hline⟩,
    hstep, hrun r _ hstep⟩

end Run

end GlyphCanvas
