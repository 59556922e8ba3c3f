import GlyphCanvas.Proofs.Script.Refusal
import Mathlib.Data.List.Forall2

/-!
# Two runs side by side

Two runs of scripts whose lines come to the same for every slot. How much of an error is compared is
left to a function `view`.

* `Script.Line.Alike`, `Run.Alike`: every slot deals alike with two lines, and two runs differ in
  such lines only.
* `Run.Alike.step`: runs that are alike take the same step and stay alike.
* `Run.Alike.finish`: so they report the same and return the same.
-/

namespace GlyphCanvas

open Script Progress

variable {κ : Type} {view : Script.Error → κ}

section Outcomes

variable {ε β : Type} {f : ε → κ} {x : Except ε β}

theorem mapError_eq_ok_iff {b : β} : x.mapError f = .ok b ↔ x = .ok b := by
  cases x <;> simp [Except.mapError]

theorem mapError_eq_error_iff {k : κ} : x.mapError f = .error k ↔ ∃ e, x = .error e ∧ f e = k := by
  cases x <;> simp [Except.mapError]

theorem mapError_id : x.mapError id = x := by
  cases x <;> rfl

end Outcomes

/-- Every slot deals alike with the two lines, and errors in them look the same. -/
structure Script.Line.Alike (view : Script.Error → κ) (line line' : Line) : Prop where
  applyLine : ∀ slot : Slot, slot.applyLine line.text = slot.applyLine line'.text
  error : ∀ cause, view ⟨line.number, cause⟩ = view ⟨line'.number, cause⟩

variable {α : Type}

/-- The runs differ in their lines only, and the lines are alike one by one. -/
structure Run.Alike (view : Script.Error → κ) (r r' : Run α) : Prop where
  lines : List.Forall₂ (Line.Alike view) r.lines.toList r'.lines.toList
  slot : r.slot = r'.slot
  output : r.output = r'.output
  progress : r.progress = r'.progress
  state : r.state = r'.state

/-- The steps lead to runs that are alike, with the same reports and with answers that look the
same. -/
structure Step.Alike (view : Script.Error → κ) (s s' : Step α) : Prop where
  run : s.run.Alike view s'.run
  reports : s.reports = s'.reports
  answer : s.answer.mapError view = s'.answer.mapError view

theorem Step.Alike.answer_eq_ok {s s' : Step α} (h : s.Alike view s') {more : Bool}
    (ha : s.answer = .ok more) : s'.answer = .ok more :=
  mapError_eq_ok_iff.1 (h.answer.symm.trans (mapError_eq_ok_iff.2 ha))

theorem Step.Alike.answer_eq_error {s s' : Step α} (h : s.Alike view s') {error : Script.Error}
    (ha : s.answer = .error error) : ∃ error', s'.answer = .error error' ∧ view error' = view error :=
  mapError_eq_error_iff.1 (h.answer.symm.trans (mapError_eq_error_iff.2 ⟨error, ha, rfl⟩))

namespace Run

theorem start_alike {script script' : String}
    (h : List.Forall₂ (Line.Alike view) (Script.lines script) (Script.lines script')) :
    (start script : Run α).Alike view (start script') where
  lines := h
  slot := rfl
  output := rfl
  progress := congrArg Blend.start h.length_eq
  state := rfl

namespace Alike

variable {r r' : Run α}

theorem live_iff (h : r.Alike view r') : r.Live ↔ r'.Live := by
  rw [Live, Live, h.state]

/-- Both runs have come to lines that are alike, or both have come to the end of their lines. -/
theorem next_cases (h : r.Alike view r') (i : Nat) :
    r.lines[i]? = none ∧ r'.lines[i]? = none ∨
      ∃ line line', r.lines[i]? = some line ∧ r'.lines[i]? = some line' ∧
        line.Alike view line' := by
  obtain ⟨hsize, hget⟩ := List.forall₂_iff_get.1 h.lines
  rw [Array.length_toList, Array.length_toList] at hsize
  by_cases hi : i < r.lines.size
  · have hi' : i < r'.lines.size := hsize ▸ hi
    exact .inr ⟨_, _, Array.getElem?_eq_getElem hi, Array.getElem?_eq_getElem hi', hget i hi hi'⟩
  · have hi' : ¬i < r'.lines.size := hsize ▸ hi
    exact .inl ⟨Array.getElem?_eq_none (Nat.not_lt.1 hi), Array.getElem?_eq_none (Nat.not_lt.1 hi')⟩

variable [Percentage α]

theorem advance (h : r.Alike view r') {line line' : Line} (hline : line.Alike view line') :
    (r.advance line).Alike view (r'.advance line') := by
  obtain ⟨lines, slot, output, progress, state⟩ := r
  obtain ⟨lines', slot', output', progress', state'⟩ := r'
  -- From here on the two runs are the same but for their lines, which are not looked at again.
  obtain ⟨hlines, rfl, rfl, rfl, rfl⟩ := h
  unfold Run.advance
  dsimp only
  rw [hline.applyLine]
  cases (slot.applyLine line'.text).answer with
  | ok snapshot =>
    exact
      { run := { lines := hlines, slot := rfl, output := rfl, progress := rfl, state := rfl }
        reports := rfl
        answer := rfl }
  | error cause =>
    exact
      { run := { lines := hlines, slot := rfl, output := rfl, progress := rfl, state := rfl }
        reports := rfl
        answer := congrArg Except.error (hline.error cause) }

theorem step (h : r.Alike view r') : r.step.Alike view r'.step := by
  by_cases hlive : r.Live
  · have hlive' : r'.Live := h.live_iff.1 hlive
    obtain ⟨hend, hend'⟩ | ⟨line, line', hnext, hnext', hline⟩ := h.next_cases r.progress.done
    · rw [h.progress] at hend'
      rw [step_of_none hlive hend, step_of_none hlive' hend']
      exact
        { run :=
            { lines := h.lines, slot := h.slot, output := h.output
              progress := by rw [h.progress]
              state := rfl }
          reports := by rw [h.progress]
          answer := rfl }
    · rw [h.progress] at hnext'
      rw [step_of_some hlive hnext, step_of_some hlive' hnext']
      exact h.advance hline
  · rw [step_of_not_live hlive, step_of_not_live (h.live_iff.not.1 hlive)]
    exact { run := h, reports := rfl, answer := rfl }

/-- Runs that are alike report the same and return what looks the same. -/
theorem finish (h : r.Alike view r') :
    r.finish.1 = r'.finish.1 ∧ r.finish.2.mapError view = r'.finish.2.mapError view := by
  -- The runs take their steps together, so the lines that the first one has left will do.
  induction hn : r.remaining using Nat.strongRecOn generalizing r r' with
  | ind n ih =>
    subst hn
    have hstep := h.step
    cases ha : r.step.answer with
    | error error =>
      obtain ⟨error', ha', hview⟩ := hstep.answer_eq_error ha
      rw [finish_of_error ha, finish_of_error ha']
      exact ⟨hstep.reports, congrArg Except.error hview.symm⟩
    | ok more =>
      have ha' := hstep.answer_eq_ok ha
      cases more with
      | false =>
        rw [finish_of_false ha, finish_of_false ha']
        exact ⟨hstep.reports, congrArg Except.ok hstep.run.output⟩
      | true =>
        obtain ⟨hreports, houtcome⟩ := ih _ (remaining_step_lt ha) hstep.run rfl
        rw [finish_of_true ha, finish_of_true ha']
        exact ⟨congrArg₂ (· ++ ·) hstep.reports hreports, houtcome⟩

end Alike

end Run

end GlyphCanvas
