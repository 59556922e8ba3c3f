import GlyphCanvas.Proofs.Script.Lines
import GlyphCanvas.Proofs.Script.Steps
import Mathlib.Tactic.ByContra

/-!
# A run is a fold

* `Run.Reached`: what is true of a run between two steps, in terms of the lines that are complete
  and of those that are not.
* `Run.reached_of_goesOn`: it is true as long as the steps of a script go on.
* `Run.exists_halts`: the steps of a script do not go on for ever.
* `Script.run_outcome`: what a run returns is the fold over the lines.
* `Script.run_eq_fold`: a run gives what the fold over the lines gives, and it ends at the first
  line that is refused or behind the last line.
-/

namespace GlyphCanvas

open Script Progress

namespace Run

variable {α : Type}

/-- The run is between two steps: the lines `done` have succeeded, the lines `later` have not been
looked at. -/
structure Reached (r : Run α) (done later : List Line) : Prop where
  lines : r.lines = ((done ++ later).map Line.trim).toArray
  live : r.Live
  slot : r.slot = Slot.afterLines none done
  output : ∃ shots, snapshots none done = .ok shots ∧ r.output = .ofSnapshots shots
  count : r.progress.done = done.length
  total : r.progress.total = (done ++ later).length

theorem reached_start (script : String) : (start script : Run α).Reached [] (rawLines script) where
  lines := congrArg List.toArray (lines_eq_map_trim script)
  live := .inl rfl
  slot := rfl
  output := ⟨[], rfl, rfl⟩
  count := rfl
  total := by simp [start, Blend.start, lines_eq_map_trim]

variable [Percentage α]

namespace Reached

variable {r : Run α} {done later : List Line} {line : Line}

theorem step_nil (h : r.Reached done []) :
    r.step = { run := { r with progress := r.progress.conclude.1, state := .completed }
               reports := r.progress.conclude.2
               answer := .ok false } := by
  apply step_of_none h.live
  simp [h.lines, h.count]

theorem step_cons (h : r.Reached done (line :: later)) : r.step = r.advance line.trim := by
  apply step_of_some h.live
  simp [h.lines, h.count]

/-- A line that succeeds moves on to the next one. -/
theorem step_ok (h : r.Reached done (line :: later)) {shot : String}
    (ha : (r.slot.applyLine line.text).answer = .ok shot) :
    r.step.answer = .ok true ∧ r.step.run.Reached (done ++ [line]) later := by
  rw [← line.applyLine_trim] at ha
  rw [h.step_cons, advance_of_ok ha]
  refine ⟨rfl, ?_⟩
  obtain ⟨shots, hshots, houtput⟩ := h.output
  have hslot : Slot.afterLines none (done ++ [line]) = (r.slot.applyLine line.trim.text).slot := by
    rw [Slot.afterLines_append, ← h.slot, Slot.afterLines_cons, Slot.afterLines_nil,
      line.applyLine_trim]
  have hshot : snapshots r.slot [line] = .ok [shot] := by
    rw [line.applyLine_trim] at ha
    simp [snapshots, ha, Except.map]
  exact
    { lines := by rw [h.lines, List.append_cons]
      live := .inr rfl
      slot := hslot.symm
      output := by
        refine ⟨shots ++ [shot], ?_, ?_⟩
        · rw [snapshots_append hshots, ← h.slot, hshot]
          rfl
        · rw [Output.ofSnapshots_append, ← houtput]
      count := by simp [h.count]
      total := by simp [h.total] }

/-- A line that is refused ends the run. -/
theorem step_error (h : r.Reached done (line :: later)) {cause : CommandError}
    (ha : (r.slot.applyLine line.text).answer = .error cause) :
    r.step = { run := { r with state := .failed }
               reports := []
               answer := .error ⟨line.number, cause⟩ } := by
  rw [← line.applyLine_trim] at ha
  rw [h.step_cons, advance_of_error ha]
  rfl

/-- A step that goes on has found a line, and the line succeeds. -/
theorem of_step_true (h : r.Reached done later) (ha : r.step.answer = .ok true) :
    ∃ line rest shot, later = line :: rest ∧ (r.slot.applyLine line.text).answer = .ok shot := by
  cases later with
  | nil => simp [h.step_nil] at ha
  | cons line rest =>
    cases hline : (r.slot.applyLine line.text).answer with
    | ok shot => exact ⟨line, rest, shot, rfl, hline⟩
    | error cause => simp [h.step_error hline] at ha

/-- A step that does not go on has found no line, or the line is refused. -/
theorem of_step_ends (h : r.Reached done later) (hends : r.step.answer ≠ .ok true) :
    later = [] ∨
      ∃ line rest cause, later = line :: rest ∧
        (r.slot.applyLine line.text).answer = .error cause := by
  cases later with
  | nil => exact .inl rfl
  | cons line rest =>
    cases hline : (r.slot.applyLine line.text).answer with
    | ok shot => exact absurd (h.step_ok hline).1 hends
    | error cause => exact .inr ⟨line, rest, cause, rfl, hline⟩

/-- When a step does not go on the fold over all lines is known. -/
theorem outcome (h : r.Reached done later) (hends : r.step.answer ≠ .ok true) :
    (r.step.answer.map fun _ => r.step.run.output) =
      (snapshots none (done ++ later)).map Output.ofSnapshots := by
  obtain ⟨shots, hshots, houtput⟩ := h.output
  obtain rfl | ⟨line, rest, cause, rfl, hline⟩ := h.of_step_ends hends
  · rw [h.step_nil, List.append_nil, hshots, houtput]
    rfl
  · have hfold : snapshots r.slot (line :: rest) = .error ⟨line.number, cause⟩ := by
      simp [snapshots, hline]
    rw [h.step_error hline, snapshots_append hshots, ← h.slot, hfold]
    rfl

end Reached

/-- As long as the steps of a script go on, each of them completes a line. -/
theorem reached_of_goesOn {script : String} {n : Nat} (h : (start script : Run α).GoesOn n) :
    ∃ done later, rawLines script = done ++ later ∧ done.length = n ∧
      ((start script : Run α).after n).Reached done later := by
  induction n with
  | zero => exact ⟨[], rawLines script, rfl, rfl, reached_start script⟩
  | succ n ih =>
    obtain ⟨hn, hstep⟩ := goesOn_succ.1 h
    obtain ⟨done, later, hlines, hlength, hreached⟩ := ih hn
    obtain ⟨line, rest, shot, rfl, hline⟩ := hreached.of_step_true hstep
    refine ⟨done ++ [line], rest, ?_, ?_, ?_⟩
    · rw [hlines, List.append_cons]
    · rw [List.length_append, hlength, List.length_singleton]
    · rw [after_succ]
      exact (hreached.step_ok hline).2

/-- The steps of a script go on for no longer than there are lines. -/
theorem exists_halts (script : String) :
    ∃ n ≤ (rawLines script).length,
      (start script : Run α).Halts n ((start script : Run α).after n).step := by
  have hbound : ∀ n, (start script : Run α).GoesOn n → n ≤ (rawLines script).length := by
    intro n hn
    obtain ⟨done, later, hlines, rfl, -⟩ := reached_of_goesOn hn
    rw [hlines, List.length_append]
    exact Nat.le_add_right _ _
  by_contra hnone
  -- If no step ended the run the steps would go on beyond the last line.
  have hall : ∀ n, (start script : Run α).GoesOn n := by
    intro n
    induction n with
    | zero => exact fun k hk => absurd hk (Nat.not_lt_zero k)
    | succ n ih =>
      refine goesOn_succ.2 ⟨ih, ?_⟩
      by_contra hends
      exact hnone ⟨n, hbound n ih, ih, rfl, hends⟩
  have := hbound _ (hall ((rawLines script).length + 1))
  omega

end Run

/-- What a run returns is what the fold over the lines of the script gives. -/
theorem Script.run_outcome {α : Type} [Percentage α] (script : String) :
    (run script : List α × Except Error Output).2 =
      (snapshots none (rawLines script)).map Output.ofSnapshots := by
  obtain ⟨n, -, hhalts⟩ : ∃ n ≤ (rawLines script).length,
      (Run.start script : Run α).Halts n ((Run.start script).after n).step :=
    Run.exists_halts script
  obtain ⟨done, later, hlines, -, hreached⟩ := Run.reached_of_goesOn hhalts.goesOn
  rw [run, hhalts.finish_eq, hreached.outcome hhalts.ends, hlines]

/-- A run is the fold over the lines of the script that are not white space throughout, and its
output is made of the canvases of the fold. Its steps go on as long as the lines succeed: the step
behind the last line completes the run, and the first line that is refused ends it, in which case
the slot has seen that line and none behind it. -/
theorem Script.run_eq_fold {α : Type} [Percentage α] (script : String) :
    (run script : List α × Except Error Output).2 =
        (snapshots none (rawLines script)).map Output.ofSnapshots ∧
      ∃ done later last, rawLines script = done ++ later ∧
        (Run.start script : Run α).Halts done.length last ∧
        (later = [] ∧ last.answer = .ok false ∧ last.run.slot = Slot.afterLines none done ∨
          ∃ line rest cause, later = line :: rest ∧
            ((Slot.afterLines none done).applyLine line.text).answer = .error cause ∧
            last.answer = .error ⟨line.number, cause⟩ ∧
            last.run.slot = Slot.afterLines none (done ++ [line])) := by
  obtain ⟨n, -, hhalts⟩ : ∃ n ≤ (rawLines script).length,
      (Run.start script : Run α).Halts n ((Run.start script).after n).step :=
    Run.exists_halts script
  obtain ⟨done, later, hlines, rfl, hreached⟩ := Run.reached_of_goesOn hhalts.goesOn
  refine ⟨run_outcome script, done, later, _, hlines, hhalts, ?_⟩
  obtain rfl | ⟨line, rest, cause, rfl, hline⟩ := hreached.of_step_ends hhalts.ends
  · refine .inl ⟨rfl, ?_, ?_⟩
    · rw [hreached.step_nil]
    · rw [hreached.step_nil, hreached.slot]
  · refine .inr ⟨line, rest, cause, rfl, ?_, ?_, ?_⟩
    · rw [← hreached.slot, hline]
    · rw [hreached.step_error hline]
    · rw [hreached.step_error hline, Slot.afterLines_append, ← hreached.slot, Slot.afterLines_cons,
        Slot.applyLine_eq_refuse hline]
      rfl

end GlyphCanvas
