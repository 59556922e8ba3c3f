import GlyphCanvas.Proofs.Script.Fold
import GlyphCanvas.Proofs.Script.Refusal

/-!
# Stepping first and finishing later

A run that has taken some steps one by one is then finished.

* `Run.after_of_ends`: a step that does not go on ends the run, and a run that has ended stays as it
  is.
* `Run.finish_of_error_after`: an error in some step is the result of the run.
* `Run.finish_of_step`, `Run.finish_of_steps`: a step that is no error is a part of finishing the
  run, whether the run goes on after it or has ended.
* `Script.run_of_steps`: so finishing a script after some steps gives what running it gives, and the
  steps and the rest together report what the run reports.
* `Run.finish_after_refusal`: a run that was stopped by a line forgets the error. Finishing it gives
  the output of the lines before as if they were all.
-/

namespace GlyphCanvas

open Script Progress

namespace Run

variable {α : Type} [Percentage α] {r : Run α}

/-! ## Runs that have ended -/

theorem not_live_of_step (h : r.step.answer ≠ .ok true) : ¬r.step.run.Live := by
  obtain ⟨hlive, he⟩ | ⟨-, line, -, he⟩ | ⟨-, -, he⟩ := r.step_cases
  · rw [he]
    exact hlive
  · cases ha : (r.slot.applyLine line.text).answer with
    | ok snapshot => exact absurd (by rw [he, advance_of_ok ha]) h
    | error cause =>
      rw [he, advance_of_error ha]
      simp [Live]
  · rw [he]
    simp [Live]

theorem after_of_not_live (h : ¬r.Live) (n : Nat) : r.after n = r := by
  induction n with
  | zero => rfl
  | succ n ih => rw [after_succ, ih, step_of_not_live h]

theorem finish_of_not_live (h : ¬r.Live) : r.finish = ([], .ok r.output) := by
  have hstep := step_of_not_live h
  have ha : r.step.answer = .ok false := by rw [hstep]
  rw [finish_of_false ha, hstep]

theorem after_add (r : Run α) (m n : Nat) : r.after (m + n) = (r.after m).after n := by
  induction n with
  | zero => rfl
  | succ n ih => rw [← Nat.add_assoc, after_succ, ih, after_succ]

/-- Behind a step that does not go on nothing happens. -/
theorem after_of_ends {k n : Nat} (hk : k < n) (h : (r.after k).step.answer ≠ .ok true) :
    r.after n = (r.after k).step.run := by
  obtain ⟨m, rfl⟩ := Nat.exists_eq_add_of_lt hk
  rw [Nat.add_right_comm, after_add, after_succ, after_of_not_live (not_live_of_step h)]

/-- The steps before an error went on, since otherwise the run would have ended there. -/
theorem goesOn_of_error {k : Nat} {error : Script.Error}
    (h : (r.after k).step.answer = .error error) : r.GoesOn k := by
  intro j hj
  by_contra hends
  rw [after_of_ends hj hends, step_of_not_live (not_live_of_step hends)] at h
  cases h

/-- An error in some step is the result of the run. -/
theorem finish_of_error_after {k : Nat} {error : Script.Error}
    (h : (r.after k).step.answer = .error error) : r.finish.2 = .error error := by
  rw [finish_of_goesOn (goesOn_of_error h), finish_of_error h]

/-! ## Finishing after some steps -/

/-- A step that is no error is the first one of finishing the run. Nothing is left to do if it was
the last. -/
theorem finish_of_step (h : ∀ error, r.step.answer ≠ .error error) :
    r.finish = (r.step.reports ++ r.step.run.finish.1, r.step.run.finish.2) := by
  cases ha : r.step.answer with
  | error error => exact absurd ha (h error)
  | ok more =>
    cases more with
    | true => exact finish_of_true ha
    | false =>
      have hended : ¬r.step.run.Live := not_live_of_step (by simp [ha])
      rw [finish_of_false ha, finish_of_not_live hended, List.append_nil]

theorem finish_of_steps {n : Nat}
    (h : ∀ k < n, ∀ error, (r.after k).step.answer ≠ .error error) :
    r.finish = (r.reportsOf n ++ (r.after n).finish.1, (r.after n).finish.2) := by
  induction n with
  | zero => rfl
  | succ n ih =>
    rw [ih fun k hk => h k (Nat.lt_succ_of_lt hk), finish_of_step (h n (Nat.lt_succ_self n)),
      reportsOf_succ, after_succ, List.append_assoc]

end Run

/-- If no step of a script was an error, finishing the script after these steps gives what running
it gives, the output or the error. What was reported during the steps and what is reported
afterwards are together the reports of the run. -/
theorem Script.run_of_steps {α : Type} [Percentage α] {script : String} {n : Nat}
    (h : ∀ k < n, ∀ error, ((Run.start script : Run α).after k).step.answer ≠ .error error) :
    ((Run.start script : Run α).after n).finish.2 =
        (run script : List α × Except Error Output).2 ∧
      (Run.start script : Run α).reportsOf n ++ ((Run.start script : Run α).after n).finish.1 =
        (run script : List α × Except Error Output).1 := by
  have hfinish := Run.finish_of_steps h
  rw [run, hfinish]
  exact ⟨rfl, rfl⟩

/-- All steps of a script and two more: the last percentage is not reported again. -/
theorem Script.run_of_steps_beyond_end :
    let script := "C 2 1\n\nL 1 1 2 1"
    let r : Run Float := Run.start script
    (∀ k < 5, ∀ error, (r.after k).step.answer ≠ .error error) ∧
      (r.after 5).finish.2 = (run script : List Float × Except Error Output).2 ∧
      r.reportsOf 5 ++ (r.after 5).finish.1 =
        (run script : List Float × Except Error Output).1 := by
  intro script r
  have hrun : (run "C 2 1\n\nL 1 1 2 1" : List Float × Except Error Output).2 =
      .ok ⟨"----\n|  |\n----\n----\n|xx|\n----\n", "----\n|xx|\n----"⟩ := by
    rw [run_outcome]
    rfl
  have h : ∀ k < 5, ∀ error, (r.after k).step.answer ≠ .error error := by
    intro k _ error herror
    have hfailed := hrun.symm.trans (Run.finish_of_error_after herror)
    cases hfailed
  exact ⟨h, run_of_steps h⟩

/-! ## Finishing a run that has failed -/

namespace Run

variable {α : Type} [Percentage α]

/-- A run that was stopped by a line and is finished nevertheless. The script as a whole is answered
with the error of that line, but the failed run is not any more: it reports nothing, and it returns
the output of the lines before as if they were the whole script. -/
theorem finish_after_refusal {script : String} {k n : Nat} {error : Script.Error} (hk : k < n)
    (h : ((start script : Run α).after k).step.answer = .error error) :
    ((start script : Run α).after n).state = .failed ∧
      (Script.run script : List α × Except Script.Error Output).2 = .error error ∧
      ∃ done line rest shots, rawLines script = done ++ line :: rest ∧ line.number = error.line ∧
        snapshots none done = .ok shots ∧
        ((start script : Run α).after n).finish = ([], .ok (.ofSnapshots shots)) := by
  have hgo := goesOn_of_error h
  have hends : ((start script : Run α).after k).step.answer ≠ .ok true := by simp [h]
  obtain ⟨done, later, hlines, -, hreached⟩ := reached_of_goesOn hgo
  obtain ⟨shots, hshots, houtput⟩ := hreached.output
  have hafter := after_of_ends hk hends
  obtain rfl | ⟨line, rest, cause, rfl, hline⟩ := hreached.of_step_ends hends
  · simp [hreached.step_nil] at h
  · have hstep := hreached.step_error hline
    rw [hstep, Except.error.injEq] at h
    refine ⟨by rw [hafter, hstep], ?_, done, line, rest, shots, hlines, by rw [← h], hshots, ?_⟩
    · exact finish_of_error_after (by rw [hstep, h])
    · rw [hafter, finish_of_not_live (not_live_of_step hends), hstep, houtput]

/-- The second command leaves the canvas. After it two more steps are asked for. -/
theorem finish_after_refusal_twice :
    let script := "C 2 1\n\nL 1 1 3 1\nC 1 1"
    let r : Run Float := start script
    let outside : Script.Error := ⟨3, .outOfBounds ⟨3, 1⟩ 2 1⟩
    1 < 4 ∧ (r.after 1).step.answer = .error outside ∧ (r.after 4).state = .failed ∧
      (Script.run script : List Float × Except Script.Error Output).2 = .error outside ∧
      ∃ done line rest shots, rawLines script = done ++ line :: rest ∧
        line.number = outside.line ∧ snapshots none done = .ok shots ∧
        (r.after 4).finish = ([], .ok (.ofSnapshots shots)) := by
  intro script r outside
  have hlate : 1 < 4 := by decide
  have h : ((start "C 2 1\n\nL 1 1 3 1\nC 1 1" : Run Float).after 1).step.answer =
      .error ⟨3, .outOfBounds ⟨3, 1⟩ 2 1⟩ := by with_unfolding_all rfl
  exact ⟨hlate, h, finish_after_refusal hlate h⟩

/-- The second command of two is refused, and then the first one passes for the whole script. -/
theorem partial_output_of_failed_run :
    let r : Run Float := start "C 1 1\nL 0 1 1 1"
    (∃ k < 2, ∃ error, (r.after k).step.answer = .error error) ∧ (r.after 2).state = .failed ∧
      (r.after 2).finish = ([], .ok ⟨"---\n| |\n---\n", "---\n| |\n---"⟩) ∧
      ¬∃ error, (r.after 2).finish.2 = .error error := by
  intro r
  have h : ((start "C 1 1\nL 0 1 1 1" : Run Float).after 1).step.answer =
      .error ⟨2, .outOfBounds ⟨0, 1⟩ 1 1⟩ := by with_unfolding_all rfl
  have houtput : ((start "C 1 1\nL 0 1 1 1" : Run Float).after 1).output =
      ⟨"---\n| |\n---\n", "---\n| |\n---"⟩ := by with_unfolding_all rfl
  obtain ⟨_, -, -, -, -, hstep⟩ := step_of_error h
  have hafter : r.after 2 = { r.after 1 with state := .failed } := by
    rw [after_succ, hstep]
  have hfinish : (r.after 2).finish = ([], .ok ⟨"---\n| |\n---\n", "---\n| |\n---"⟩) := by
    have hended : ¬(r.after 2).Live := by simp [hafter, Live]
    rw [finish_of_not_live hended, hafter, houtput]
  refine ⟨⟨1, by decide, _, h⟩, by rw [hafter], hfinish, ?_⟩
  simp [hfinish]

end Run

end GlyphCanvas
