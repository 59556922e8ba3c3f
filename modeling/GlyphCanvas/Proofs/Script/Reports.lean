import GlyphCanvas.Proofs.Progress.Rational
import GlyphCanvas.Proofs.Script.Fold

/-!
# What a run reports

The percentages of a run, computed without rounding.

* `Run.Reached.reports_of_true`: a step that goes on reports what the command shows and that it is
  complete.
* `Run.logs_of_goesOn`: as long as the steps go on, the percentages grow and the last one is the
  share of the lines that are complete.
* `Script.reports_run`: the percentages of a whole run grow between 0 and 100, and they reach 100 at
  the end of a run that succeeds and nowhere else.
-/

namespace GlyphCanvas

open Script Progress

namespace Run

theorem Reached.reports_of_true {α : Type} [Percentage α] {r : Run α} {done later : List Line}
    (h : r.Reached done later) (ha : r.step.answer = .ok true) :
    done.length < (done ++ later).length ∧
      ∃ shown, r.step.run.progress = (r.progress.underWay shown).1.complete.1 ∧
        r.step.reports =
          (r.progress.underWay shown).2 ++ (r.progress.underWay shown).1.complete.2 := by
  obtain ⟨line, rest, shot, rfl, hline⟩ := h.of_step_true ha
  refine ⟨by simp, (r.slot.applyLine line.trim.text).shown, ?_⟩
  rw [← line.applyLine_trim] at hline
  rw [h.step_cons, advance_of_ok hline]
  exact ⟨rfl, rfl⟩

/-- As long as the steps go on every percentage is within the share of the complete lines, and the
last one is that share. -/
theorem logs_of_goesOn {script : String} {n : Nat} (h : (start script : Run ℚ).GoesOn n) :
    ((start script : Run ℚ).after n).progress.Logs ((start script).reportsOf n)
        (share (rawLines script).length n) ∧
      (0 < n → ((start script : Run ℚ).reportsOf n).getLast? =
        some (share (rawLines script).length n)) := by
  induction n with
  | zero => exact ⟨.start _ _, fun hpos => absurd hpos (Nat.lt_irrefl 0)⟩
  | succ n ih =>
    obtain ⟨hn, hstep⟩ := goesOn_succ.1 h
    obtain ⟨done, later, hlines, rfl, hreached⟩ := reached_of_goesOn hn
    obtain ⟨hlt, shown, hprogress, hreports⟩ := hreached.reports_of_true hstep
    rw [after_succ, reportsOf_succ, hprogress, hreports]
    have hlogs := (ih hn).1
    rw [hlines] at hlogs ⊢
    have hcommand := hlogs.command hreached.total hreached.count hlt shown
    exact ⟨hcommand.1, fun _ => hcommand.2⟩

variable {script : String} {n : Nat} {last : Step ℚ}

/-- A script that is run to its end reports 100 there. -/
theorem Halts.reports_of_ok (h : (start script : Run ℚ).Halts n last) {more : Bool}
    (ha : last.answer = .ok more) :
    ((start script : Run ℚ).reportsOf (n + 1)).Pairwise (· < ·) ∧
      (∀ p ∈ (start script : Run ℚ).reportsOf (n + 1), 0 ≤ p ∧ p ≤ 100) ∧
      ((start script : Run ℚ).reportsOf (n + 1)).getLast? = some 100 := by
  obtain ⟨hgo, rfl, hends⟩ := h
  obtain ⟨done, later, hlines, rfl, hreached⟩ := reached_of_goesOn hgo
  obtain rfl | ⟨line, rest, cause, rfl, hline⟩ := hreached.of_step_ends hends
  · have hle : done.length ≤ (rawLines script).length := by simp [hlines]
    rw [reportsOf_succ, hreached.step_nil]
    exact ((logs_of_goesOn hgo).1.mono (share_le_hundred hle)).conclude
  · simp [hreached.step_error hline] at ha

/-- A script that is stopped by a line does not report 100. -/
theorem Halts.reports_of_error (h : (start script : Run ℚ).Halts n last) {error : Script.Error}
    (ha : last.answer = .error error) :
    ((start script : Run ℚ).reportsOf (n + 1)).Pairwise (· < ·) ∧
      ∀ p ∈ (start script : Run ℚ).reportsOf (n + 1), 0 ≤ p ∧ p < 100 := by
  obtain ⟨hgo, rfl, hends⟩ := h
  obtain ⟨done, later, hlines, rfl, hreached⟩ := reached_of_goesOn hgo
  obtain rfl | ⟨line, rest, cause, rfl, hline⟩ := hreached.of_step_ends hends
  · simp [hreached.step_nil] at ha
  · have hlt : done.length < (rawLines script).length := by simp [hlines]
    have hlogs := (logs_of_goesOn hgo).1
    rw [reportsOf_succ, hreached.step_error hline, List.append_nil]
    refine ⟨hlogs.increasing, fun p hp => ?_⟩
    obtain ⟨hl, hu⟩ := hlogs.within p hp
    exact ⟨hl, lt_of_le_of_lt hu (share_lt_hundred hlt)⟩

end Run

/-- The percentages of a run, computed in the rational numbers, are strictly increasing and lie
between 0 and 100. When `k` commands are complete the last one is `100 * k / total`. A run that
succeeds reports 100 once, at its end; a run that fails never does. -/
theorem Script.reports_run (script : String) :
    let start : Run ℚ := Run.start script
    let total := (lines script).length
    let reports := (run script : List ℚ × Except Error Output).1
    let outcome := (run script : List ℚ × Except Error Output).2
    (reports.Pairwise (· < ·) ∧ ∀ p ∈ reports, 0 ≤ p ∧ p ≤ 100) ∧
      (∀ k, 0 < k → start.GoesOn k →
        (start.after k).progress.done = k ∧ start.reportsOf k <+: reports ∧
          (start.reportsOf k).getLast? = some ((100 : ℚ) * k / total)) ∧
      (∀ output, outcome = .ok output → reports.count 100 = 1 ∧ reports.getLast? = some 100) ∧
      (∀ error, outcome = .error error → 100 ∉ reports) := by
  intro start total reports outcome
  obtain ⟨n, -, hhalts⟩ : ∃ n ≤ (rawLines script).length, start.Halts n (start.after n).step :=
    Run.exists_halts script
  have hfinish : run script = (reports, outcome) := rfl
  rw [run, hhalts.finish_eq, Prod.mk.injEq] at hfinish
  obtain ⟨hreports, houtcome⟩ := hfinish
  have hcomplete : ∀ k, 0 < k → start.GoesOn k →
      (start.after k).progress.done = k ∧ start.reportsOf k <+: reports ∧
        (start.reportsOf k).getLast? = some ((100 : ℚ) * k / total) := by
    intro k hk hgo
    obtain ⟨done, later, -, hlength, hreached⟩ := Run.reached_of_goesOn hgo
    refine ⟨hreached.count.trans hlength, ?_, ?_⟩
    · exact ⟨(start.after k).finish.1, (congrArg Prod.fst (Run.finish_of_goesOn hgo)).symm⟩
    · rw [(Run.logs_of_goesOn hgo).2 hk, length_rawLines]
      rfl
  cases ha : (start.after n).step.answer with
  | ok more =>
    obtain ⟨hincreasing, hwithin, hlast⟩ := hhalts.reports_of_ok ha
    rw [hreports] at hincreasing hwithin hlast
    have hone : reports.count 100 = 1 := by
      have hnodup : reports.Nodup := hincreasing.imp ne_of_lt
      rw [hnodup.count, if_pos (List.mem_of_getLast? hlast)]
    refine ⟨⟨hincreasing, hwithin⟩, hcomplete, fun _ _ => ⟨hone, hlast⟩, ?_⟩
    intro error herror
    simp [← houtcome, ha, Except.map] at herror
  | error error =>
    obtain ⟨hincreasing, hwithin⟩ := hhalts.reports_of_error ha
    rw [hreports] at hincreasing hwithin
    refine ⟨⟨hincreasing, fun p hp => ?_⟩, hcomplete, ?_, ?_⟩
    · exact ⟨(hwithin p hp).1, le_of_lt (hwithin p hp).2⟩
    · intro output houtput
      simp [← houtcome, ha, Except.map] at houtput
    · intro _ _ hin
      exact absurd (hwithin 100 hin).2 (lt_irrefl 100)

end GlyphCanvas
