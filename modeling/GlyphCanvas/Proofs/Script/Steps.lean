import GlyphCanvas.Proofs.Slot.Effect
import GlyphCanvas.Script.Run

/-!
# The steps of a run

* `Run.after`, `Run.reportsOf`: what some steps make of a run, and what they report.
* `Run.GoesOn`: each of some steps answers that there may be more to do.
* `Run.Halts`: some steps go on and the one behind them does not.
* `Run.finish_of_goesOn`, `Run.Halts.finish_eq`: finishing a run takes these steps, one by one.
* `Run.step_of_some`, `Run.step_of_none`, `Run.advance_of_ok`, `Run.advance_of_error`: the three
  things that a step of a live run can do.
-/

namespace GlyphCanvas

open Script Progress

namespace Run

variable {α : Type} [Percentage α]

/-- A run after some steps. -/
def after (r : Run α) : Nat → Run α
  | 0 => r
  | n + 1 => r.step.run.after n

/-- Everything reported during the first steps of a run. -/
def reportsOf (r : Run α) : Nat → List α
  | 0 => []
  | n + 1 => r.step.reports ++ r.step.run.reportsOf n

/-- The first `n` steps of a run all answer that there may be more to do. -/
def GoesOn (r : Run α) (n : Nat) : Prop :=
  ∀ k < n, (r.after k).step.answer = .ok true

/-- A run goes on for `n` steps, and the next one is `last` and ends it. -/
structure Halts (r : Run α) (n : Nat) (last : Step α) : Prop where
  goesOn : r.GoesOn n
  step_eq : (r.after n).step = last
  ends : last.answer ≠ .ok true

/-! ## Sequences of steps -/

theorem after_succ (r : Run α) (n : Nat) : r.after (n + 1) = (r.after n).step.run := by
  induction n generalizing r with
  | zero => rfl
  | succ n ih => exact ih r.step.run

theorem reportsOf_succ (r : Run α) (n : Nat) :
    r.reportsOf (n + 1) = r.reportsOf n ++ (r.after n).step.reports := by
  induction n generalizing r with
  | zero => exact List.append_nil _
  | succ n ih =>
    show r.step.reports ++ r.step.run.reportsOf (n + 1) = _
    rw [ih, ← List.append_assoc]
    rfl

theorem goesOn_succ {r : Run α} {n : Nat} :
    r.GoesOn (n + 1) ↔ r.GoesOn n ∧ (r.after n).step.answer = .ok true := by
  constructor
  · intro h
    exact ⟨fun k hk => h k (by omega), h n (by omega)⟩
  · rintro ⟨h, hn⟩ k hk
    obtain hk | rfl : k < n ∨ k = n := by omega
    · exact h k hk
    · exact hn

theorem finish_of_true {r : Run α} (h : r.step.answer = .ok true) :
    r.finish = (r.step.reports ++ r.step.run.finish.1, r.step.run.finish.2) := by
  rw [finish]
  split
  · next e he => simp [h] at he
  · next he => simp [h] at he
  · rfl

theorem finish_of_false {r : Run α} (h : r.step.answer = .ok false) :
    r.finish = (r.step.reports, .ok r.step.run.output) := by
  rw [finish]
  split
  · next e he => simp [h] at he
  · rfl
  · next he => simp [h] at he

theorem finish_of_error {r : Run α} {error : Script.Error} (h : r.step.answer = .error error) :
    r.finish = (r.step.reports, .error error) := by
  rw [finish]
  split
  · next e he =>
    rw [h] at he
    cases he
    rfl
  · next he => simp [h] at he
  · next he => simp [h] at he

/-- Finishing a run begins with every step that goes on. -/
theorem finish_of_goesOn {r : Run α} {n : Nat} (h : r.GoesOn n) :
    r.finish = (r.reportsOf n ++ (r.after n).finish.1, (r.after n).finish.2) := by
  induction n with
  | zero => rfl
  | succ n ih =>
    obtain ⟨hn, hstep⟩ := goesOn_succ.1 h
    rw [ih hn, finish_of_true hstep, reportsOf_succ, after_succ, List.append_assoc]

/-- Finishing a run takes the steps that go on and the one that does not. -/
theorem Halts.finish_eq {r : Run α} {n : Nat} {last : Step α} (h : r.Halts n last) :
    r.finish = (r.reportsOf (n + 1), last.answer.map fun _ => last.run.output) := by
  obtain ⟨hgo, rfl, hends⟩ := h
  rw [finish_of_goesOn hgo, reportsOf_succ]
  cases ha : (r.after n).step.answer with
  | error error =>
    rw [finish_of_error ha]
    rfl
  | ok more =>
    cases more with
    | true => exact absurd ha hends
    | false =>
      rw [finish_of_false ha]
      rfl

/-! ## One step -/

/-- The run is neither completed nor failed. -/
def Live (r : Run α) : Prop :=
  r.state = .idle ∨ r.state = .running

variable {r : Run α}

theorem step_of_some (hlive : r.Live) {line : Line} (hl : r.lines[r.progress.done]? = some line) :
    r.step = r.advance line := by
  unfold step
  rcases hlive with h | h <;> rw [h, hl]

theorem step_of_none (hlive : r.Live) (hl : r.lines[r.progress.done]? = none) :
    r.step = { run := { r with progress := r.progress.conclude.1, state := .completed }
               reports := r.progress.conclude.2
               answer := .ok false } := by
  unfold step
  rcases hlive with h | h <;> rw [h, hl]

theorem advance_of_ok {line : Line} {snapshot : String}
    (h : (r.slot.applyLine line.text).answer = .ok snapshot) :
    r.advance line =
      let shares := r.progress.underWay (r.slot.applyLine line.text).shown
      { run :=
          { r with
            slot := (r.slot.applyLine line.text).slot, output := r.output.add snapshot
            progress := shares.1.complete.1, state := .running }
        reports := shares.2 ++ shares.1.complete.2
        answer := .ok true } := by
  unfold advance
  dsimp only
  rw [h]

/-- A refused line leaves no trace in a run but the state. -/
theorem advance_of_error {line : Line} {cause : CommandError}
    (h : (r.slot.applyLine line.text).answer = .error cause) :
    r.advance line =
      { run := { r with state := .failed }
        reports := []
        answer := .error ⟨line.number, cause⟩ } := by
  unfold advance
  rw [Slot.applyLine_eq_refuse h]
  rfl

end Run

end GlyphCanvas
