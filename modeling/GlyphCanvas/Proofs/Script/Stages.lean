import GlyphCanvas.Proofs.Script.Resumption
import Mathlib.Data.Nat.Count
import Mathlib.Logic.Relation

/-!
# The stages of a run

* `Script.State.Next`: the order of the states.
* `Run.Consistent`: what a run of a script has in its slot, its output and its progress at any time,
  and what its state says about it.
* `Run.Consistent.advances`: what the next step of such a run comes to.
* `Run.Consistent.step`, `Run.consistent_after`: a step keeps a run consistent, so every run of a
  script is.
* `Run.count_answers`, `Run.done_of_live`: the steps that go on are counted by the progress.
* `Run.stages_of_steps`: all that is true of a run of a script after any number of steps.
-/

namespace GlyphCanvas

open Script Progress

/-- The states in their order: a run begins, and then it is completed or it fails. -/
inductive Script.State.Next : State → State → Prop where
  | begins : Next .idle .running
  | completes : Next .running .completed
  | fails : Next .running .failed

namespace Run

variable {α : Type} {script : String}

/-- The run is one of the script. The lines that are counted as complete are those that have left
their traces in the slot and the output, and the count agrees with the state. -/
structure Consistent (script : String) (r : Run α) : Prop where
  lines : r.lines = ((rawLines script).map Line.trim).toArray
  total : r.progress.total = (rawLines script).length
  done_le : r.progress.done ≤ (rawLines script).length
  slot : r.slot = Slot.afterLines none ((rawLines script).take r.progress.done)
  output : ∃ shots, snapshots none ((rawLines script).take r.progress.done) = .ok shots ∧
    r.output = .ofSnapshots shots
  idle : r.state = .idle → r.progress.done = 0 ∧ r.slot = none
  completed : r.state = .completed → r.progress.done = (rawLines script).length
  failed : r.state = .failed → r.progress.done < (rawLines script).length

theorem consistent_start (script : String) : (start script : Run α).Consistent script where
  lines := congrArg List.toArray (lines_eq_map_trim script)
  total := (reached_start script).total
  done_le := Nat.zero_le _
  slot := rfl
  output := ⟨[], rfl, rfl⟩
  idle _ := ⟨rfl, rfl⟩
  completed := nofun
  failed := nofun

variable {r : Run α}

theorem Live.moves_to_running (h : r.Live) :
    Relation.ReflTransGen State.Next r.state .running := by
  rcases h with hidle | hrunning
  · rw [hidle]
    exact .single .begins
  · rw [hrunning]

theorem not_live_iff : ¬r.Live ↔ r.state = .completed ∨ r.state = .failed := by
  unfold Live
  cases r.state <;> simp

/-- A run between two steps has the lines that are complete behind it and all others ahead. -/
theorem Consistent.reached (h : r.Consistent script) (hlive : r.Live) :
    r.Reached ((rawLines script).take r.progress.done)
      ((rawLines script).drop r.progress.done) where
  lines := by rw [List.take_append_drop, h.lines]
  live := hlive
  slot := h.slot
  output := h.output
  count := by rw [List.length_take, Nat.min_eq_left h.done_le]
  total := by rw [List.take_append_drop, h.total]

theorem Reached.consistent {done later : List Line} (h : r.Reached done later)
    (hlines : rawLines script = done ++ later) (hrunning : r.state = .running) :
    r.Consistent script where
  lines := by rw [h.lines, hlines]
  total := by rw [h.total, hlines]
  done_le := by rw [h.count, hlines, List.length_append]; exact Nat.le_add_right _ _
  slot := by rw [h.count, hlines, List.take_left, h.slot]
  output := by rw [h.count, hlines, List.take_left]; exact h.output
  idle := by simp [hrunning]
  completed := by simp [hrunning]
  failed := by simp [hrunning]

variable [Percentage α]

/-- What the next step of a run of a script comes to. -/
inductive Advances (script : String) (r : Run α) : Prop where
  /-- The run had ended. -/
  | ended (hended : ¬r.Live) (hstep : r.step = { run := r, reports := [], answer := .ok false })
  /-- The next line has succeeded. -/
  | served {line : Line} {rest : List Line} {shot : String} (hlive : r.Live)
      (hlater : (rawLines script).drop r.progress.done = line :: rest)
      (hline : (r.slot.applyLine line.text).answer = .ok shot)
      (hanswer : r.step.answer = .ok true) (hstate : r.step.run.state = .running)
      (hdone : r.step.run.progress.done = r.progress.done + 1)
      (hconsistent : r.step.run.Consistent script)
  /-- There was no line left. -/
  | completed (hlive : r.Live) (hlater : (rawLines script).drop r.progress.done = [])
      (hanswer : r.step.answer = .ok false)
      (hrun : r.step.run = { r with progress := r.progress.conclude.1, state := .completed })
  /-- The next line was refused. -/
  | refused {line : Line} {rest : List Line} {cause : CommandError} (hlive : r.Live)
      (hlater : (rawLines script).drop r.progress.done = line :: rest)
      (hline : (r.slot.applyLine line.text).answer = .error cause)
      (hanswer : r.step.answer = .error ⟨line.number, cause⟩)
      (hrun : r.step.run = { r with state := .failed })

theorem Reached.state_of_ok {done later : List Line} {line : Line}
    (h : r.Reached done (line :: later)) {shot : String}
    (ha : (r.slot.applyLine line.text).answer = .ok shot) : r.step.run.state = .running := by
  rw [← line.applyLine_trim] at ha
  rw [h.step_cons, advance_of_ok ha]

theorem Consistent.advances (h : r.Consistent script) : r.Advances script := by
  by_cases hlive : r.Live
  · have hreached := h.reached hlive
    cases hlater : (rawLines script).drop r.progress.done with
    | nil =>
      rw [hlater] at hreached
      have hstep := hreached.step_nil
      exact .completed hlive hlater (by rw [hstep]) (by rw [hstep])
    | cons line rest =>
      rw [hlater] at hreached
      cases hline : (r.slot.applyLine line.text).answer with
      | error cause =>
        have hstep := hreached.step_error hline
        exact .refused hlive hlater hline (by rw [hstep]) (by rw [hstep])
      | ok shot =>
        obtain ⟨hanswer, hnext⟩ := hreached.step_ok hline
        have hstate := hreached.state_of_ok hline
        have hlines : rawLines script =
            ((rawLines script).take r.progress.done ++ [line]) ++ rest := by
          rw [← List.append_cons, ← hlater, List.take_append_drop]
        refine .served hlive hlater hline hanswer hstate ?_ (hnext.consistent hlines hstate)
        rw [hnext.count, List.length_append, ← hreached.count, List.length_singleton]
  · exact .ended hlive (step_of_not_live hlive)

theorem Consistent.step (h : r.Consistent script) : r.step.run.Consistent script := by
  cases h.advances with
  | ended hended hstep =>
    rw [hstep]
    exact h
  | served hlive hlater hline hanswer hstate hdone hconsistent => exact hconsistent
  | completed hlive hlater hanswer hrun =>
    have hall : r.progress.done = (rawLines script).length :=
      Nat.le_antisymm h.done_le (List.drop_eq_nil_iff.1 hlater)
    rw [hrun]
    exact
      { lines := h.lines
        total := (Blend.conclude_total _).trans h.total
        done_le := by rw [Blend.conclude_done]; exact h.done_le
        slot := by rw [Blend.conclude_done]; exact h.slot
        output := by rw [Blend.conclude_done]; exact h.output
        idle := nofun
        completed := fun _ => (Blend.conclude_done _).trans hall
        failed := nofun }
  | refused hlive hlater hline hanswer hrun =>
    have hlt : r.progress.done < (rawLines script).length := by
      rw [← List.drop_eq_nil_iff.not.trans Nat.not_le, hlater]
      exact List.cons_ne_nil _ _
    rw [hrun]
    exact
      { lines := h.lines
        total := h.total
        done_le := h.done_le
        slot := h.slot
        output := h.output
        idle := nofun
        completed := nofun
        failed := fun _ => hlt }

theorem consistent_after (script : String) (n : Nat) :
    ((start script : Run α).after n).Consistent script := by
  induction n with
  | zero => exact consistent_start script
  | succ n ih =>
    rw [after_succ]
    exact ih.step

/-! ## Counting the steps -/

/-- The steps that go on are as many as the lines that are complete. -/
theorem count_answers (script : String) (n : Nat) :
    Nat.count (fun k => ((start script : Run α).after k).step.answer = .ok true) n =
      ((start script : Run α).after n).progress.done := by
  induction n with
  | zero => rfl
  | succ n ih =>
    rw [Nat.count_succ, ih, after_succ]
    cases (consistent_after (α := α) script n).advances with
    | ended hended hstep => simp [hstep]
    | served hlive hlater hline hanswer hstate hdone hconsistent => rw [if_pos hanswer, hdone]
    | completed hlive hlater hanswer hrun => simp [hanswer, hrun]
    | refused hlive hlater hline hanswer hrun => simp [hanswer, hrun]

/-- A run that has not ended has completed a line in every step. -/
theorem done_of_live {n : Nat} (h : ((start script : Run α).after n).Live) :
    ((start script : Run α).after n).progress.done = n := by
  induction n with
  | zero => rfl
  | succ n ih =>
    rw [after_succ] at h ⊢
    cases (consistent_after (α := α) script n).advances with
    | ended hended hstep =>
      rw [hstep] at h
      exact absurd h hended
    | served hlive hlater hline hanswer hstate hdone hconsistent => rw [hdone, ih hlive]
    | completed hlive hlater hanswer hrun => simp [hrun, Live] at h
    | refused hlive hlater hline hanswer hrun => simp [hrun, Live] at h

/-- There are no more steps that go on than there are lines. -/
theorem not_live_of_length_lt {n : Nat} (h : (rawLines script).length < n) :
    ¬((start script : Run α).after n).Live := by
  intro hlive
  have hle := (consistent_after (α := α) script n).done_le
  rw [done_of_live hlive] at hle
  omega

/-! ## The order of the states -/

theorem Consistent.moves (h : r.Consistent script) :
    Relation.ReflTransGen State.Next r.state r.step.run.state := by
  cases h.advances with
  | ended hended hstep => rw [hstep]
  | served hlive hlater hline hanswer hstate hdone hconsistent =>
    rw [hstate]
    exact hlive.moves_to_running
  | completed hlive hlater hanswer hrun =>
    rw [hrun]
    exact hlive.moves_to_running.tail .completes
  | refused hlive hlater hline hanswer hrun =>
    rw [hrun]
    exact hlive.moves_to_running.tail .fails

/-- The first step of a script. -/
theorem first_cases (script : String) :
    rawLines script = [] ∧ (start script : Run α).step.run.state = .completed ∨
      ∃ line rest, rawLines script = line :: rest ∧
        ((∃ shot, (Slot.applyLine none line.text).answer = .ok shot) ∧
            (start script : Run α).step.run.state = .running ∨
          (∃ cause, (Slot.applyLine none line.text).answer = .error cause) ∧
            (start script : Run α).step.run.state = .failed) := by
  -- Nothing is complete yet, so the lines ahead are all lines and the slot is empty.
  cases (consistent_start (α := α) script).advances with
  | ended hended hstep => exact absurd (.inl rfl) hended
  | served hlive hlater hline hanswer hstate hdone hconsistent =>
    exact .inr ⟨_, _, hlater, .inl ⟨⟨_, hline⟩, hstate⟩⟩
  | completed hlive hlater hanswer hrun => exact .inl ⟨hlater, by rw [hrun]⟩
  | refused hlive hlater hline hanswer hrun =>
    exact .inr ⟨_, _, hlater, .inr ⟨⟨_, hline⟩, by rw [hrun]⟩⟩

theorem first_completed_iff :
    (start script : Run α).step.run.state = .completed ↔ rawLines script = [] := by
  obtain ⟨hlines, hstate⟩ | ⟨line, rest, hlines, ⟨-, hstate⟩ | ⟨-, hstate⟩⟩ :=
    first_cases (α := α) script
  · simp [hlines, hstate]
  · simp [hlines, hstate]
  · simp [hlines, hstate]

theorem first_failed_iff :
    (start script : Run α).step.run.state = .failed ↔
      ∃ line rest cause, rawLines script = line :: rest ∧
        (Slot.applyLine none line.text).answer = .error cause := by
  obtain ⟨hlines, hstate⟩ | ⟨line, rest, hlines, ⟨⟨shot, hline⟩, hstate⟩ |
    ⟨⟨cause, hline⟩, hstate⟩⟩ := first_cases (α := α) script
  · simp [hlines, hstate]
  · simp [hlines, hstate, hline]
  · simp [hlines, hstate, hline]

/-- A run of a script is idle at first, and every step moves it on in the order of the states or
leaves it where it is. The first step completes a script without lines and fails at a first line
that is refused. At any time the steps that went on are as many as the lines that are counted as
complete, and the slot and the output are those of the fold over these lines. After one step more
than there are lines, at the latest, the run has ended, and no later step changes or reports
anything. -/
theorem stages_of_steps (script : String) :
    let r : Nat → Run α := (start script).after
    ((r 0).state = .idle ∧ ∀ n, (r (n + 1)).state ≠ .idle ∧
      Relation.ReflTransGen State.Next (r n).state (r (n + 1)).state) ∧
    (((r 1).state = .completed ↔ rawLines script = []) ∧
      ((r 1).state = .failed ↔ ∃ line rest cause, rawLines script = line :: rest ∧
        (Slot.applyLine none line.text).answer = .error cause)) ∧
    (∀ n, (r n).Consistent script ∧
      Nat.count (fun k => (r k).step.answer = .ok true) n = (r n).progress.done) ∧
    (∀ n, (rawLines script).length < n → (r n).state = .completed ∨ (r n).state = .failed) ∧
    ∀ m n, m ≤ n → (r m).state = .completed ∨ (r m).state = .failed →
      (r n).step = { run := r m, reports := [], answer := .ok false } := by
  intro r
  refine ⟨⟨rfl, fun n => ⟨?_, ?_⟩⟩, ⟨first_completed_iff, first_failed_iff⟩,
    fun n => ⟨consistent_after script n, count_answers script n⟩, fun n hn => ?_,
    fun m n hmn hm => ?_⟩
  · intro hidle
    have hdone : (r (n + 1)).progress.done = n + 1 := done_of_live (.inl hidle)
    rw [((consistent_after script (n + 1)).idle hidle).1] at hdone
    exact Nat.noConfusion hdone
  · rw [show r (n + 1) = (r n).step.run from after_succ _ n]
    exact (consistent_after script n).moves
  · exact not_live_iff.1 (not_live_of_length_lt hn)
  · have hended : ¬(r m).Live := not_live_iff.2 hm
    obtain ⟨k, rfl⟩ := Nat.exists_eq_add_of_le hmn
    rw [show r (m + k) = (r m).after k from after_add _ m k, after_of_not_live hended,
      step_of_not_live hended]

/-- The second of three commands is refused, and four more steps are asked for. -/
theorem stages_of_steps_refused :
    let r : Nat → Run Float := (start "C 1 1\n\nL 2 1 2 1\nC 1 1").after
    (2 ≤ 6 ∧ (r 2).state = .failed) ∧
      (r 6).step = { run := r 2, reports := [], answer := .ok false } := by
  intro r
  have hlater : 2 ≤ 6 := by decide
  have hfailed : ((start "C 1 1\n\nL 2 1 2 1\nC 1 1" : Run Float).after 2).state = .failed := by
    with_unfolding_all rfl
  obtain ⟨-, -, -, -, hstays⟩ := stages_of_steps (α := Float) "C 1 1\n\nL 2 1 2 1\nC 1 1"
  exact ⟨⟨hlater, hfailed⟩, hstays 2 6 hlater (.inr hfailed)⟩

end Run

end GlyphCanvas
