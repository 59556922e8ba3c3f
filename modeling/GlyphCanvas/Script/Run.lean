import GlyphCanvas.Command.Slot
import GlyphCanvas.Progress.Blend
import GlyphCanvas.Script.Lines

/-!
# Running a script

* `Run`: a script under way: its lines, the slot, the output, the progress, the state.
* `Run.step`: carries out the next line. Its answer says whether there may be more to do.
* `Run.finish`: steps until there is nothing more to do or a line is refused.
* `Script.run`: a script from its beginning to its end.

A step that answers that there may be more to do has completed a line (`Run.remaining_step_lt`), so
every run ends.
-/

namespace GlyphCanvas

namespace Script

/-- Where a run stands. -/
inductive State where
  /-- Nothing has been asked of it. -/
  | idle
  /-- Between two steps. -/
  | running
  /-- All lines are done. -/
  | completed
  /-- A line was refused. -/
  | failed
deriving DecidableEq

/-- A refused line. -/
structure Error where
  line : Nat
  cause : CommandError
deriving DecidableEq

/-- The refusal in words. -/
def Error.message (e : Error) : String :=
  s!"Couldn't process the input: {e.cause.message}"

/-- What a run has produced. -/
structure Output where
  /-- All canvases in the order of the commands, a line end after each. -/
  result : String
  /-- The last canvas, or nothing if there were no commands. -/
  snapshot : String
deriving DecidableEq

/-- No output yet. -/
def Output.empty : Output := ⟨"", ""⟩

/-- The output with one more canvas. -/
def Output.add (o : Output) (snapshot : String) : Output :=
  { result := o.result ++ snapshot ++ "\n", snapshot }

end Script

open Script Progress

/-- A script under way. The next line is the one behind those that are complete. -/
structure Run (α : Type) where
  lines : Array Line
  slot : Slot
  output : Output
  progress : Blend α
  state : State

/-- A run after a step, the percentages reported during it, and whether there may be more to
do. -/
structure Step (α : Type) where
  run : Run α
  reports : List α
  answer : Except Script.Error Bool

namespace Run

variable {α : Type}

/-- A script that has not begun. -/
def start (script : String) : Run α :=
  let lines := (Script.lines script).toArray
  { lines, slot := none, output := .empty, progress := .start lines.size, state := .idle }

variable [Percentage α]

/-- Carries out one line and counts it as complete, or fails and changes nothing else. -/
def advance (r : Run α) (line : Line) : Step α :=
  let reply := r.slot.applyLine line.text
  let shares := r.progress.underWay reply.shown
  match reply.answer with
  | .ok snapshot =>
    let credit := shares.1.complete
    { run :=
        { r with
          slot := reply.slot, output := r.output.add snapshot
          progress := credit.1, state := .running }
      reports := shares.2 ++ credit.2
      answer := .ok true }
  | .error cause =>
    { run := { r with slot := reply.slot, progress := shares.1, state := .failed }
      reports := shares.2
      answer := .error { line := line.number, cause } }

/-- Carries out the next line. Nothing happens any more to a run that is completed or failed. -/
def step (r : Run α) : Step α :=
  match r.state with
  | .completed | .failed => { run := r, reports := [], answer := .ok false }
  | .idle | .running =>
    match r.lines[r.progress.done]? with
    | some line => r.advance line
    | none =>
      let conclusion := r.progress.conclude
      { run := { r with progress := conclusion.1, state := .completed }
        reports := conclusion.2
        answer := .ok false }

/-- The number of lines that are not complete. -/
def remaining (r : Run α) : Nat :=
  r.lines.size - r.progress.done

theorem remaining_advance {r : Run α} {line : Line} (h : (r.advance line).answer = .ok true) :
    (r.advance line).run.remaining = r.remaining - 1 := by
  unfold advance at h ⊢
  dsimp only at h ⊢
  split
  · simp [remaining, Nat.sub_sub]
  · next e => simp [e] at h

theorem remaining_step_lt {r : Run α} (h : r.step.answer = .ok true) :
    r.step.run.remaining < r.remaining := by
  unfold step at h ⊢
  split
  case h_1 e | h_2 e => simp [e] at h
  case h_3 e | h_4 e =>
    cases hl : r.lines[r.progress.done]? with
    | none => simp [e, hl] at h
    | some line =>
      have hlt : r.progress.done < r.lines.size := (Array.getElem?_eq_some_iff.1 hl).1
      simp only [e, hl] at h
      rw [remaining_advance h]
      unfold remaining
      omega

/-- Steps to the end. The result is everything reported, and the output or the refusal. -/
def finish (r : Run α) : List α × Except Script.Error Output :=
  let next := r.step
  match _h : next.answer with
  | .error error => (next.reports, .error error)
  | .ok false => (next.reports, .ok next.run.output)
  | .ok true =>
    let (reports, outcome) := next.run.finish
    (next.reports ++ reports, outcome)
termination_by r.remaining
decreasing_by exact remaining_step_lt _h

end Run

/-- Runs a script. -/
def Script.run {α : Type} [Percentage α] (script : String) :
    List α × Except Script.Error Output :=
  (Run.start script).finish

end GlyphCanvas
