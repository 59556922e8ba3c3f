import GlyphCanvas.Proofs.Script.Fold
import GlyphCanvas.Proofs.Slot.Reading

/-!
# A script behind another one

Two scripts are joined with a line end between them, and the second one begins by asking for a new
canvas.

* `Script.rawLines_join`: the lines of the whole are those of both, the later ones with greater
  numbers.
* `Script.snapshots_later`: the number of a line matters for the error of that line only.
* `Script.snapshots_of_create`: whatever a slot holds is lost when a new canvas is asked for.
* `Script.run_join_of_create`: so the second script gives what it gives alone, behind the output of
  the first one and with its lines counted from there.
-/

namespace GlyphCanvas.Script

/-! ## Lines further down -/

/-- The line with `count` more lines above it. -/
def Line.later (count : Nat) (line : Line) : Line :=
  { line with number := line.number + count }

/-- The error with `count` more lines above its line. -/
def Error.later (count : Nat) (error : Error) : Error :=
  { error with line := error.line + count }

/-- There is one piece more than there are separators. -/
theorem length_splitOn (separator : Char) (text : List Char) :
    (text.splitOn separator).length = text.count separator + 1 := by
  induction text with
  | nil => rfl
  | cons c rest ih =>
    rw [List.splitOn_cons_eq_if_modifyHead, List.count_cons]
    split
    · rw [List.length_cons, ih]
    · rw [List.length_modifyHead, ih, Nat.add_zero]

theorem rawLines_join (script more : String) :
    rawLines (script ++ "\n" ++ more) =
      rawLines script ++ (rawLines more).map (Line.later (script.toList.count '\n' + 1)) := by
  have hpieces : (script ++ "\n" ++ more).toList.splitOn '\n' =
      script.toList.splitOn '\n' ++ more.toList.splitOn '\n' := by
    rw [← List.splitOn_append_cons_self]
    simp
  have hnumbers : (more.toList.splitOn '\n').zipIdx (1 + (script.toList.splitOn '\n').length) =
      ((more.toList.splitOn '\n').zipIdx 1).map
        (Prod.map id (· + (script.toList.count '\n' + 1))) := by
    rw [length_splitOn, Nat.add_comm, List.map_snd_add_zipIdx_eq_zipIdx]
  unfold rawLines
  rw [hpieces, List.zipIdx_append, hnumbers, List.filter_append, List.filter_map,
    List.map_append, List.map_map, List.map_map]
  rfl

theorem snapshots_later (count : Nat) (slot : Slot) (lines : List Line) :
    snapshots slot (lines.map (Line.later count)) =
      (snapshots slot lines).mapError (Error.later count) := by
  induction lines generalizing slot with
  | nil => rfl
  | cons line rest ih =>
    simp only [List.map_cons, snapshots, Line.later, ih]
    cases (slot.applyLine line.text).answer with
    | error cause => rfl
    | ok shot =>
      cases snapshots (slot.applyLine line.text).slot rest <;> rfl

/-! ## A new canvas -/

variable {line : Line} {rest : List Line}

theorem snapshots_of_create (h : (Text.words line.text).head? = some "C") (slot slot' : Slot) :
    snapshots slot (line :: rest) = snapshots slot' (line :: rest) := by
  obtain ⟨error, he⟩ | ⟨change, he⟩ := Slot.applyLine_create_cases h
  · simp only [snapshots, he, Slot.refuse_answer]
  · simp only [snapshots, he, Slot.accept_answer, Slot.accept_slot]

theorem Output.ofSnapshots_join (shots : List String) {more : List String} (h : more ≠ []) :
    ofSnapshots (shots ++ more) =
      { result := (ofSnapshots shots).result ++ (ofSnapshots more).result
        snapshot := (ofSnapshots more).snapshot } := by
  have hlast : (shots ++ more).getLastD "" = more.getLastD "" := by
    rw [List.getLastD_eq_getLast?, List.getLast?_append_of_ne_nil _ h, ← List.getLastD_eq_getLast?]
  simp only [ofSnapshots, List.map_append, String.join_append, hlast]

open Progress

variable {α : Type} [Percentage α]

/-- A script that succeeds is followed by one whose first line asks for a new canvas. The whole
succeeds exactly if the second script does when it is run alone. Its result is that of the first
script and then that of the second, and the snapshot is that of the second. An error is the error of
the second script, at a line that is counted from the beginning of the first. -/
theorem run_join_of_create {script more : String} {before : Output}
    (hbefore : (run script : List α × Except Error Output).2 = .ok before)
    (hlines : rawLines more = line :: rest) (hcreate : (Text.words line.text).head? = some "C") :
    (run (script ++ "\n" ++ more) : List α × Except Error Output).2 =
      match (run more : List α × Except Error Output).2 with
      | .ok output =>
        .ok { result := before.result ++ output.result, snapshot := output.snapshot }
      | .error error =>
        .error { line := error.line + 1 + script.toList.count '\n', cause := error.cause } := by
  rw [run_outcome, map_eq_ok_iff] at hbefore
  obtain ⟨shots, hshots, rfl⟩ := hbefore
  have hfold : snapshots none (rawLines (script ++ "\n" ++ more)) =
      ((snapshots none (rawLines more)).mapError
        (Error.later (script.toList.count '\n' + 1))).map (shots ++ ·) := by
    rw [rawLines_join, snapshots_append hshots, snapshots_later, hlines,
      snapshots_of_create hcreate _ none]
  rw [run_outcome, run_outcome, hfold]
  cases hmore : snapshots none (rawLines more) with
  | error error =>
    simp only [Except.mapError, Except.map, Error.later]
    rw [Nat.add_assoc, Nat.add_comm 1]
  | ok shots' =>
    have hne : shots' ≠ [] := by
      rw [← List.length_pos_iff, length_of_snapshots hmore, hlines]
      exact Nat.succ_pos _
    exact congrArg Except.ok (Output.ofSnapshots_join shots hne)

/-- The first script ends with a carriage return and has two line ends. The third line of the second
script is refused there because of its own small canvas, which makes it the sixth line of all. -/
theorem run_join_of_create_refused :
    let script := "C 2 1\n\nL 1 1 2 1\r"
    let more := "\r\n C 1 1\nL 1 1 2 1"
    let before : Output :=
      { result := "----\n|  |\n----\n----\n|xx|\n----\n", snapshot := "----\n|xx|\n----" }
    let outside : CommandError := .outOfBounds ⟨2, 1⟩ 1 1
    (run script : List Float × Except Error Output).2 = .ok before ∧
      rawLines more = [⟨2, " C 1 1"⟩, ⟨3, "L 1 1 2 1"⟩] ∧
      (Text.words " C 1 1").head? = some "C" ∧
      (run more : List Float × Except Error Output).2 = .error ⟨3, outside⟩ ∧
      (run (script ++ "\n" ++ more) : List Float × Except Error Output).2 =
        .error ⟨6, outside⟩ := by
  intro script more before outside
  have hbefore : (run "C 2 1\n\nL 1 1 2 1\r" : List Float × Except Error Output).2 =
      .ok before := by
    rw [run_outcome]
    rfl
  have hlines : rawLines "\r\n C 1 1\nL 1 1 2 1" = [⟨2, " C 1 1"⟩, ⟨3, "L 1 1 2 1"⟩] := by rfl
  have hcreate : (Text.words " C 1 1").head? = some "C" := by rfl
  have hmore : (run "\r\n C 1 1\nL 1 1 2 1" : List Float × Except Error Output).2 =
      .error ⟨3, outside⟩ := by
    rw [run_outcome]
    rfl
  have hcount : "C 2 1\n\nL 1 1 2 1\r".toList.count '\n' = 2 := by rfl
  have hjoin := run_join_of_create hbefore hlines hcreate
  rw [hmore, hcount] at hjoin
  exact ⟨hbefore, hlines, hcreate, hmore, hjoin⟩

end GlyphCanvas.Script
