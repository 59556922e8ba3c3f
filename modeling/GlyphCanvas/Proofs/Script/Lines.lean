import GlyphCanvas.Proofs.Outcome
import GlyphCanvas.Proofs.Text.Words
import GlyphCanvas.Script.Snapshots

/-!
# The lines of a script and the slot that they leave

* `Script.rawLines`: a script cut at every line end, the pieces numbered from 1, without those that
  are white space throughout. The lines of the script are these, trimmed
  (`Script.lines_eq_map_trim`), and trimming changes nothing for a slot.
* `Slot.afterLines`: the slot that some lines leave, whatever comes of each.
* `Script.length_of_snapshots`: the fold makes one canvas for each line.
* `Script.snapshots_append`: the fold over some lines and more is the one over the first followed
  by the one over the others, unless a line is refused before.
-/

namespace GlyphCanvas

namespace Script

/-- The lines of a script that are not white space throughout, untouched and numbered from 1 among
all lines. -/
def rawLines (script : String) : List Line :=
  (((script.toList.splitOn '\n').zipIdx 1).filter fun piece =>
    piece.1.any fun c => !Text.isBlank c).map fun piece => ⟨piece.2, String.ofList piece.1⟩

/-- A line without the white space around it. -/
def Line.trim (line : Line) : Line :=
  { line with text := String.ofList (Text.trim line.text.toList) }

theorem lines_eq_map_trim (script : String) : lines script = (rawLines script).map Line.trim := by
  have hsep : (fun c => decide (c = '\n')) = (· == '\n') := rfl
  unfold lines rawLines
  rw [Text.pieces_eq_splitOnP, hsep, ← List.splitOn_eq_splitOnP]
  generalize (script.toList.splitOn '\n').zipIdx 1 = numbered
  induction numbered with
  | nil => rfl
  | cons piece rest ih =>
    rw [List.filterMap_cons, List.filter_cons, ih]
    have hblank : (Text.trim piece.1).isEmpty = !piece.1.any fun c => !Text.isBlank c := by
      rw [Text.isEmpty_trim, ← List.not_all_eq_any_not, Bool.not_not]
    dsimp only
    rw [hblank]
    cases piece.1.any fun c => !Text.isBlank c with
    | false => rfl
    | true => simp [Line.trim]

theorem length_rawLines (script : String) : (rawLines script).length = (lines script).length := by
  rw [lines_eq_map_trim, List.length_map]

end Script

/-- Nothing but the words of a line decides what becomes of it. -/
theorem Slot.applyLine_congr {line line' : String} (h : Text.words line = Text.words line')
    (slot : Slot) : slot.applyLine line = slot.applyLine line' := by
  unfold applyLine wantsCanvas Command.ofLine Directive.ofLine
  rw [h]

@[simp] theorem Script.Line.applyLine_trim (line : Script.Line) (slot : Slot) :
    slot.applyLine line.trim.text = slot.applyLine line.text := by
  apply Slot.applyLine_congr
  rw [trim, Text.words_trim, String.ofList_toList]

/-- The slot that some lines leave, refused ones included. -/
def Slot.afterLines (slot : Slot) (lines : List Script.Line) : Slot :=
  lines.foldl (fun slot line => (slot.applyLine line.text).slot) slot

namespace Slot

@[simp] theorem afterLines_nil (slot : Slot) : slot.afterLines [] = slot := rfl

theorem afterLines_cons (slot : Slot) (line : Script.Line) (rest : List Script.Line) :
    slot.afterLines (line :: rest) = (slot.applyLine line.text).slot.afterLines rest := rfl

theorem afterLines_append (slot : Slot) (lines more : List Script.Line) :
    slot.afterLines (lines ++ more) = (slot.afterLines lines).afterLines more :=
  List.foldl_append

end Slot

namespace Script

theorem snapshots_cons_eq_ok_iff {slot : Slot} {line : Line} {rest : List Line}
    {shots : List String} :
    snapshots slot (line :: rest) = .ok shots ↔
      ∃ shot shots', (slot.applyLine line.text).answer = .ok shot ∧
        snapshots (slot.applyLine line.text).slot rest = .ok shots' ∧ shot :: shots' = shots := by
  rw [snapshots]
  cases (slot.applyLine line.text).answer with
  | error cause => simp
  | ok shot => simp [map_eq_ok_iff]

/-- There is one snapshot for each line. -/
theorem length_of_snapshots {slot : Slot} {lines : List Line} {shots : List String}
    (h : snapshots slot lines = .ok shots) : shots.length = lines.length := by
  induction lines generalizing slot shots with
  | nil =>
    cases h
    rfl
  | cons line rest ih =>
    obtain ⟨shot, shots', -, hrest, rfl⟩ := snapshots_cons_eq_ok_iff.1 h
    exact congrArg (· + 1) (ih hrest)

/-- The fold does not stop before the last of some lines if they all succeed. -/
theorem snapshots_append {slot : Slot} {lines : List Line} {shots : List String}
    (h : snapshots slot lines = .ok shots) (more : List Line) :
    snapshots slot (lines ++ more) =
      (snapshots (slot.afterLines lines) more).map (shots ++ ·) := by
  induction lines generalizing slot shots with
  | nil =>
    cases h
    cases hmore : snapshots slot more <;> simp [hmore, Except.map]
  | cons line rest ih =>
    obtain ⟨shot, shots', ha, hrest, rfl⟩ := snapshots_cons_eq_ok_iff.1 h
    rw [List.cons_append, snapshots, Slot.afterLines_cons]
    simp only [ha, ih hrest]
    cases snapshots ((slot.applyLine line.text).slot.afterLines rest) more <;> rfl

/-- One more snapshot is appended to the log and replaces the last one. -/
theorem Output.ofSnapshots_append (shots : List String) (shot : String) :
    ofSnapshots (shots ++ [shot]) = (ofSnapshots shots).add shot := by
  simp [ofSnapshots, add, String.join_append, String.append_assoc]

end Script

end GlyphCanvas
