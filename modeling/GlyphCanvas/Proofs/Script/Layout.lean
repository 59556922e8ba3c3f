import GlyphCanvas.Proofs.Command.Display
import GlyphCanvas.Proofs.Script.Fold
import GlyphCanvas.Proofs.Script.Likeness
import GlyphCanvas.Proofs.Slot.Reading

/-!
# Scripts that are laid out differently

Blank lines, indentation, the white space between words and at the ends of lines, superfluous signs
and zeros: none of it changes what a script does.

* `Script.wordLines`: the words of every line of a script that holds a word.
* `Script.canonical`: a script with every command written without anything superfluous.
* `Script.alike_of_wordLines`: scripts with the same words have lines that come to the same.
* `Script.rawLines_canonical`: writing the commands of a script anew changes no line number and
  makes no line blank.
* `Script.run_layout`: scripts with the same words report the same percentages and give the same
  output or the same cause of an error, and a script and its canonical form give the same
  altogether.
-/

namespace GlyphCanvas.Script

/-! ## The words of the lines -/

/-- The words of every line that holds a word, line by line. -/
def wordLines (script : String) : List (List String) :=
  (rawLines script).map fun line => Text.words line.text

variable {κ : Type} {view : Error → κ}

theorem Line.Alike.trim {line line' : Line} (h : line.Alike view line') :
    line.trim.Alike view line'.trim where
  applyLine slot := by rw [line.applyLine_trim, line'.applyLine_trim, h.applyLine]
  error := h.error

/-- Scripts are compared by their lines before these are trimmed. -/
theorem forall₂_lines {script script' : String}
    (h : List.Forall₂ (Line.Alike view) (rawLines script) (rawLines script')) :
    List.Forall₂ (Line.Alike view) (lines script) (lines script') := by
  rw [lines_eq_map_trim, lines_eq_map_trim, List.forall₂_map_left_iff, List.forall₂_map_right_iff]
  exact h.imp fun _ _ => Line.Alike.trim

theorem alike_of_wordLines {script script' : String} (h : wordLines script = wordLines script') :
    List.Forall₂ (Line.Alike Error.cause) (rawLines script) (rawLines script') := by
  unfold wordLines at h
  rw [← List.forall₂_eq_eq_eq, List.forall₂_map_left_iff, List.forall₂_map_right_iff] at h
  exact h.imp fun _ _ hwords =>
    { applyLine := Slot.applyLine_congr hwords
      error := fun _ => rfl }

/-! ## Commands written anew -/

/-- The line of the command that a text stands for. A text without a command is left as it is. -/
def canonicalText (text : String) : String :=
  match Command.ofLine text with
  | .ok command => command.text
  | .error _ => text

/-- The script with every line that stands for a command replaced by the command's own line. -/
def canonical (script : String) : String :=
  "\n".intercalate ((script.toList.splitOn '\n').map fun text => canonicalText (String.ofList text))

/-- The line with the command's own text, if it stands for a command. -/
def Line.canonical (line : Line) : Line :=
  { line with text := canonicalText line.text }

theorem canonicalText_cases (text : String) :
    canonicalText text = text ∨
      ∃ command, Command.ofLine text = .ok command ∧ Command.ofLine command.text = .ok command ∧
        command.ColourInWord ∧ canonicalText text = command.text := by
  unfold canonicalText
  cases h : Command.ofLine text with
  | error fault => exact .inl rfl
  | ok command =>
    have hcolour := Command.colourInWord_of_ofLine h
    have hread := Command.ofLine_text (Command.inRange_of_ofLine h) hcolour
    exact .inr ⟨command, rfl, hread, hcolour, rfl⟩

theorem words_ne_nil_of_ofLine {text : String} {command : Command}
    (h : Command.ofLine text = .ok command) : Text.words text ≠ [] := by
  intro hnil
  have hhead := Command.head?_words_of_ofLine h
  rw [hnil] at hhead
  cases hhead

/-- The command's own line has words if and only if the line has. -/
theorem any_not_isBlank_canonicalText (text : List Char) :
    ((canonicalText (String.ofList text)).toList.any fun c => !Text.isBlank c) =
      text.any fun c => !Text.isBlank c := by
  obtain h | ⟨command, hread, hread', -, h⟩ := canonicalText_cases (String.ofList text)
  · rw [h, String.toList_ofList]
  · rw [h, Text.any_not_isBlank_iff.2 (words_ne_nil_of_ofLine hread), Text.any_not_isBlank_iff,
      String.ofList_toList]
    exact words_ne_nil_of_ofLine hread'

theorem newline_not_mem_canonicalText {text : List Char} (h : '\n' ∉ text) :
    '\n' ∉ (canonicalText (String.ofList text)).toList := by
  obtain htext | ⟨command, -, -, hcolour, htext⟩ := canonicalText_cases (String.ofList text)
  · rwa [htext, String.toList_ofList]
  · rw [htext]
    exact Command.newline_not_mem_text hcolour

theorem newline_not_mem_of_mem_splitOn {text piece : List Char} (h : piece ∈ text.splitOn '\n') :
    '\n' ∉ piece := by
  rw [List.splitOn_eq_splitOnP, ← Text.pieces_eq_splitOnP] at h
  intro hmem
  simpa using Text.eq_false_of_mem_pieces h '\n' hmem

theorem splitOn_canonical (script : String) :
    (canonical script).toList.splitOn '\n' =
      (script.toList.splitOn '\n').map fun text => (canonicalText (String.ofList text)).toList := by
  unfold canonical
  rw [String.toList_intercalate, List.map_map]
  apply List.splitOn_intercalate
  · intro line hline
    obtain ⟨text, htext, rfl⟩ := List.mem_map.1 hline
    exact newline_not_mem_canonicalText (newline_not_mem_of_mem_splitOn htext)
  · rw [Ne, List.map_eq_nil_iff]
    exact List.splitOn_ne_nil _ _

theorem rawLines_canonical (script : String) :
    rawLines (canonical script) = (rawLines script).map Line.canonical := by
  unfold rawLines
  rw [splitOn_canonical, List.zipIdx_map, List.filter_map, List.map_map, List.map_map]
  have hblank : ((fun piece : List Char × Nat => piece.1.any fun c => !Text.isBlank c) ∘
      Prod.map (fun text => (canonicalText (String.ofList text)).toList) id) =
        fun piece => piece.1.any fun c => !Text.isBlank c := by
    funext piece
    rw [Function.comp_apply, Prod.map_fst, any_not_isBlank_canonicalText]
  rw [hblank]
  apply List.map_congr_left
  intro piece _
  simp [Line.canonical]

theorem Line.alike_canonical (line : Line) : line.canonical.Alike id line where
  applyLine slot := by
    obtain htext | ⟨command, hread, hread', -, htext⟩ := canonicalText_cases line.text
    · rw [canonical, htext]
    · rw [canonical, htext, Slot.applyLine_of_ok hread, Slot.applyLine_of_ok hread']
  error _ := rfl

open Progress

variable {α : Type} [Percentage α]

/-- Two scripts whose lines hold the same words, line by line and blank lines apart, report the same
percentages and give the same output or an error with the same cause. A script with its commands
written anew reports and gives the same as before, and names the same line in an error. -/
theorem run_layout :
    (∀ script script' : String, wordLines script = wordLines script' →
      (run script : List α × Except Error Output).1 =
          (run script' : List α × Except Error Output).1 ∧
        (run script : List α × Except Error Output).2.mapError Error.cause =
          (run script' : List α × Except Error Output).2.mapError Error.cause) ∧
    ∀ script : String,
      (run (canonical script) : List α × Except Error Output) = run script := by
  refine ⟨fun script script' h => ?_, fun script => ?_⟩
  · exact (Run.start_alike (forall₂_lines (alike_of_wordLines h))).finish
  · have hlines : List.Forall₂ (Line.Alike id) (rawLines (canonical script)) (rawLines script) := by
      rw [rawLines_canonical, List.forall₂_map_left_iff, List.forall₂_same]
      exact fun line _ => line.alike_canonical
    obtain ⟨hreports, houtcome⟩ :=
      (Run.start_alike (α := α) (forall₂_lines hlines)).finish
    rw [mapError_id, mapError_id] at houtcome
    exact Prod.ext hreports houtcome

example : canonical "\t\n B +07\u00a0-001 | \r\nC 1 x\n" = "\t\nB 7 -1 |\nC 1 x\n" := by rfl

/-- Carriage returns, an empty line, a tabulator and an ideographic space. The third command is
refused, in the fifth line of the one script and in the third line of the other. -/
theorem run_layout_white_space :
    let script := "C 2 1\r\n\r\nL\t1 1\u30002 1\r\n \r\n  L 1 1 3 1"
    let script' := "C 2 1\nL 1 1 2 1\nL 1 1 3 1"
    let outside : CommandError := .outOfBounds ⟨3, 1⟩ 2 1
    wordLines script = wordLines script' ∧
      ((run script : List Float × Except Error Output).2 = .error ⟨5, outside⟩ ∧
        (run script' : List Float × Except Error Output).2 = .error ⟨3, outside⟩) ∧
      ((run script : List Float × Except Error Output).1 =
          (run script' : List Float × Except Error Output).1 ∧
        (run script : List Float × Except Error Output).2.mapError Error.cause =
          (run script' : List Float × Except Error Output).2.mapError Error.cause) := by
  intro script script' outside
  have hwords : wordLines "C 2 1\r\n\r\nL\t1 1\u30002 1\r\n \r\n  L 1 1 3 1" =
      [["C", "2", "1"], ["L", "1", "1", "2", "1"], ["L", "1", "1", "3", "1"]] := by rfl
  have hwords' : wordLines "C 2 1\nL 1 1 2 1\nL 1 1 3 1" =
      [["C", "2", "1"], ["L", "1", "1", "2", "1"], ["L", "1", "1", "3", "1"]] := by rfl
  have h : wordLines script = wordLines script' := hwords.trans hwords'.symm
  have hrun : (run "C 2 1\r\n\r\nL\t1 1\u30002 1\r\n \r\n  L 1 1 3 1" :
      List Float × Except Error Output).2 = .error ⟨5, outside⟩ := by
    rw [run_outcome]
    rfl
  have hrun' : (run "C 2 1\nL 1 1 2 1\nL 1 1 3 1" : List Float × Except Error Output).2 =
      .error ⟨3, outside⟩ := by
    rw [run_outcome]
    rfl
  exact ⟨h, ⟨hrun, hrun'⟩, run_layout.1 script script' h⟩

end GlyphCanvas.Script
