import GlyphCanvas.Proofs.Script.Fold
import GlyphCanvas.Proofs.Slot.Legible

/-!
# The log of a run

The output of a run is the text of all canvases, one after the other. The snapshots can be told
apart in it, because the lines that begin with a dash are the edges of the frames.

* `Script.cut`: some lines cut behind every second one that begins with a dash.
* `Script.snapshots_eq_ok`: the snapshots of lines that succeed are the texts of legible canvases,
  one for each line.
* `Script.textLines_result`, `Script.cut_rows`: the lines of a log are the rows of its canvases, and
  cutting them gives the rows of each.
* `Script.log_cuts_into_snapshots`: the same of a whole run, which is why the log determines the
  snapshots.
-/

namespace GlyphCanvas

namespace Script

/-! ## Legible snapshots -/

theorem snapshots_eq_ok {slot : Slot} {lines : List Line} {shots : List String}
    (hslot : ∀ c, slot = some c → c.Legible) (h : snapshots slot lines = .ok shots) :
    ∃ canvases : List Canvas, shots = canvases.map Canvas.render ∧
      canvases.length = lines.length ∧ ∀ c ∈ canvases, c.Legible := by
  induction lines generalizing slot shots with
  | nil =>
    cases h
    exact ⟨[], rfl, rfl, by simp⟩
  | cons line rest ih =>
    obtain ⟨shot, shots', ha, hrest, rfl⟩ := snapshots_cons_eq_ok_iff.1 h
    obtain ⟨error, he⟩ | ⟨command, change, hread, heffect, he⟩ := slot.applyLine_cases line.text
    · simp [he] at ha
    · have hlegible := heffect.legible hslot (Command.colourInWord_of_ofLine hread)
      rw [he, Slot.accept_answer, Except.ok.injEq] at ha
      rw [he, Slot.accept_slot] at hrest
      have hnext : ∀ c, some change.canvas = some c → c.Legible := by
        rintro c hc
        exact Option.some.inj hc ▸ hlegible
      obtain ⟨canvases, rfl, hlength, hall⟩ := ih hnext hrest
      refine ⟨change.canvas :: canvases, by rw [← ha]; rfl, congrArg (· + 1) hlength,
        fun c hc => ?_⟩
      rcases List.mem_cons.1 hc with rfl | hc
      · exact hlegible
      · exact hall c hc

/-! ## Cutting a log -/

/-- The lines of a text, from one line end to the next. -/
def textLines (text : String) : List (List Char) :=
  text.toList.splitOn '\n'

/-- The line begins with a dash. -/
def isDashed (line : List Char) : Bool :=
  line.head? == some '-'

/-- Cuts lines behind every second one that begins with a dash. The block under way has the lines
`block`, one of them dashed if `half`. Returned are the blocks and the lines that are left over. -/
def cutFrom (half : Bool) (block : List (List Char)) :
    List (List Char) → List (List (List Char)) × List (List Char)
  | [] => ([], block)
  | line :: rest =>
    if isDashed line then
      if half then
        let (blocks, left) := cutFrom false [] rest
        ((block ++ [line]) :: blocks, left)
      else cutFrom true (block ++ [line]) rest
    else cutFrom half (block ++ [line]) rest

/-- Cuts lines behind every second one that begins with a dash. Returned are the blocks and the
lines that are left over. -/
def cut (lines : List (List Char)) : List (List (List Char)) × List (List Char) :=
  cutFrom false [] lines

theorem isDashed_top {c : Canvas} (h : c.Legible) : isDashed (c.row 0) = true := by
  rw [h.row_top]
  rfl

theorem isDashed_bottom {c : Canvas} (h : c.Legible) : isDashed (c.row (Fin.last _)) = true := by
  rw [h.row_bottom]
  rfl

theorem not_isDashed_of_mem_cellRows {c : Canvas} (h : c.Legible) {line : List Char}
    (hline : line ∈ c.cellRows) : isDashed line = false := by
  simpa [isDashed] using h.head?_ne_of_mem_cellRows hline

theorem filter_isDashed_rows {c : Canvas} (h : c.Legible) :
    c.rows.filter isDashed = [c.row 0, c.row (Fin.last _)] := by
  have hcells : c.cellRows.filter isDashed = [] := by
    rw [List.filter_eq_nil_iff]
    intro line hline
    simp [not_isDashed_of_mem_cellRows h hline]
  rw [Canvas.rows_eq, List.filter_append, List.filter_cons_of_pos (isDashed_top h), hcells,
    List.filter_singleton, isDashed_bottom h]
  rfl

/-- Lines without a dash in front lengthen the block under way. -/
theorem cutFrom_append {half : Bool} {block lines : List (List Char)}
    (h : ∀ line ∈ lines, isDashed line = false) (rest : List (List Char)) :
    cutFrom half block (lines ++ rest) = cutFrom half (block ++ lines) rest := by
  induction lines generalizing block with
  | nil => rw [List.append_nil, List.nil_append]
  | cons line more ih =>
    rw [List.cons_append, cutFrom, h line List.mem_cons_self, if_neg Bool.false_ne_true,
      ih fun next hnext => h next (List.mem_cons_of_mem _ hnext), List.append_assoc,
      List.singleton_append]

/-- The rows of a canvas are one block. -/
theorem cut_rows_append {c : Canvas} (h : c.Legible) (rest : List (List Char)) :
    cut (c.rows ++ rest) = (c.rows :: (cut rest).1, (cut rest).2) := by
  have hcells : ∀ line ∈ c.cellRows, isDashed line = false :=
    fun _ => not_isDashed_of_mem_cellRows h
  rw [Canvas.rows_eq, List.append_assoc, List.cons_append, cut, cutFrom, isDashed_top h, if_pos rfl,
    if_neg Bool.false_ne_true, cutFrom_append hcells, List.singleton_append, cutFrom,
    isDashed_bottom h]
  rfl

theorem cut_rows {canvases : List Canvas} (h : ∀ c ∈ canvases, c.Legible) :
    cut (canvases.flatMap Canvas.rows ++ [[]]) = (canvases.map Canvas.rows, [[]]) := by
  induction canvases with
  | nil => rfl
  | cons c rest ih =>
    rw [List.flatMap_cons, List.append_assoc, cut_rows_append (h c List.mem_cons_self),
      ih fun d hd => h d (List.mem_cons_of_mem _ hd)]
    rfl

theorem filter_isDashed_flatMap_rows {canvases : List Canvas} (h : ∀ c ∈ canvases, c.Legible) :
    (canvases.flatMap Canvas.rows ++ [[]]).filter isDashed =
      canvases.flatMap fun c => [c.row 0, c.row (Fin.last _)] := by
  induction canvases with
  | nil => rfl
  | cons c rest ih =>
    rw [List.flatMap_cons, List.flatMap_cons, List.append_assoc, List.filter_append,
      filter_isDashed_rows (h c List.mem_cons_self),
      ih fun d hd => h d (List.mem_cons_of_mem _ hd)]

/-- The lines of a log are the rows of its canvases, and an empty one behind the last line end. -/
theorem textLines_result {canvases : List Canvas} (h : ∀ c ∈ canvases, c.Legible) :
    textLines (Output.ofSnapshots (canvases.map Canvas.render)).result =
      canvases.flatMap Canvas.rows ++ [[]] := by
  unfold textLines Output.ofSnapshots
  rw [Text.splitOn_join, List.flatMap_map]
  congr 1
  exact List.flatMap_congr fun c hc => (h c hc).splitOn_render

/-- The texts of the blocks that a log is cut into. -/
def recovered (log : String) : List String :=
  (cut (textLines log)).1.map fun block => String.ofList (['\n'].intercalate block)

/-- The text is the log of some canvases, and it can be cut back into them. -/
structure IsLog (canvases : List Canvas) (log : String) : Prop where
  /-- The lines are the rows of the canvases, and an empty one behind the last line end. -/
  lines_eq : textLines log = canvases.flatMap Canvas.rows ++ [[]]
  /-- Every canvas has dashes throughout above and below. -/
  edges : ∀ c ∈ canvases, c.row 0 = List.replicate (c.width + 2) '-' ∧
    c.row (Fin.last _) = List.replicate (c.width + 2) '-'
  /-- The dashed lines are these edges, the upper and the lower one of each canvas in turn. -/
  dashed_eq : (textLines log).filter isDashed =
    canvases.flatMap fun c => [c.row 0, c.row (Fin.last _)]
  dashed_length : ((textLines log).filter isDashed).length = 2 * canvases.length
  /-- Cut behind every second dashed line, the log falls into the canvases and nothing is left. -/
  cut_eq : cut (textLines log) = (canvases.map Canvas.rows, [[]])
  recovered_eq : recovered log = canvases.map Canvas.render

theorem length_edges (canvases : List Canvas) :
    (canvases.flatMap fun c => [c.row 0, c.row (Fin.last _)]).length = 2 * canvases.length := by
  induction canvases with
  | nil => rfl
  | cons c rest ih =>
    rw [List.flatMap_cons, List.length_append, ih, List.length_cons]
    simp only [List.length_cons, List.length_nil]
    omega

/-- Snapshots of legible canvases can be told apart in their log. -/
theorem isLog_result {canvases : List Canvas} (h : ∀ c ∈ canvases, c.Legible) :
    IsLog canvases (Output.ofSnapshots (canvases.map Canvas.render)).result := by
  have hlines := textLines_result h
  have hdashed := filter_isDashed_flatMap_rows h
  have hcut := cut_rows h
  rw [← hlines] at hdashed hcut
  refine
    { lines_eq := hlines
      edges := fun c hc => ⟨(h c hc).row_top, (h c hc).row_bottom⟩
      dashed_eq := hdashed
      dashed_length := by rw [hdashed, length_edges]
      cut_eq := hcut
      recovered_eq := ?_ }
  rw [recovered, hcut, List.map_map]
  apply List.map_congr_left
  intro c _
  rw [Function.comp_apply, ← Canvas.toList_render, String.ofList_toList]

open Progress

/-- A run that succeeds has snapshots of as many legible canvases as there are lines. -/
theorem exists_canvases_of_run {α : Type} [Percentage α] {script : String} {output : Output}
    (h : (run script : List α × Except Error Output).2 = .ok output) :
    ∃ canvases : List Canvas, snapshots none (rawLines script) = .ok (canvases.map Canvas.render) ∧
      canvases.length = (rawLines script).length ∧ IsLog canvases output.result ∧
      output = .ofSnapshots (canvases.map Canvas.render) := by
  rw [run_outcome, map_eq_ok_iff] at h
  obtain ⟨shots, hshots, rfl⟩ := h
  have hempty : ∀ c, (none : Slot) = some c → c.Legible := nofun
  obtain ⟨canvases, rfl, hlength, hall⟩ := snapshots_eq_ok hempty hshots
  exact ⟨canvases, hshots, hlength, isLog_result hall, rfl⟩

/-- The log of a run that succeeds can be cut into the snapshots of its commands without knowing
anything else. The lines that begin with a dash are two for each command, the edges of the frames.
So two runs with one log have made the same snapshots. -/
theorem log_cuts_into_snapshots {α : Type} [Percentage α] {script : String} {output : Output}
    (h : (run script : List α × Except Error Output).2 = .ok output) :
    (∃ canvases : List Canvas,
      snapshots none (rawLines script) = .ok (canvases.map Canvas.render) ∧
        canvases.length = (rawLines script).length ∧ IsLog canvases output.result ∧
        output.snapshot = (canvases.map Canvas.render).getLastD "") ∧
    ∀ (script' : String) (output' : Output),
      (run script' : List α × Except Error Output).2 = .ok output' →
        output'.result = output.result →
          (rawLines script').length = (rawLines script).length ∧
            snapshots none (rawLines script') = snapshots none (rawLines script) := by
  obtain ⟨canvases, hshots, hlength, hlog, rfl⟩ := exists_canvases_of_run h
  refine ⟨⟨canvases, hshots, hlength, hlog, rfl⟩, ?_⟩
  intro script' output' h' hresult
  obtain ⟨canvases', hshots', hlength', hlog', -⟩ := exists_canvases_of_run h'
  have hsame : canvases'.map Canvas.render = canvases.map Canvas.render := by
    rw [← hlog'.recovered_eq, ← hlog.recovered_eq, hresult]
  refine ⟨?_, ?_⟩
  · rw [← hlength', ← hlength, ← List.length_map Canvas.render, hsame, List.length_map]
  · rw [hshots', hshots, hsame]

/-- Two scripts with one log, on canvases of two sizes that are filled with the glyphs of the
frame. -/
theorem log_cuts_into_snapshots_frame_glyphs :
    let script := "C 2 1\nB 1 1 -\n\nC 1 2\r\nB 1 1 |\n"
    let script' := " C +2 1\nB 2 1 -\nC 1 02\nB 1 2 |"
    let output : Output :=
      { result := "----\n|  |\n----\n----\n|--|\n----\n---\n| |\n| |\n---\n---\n|||\n|||\n---\n"
        snapshot := "---\n|||\n|||\n---" }
    ((run script : List Float × Except Error Output).2 = .ok output ∧
      (run script' : List Float × Except Error Output).2 = .ok output) ∧
    (∃ canvases : List Canvas,
      snapshots none (rawLines script) = .ok (canvases.map Canvas.render) ∧
        canvases.length = (rawLines script).length ∧ IsLog canvases output.result ∧
        output.snapshot = (canvases.map Canvas.render).getLastD "") ∧
    (rawLines script').length = (rawLines script).length ∧
      snapshots none (rawLines script') = snapshots none (rawLines script) := by
  intro script script' output
  have h : (run script : List Float × Except Error Output).2 = .ok output := by
    rw [run_outcome]
    decide +kernel +zetaReduce
  have h' : (run script' : List Float × Except Error Output).2 = .ok output := by
    rw [run_outcome]
    decide +kernel +zetaReduce
  obtain ⟨hlog, hsame⟩ := log_cuts_into_snapshots h
  exact ⟨⟨h, h'⟩, hlog, hsame script' output h' rfl⟩

end Script

end GlyphCanvas
