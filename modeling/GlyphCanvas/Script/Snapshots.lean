import GlyphCanvas.Script.Run

/-!
# A script as a fold

`Script.snapshots` applies lines in order to a slot, without a state machine, a cursor or a
progress: the canvases they make, or the first line that is refused. `Output.ofSnapshots` is the
output made of canvases. Together they say what a run is to produce.
-/

namespace GlyphCanvas.Script

/-- The canvases that some lines make one after the other, or the first line refused. -/
def snapshots (slot : Slot) : List Line → Except Error (List String)
  | [] => .ok []
  | line :: rest =>
    let reply := slot.applyLine line.text
    match reply.answer with
    | .ok snapshot => (snapshots reply.slot rest).map (snapshot :: ·)
    | .error cause => .error { line := line.number, cause }

/-- Every canvas with a line end behind it, and the last canvas. -/
def Output.ofSnapshots (shots : List String) : Output where
  result := String.join (shots.map (· ++ "\n"))
  snapshot := shots.getLastD ""

end GlyphCanvas.Script
