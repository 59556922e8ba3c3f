import GlyphCanvas.Text.Blank

/-!
# The lines of a script

A script holds one command per line. `Script.lines` are the lines that are not blank, trimmed, each
with its number among all lines, from 1. A carriage return before a line end is white space like
any other.
-/

namespace GlyphCanvas.Script

/-- A line of a script and its place in it. -/
structure Line where
  number : Nat
  text : String
deriving DecidableEq

/-- The lines of a script that hold a word, without the white space around it. -/
def lines (script : String) : List Line :=
  ((Text.pieces (· = '\n') script.toList).zipIdx 1).filterMap fun (text, number) =>
    let trimmed := Text.trim text
    if trimmed.isEmpty then none else some { number, text := String.ofList trimmed }

example : lines "\n C 1 1\r\n\t\nX" = [⟨2, "C 1 1"⟩, ⟨4, "X"⟩] := by decide +kernel

end GlyphCanvas.Script
