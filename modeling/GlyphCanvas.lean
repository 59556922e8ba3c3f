import GlyphCanvas.Action
import GlyphCanvas.Canvas.Basic
import GlyphCanvas.Canvas.Cell
import GlyphCanvas.Canvas.Draw
import GlyphCanvas.Canvas.Flood
import GlyphCanvas.Canvas.Grid
import GlyphCanvas.Canvas.Region
import GlyphCanvas.Command.Basic
import GlyphCanvas.Command.Grammar
import GlyphCanvas.Command.History
import GlyphCanvas.Command.Reader
import GlyphCanvas.Command.Slot
import GlyphCanvas.Command.Symmetry
import GlyphCanvas.CommandLine
import GlyphCanvas.Error
import GlyphCanvas.Files.Access
import GlyphCanvas.Files.Directory
import GlyphCanvas.Json.Basic
import GlyphCanvas.Json.Number
import GlyphCanvas.Json.Quote
import GlyphCanvas.Json.Reader
import GlyphCanvas.Main
import GlyphCanvas.Message
import GlyphCanvas.Numeral.Decimal
import GlyphCanvas.Numeral.Shortest
import GlyphCanvas.Numeral.Signed
import GlyphCanvas.Point
import GlyphCanvas.Proofs.Canvas.Flood
import GlyphCanvas.Proofs.Canvas.Position
import GlyphCanvas.Proofs.Canvas.Rows
import GlyphCanvas.Proofs.Command.Display
import GlyphCanvas.Proofs.Command.Grammar
import GlyphCanvas.Proofs.Files.Writing
import GlyphCanvas.Proofs.Message.OneLine
import GlyphCanvas.Proofs.Outcome
import GlyphCanvas.Proofs.Slot.Effect
import GlyphCanvas.Progress.Blend
import GlyphCanvas.Progress.Meter
import GlyphCanvas.Script.Lines
import GlyphCanvas.Script.Run
import GlyphCanvas.Script.Snapshots
import GlyphCanvas.Session
import GlyphCanvas.Text.Blank
import GlyphCanvas.Text.Extending
import GlyphCanvas.Text.Invisible
import GlyphCanvas.Text.Quoted
import GlyphCanvas.Proofs.Slot.Legible
import GlyphCanvas.Proofs.Slot.Sheet
import GlyphCanvas.Proofs.Slot.Work
import GlyphCanvas.Proofs.Script.Lines
import GlyphCanvas.Proofs.Script.Fold
import GlyphCanvas.Proofs.Progress.Rational
import GlyphCanvas.Proofs.Script.Reports
import GlyphCanvas.Proofs.Script.Log
import GlyphCanvas.Proofs.Script.Refusal
import GlyphCanvas.Proofs.Text.Words
import GlyphCanvas.Proofs.Canvas.Outline
import GlyphCanvas.Proofs.Canvas.Likeness
import GlyphCanvas.Proofs.Slot.Agreement
import GlyphCanvas.Proofs.Slot.Transposition
import GlyphCanvas.Proofs.Slot.Recolouring
import GlyphCanvas.Proofs.Script.Resumption
import GlyphCanvas.Proofs.Slot.Reading
import GlyphCanvas.Proofs.Script.Joining
import GlyphCanvas.Proofs.Script.Likeness
import GlyphCanvas.Proofs.Script.Layout
import GlyphCanvas.Proofs.Script.Stages
import GlyphCanvas.Proofs.Session.Course
import GlyphCanvas.Proofs.Session.Posting
import GlyphCanvas.Proofs.CommandLine.Arguments
import GlyphCanvas.Proofs.CommandLine.Modes
import GlyphCanvas.Proofs.Json.Texts
import GlyphCanvas.Proofs.Message.RoundTrip
import GlyphCanvas.Proofs.Message.Shape
import GlyphCanvas.Proofs.Canvas.Drawing
import GlyphCanvas.Proofs.Slot.Drawings
import GlyphCanvas.Proofs.Slot.Rectangle
import GlyphCanvas.Proofs.Canvas.Regions
import GlyphCanvas.Proofs.Progress.Readings
import GlyphCanvas.Proofs.Slot.Percentages
import GlyphCanvas.Proofs.Canvas.Creation
import GlyphCanvas.Proofs.Canvas.Machine
import GlyphCanvas.Proofs.Slot.Verdict
import GlyphCanvas.Proofs.Canvas.Worklist
import GlyphCanvas.Proofs.Command.Sides
import GlyphCanvas.Proofs.Machine.Commands
