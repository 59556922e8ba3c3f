import GlyphCanvas.Files.Access
import GlyphCanvas.Message
import GlyphCanvas.Script.Run

/-!
# From a script file to an output file

* `Session.readScript`: the text of the script file.
* `Session.prepare`: reads the script, runs it and writes the result. The percentages of the run
  are reported even if writing fails.
* `Session.messages`: the same as messages: every percentage, then one message on the outcome.

All three work with any access to files.
-/

namespace GlyphCanvas.Session

open Files

/-- Why a session came to nothing. -/
inductive Error where
  /-- No script file was named. -/
  | noInput
  /-- The script file cannot be read. -/
  | unreadable (path : String) (cause : FileError)
  /-- The script file does not hold text in UTF-8. -/
  | notText
  /-- A line of the script was refused. -/
  | refused (cause : Script.Error)
  /-- The output file cannot be written. -/
  | unwritable (path : String) (cause : FileError)
deriving DecidableEq

/-- The reasons in words, the outermost first. -/
def Error.chain : Error → List String
  | noInput => ["You need to provide the input file"]
  | unreadable path cause => [s!"Couldn't read the file: {path}", cause.message]
  | notText => ["Couldn't read the non-text format file"]
  | refused cause => ["Couldn't read the file", cause.message]
  | unwritable path cause => [s!"Couldn't write the output to {path}", cause.message]

/-- All reasons on one line. -/
def Error.message (e : Error) : String :=
  ": ".intercalate e.chain

/-- What a session produces. -/
structure Prepared where
  result : String
  /-- The path of the file that holds the result. -/
  url : String
  snapshot : String
deriving DecidableEq

variable {m : Type → Type} [Monad m] [FileAccess m]

/-- The text of the script file. -/
def readScript (input : Option String) : m (Except Error String) := do
  match input with
  | none => return .error .noInput
  | some path =>
    match ← FileAccess.readFile path with
    | .error cause => return .error (.unreadable path cause)
    | .ok bytes =>
      match String.fromUTF8? bytes with
      | some text => return .ok text
      | none => return .error .notText

/-- Runs the script file and writes all canvases to the output file. -/
def prepare (input : Option String) (output : String) :
    m (List Float × Except Error Prepared) := do
  match ← readScript input with
  | .error error => return ([], .error error)
  | .ok script =>
    let (reports, outcome) := Script.run script
    match outcome with
    | .error cause => return (reports, .error (.refused cause))
    | .ok produced =>
      match ← FileAccess.writeFile output produced.result.toUTF8 with
      | .error cause => return (reports, .error (.unwritable output cause))
      | .ok () =>
        let prepared := { result := produced.result, url := output, snapshot := produced.snapshot }
        return (reports, .ok prepared)

/-- The message on the outcome of a session. -/
def closing : Except Error Prepared → Message
  | .ok prepared => .done prepared.result prepared.url prepared.snapshot
  | .error error => .failed error.message

/-- All messages of a session, in order. -/
def messages (input : Option String) (output : String) : m (List Message) := do
  let (reports, outcome) ← prepare input output
  return reports.map Message.progress ++ [closing outcome]

end GlyphCanvas.Session
