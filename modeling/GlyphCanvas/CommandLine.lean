import GlyphCanvas.Session

/-!
# The command line

* `CommandLine.parse`: what the arguments ask for. They are read from left to right, and the first
  one that settles the matter does: a wrong one, or one that asks for the version or for help.
* `CommandLine.execute`: what the program writes and its exit code.

Options are `-o` or `--output` with a value and `--messages`; a value may stand in the same
argument, with or without an equals sign behind `-o`. An argument `--` ends the options.
-/

namespace GlyphCanvas.CommandLine

open Files

/-- What the arguments say about a session. -/
structure Options where
  input : Option String
  output : Option String
  messages : Bool
deriving DecidableEq

/-- Where the output goes unless the arguments say otherwise. -/
def defaultOutput : String := "output.txt"

/-- What the arguments ask for. -/
inductive Request where
  | session (options : Options)
  | version
  | help
  /-- The arguments are wrong. -/
  | misuse
deriving DecidableEq

/-- What one argument is, while options are still read. -/
inductive Argument where
  /-- `--` -/
  | endOfOptions
  | messages
  | version
  | help
  /-- The option for the output, perhaps with its value. -/
  | output (value : Option String)
  | input (path : String)
  | unknown
deriving DecidableEq

/-- A letter of a group of one-letter options, and what is joined to it. -/
def letter (c : Char) (joined : List Char) : Argument :=
  if c = 'V' then .version
  else if c = 'h' then .help
  else if c = 'o' then
    match joined with
    | [] => .output none
    | '=' :: value => .output (some (.ofList value))
    | value => .output (some (.ofList value))
  else .unknown

/-- A long option, cut at its first equals sign. -/
def word (name : List Char) (value : Option (List Char)) : Argument :=
  match String.ofList name, value with
  | "output", value => .output (value.map .ofList)
  | "messages", none => .messages
  | "version", none => .version
  | "help", none => .help
  | _, _ => .unknown

/-- What stands behind the first equals sign, if there is one. -/
def afterEquals? (text : List Char) : Option (List Char) :=
  match text.dropWhile (· ≠ '=') with
  | [] => none
  | _ :: rest => some rest

/-- What an argument is. A single dash is a path like any other. -/
def classify (argument : String) : Argument :=
  match argument.toList with
  | ['-', '-'] => .endOfOptions
  | '-' :: '-' :: text => word (text.takeWhile (· ≠ '=')) (afterEquals? text)
  | '-' :: c :: joined => letter c joined
  | _ => .input argument

/-- What a file is named for. -/
inductive Role where
  | input
  | output
deriving DecidableEq

/-- The file named for a role. -/
def Options.file? (options : Options) : Role → Option String
  | .input => options.input
  | .output => options.output

/-- The options with this file for a role. -/
def Options.setFile (options : Options) (path : String) : Role → Options
  | .input => { options with input := some path }
  | .output => { options with output := some path }

/-- The options with one more file. For each role a file may be named once. -/
def withFile (role : Role) (options : Options) (path : String) : Option Options :=
  if path = "" ∨ (options.file? role).isSome then none else some (options.setFile path role)

/-- Reads arguments that are all paths. -/
def parsePaths (options : Options) : List String → Request
  | [] => .session options
  | path :: rest =>
    match withFile .input options path with
    | some options => parsePaths options rest
    | none => .misuse

/-- Reads arguments on top of the options read so far. -/
def parseFrom (options : Options) : List String → Request
  | [] => .session options
  | argument :: rest =>
    match classify argument with
    | .endOfOptions => parsePaths options rest
    | .version => .version
    | .help => .help
    | .unknown => .misuse
    | .messages => if options.messages then .misuse else parseFrom { options with messages := true } rest
    | .input path =>
      match withFile .input options path with
      | some options => parseFrom options rest
      | none => .misuse
    | .output (some path) =>
      match withFile .output options path with
      | some options => parseFrom options rest
      | none => .misuse
    | .output none =>
      match rest with
      | [] => .misuse
      | next :: rest =>
        match classify next with
        | .input path =>
          match withFile .output options path with
          | some options => parseFrom options rest
          | none => .misuse
        | _ => .misuse

/-- What the arguments ask for. -/
def parse (arguments : List String) : Request :=
  parseFrom { input := none, output := none, messages := false } arguments

/-- What the program leaves behind beside the output file. -/
structure Outcome where
  code : Nat
  stdout : String
  stderr : String
deriving DecidableEq

/-- The answer to a request for the version. -/
def versionText : String := "canvas-script 0.1.0\n"

/-- How the program is called. -/
def usageText : String := "Usage: canvas-script [OPTIONS] [INPUT]\n"

/-- The answer to a request for help. -/
def helpText : String :=
  "Draw on a character canvas from a script of C/L/R/B commands\n\n" ++ usageText ++
  "\nArguments:\n" ++
  "  [INPUT]  Script to run, one command per line\n" ++
  "\nOptions:\n" ++
  "  -o, --output <OUTPUT>  Where to write every intermediate snapshot [default: output.txt]\n" ++
  "      --messages         Emit progress and the result as JSON lines on stdout\n" ++
  "  -h, --help             Print help\n" ++
  "  -V, --version          Print version\n"

/-- The exit code for wrong arguments. -/
def misuseCode : Nat := 2

/-- Whether a message says that the session came to nothing. -/
def isFailure : Message → Bool
  | .failed _ => true
  | .progress _ | .done .. => false

/-- A session told as messages, one per line. -/
def reportMessages (messages : List Message) : Outcome where
  code := if messages.any isFailure then 1 else 0
  stdout := String.join (messages.map (·.encode ++ "\n"))
  stderr := ""

/-- A session of which only the outcome is told. -/
def reportOutcome : Except Session.Error Session.Prepared → Outcome
  | .ok prepared => { code := 0, stdout := prepared.snapshot ++ "\n", stderr := "" }
  | .error error => { code := 1, stdout := "", stderr := error.message ++ "\n" }

variable {m : Type → Type} [Monad m] [FileAccess m]

/-- Carries out a session. -/
def runSession (options : Options) : m Outcome := do
  let output := options.output.getD defaultOutput
  if options.messages then
    return reportMessages (← Session.messages options.input output)
  else
    let (_, outcome) ← Session.prepare options.input output
    return reportOutcome outcome

/-- Carries out what the arguments ask for. -/
def execute (arguments : List String) : m Outcome :=
  match parse arguments with
  | .session options => runSession options
  | .version => return { code := 0, stdout := versionText, stderr := "" }
  | .help => return { code := 0, stdout := helpText, stderr := "" }
  | .misuse => return { code := misuseCode, stdout := "", stderr := usageText }

end GlyphCanvas.CommandLine
