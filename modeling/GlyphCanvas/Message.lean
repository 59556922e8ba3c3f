import GlyphCanvas.Json.Reader

/-!
# Messages

A run tells whoever started it how it goes: percentages on the way, then one last message.

* `Message.encode`: a message as one line of JSON.
* `Message.ofJson?`: the message that a JSON value stands for. Nothing in the value names the kind
  of message: the kinds are tried in order, and each asks for its own keys and ignores others.
* `Message.decode`: the message that a JSON text stands for.
-/

namespace GlyphCanvas

/-- What a run tells. -/
inductive Message where
  /-- How far the run is. -/
  | progress (percentage : Float)
  /-- The run is over: all canvases, where they were written, the last canvas. -/
  | done (result url snapshot : String)
  /-- The run came to nothing. -/
  | failed (error : String)

namespace Message

/-- An object of members whose values are JSON already. -/
def members (fields : List (String × List Char)) : List Char :=
  let one (field : String × List Char) : List Char :=
    Json.quote field.1.toList ++ ':' :: field.2
  '\x7b' :: [','].intercalate (fields.map one) ++ ['\x7d']

/-- The message as JSON, on one line. -/
def encode (message : Message) : String :=
  String.ofList <| members <| match message with
    | progress percentage => [("progress", Json.writeNumber percentage)]
    | done result url snapshot =>
      [("result", Json.quote result.toList), ("url", Json.quote url.toList),
        ("snapshot", Json.quote snapshot.toList)]
    | failed error => [("error", Json.quote error.toList)]

/-- The value of a key that an object has exactly once. -/
def only? (key : String) (members : List (String × Json)) : Option Json :=
  match members.filter (·.1 = key) with
  | [member] => some member.2
  | _ => none

/-- The text of a key that an object has exactly once. -/
def onlyText? (key : String) (members : List (String × Json)) : Option String :=
  match only? key members with
  | some (.string text) => some text
  | _ => none

/-- The number of a key that an object has exactly once. -/
def onlyNumber? (key : String) (members : List (String × Json)) : Option Float :=
  match only? key members with
  | some (.number value) => some value
  | _ => none

/-- The members of an object as a progress message. -/
def progress? (members : List (String × Json)) : Option Message :=
  (onlyNumber? "progress" members).map progress

/-- The members of an object as the message of a run that is over. -/
def done? (members : List (String × Json)) : Option Message := do
  return done (← onlyText? "result" members) (← onlyText? "url" members)
    (← onlyText? "snapshot" members)

/-- The members of an object as the message of a run that came to nothing. -/
def failed? (members : List (String × Json)) : Option Message :=
  (onlyText? "error" members).map failed

/-- The message that a value stands for. Only objects stand for messages. -/
def ofJson? : Json → Option Message
  | .object members => progress? members <|> done? members <|> failed? members
  | _ => none

/-- Why a text is no message. -/
inductive DecodeError where
  /-- The text is not JSON. -/
  | notJson
  /-- The text begins with a JSON value that stands for no message. -/
  | noMessage
deriving DecidableEq

/-- What is said about a value that stands for no message. -/
def DecodeError.noMessage.text : String :=
  "data did not match any variant of untagged enum WorkerMessage"

/-- The message that a text stands for. The value is judged before what follows it. -/
def decode (text : String) : Except DecodeError Message :=
  match Json.read? text.toList with
  | none => .error .notJson
  | some (value, rest) =>
    match ofJson? value with
    | none => .error .noMessage
    | some message => if rest.all Json.isBlank then .ok message else .error .notJson

end Message

end GlyphCanvas
