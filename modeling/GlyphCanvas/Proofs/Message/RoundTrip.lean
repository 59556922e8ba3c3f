import GlyphCanvas.Proofs.Json.Texts
import GlyphCanvas.Proofs.Message.OneLine

/-!
# Messages of texts are read back

* `Message.textMembers`: what is written for an object whose values are texts.
* `Message.read?_textMembers`: such an object is read back, whatever its keys and texts are.
* `Message.Textual`: the messages that end a run. They hold texts only.
* `Message.Textual.decode_encode`: a message of texts is read back from its line.
* `Message.textual_read_back`: so it is one line without control characters, and different messages
  are different lines.
-/

namespace GlyphCanvas.Message

open Json

/-! ## Objects of texts -/

/-- A key and a text as they are written in an object. -/
def textMember (field : String × String) : List Char :=
  quote field.1.toList ++ ':' :: quote field.2.toList

/-- An object with these texts, as it is written. -/
def textMembers (fields : List (String × String)) : List Char :=
  members (fields.map fun field => (field.1, quote field.2.toList))

/-- A key and a text as a member of an object. -/
def member (field : String × String) : String × Json :=
  (field.1, .string field.2)

theorem textMembers_cons (field : String × String) (fields : List (String × String)) :
    textMembers (field :: fields) =
      '\x7b' :: (textMember field ++ fields.flatMap (fun field => ',' :: textMember field)) ++
        ['\x7d'] := by
  have hjoin : ∀ first : List Char, [','].intercalate (first :: fields.map textMember) =
      first ++ fields.flatMap fun field => ',' :: textMember field := by
    induction fields with
    | nil => simp
    | cons next fields ih =>
      intro first
      rw [List.map_cons, List.intercalate_cons_cons, ih]
      simp
  simp only [textMembers, members, List.map_map]
  exact congrArg (fun text => '\x7b' :: text ++ ['\x7d']) (hjoin (textMember field))

theorem key?_quote (key : String) (rest : List Char) :
    key? (key.toList.flatMap quoteChar ++ '"' :: ':' :: rest) = some (key, rest) := by
  have hcolon : skipBlanks (':' :: rest) = ':' :: rest := rfl
  simp only [key?, unquote?_quote, hcolon, bind, Option.bind_some, String.ofList_toList]

theorem textMember_append (field : String × String) (rest : List Char) :
    textMember field ++ rest =
      '"' :: (field.1.toList.flatMap quoteChar ++ '"' :: ':' :: (quote field.2.toList ++ rest)) := by
  simp [textMember, quote]

theorem beginning?_quote (room : Bool) (text : String) (rest : List Char) :
    beginning? room (skipBlanks (quote text.toList ++ rest)) =
      some (.value (.string text), rest) := by
  have hquote : skipBlanks (quote text.toList ++ rest) =
      '"' :: (text.toList.flatMap quoteChar ++ '"' :: rest) := by
    simp [quote, skipBlanks, isBlank]
  rw [hquote, beginning?, unquote?_quote]
  simp only [Option.map_some, String.ofList_toList]

theorem beginning?_textMember (field : String × String) (rest : List Char) :
    beginning? true (skipBlanks ('\x7b' :: (textMember field ++ rest))) =
      some (.frame (.object [] field.1), quote field.2.toList ++ rest) := by
  rw [textMember_append]
  show (key? _).map _ = _
  rw [key?_quote]
  rfl

theorem continuation?_textMember (v : Json) (before : List (String × Json)) (key : String)
    (field : String × String) (rest : List Char) :
    continuation? v (.object before key) (skipBlanks (',' :: (textMember field ++ rest))) =
      some (.frame (.object ((key, v) :: before) field.1), quote field.2.toList ++ rest) := by
  rw [textMember_append]
  show (key? _).map _ = _
  rw [key?_quote]
  rfl

/-- A text as the next value of a container is read up to what follows it there. -/
theorem readOn_text (f : Frame) (frames : List Frame) (text : String) (rest : List Char) :
    readOn frames (.frame f) (quote text.toList ++ rest) =
      (continuation? (.string text) f (skipBlanks rest)).bind fun (focus, rest) =>
        readOn frames focus rest := by
  rw [readOn_frame, beginning?_quote]
  exact readOn_value ..

/-- From the first value on, an object of texts is read to its end. -/
theorem readOn_texts (before : List (String × Json)) (field : String × String)
    (fields : List (String × String)) (rest : List Char) :
    readOn [] (.frame (.object before field.1))
        (quote field.2.toList ++ (fields.flatMap (fun field => ',' :: textMember field) ++
          '\x7d' :: rest)) =
      some (.object (before.reverse ++ (field :: fields).map member), rest) := by
  induction fields generalizing before field with
  | nil =>
    rw [readOn_text]
    show readOn [] (.value (.object (member field :: before).reverse)) rest = _
    rw [readOn_end, List.reverse_cons]
    rfl
  | cons next fields ih =>
    rw [readOn_text, List.flatMap_cons, List.cons_append, List.cons_append, List.append_assoc,
      continuation?_textMember]
    refine (ih (member field :: before) next).trans ?_
    rw [List.reverse_cons, List.append_assoc]
    rfl

/-- An object of texts is read back from what is written for it, whatever follows. -/
theorem read?_textMembers {fields : List (String × String)} (h : fields ≠ []) (rest : List Char) :
    read? (textMembers fields ++ rest) = some (.object (fields.map member), rest) := by
  obtain ⟨field, fields, rfl⟩ := List.exists_cons_of_ne_nil h
  rw [textMembers_cons, List.append_assoc, List.cons_append, List.append_assoc, read?,
    beginning?_textMember]
  exact readOn_texts [] field fields rest

/-! ## Messages -/

/-- The message holds texts only: it ends a run. -/
inductive Textual : Message → Prop where
  | done (result url snapshot : String) : Textual (.done result url snapshot)
  | failed (error : String) : Textual (.failed error)

/-- The texts of a message with their keys. -/
def texts : Message → List (String × String)
  | progress _ => []
  | done result url snapshot => [("result", result), ("url", url), ("snapshot", snapshot)]
  | failed error => [("error", error)]

variable {message other : Message}

theorem Textual.texts_ne_nil (h : message.Textual) : message.texts ≠ [] := by
  cases h <;> exact List.cons_ne_nil _ _

theorem Textual.toList_encode (h : message.Textual) :
    message.encode.toList = textMembers message.texts := by
  cases h <;> exact String.toList_ofList

/-- The keys tell the kind of the message. -/
theorem Textual.ofJson?_texts (h : message.Textual) :
    ofJson? (.object (message.texts.map member)) = some message := by
  cases h <;> rfl

theorem Textual.decode_encode (h : message.Textual) : decode message.encode = .ok message := by
  have hread := read?_textMembers h.texts_ne_nil []
  rw [List.append_nil] at hread
  rw [decode, h.toList_encode, hread]
  simp only [h.ofJson?_texts]
  rfl

theorem Textual.encode_inj (h : message.Textual) (hother : other.Textual)
    (heq : other.encode = message.encode) : other = message := by
  have hdecode := hother.decode_encode
  rw [heq, h.decode_encode] at hdecode
  cases hdecode
  rfl

/-- The message that ends a run, whatever its texts are, is one line without control characters. It
is read back from that line as the same message, so no other such message is written in this way. -/
theorem textual_read_back (h : message.Textual) :
    Plain message.encode.toList ∧
      message.encode.toList.splitOn '\n' = [message.encode.toList] ∧
      decode message.encode = .ok message ∧
      ∀ other : Message, other.Textual → other.encode = message.encode → other = message :=
  ⟨message.plain_encode, message.splitOn_encode, h.decode_encode, fun _ => h.encode_inj⟩

/-- Quotes, backslashes, line ends and other control characters, and a text that looks like a
message of another kind. -/
theorem textual_read_back_awkward :
    let message := done "\"\\\r\n\t\x00\x1f" "\x7b\"error\":\"e\"\x7d" "\\u0041\x7f😀"
    message.Textual ∧
      Plain message.encode.toList ∧
      message.encode.toList.splitOn '\n' = [message.encode.toList] ∧
      decode message.encode = .ok message ∧
      ∀ other : Message, other.Textual → other.encode = message.encode → other = message := by
  intro message
  have htextual : message.Textual := .done _ _ _
  exact ⟨htextual, textual_read_back htextual⟩

end GlyphCanvas.Message
