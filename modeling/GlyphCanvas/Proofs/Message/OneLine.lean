import GlyphCanvas.Message
import GlyphCanvas.Proofs.Text.Words

/-!
# A message is one line

* `Json.Plain`: a text without control characters.
* `Json.plain_writeNumber`, `Json.plain_quote`: numbers and strings are written as plain texts,
  whatever they are.
* `Message.plain_encode`: so a message is written as a plain text, and there is no line end in it.
* `Message.splitOn_join_encode`: messages with a line end behind each can be told apart.
-/

namespace GlyphCanvas

namespace Json

/-- No character of the text lies below U+0020. -/
def Plain (text : List Char) : Prop :=
  ∀ c ∈ text, 0x20 ≤ c.toNat

instance (text : List Char) : Decidable (Plain text) :=
  List.decidableBAll (fun c : Char => 0x20 ≤ c.toNat) text

theorem plain_nil : Plain [] :=
  fun _ h => absurd h List.not_mem_nil

theorem plain_cons {c : Char} {text : List Char} :
    Plain (c :: text) ↔ 0x20 ≤ c.toNat ∧ Plain text :=
  List.forall_mem_cons

theorem plain_append {text more : List Char} : Plain (text ++ more) ↔ Plain text ∧ Plain more :=
  List.forall_mem_append

theorem plain_flatMap {α : Type} {f : α → List Char} {values : List α}
    (h : ∀ value ∈ values, Plain (f value)) : Plain (values.flatMap f) := by
  intro c hc
  obtain ⟨value, hvalue, hc⟩ := List.mem_flatMap.1 hc
  exact h value hvalue c hc

theorem Plain.sublist {text part : List Char} (h : Plain text) (hpart : part.Sublist text) :
    Plain part :=
  fun c hc => h c (hpart.subset hc)

theorem Plain.newline_not_mem {text : List Char} (h : Plain text) : '\n' ∉ text :=
  fun hmem => absurd (h '\n' hmem) (by decide)

/-! ## Numbers -/

theorem plain_toDigits (n : Nat) : Plain (Nat.toDigits 10 n) := by
  intro c hc
  have hdigit := Nat.isDigit_of_mem_toDigits (by decide) (by decide) hc
  simp only [Char.isDigit, Bool.and_eq_true, decide_eq_true_eq] at hdigit
  exact Nat.le_trans (by decide) (UInt32.le_iff_toNat_le.1 hdigit.1)

theorem plain_zeros (n : Nat) : Plain (List.replicate n '0') := by
  intro c hc
  rw [List.eq_of_mem_replicate hc]
  decide

theorem plain_layout {digits : List Char} (h : Plain digits) (power : Int) :
    Plain (layout digits power) := by
  have htake (n : Nat) : Plain (digits.take n) := h.sublist (List.take_sublist n digits)
  have hdrop (n : Nat) : Plain ('.' :: digits.drop n) :=
    plain_cons.2 ⟨by decide, h.sublist (List.drop_sublist n digits)⟩
  have hfraction : Plain (if digits.length ≤ 1 then [] else '.' :: digits.tail) := by
    split
    · exact plain_nil
    · rw [← List.drop_one]
      exact hdrop 1
  have hsign : 0x20 ≤ (if 0 < power + digits.length then '+' else '-').toNat := by
    split <;> decide
  have hmark : 0x20 ≤ 'e'.toNat := by decide
  have hone : Plain ['.', '0'] := by decide
  have hzero : Plain ['0', '.'] := by decide
  simp only [layout]
  split
  · split
    · exact plain_append.2 ⟨plain_append.2 ⟨h, plain_zeros _⟩, hone⟩
    · exact plain_append.2 ⟨htake _, hdrop _⟩
  · split
    · exact plain_append.2 ⟨plain_append.2 ⟨hzero, plain_zeros _⟩, h⟩
    · exact plain_append.2 ⟨plain_append.2 ⟨htake _, hfraction⟩,
        plain_cons.2 ⟨hmark, plain_cons.2 ⟨hsign, plain_toDigits _⟩⟩⟩

theorem plain_writeMagnitude (bits : Nat) : Plain (writeMagnitude bits) := by
  unfold writeMagnitude
  split
  · exact plain_layout (plain_toDigits _) _
  · decide

theorem plain_writeNumber (value : Float) : Plain (writeNumber value) := by
  simp only [writeNumber]
  split
  · decide
  · refine plain_append.2 ⟨?_, plain_writeMagnitude _⟩
    split <;> decide

/-! ## Strings -/

theorem le_hexDigit {n : Nat} (h : n < 16) : 0x20 ≤ (hexDigit n).toNat := by
  have hall : ∀ n < 16, 0x20 ≤ (hexDigit n).toNat := by decide
  exact hall n h

theorem plain_quoteChar (c : Char) : Plain (quoteChar c) := by
  unfold quoteChar
  -- seven characters have an escape of their own
  iterate 7
    refine iteInduction (fun _ => by decide) fun _ => ?_
  split
  · have hmark : Plain ['\\', 'u', '0', '0'] := by decide
    have hhigh : 0x20 ≤ (hexDigit (c.toNat / 16)).toNat := le_hexDigit (by omega)
    have hlow : 0x20 ≤ (hexDigit (c.toNat % 16)).toNat := le_hexDigit (by omega)
    exact plain_append.2 ⟨hmark, plain_cons.2 ⟨hhigh, plain_cons.2 ⟨hlow, plain_nil⟩⟩⟩
  · next h => exact plain_cons.2 ⟨Nat.le_of_not_lt h, plain_nil⟩

theorem plain_quote (text : List Char) : Plain (quote text) := by
  have hmark : Plain ['"'] := by decide
  exact plain_append.2 ⟨plain_append.2 ⟨hmark, plain_flatMap fun c _ => plain_quoteChar c⟩, hmark⟩

end Json

namespace Message

open Json

theorem plain_members {fields : List (String × List Char)} (h : ∀ field ∈ fields, Plain field.2) :
    Plain (members fields) := by
  have hopen : Plain ['\x7b'] := by decide
  have hclose : Plain ['\x7d'] := by decide
  have hcomma : Plain [','] := by decide
  refine plain_append.2 ⟨plain_append.2 ⟨hopen, Text.forall_mem_intercalate hcomma ?_⟩, hclose⟩
  intro text htext
  obtain ⟨field, hfield, rfl⟩ := List.mem_map.1 htext
  exact plain_append.2 ⟨plain_quote _, plain_cons.2 ⟨by decide, h field hfield⟩⟩

theorem plain_encode (message : Message) : Plain message.encode.toList := by
  unfold encode
  rw [String.toList_ofList]
  apply plain_members
  cases message with
  | progress percentage => simp [plain_writeNumber]
  | done result url snapshot => simp [plain_quote]
  | failed error => simp [plain_quote]

theorem splitOn_encode (message : Message) :
    message.encode.toList.splitOn '\n' = [message.encode.toList] :=
  List.splitOn_eq_singleton message.plain_encode.newline_not_mem

/-- Messages with a line end behind each are one line each, and an empty one behind the last line
end. -/
theorem splitOn_join_encode (messages : List Message) :
    (String.join (messages.map (·.encode ++ "\n"))).toList.splitOn '\n' =
      messages.map (·.encode.toList) ++ [[]] := by
  have hjoin : messages.map (·.encode ++ "\n") = (messages.map encode).map (· ++ "\n") := by
    rw [List.map_map]
    rfl
  rw [hjoin, Text.splitOn_join, List.flatMap_map]
  simp only [splitOn_encode, ← List.map_eq_flatMap]

end Message

end GlyphCanvas
