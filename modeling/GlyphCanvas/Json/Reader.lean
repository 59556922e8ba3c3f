import GlyphCanvas.Json.Basic
import GlyphCanvas.Json.Number
import GlyphCanvas.Json.Quote

/-!
# Reading JSON

* `Json.read?`: the value at the beginning of a text, and what follows it. Arrays and objects may
  be nested `Json.maxDepth` deep.
* `Json.beginning?`, `Json.continuation?`: the two kinds of places at which a token is expected,
  before a value and behind one.

The containers around the place of reading are kept in a list of frames, innermost first. Every
move of the reader takes at least one character from the text, so reading ends.
-/

namespace GlyphCanvas

namespace Json

/-- How deep arrays and objects may be nested. -/
def maxDepth : Nat := 127

/-- White space between the tokens of a JSON text. -/
def isBlank (c : Char) : Bool :=
  c = ' ' || c = '\t' || c = '\n' || c = '\r'

/-- A text without the white space at its beginning. -/
def skipBlanks (s : List Char) : List Char :=
  s.dropWhile isBlank

theorem length_skipBlanks_le (s : List Char) : (skipBlanks s).length ≤ s.length :=
  (List.dropWhile_sublist _).length_le

/-- To skip the blanks and then take one character shortens a text. -/
theorem length_lt_of_skipBlanks {s rest : List Char} {c : Char} (h : skipBlanks s = c :: rest) :
    rest.length < s.length := by
  have := length_skipBlanks_le s
  rwa [h] at this

/-- A container of which some members have been read, the last one first. -/
inductive Frame where
  | array (before : List Json)
  | object (before : List (String × Json)) (key : String)

/-- What has just been read: a whole value, or the beginning of a container up to its next
value. -/
inductive Focus where
  | value (v : Json)
  | frame (f : Frame)

/-- A member's key with its colon, behind the opening quote. -/
def key? (s : List Char) : Option (String × List Char) := do
  let (key, rest) ← unquote? s
  match skipBlanks rest with
  | ':' :: rest => some (String.ofList key, rest)
  | _ => none

/-- The token at which a value begins, without blanks in front: the value itself if it is no
container or an empty one. Containers are refused where there is no `room` for one more. -/
def beginning? (room : Bool) : List Char → Option (Focus × List Char)
  | 'n' :: 'u' :: 'l' :: 'l' :: rest => some (.value .null, rest)
  | 't' :: 'r' :: 'u' :: 'e' :: rest => some (.value (.boolean true), rest)
  | 'f' :: 'a' :: 'l' :: 's' :: 'e' :: rest => some (.value (.boolean false), rest)
  | '"' :: rest => (unquote? rest).map fun (text, rest) => (.value (.string (.ofList text)), rest)
  | '[' :: rest =>
    if room then
      match skipBlanks rest with
      | ']' :: rest => some (.value (.array []), rest)
      | rest => some (.frame (.array []), rest)
    else none
  | '\x7b' :: rest =>
    if room then
      match skipBlanks rest with
      | '\x7d' :: rest => some (.value (.object []), rest)
      | '"' :: rest => (key? rest).map fun (key, rest) => (.frame (.object [] key), rest)
      | _ => none
    else none
  | s => (readNumber? s).map fun (value, rest) => (.value (.number value), rest)

/-- The token behind a member of a container, without blanks in front: a comma, after which the
container goes on, or its end. -/
def continuation? (v : Json) : Frame → List Char → Option (Focus × List Char)
  | .array before, ',' :: rest => some (.frame (.array (v :: before)), rest)
  | .array before, ']' :: rest => some (.value (.array (v :: before).reverse), rest)
  | .object before key, ',' :: rest =>
    match skipBlanks rest with
    | '"' :: rest =>
      (key? rest).map fun (next, rest) => (.frame (.object ((key, v) :: before) next), rest)
    | _ => none
  | .object before key, '\x7d' :: rest => some (.value (.object ((key, v) :: before).reverse), rest)
  | _, _ => none

/-! ## Every reader leaves less -/

theorem leavesUnder_key? (s : List Char) : LeavesUnder s.length (key? s) := by
  refine .bind (leavesUnder_unquote? s) fun key rest hrest => ?_
  dsimp only
  split
  · next hcolon => exact .some (Nat.lt_trans (length_lt_of_skipBlanks hcolon) hrest)
  · exact .none

theorem leavesUnder_someDigits? (s : List Char) : LeavesUnder s.length (someDigits? s) := by
  have hlength : (s.takeWhile Char.isDigit ++ s.dropWhile Char.isDigit).length = s.length := by
    rw [List.takeWhile_append_dropWhile]
  rw [List.length_append] at hlength
  unfold someDigits?
  split
  · exact .none
  · next hne =>
    have := List.length_pos_iff.2 hne
    exact .some (by omega)

theorem leavesUnder_whole? (s : List Char) : LeavesUnder s.length (whole? s) :=
  fun digits rest h => leavesUnder_someDigits? s digits rest (Option.filter_eq_some_iff.1 h).1

theorem leavesUnder_fraction? (s : List Char) : LeavesUnder (s.length + 1) (fraction? s) := by
  unfold fraction?
  split
  · next rest => exact (leavesUnder_someDigits? rest).mono (Nat.le_add_right _ 2)
  · exact .some (Nat.lt_succ_self _)

theorem leavesUnder_exponent? (s : List Char) : LeavesUnder (s.length + 1) (exponent? s) := by
  unfold exponent?
  split
  · exact .some Nat.one_pos
  · next mark tail =>
    split
    · refine .bind (n := tail.length + 1) (.mono (leavesUnder_someDigits? _) ?_)
        fun digits rest hrest => .some ?_
      -- the digits begin behind the mark, or behind the sign that follows it
      · split <;> simp only [List.length_cons] <;> omega
      · simp only [List.length_cons]
        omega
    · exact .some (Nat.lt_succ_self _)

theorem leavesUnder_readMagnitude? (s : List Char) : LeavesUnder s.length (readMagnitude? s) := by
  refine .bind (leavesUnder_whole? s) fun whole rest hwhole => ?_
  refine .bind (leavesUnder_fraction? rest) fun fraction rest' hfraction => ?_
  refine .bind (leavesUnder_exponent? rest') fun exponent rest'' hexponent => ?_
  exact .given fun value => .some (by omega)

theorem leavesUnder_readNumber? (s : List Char) : LeavesUnder s.length (readNumber? s) := by
  unfold readNumber?
  split
  · next rest => exact .mono (.map (leavesUnder_readMagnitude? rest) fun _ => rfl) (Nat.le_succ _)
  · exact leavesUnder_readMagnitude? _

/-- A key behind blanks and an opening quote. -/
theorem leavesUnder_map_key? {s rest : List Char} (hquote : skipBlanks s = '"' :: rest)
    {f : String × List Char → Focus × List Char} (hf : ∀ p, (f p).2 = p.2) :
    LeavesUnder s.length ((key? rest).map f) :=
  .mono (.map (leavesUnder_key? rest) hf) (Nat.le_of_lt (length_lt_of_skipBlanks hquote))

theorem leavesUnder_beginning? (room : Bool) (s : List Char) :
    LeavesUnder s.length (beginning? room s) := by
  unfold beginning?
  split
  · exact .some (by simp only [List.length_cons]; omega)
  · exact .some (by simp only [List.length_cons]; omega)
  · exact .some (by simp only [List.length_cons]; omega)
  · next rest => exact .mono (.map (leavesUnder_unquote? rest) fun _ => rfl) (Nat.le_succ _)
  · split
    · split
      · next hend => exact .some (Nat.lt_succ_of_lt (length_lt_of_skipBlanks hend))
      · exact .some (Nat.lt_succ_of_le (length_skipBlanks_le _))
    · exact .none
  · split
    · split
      · next hend => exact .some (Nat.lt_succ_of_lt (length_lt_of_skipBlanks hend))
      · next hquote => exact (leavesUnder_map_key? hquote fun _ => rfl).mono (Nat.le_succ _)
      · exact .none
    · exact .none
  · exact .map (leavesUnder_readNumber? s) fun _ => rfl

theorem leavesUnder_continuation? (v : Json) (f : Frame) (s : List Char) :
    LeavesUnder s.length (continuation? v f s) := by
  unfold continuation?
  split
  · exact .some (Nat.lt_succ_self _)
  · exact .some (Nat.lt_succ_self _)
  · split
    · next hquote => exact .mono (leavesUnder_map_key? hquote fun _ => rfl) (Nat.le_succ _)
    · exact .none
  · exact .some (Nat.lt_succ_self _)
  · exact .none

/-! ## Reading -/

/-- Reads on from a focus inside the given frames, to the end of the outermost value. -/
def readOn (frames : List Frame) (focus : Focus) (s : List Char) : Option (Json × List Char) :=
  match focus, frames with
  | .value v, [] => some (v, s)
  | .value v, f :: frames =>
    match _h : continuation? v f (skipBlanks s) with
    | some (focus, rest) => readOn frames focus rest
    | none => none
  | .frame f, frames =>
    match _h : beginning? (frames.length + 1 < maxDepth) (skipBlanks s) with
    | some (focus, rest) => readOn (f :: frames) focus rest
    | none => none
termination_by s.length
decreasing_by
  · have := leavesUnder_continuation? _ _ _ _ _ _h
    have := length_skipBlanks_le s
    omega
  · have := leavesUnder_beginning? _ _ _ _ _h
    have := length_skipBlanks_le s
    omega

/-- The value at the beginning of a text, and what follows it. -/
def read? (s : List Char) : Option (Json × List Char) := do
  let (focus, rest) ← beginning? true (skipBlanks s)
  readOn [] focus rest

end Json

end GlyphCanvas
