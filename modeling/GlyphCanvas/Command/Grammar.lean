import GlyphCanvas.Command.Reader

/-!
# The grammar of commands

* `Numeral.Denotes`: a word is a numeral of an integer within 64 bits. The reader of integers
  accepts exactly these words (`Numeral.signed?_eq_some_iff`).
* `Command.Written`: some words are a way to write a command. This is the grammar of script lines,
  said without a reader.
-/

namespace GlyphCanvas

namespace Numeral

/-- The word is a sign or nothing, then digits, and its value is an integer of 64 bits. -/
structure Denotes (word : List Char) (value : Int) : Prop where
  numeral : ∃ (negative : Bool) (sign digits : List Char),
    (negative = true ∧ sign = ['-'] ∨ negative = false ∧ (sign = [] ∨ sign = ['+'])) ∧
    word = sign ++ digits ∧ digits ≠ [] ∧ (∀ d ∈ digits, d.isDigit = true) ∧
    value = withSign negative (ofDigits digits)
  least_le : least ≤ value
  le_greatest : value ≤ greatest

/-- A digit is no sign, so digits are their own unsigned part. -/
theorem splitSign_digits {digits : List Char} (h : ∀ d ∈ digits, d.isDigit = true) :
    splitSign digits = (false, digits) := by
  unfold splitSign
  split
  · next rest => exact absurd (h '-' (by simp)) (by decide)
  · next rest => exact absurd (h '+' (by simp)) (by decide)
  · rfl

theorem splitSign_eq {word digits : List Char} {negative : Bool}
    (h : splitSign word = (negative, digits)) :
    ∃ sign, (negative = true ∧ sign = ['-'] ∨ negative = false ∧ (sign = [] ∨ sign = ['+'])) ∧
      word = sign ++ digits := by
  unfold splitSign at h
  split at h
  · cases h
    exact ⟨['-'], by simp⟩
  · cases h
    exact ⟨['+'], by simp⟩
  · cases h
    exact ⟨[], by simp⟩

theorem signed?_eq_some_iff {word : List Char} {value : Int} :
    signed? word = some value ↔ Denotes word value := by
  constructor
  · intro h
    unfold signed? at h
    generalize hs : splitSign word = split at h
    obtain ⟨negative, digits⟩ := split
    obtain ⟨sign, hsign, hword⟩ := splitSign_eq hs
    simp only [Option.ite_none_right_eq_some, Option.some.injEq] at h
    obtain ⟨⟨hne, hall, hl, hg⟩, rfl⟩ := h
    exact ⟨⟨negative, sign, digits, hsign, hword, hne, List.all_eq_true.1 hall, rfl⟩, hl, hg⟩
  · rintro ⟨⟨negative, sign, digits, hsign, rfl, hne, hall, rfl⟩, hl, hg⟩
    have hs : splitSign (sign ++ digits) = (negative, digits) := by
      rcases hsign with ⟨rfl, rfl⟩ | ⟨rfl, rfl | rfl⟩
      · rfl
      · exact splitSign_digits hall
      · rfl
    unfold signed?
    simp only [hs]
    exact if_pos ⟨hne, List.all_eq_true.2 hall, hl, hg⟩

end Numeral

namespace Command

/-- The words are the code of an action and its arguments: two integers for a size, four for two
points, two and a word of one character for a fill. -/
inductive Written : List String → Command → Prop where
  | create {w h : String} {width height : Int} (hw : Numeral.Denotes w.toList width)
      (hh : Numeral.Denotes h.toList height) : Written ["C", w, h] (create width height)
  | line {a b c d : String} {start stop : Point} (ha : Numeral.Denotes a.toList start.x)
      (hb : Numeral.Denotes b.toList start.y) (hc : Numeral.Denotes c.toList stop.x)
      (hd : Numeral.Denotes d.toList stop.y) : Written ["L", a, b, c, d] (line start stop)
  | rectangle {a b c d : String} {first opposite : Point}
      (ha : Numeral.Denotes a.toList first.x) (hb : Numeral.Denotes b.toList first.y)
      (hc : Numeral.Denotes c.toList opposite.x) (hd : Numeral.Denotes d.toList opposite.y) :
      Written ["R", a, b, c, d] (rectangle first opposite)
  | fill {a b c : String} {seed : Point} {colour : Char} (ha : Numeral.Denotes a.toList seed.x)
      (hb : Numeral.Denotes b.toList seed.y) (hc : c.toList = [colour]) :
      Written ["B", a, b, c] (fill seed colour)

end Command

end GlyphCanvas
