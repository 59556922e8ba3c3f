import GlyphCanvas.Json.Reader

/-!
# Written texts are read back

* `Json.quoteChar_cases`, `Json.unquote?_quote`: a character and a text are read back from what is
  written for them, whatever follows.
* `Json.readOn_value`, `Json.readOn_frame`, `Json.readOn_end`: one move of the reader each.
-/

namespace GlyphCanvas.Json

/-! ## Characters and texts -/

theorem hexValue?_hexDigit {n : Nat} (h : n < 16) : hexValue? (hexDigit n) = some n := by
  have hall : ∀ n < 16, hexValue? (hexDigit n) = some n := by decide
  exact hall n h

/-- Two digits behind two zeros stand for a control character. -/
theorem escape?_hex {c : Char} (h : c.toNat < 0x20) (rest : List Char) :
    escape? ('u' :: '0' :: '0' :: hexDigit (c.toNat / 16) :: hexDigit (c.toNat % 16) :: rest) =
      some (c, rest) := by
  have hzero : hexValue? '0' = some 0 := by decide
  have hhigh : hexValue? (hexDigit (c.toNat / 16)) = some (c.toNat / 16) :=
    hexValue?_hexDigit (by omega)
  have hlow : hexValue? (hexDigit (c.toNat % 16)) = some (c.toNat % 16) :=
    hexValue?_hexDigit (by omega)
  have hvalue : hex4? '0' '0' (hexDigit (c.toNat / 16)) (hexDigit (c.toNat % 16)) =
      some c.toNat := by
    simp only [hex4?, hzero, hhigh, hlow, bind, pure, Option.bind_some, Option.some.injEq]
    omega
  have hhead : ¬(0xD800 ≤ c.toNat ∧ c.toNat ≤ 0xDBFF) := by omega
  have htail : ¬(0xDC00 ≤ c.toNat ∧ c.toNat ≤ 0xDFFF) := by omega
  simp only [escape?, hvalue, bind, pure, Option.bind_some, if_neg hhead, if_neg htail,
    Char.ofNat_toNat]

/-- A character is written as it is, or as a backslash and a code that stands for it. -/
theorem quoteChar_cases (c : Char) :
    (quoteChar c = [c] ∧ c ≠ '"' ∧ c ≠ '\\' ∧ 0x20 ≤ c.toNat) ∨
      ∃ code, quoteChar c = '\\' :: code ∧ ∀ rest, escape? (code ++ rest) = some (c, rest) := by
  unfold quoteChar
  -- seven characters have a code of one letter
  iterate 7
    split
    · next h =>
      subst h
      exact .inr ⟨_, rfl, fun _ => rfl⟩
  split
  · next h => exact .inr ⟨_, rfl, escape?_hex h⟩
  · next hquote hbackslash _ _ _ _ _ h =>
    exact .inl ⟨rfl, hquote, hbackslash, Nat.le_of_not_lt h⟩

theorem unquote?_quoteChar (c : Char) (s : List Char) :
    unquote? (quoteChar c ++ s) = (unquote? s).map fun (text, rest) => (c :: text, rest) := by
  obtain ⟨hc, hquote, hbackslash, hle⟩ | ⟨code, hc, hcode⟩ := quoteChar_cases c
  · rw [hc, List.singleton_append, unquote?]
    · rw [if_neg (Nat.not_lt_of_le hle)]
    · exact hquote
    · exact hbackslash
  · rw [hc, List.cons_append, unquote?]
    split
    · next c' rest h =>
      rw [hcode] at h
      cases h
      rfl
    · next h =>
      rw [hcode] at h
      cases h

/-- Behind its opening quote a written text is read up to the closing one. -/
theorem unquote?_quote (text rest : List Char) :
    unquote? (text.flatMap quoteChar ++ '"' :: rest) = some (text, rest) := by
  induction text with
  | nil => rw [List.flatMap_nil, List.nil_append, unquote?]
  | cons c text ih =>
    rw [List.flatMap_cons, List.append_assoc, unquote?_quoteChar, ih]
    rfl

/-! ## Moves of the reader -/

theorem readOn_value (v : Json) (f : Frame) (frames : List Frame) (s : List Char) :
    readOn (f :: frames) (.value v) s =
      (continuation? v f (skipBlanks s)).bind fun (focus, rest) => readOn frames focus rest := by
  rw [readOn]
  split
  · next h => rw [h, Option.bind_some]
  · next h => rw [h, Option.bind_none]

theorem readOn_frame (f : Frame) (frames : List Frame) (s : List Char) :
    readOn frames (.frame f) s =
      (beginning? (frames.length + 1 < maxDepth) (skipBlanks s)).bind fun (focus, rest) =>
        readOn (f :: frames) focus rest := by
  rw [readOn]
  split
  · next h => rw [h, Option.bind_some]
  · next h => rw [h, Option.bind_none]

theorem readOn_end (v : Json) (s : List Char) : readOn [] (.value v) s = some (v, s) := by
  rw [readOn]

end GlyphCanvas.Json
