import GlyphCanvas.Proofs.Command.Grammar
import GlyphCanvas.Proofs.Text.Words

/-!
# Commands and their own lines

The line that writes a command is read back as the command.

* `Numeral.denotes_write`: the numeral of an integer of 64 bits denotes it.
* `Command.InRange`, `Command.ColourInWord`: what a command must be so that a line can hold it.
  Every command that is read from a line is such (`Command.inRange_of_ofLine`,
  `Command.colourInWord_of_ofLine`).
* `Command.ofLine_text`: such a command is read back from its line.
* `Command.ofLine_text_of_isBlank`: a colour that is white space is lost between the words.
-/

namespace GlyphCanvas

namespace Numeral

/-- The integer fits into 64 bits. -/
def InRange (value : Int) : Prop :=
  least ≤ value ∧ value ≤ greatest

theorem isDigit_of_mem_toDigits {n : Nat} {c : Char} (h : c ∈ Nat.toDigits 10 n) :
    c.isDigit = true :=
  Nat.isDigit_of_mem_toDigits (by decide) (by decide) h

theorem denotes_write {value : Int} (h : InRange value) : Denotes (write value) value := by
  refine ⟨?_, h.1, h.2⟩
  cases value with
  | ofNat n =>
    refine ⟨false, [], Nat.toDigits 10 n, by simp, rfl, Nat.toDigits_ne_nil,
      fun _ => isDigit_of_mem_toDigits, ?_⟩
    rw [ofDigits, Nat.ofDigitChars_ten_toDigits]
    rfl
  | negSucc n =>
    refine ⟨true, ['-'], Nat.toDigits 10 (n + 1), by simp, rfl, Nat.toDigits_ne_nil,
      fun _ => isDigit_of_mem_toDigits, ?_⟩
    rw [ofDigits, Nat.ofDigitChars_ten_toDigits]
    rfl

theorem isBlank_of_isDigit {c : Char} (h : c.isDigit = true) : Text.isBlank c = false := by
  have hlow : 48 ≤ c.toNat := by
    simp only [Char.isDigit, Bool.and_eq_true, decide_eq_true_eq] at h
    exact h.1
  have hhigh : c.toNat ≤ 57 := by
    simp only [Char.isDigit, Bool.and_eq_true, decide_eq_true_eq] at h
    exact h.2
  rw [Text.isBlank, List.contains_eq_mem, decide_eq_false_iff_not]
  simp only [Text.blanks, List.mem_cons, List.not_mem_nil, or_false, not_or]
  omega

theorem isWord_write (value : Int) : Text.IsWord (String.ofList (write value)) := by
  constructor
  · rw [Ne, String.ofList_eq_empty_iff]
    cases value with
    | ofNat n => exact Nat.toDigits_ne_nil
    | negSucc n => exact List.cons_ne_nil _ _
  · intro c hc
    rw [String.toList_ofList] at hc
    cases value with
    | ofNat n => exact isBlank_of_isDigit (isDigit_of_mem_toDigits hc)
    | negSucc n =>
      rcases List.mem_cons.1 hc with rfl | hc
      · decide
      · exact isBlank_of_isDigit (isDigit_of_mem_toDigits hc)

end Numeral

/-- Both coordinates fit into 64 bits. -/
def Point.InRange (p : Point) : Prop :=
  Numeral.InRange p.x ∧ Numeral.InRange p.y

namespace Command

/-- All numbers of the command fit into 64 bits. -/
def InRange : Command → Prop
  | create width height => Numeral.InRange width ∧ Numeral.InRange height
  | line start stop => start.InRange ∧ stop.InRange
  | rectangle first opposite => first.InRange ∧ opposite.InRange
  | fill seed _ => seed.InRange

/-- The colour of the command, if it has one, is no white space. -/
def ColourInWord : Command → Prop
  | fill _ colour => Text.isBlank colour = false
  | _ => True

/-! ## Commands that were read -/

theorem inRange_of_ofLine {text : String} {c : Command} (h : ofLine text = .ok c) : c.InRange := by
  have hwritten := ofLine_eq_ok_iff.1 h
  generalize Text.words text = words at hwritten
  have hnumeral : ∀ {word : List Char} {value : Int}, Numeral.Denotes word value →
      Numeral.InRange value := fun h => ⟨h.least_le, h.le_greatest⟩
  cases hwritten with
  | create hw hh => exact ⟨hnumeral hw, hnumeral hh⟩
  | line ha hb hc hd => exact ⟨⟨hnumeral ha, hnumeral hb⟩, hnumeral hc, hnumeral hd⟩
  | rectangle ha hb hc hd => exact ⟨⟨hnumeral ha, hnumeral hb⟩, hnumeral hc, hnumeral hd⟩
  | fill ha hb _ => exact ⟨hnumeral ha, hnumeral hb⟩

/-- The colour was a word of its own. -/
theorem colourInWord_of_ofLine {text : String} {c : Command} (h : ofLine text = .ok c) :
    c.ColourInWord := by
  have hword : ∀ word ∈ Text.words text, Text.IsWord word := fun _ => Text.isWord_of_mem_words
  have hwritten := ofLine_eq_ok_iff.1 h
  generalize Text.words text = words at hwritten hword
  cases hwritten with
  | create _ _ => trivial
  | line _ _ _ _ => trivial
  | rectangle _ _ _ _ => trivial
  | @fill a b word seed colour _ _ hcolour =>
    exact (hword word (by simp)).solid colour (by simp [hcolour])

/-! ## The line of a command -/

theorem isWord_of_mem_pointWords {p : Point} {word : String} (h : word ∈ pointWords p) :
    Text.IsWord word := by
  simp only [pointWords, List.mem_cons, List.not_mem_nil, or_false] at h
  rcases h with rfl | rfl <;> exact Numeral.isWord_write _

theorem words_pointWords (p : Point) : (pointWords p).flatMap Text.words = pointWords p := by
  rw [← Text.words_intercalate]
  exact Text.words_intercalate_of_isWord fun _ => isWord_of_mem_pointWords

theorem isWord_code (a : Action) : Text.IsWord a.code := by
  cases a <;> exact ⟨by decide, by simp [Action.code, Text.isBlank, Text.blanks]⟩

/-- The code and the arguments are words of their own, unless the colour is white space. -/
theorem isWord_of_mem_arguments {c : Command} (h : c.ColourInWord) :
    ∀ word ∈ c.action.code :: c.arguments, Text.IsWord word := by
  intro word hword
  rcases List.mem_cons.1 hword with rfl | hword
  · exact isWord_code _
  cases c with
  | create width height => exact isWord_of_mem_pointWords hword
  | line start stop =>
    rcases List.mem_append.1 hword with hword | hword <;> exact isWord_of_mem_pointWords hword
  | rectangle first opposite =>
    rcases List.mem_append.1 hword with hword | hword <;> exact isWord_of_mem_pointWords hword
  | fill seed colour =>
    rcases List.mem_append.1 hword with hword | hword
    · exact isWord_of_mem_pointWords hword
    · rw [List.mem_singleton.1 hword]
      refine ⟨?_, ?_⟩
      · simp [Char.toString_eq_singleton]
      · intro d hd
        rw [Char.toString_eq_singleton, String.toList_singleton, List.mem_singleton] at hd
        exact hd ▸ h

theorem words_text {c : Command} (h : c.ColourInWord) :
    Text.words c.text = c.action.code :: c.arguments :=
  Text.words_intercalate_of_isWord (isWord_of_mem_arguments h)

theorem newline_not_mem_text {c : Command} (h : c.ColourInWord) : '\n' ∉ c.text.toList :=
  Text.not_mem_intercalate_of_isWord (isWord_of_mem_arguments h) (by decide) (by decide)

theorem written_arguments {c : Command} (h : c.InRange) :
    Written (c.action.code :: c.arguments) c := by
  have hnumeral : ∀ {value : Int}, Numeral.InRange value →
      Numeral.Denotes (String.ofList (Numeral.write value)).toList value := by
    intro value hvalue
    rw [String.toList_ofList]
    exact Numeral.denotes_write hvalue
  cases c with
  | create width height => exact .create (hnumeral h.1) (hnumeral h.2)
  | line start stop =>
    exact .line (hnumeral h.1.1) (hnumeral h.1.2) (hnumeral h.2.1) (hnumeral h.2.2)
  | rectangle first opposite =>
    exact .rectangle (hnumeral h.1.1) (hnumeral h.1.2) (hnumeral h.2.1) (hnumeral h.2.2)
  | fill seed colour =>
    exact .fill (hnumeral h.1) (hnumeral h.2) (by
      rw [Char.toString_eq_singleton, String.toList_singleton])

theorem ofLine_text {c : Command} (hrange : c.InRange) (hcolour : c.ColourInWord) :
    ofLine c.text = .ok c := by
  rw [ofLine_eq_ok_iff, words_text hcolour]
  exact written_arguments hrange

/-- White space as a colour is lost among the spaces, so that one argument is missing. -/
theorem ofLine_text_of_isBlank {colour : Char} (h : Text.isBlank colour = true) (seed : Point) :
    ofLine (fill seed colour).text = .error (.invalidArgument (.count .fill 2)) := by
  have hlost : Text.words colour.toString = [] := by
    rw [Char.toString_eq_singleton, Text.words, String.toList_singleton, Text.pieces_cons, if_pos h]
    rfl
  have hwords : Text.words (fill seed colour).text = Action.fill.code :: pointWords seed := by
    rw [text, Text.words_intercalate, List.flatMap_cons, Text.words_of_isWord (isWord_code _),
      arguments, List.flatMap_append, words_pointWords, List.flatMap_singleton, hlost,
      List.append_nil]
    rfl
  have hcount : (pointWords seed).length ≠ Action.fill.places.length := by
    simp [pointWords, Action.places]
  rw [ofLine_eq_error_iff, hwords]
  exact .count hcount

/-- A command that a line can hold is read back from its own line, and one whose colour is white
space is not. Every command read from a line is of the first kind, so its own line is a normal form
of that line. -/
theorem ofLine_text_normal_form :
    (∀ c : Command, c.InRange → c.ColourInWord → ofLine c.text = .ok c) ∧
    (∀ (seed : Point) (colour : Char), Text.isBlank colour = true →
      ofLine (fill seed colour).text = .error (.invalidArgument (.count .fill 2))) ∧
    (∀ (line : String) (c : Command), ofLine line = .ok c →
      c.InRange ∧ c.ColourInWord ∧ ofLine c.text = .ok c) ∧
    ∀ (line line' : String) (c c' : Command), ofLine line = .ok c → ofLine line' = .ok c' →
      (c.text = c'.text ↔ c = c') := by
  have hread : ∀ {line : String} {c : Command}, ofLine line = .ok c → ofLine c.text = .ok c :=
    fun h => ofLine_text (inRange_of_ofLine h) (colourInWord_of_ofLine h)
  refine ⟨fun _ => ofLine_text, fun seed _ h => ofLine_text_of_isBlank h seed, ?_, ?_⟩
  · intro line c h
    exact ⟨inRange_of_ofLine h, colourInWord_of_ofLine h, hread h⟩
  · intro line line' c c' h h'
    refine ⟨fun htext => ?_, congrArg text⟩
    have hsame := hread h
    rw [htext, hread h', Except.ok.injEq] at hsame
    exact hsame.symm

/-- The least and the greatest number, an ideographic space as a colour, and a line with superfluous
signs and zeros. -/
theorem ofLine_text_normal_form_extremes :
    let c : Command := create Numeral.least Numeral.greatest
    let d : Command := fill ⟨7, -1⟩ '|'
    let d' : Command := fill ⟨7, 1⟩ '|'
    ((c.InRange ∧ c.ColourInWord) ∧ ofLine c.text = .ok c) ∧
    (Text.isBlank '\u3000' = true ∧
      ofLine (fill ⟨7, 1⟩ '\u3000').text = .error (.invalidArgument (.count .fill 2))) ∧
    (ofLine " B\t+07 -001 |" = .ok d ∧ d.InRange ∧ d.ColourInWord ∧ ofLine d.text = .ok d) ∧
    (ofLine "B 7 1 |" = .ok d' ∧ (d.text = d'.text ↔ d = d')) := by
  intro c d d'
  have hc : c.InRange ∧ c.ColourInWord :=
    ⟨⟨⟨by decide, by decide⟩, by decide, by decide⟩, trivial⟩
  have hblank : Text.isBlank '\u3000' = true := by decide
  have hd : ofLine " B\t+07 -001 |" = .ok d := by rfl
  have hd' : ofLine "B 7 1 |" = .ok d' := by rfl
  obtain ⟨hread, hlost, hnormal, hsame⟩ := ofLine_text_normal_form
  exact ⟨⟨hc, hread c hc.1 hc.2⟩, ⟨hblank, hlost ⟨7, 1⟩ '\u3000' hblank⟩,
    ⟨hd, hnormal _ d hd⟩, hd', hsame _ _ d d' hd hd'⟩

end Command

end GlyphCanvas
