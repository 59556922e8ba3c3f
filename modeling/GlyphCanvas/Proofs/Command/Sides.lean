import GlyphCanvas.Proofs.Command.Grammar
import GlyphCanvas.Proofs.Numeral.Decimal
import GlyphCanvas.Proofs.Numeral.Rounding

/-!
# The sides of a canvas in a line

* `Numeral.ReadsDouble`: what a word reads as among the doubles, and
  `Numeral.exists_readsDouble_finite_iff`, which words read as finite ones.
* `SideWord`: what becomes of a word that is the width or the height of a canvas, in terms of its
  form and its exact value.
* `Directive.readSide_eq_iff`: the reader of sides does just that.
* `Command.sides_by_value`: so do lines with two sides, the width first.
-/

namespace GlyphCanvas

namespace Numeral

/-- What a word reads as among the doubles. A decimal numeral reads as the double nearest to its
value. The other words are names, in any case, which may have a sign. -/
inductive ReadsDouble : List Char → Double → Prop where
  | number {word : List Char} {v : ℚ} (h : DenotesDecimal word v) :
      ReadsDouble word (nearestDouble v)
  | infinite {negative : Bool} {sign name : List Char} (hsign : IsSign negative sign)
      (hname : name.map Char.toLower = "inf".toList ∨ name.map Char.toLower = "infinity".toList) :
      ReadsDouble (sign ++ name) (.infinite negative)
  | notANumber {negative : Bool} {sign name : List Char} (hsign : IsSign negative sign)
      (hname : name.map Char.toLower = "nan".toList) : ReadsDouble (sign ++ name) .notANumber

/-- A finite double is read only from a numeral, and from every numeral that is not too large. -/
theorem exists_readsDouble_finite_iff {word : List Char} :
    (∃ value, ReadsDouble word (.finite value)) ↔
      ∃ v, DenotesDecimal word v ∧ |v| < 2 ^ 1024 - 2 ^ 970 := by
  constructor
  · rintro ⟨value, h⟩
    generalize hdouble : Double.finite value = double at h
    cases h with
    | number h => exact ⟨_, h, exists_nearestDouble_eq_finite_iff.1 ⟨value, hdouble.symm⟩⟩
    | infinite _ _ => cases hdouble
    | notANumber _ _ => cases hdouble
  · rintro ⟨v, h, hlt⟩
    obtain ⟨value, hvalue⟩ := exists_nearestDouble_eq_finite_iff.2 hlt
    exact ⟨value, hvalue ▸ .number h⟩

end Numeral

open Numeral

/-- What becomes of a word as a side of a canvas: an integer of 64 bits is a side, another decimal
numeral that is not too large is a number and no side, and everything else is no number. -/
inductive SideWord (word : String) : Except CommandError Int → Prop where
  | integer {value : Int} (h : Denotes word.toList value) : SideWord word (.ok value)
  | number {v : ℚ} (hinteger : ¬∃ value, Denotes word.toList value)
      (h : DenotesDecimal word.toList v) (hlt : |v| < 2 ^ 1024 - 2 ^ 970) :
      SideWord word (.error (.invalidDimension (.notWhole word)))
  | other (hinteger : ¬∃ value, Denotes word.toList value)
      (hnumber : ¬∃ v, DenotesDecimal word.toList v ∧ |v| < 2 ^ 1024 - 2 ^ 970) :
      SideWord word (.error (.invalidArgument (.notInteger word)))

namespace Directive

theorem sideWord_readSide (word : String) : SideWord word (readSide word) := by
  obtain ⟨value, h, hvalue⟩ | ⟨h, hinteger⟩ := signed?_cases word
  · rw [readSide_eq_ok_iff.2 hvalue]
    exact .integer hvalue
  · rw [readSide_of_none h, Place.fault]
    split
    · next hfinite =>
      obtain ⟨v, hv, hlt⟩ := isFiniteDecimal_iff_value.1 hfinite
      exact .number hinteger hv hlt
    · next hfinite => exact .other hinteger (mt isFiniteDecimal_iff_value.2 hfinite)

/-- No word has two outcomes. -/
theorem readSide_eq_of_sideWord {word : String} {outcome : Except CommandError Int}
    (h : SideWord word outcome) : readSide word = outcome := by
  have hread : ∀ {word : String}, (¬∃ value, Denotes word.toList value) →
      readSide word = .error (Place.side.fault word) := fun hinteger =>
    readBy_readSide.error.2 ⟨hinteger, rfl⟩
  cases h with
  | integer h => exact readSide_eq_ok_iff.2 h
  | number hinteger h hlt =>
    rw [hread hinteger, Place.fault, if_pos (isFiniteDecimal_iff_value.2 ⟨_, h, hlt⟩)]
  | other hinteger hnumber =>
    rw [hread hinteger, Place.fault, if_neg (mt isFiniteDecimal_iff_value.1 hnumber)]

theorem readSide_eq_iff {word : String} {outcome : Except CommandError Int} :
    readSide word = outcome ↔ SideWord word outcome :=
  ⟨fun h => h ▸ sideWord_readSide word, readSide_eq_of_sideWord⟩

end Directive

namespace Command

/-- Each side is judged by itself, and a fault of the width comes before one of the height. The words
that are numbers and no sides are those that read as finite doubles. -/
theorem sides_by_value {line w h : String} (hwords : Text.words line = ["C", w, h]) :
    (∀ word outcome, Directive.readSide word = outcome ↔ SideWord word outcome) ∧
    (∀ word, (∃ value, ReadsDouble word (.finite value)) ↔
      ∃ v, DenotesDecimal word v ∧ |v| < 2 ^ 1024 - 2 ^ 970) ∧
    (∀ a b, ofLine line = .ok (.create a b) ↔ SideWord w (.ok a) ∧ SideWord h (.ok b)) ∧
    ∀ error, ofLine line = .error error ↔
      SideWord w (.error error) ∨ ∃ a, SideWord w (.ok a) ∧ SideWord h (.error error) := by
  have hline : ofLine line = Directive.readSide w >>= fun a => Directive.readSide h >>= fun b =>
      .ok (.create a b) := ofLine_of_words (a := .create) hwords
  refine ⟨fun _ _ => Directive.readSide_eq_iff, fun _ => exists_readsDouble_finite_iff,
    fun a b => ?_, fun error => ?_⟩
  · simp only [hline, bind_eq_ok_iff, Directive.readSide_eq_iff, Except.ok.injEq, create.injEq]
    constructor
    · rintro ⟨a, ha, b, hb, rfl, rfl⟩
      exact ⟨ha, hb⟩
    · rintro ⟨ha, hb⟩
      exact ⟨a, ha, b, hb, rfl, rfl⟩
  · simp [hline, bind_eq_error_iff, Directive.readSide_eq_iff]

/-- A width that is a number and no side, in front of a height that is an integer of more than 64
bits. -/
theorem sides_by_value_beyond_word :
    let line := "C +.5e-1 9223372036854775808"
    let w := "+.5e-1"
    let h := "9223372036854775808"
    Text.words line = ["C", w, h] ∧
    (∀ word outcome, Directive.readSide word = outcome ↔ SideWord word outcome) ∧
    (∀ word, (∃ value, ReadsDouble word (.finite value)) ↔
      ∃ v, DenotesDecimal word v ∧ |v| < 2 ^ 1024 - 2 ^ 970) ∧
    (∀ a b, ofLine line = .ok (.create a b) ↔ SideWord w (.ok a) ∧ SideWord h (.ok b)) ∧
    ∀ error, ofLine line = .error error ↔
      SideWord w (.error error) ∨ ∃ a, SideWord w (.ok a) ∧ SideWord h (.error error) := by
  intro line w h
  have hwords : Text.words line = ["C", w, h] := by decide +kernel
  exact ⟨hwords, sides_by_value hwords⟩

end Command

end GlyphCanvas
