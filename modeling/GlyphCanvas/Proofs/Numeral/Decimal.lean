import GlyphCanvas.Command.Grammar
import GlyphCanvas.Numeral.Decimal
import Mathlib.Algebra.Order.Field.Power
import Mathlib.Algebra.Order.Field.Rat
import Mathlib.Data.Rat.Cast.Defs
import Mathlib.Tactic.FieldSimp
import Mathlib.Tactic.Positivity
import Mathlib.Tactic.Ring

/-!
# Decimal numerals and their values

* `DenotesDecimal`: a word is a decimal numeral of an exact value. This is the grammar, said without a
  reader.
* `denotesDecimal_of_decimal?`, `exists_decimal?_eq_some`: the reader accepts exactly these words, and
  what it reads has that value.
* `isFiniteDecimal_iff_value`: the words that are taken for numbers are the decimal numerals of
  values below `2 ^ 1024 - 2 ^ 970` in magnitude.
-/

namespace GlyphCanvas.Numeral

/-! ## The grammar -/

/-- At most one sign, and whether it is a minus. -/
def IsSign (negative : Bool) (sign : List Char) : Prop :=
  negative = true ∧ sign = ['-'] ∨ negative = false ∧ (sign = [] ∨ sign = ['+'])

/-- Nothing but ASCII digits, perhaps none. -/
def AreDigits (digits : List Char) : Prop :=
  ∀ d ∈ digits, d.isDigit = true

/-- Digits with at most one point and at least one digit. They are cut into those before the point and
those behind it. -/
inductive Pointed : List Char → List Char → List Char → Prop where
  | whole {whole : List Char} (hwhole : AreDigits whole) (hne : whole ≠ []) : Pointed whole whole []
  | point {whole fraction : List Char} (hwhole : AreDigits whole) (hfraction : AreDigits fraction)
      (hne : whole ++ fraction ≠ []) : Pointed (whole ++ '.' :: fraction) whole fraction

/-- Nothing, or an `e` of either case before a power of ten, which may have a sign. -/
inductive Scale : List Char → Int → Prop where
  | one : Scale [] 0
  | power {mark : Char} {negative : Bool} {sign digits : List Char} (hmark : mark = 'e' ∨ mark = 'E')
      (hsign : IsSign negative sign) (hdigits : AreDigits digits) (hne : digits ≠ []) :
      Scale (mark :: (sign ++ digits)) (withSign negative (ofDigits digits))

/-- The word is a decimal numeral of that value. -/
inductive DenotesDecimal : List Char → ℚ → Prop where
  | numeral {negative : Bool} {sign body whole fraction scale : List Char} {exponent : Int}
      (hsign : IsSign negative sign) (hbody : Pointed body whole fraction)
      (hscale : Scale scale exponent) :
      DenotesDecimal (sign ++ (body ++ scale))
        ((if negative then -1 else 1) *
          (ofDigits whole + ofDigits fraction / 10 ^ fraction.length) * 10 ^ exponent)

/-- The exact value of the number. -/
def Decimal.value (d : Decimal) : ℚ :=
  (if d.negative then -1 else 1) * d.coefficient * 10 ^ d.exponent

/-! ## Signs and digits in front -/

section Front

variable {negative : Bool} {sign digits rest : List Char}

theorem splitSign_append (hsign : IsSign negative sign) (hrest : ∀ c ∈ rest.head?, c ≠ '-' ∧ c ≠ '+') :
    splitSign (sign ++ rest) = (negative, rest) := by
  rcases hsign with ⟨rfl, rfl⟩ | ⟨rfl, rfl | rfl⟩
  · rfl
  · rw [List.nil_append]
    unfold splitSign
    split
    · exact absurd rfl (hrest '-' rfl).1
    · exact absurd rfl (hrest '+' rfl).2
    · rfl
  · rfl

theorem ne_sign_of_isDigit {c : Char} (h : c.isDigit = true) : c ≠ '-' ∧ c ≠ '+' := by
  constructor <;> rintro rfl <;> exact absurd h (by decide)

theorem takeWhile_digits (hdigits : AreDigits digits) (hrest : ∀ c ∈ rest.head?, c.isDigit = false) :
    (digits ++ rest).takeWhile Char.isDigit = digits ∧
      (digits ++ rest).dropWhile Char.isDigit = rest := by
  rw [List.takeWhile_append_of_pos hdigits, List.dropWhile_append_of_pos hdigits]
  cases rest with
  | nil => simp
  | cons c rest => simp [hrest c rfl]

end Front

/-! ## Powers of ten -/

theorem Scale.head? {scale : List Char} {exponent : Int} (h : Scale scale exponent) {c : Char}
    (hc : c ∈ scale.head?) : c = 'e' ∨ c = 'E' := by
  cases h with
  | one => cases hc
  | power hmark _ _ _ =>
    obtain rfl := Option.some.inj hc
    exact hmark

theorem Scale.isDigit_head? {scale : List Char} {exponent : Int} (h : Scale scale exponent) :
    ∀ c ∈ scale.head?, c.isDigit = false := by
  intro c hc
  obtain rfl | rfl := h.head? hc <;> rfl

theorem exponentPart?_eq_some_iff {scale : List Char} {exponent : Int} :
    exponentPart? scale = some exponent ↔ Scale scale exponent := by
  constructor
  · intro h
    unfold exponentPart? at h
    split at h
    · cases h
      exact .one
    · next mark rest =>
      generalize hs : splitSign rest = parts at h
      obtain ⟨negative, digits⟩ := parts
      obtain ⟨sign, hsign, rfl⟩ := splitSign_eq hs
      rw [Option.ite_none_right_eq_some, Option.some.injEq] at h
      obtain ⟨⟨hmark, hne, hall⟩, rfl⟩ := h
      exact .power hmark hsign (List.all_eq_true.1 hall) hne
  · intro h
    cases h with
    | one => rfl
    | @power mark negative sign digits hmark hsign hdigits hne =>
      have hs : splitSign (sign ++ digits) = (negative, digits) :=
        splitSign_append hsign fun c hc =>
          ne_sign_of_isDigit (hdigits c (List.mem_of_mem_head? hc))
      unfold exponentPart?
      simp only [hs]
      exact if_pos ⟨hmark, hne, List.all_eq_true.2 hdigits⟩

/-! ## Digits with a point -/

section Body

variable {body whole fraction scale : List Char} {exponent : Int}

/-- Digits with a point in front of a power of ten are taken apart by the reader. -/
theorem Pointed.parts (h : Pointed body whole fraction) (hscale : Scale scale exponent) :
    (body ++ scale).takeWhile Char.isDigit = whole ∧
      fractionPart ((body ++ scale).dropWhile Char.isDigit) = (fraction, scale) := by
  cases h with
  | whole hwhole hne =>
    obtain ⟨htake, hdrop⟩ := takeWhile_digits hwhole hscale.isDigit_head?
    refine ⟨htake, ?_⟩
    rw [hdrop]
    unfold fractionPart
    split
    · -- a power of ten does not begin with a point
      obtain h | h := hscale.head? rfl <;> exact absurd h (by decide)
    · rfl
  | point hwhole hfraction hne =>
    rw [List.append_assoc, List.cons_append]
    have hpoint : ∀ c ∈ ('.' :: (fraction ++ scale)).head?, c.isDigit = false := by
      intro c hc
      obtain rfl := Option.some.inj hc
      rfl
    obtain ⟨htake, hdrop⟩ := takeWhile_digits hwhole hpoint
    refine ⟨htake, ?_⟩
    obtain ⟨htake', hdrop'⟩ := takeWhile_digits hfraction hscale.isDigit_head?
    rw [hdrop, fractionPart, htake', hdrop']

theorem Pointed.ne_nil (h : Pointed body whole fraction) : whole ++ fraction ≠ [] := by
  cases h with
  | whole _ hne => simpa using hne
  | point _ _ hne => exact hne

/-- A body begins with a digit or with the point. -/
theorem Pointed.head?_ne_sign (h : Pointed body whole fraction) :
    ∀ c ∈ (body ++ scale).head?, c ≠ '-' ∧ c ≠ '+' := by
  intro c hc
  cases h with
  | whole hwhole hne =>
    rw [List.head?_append_of_ne_nil _ hne] at hc
    exact ne_sign_of_isDigit (hwhole c (List.mem_of_mem_head? hc))
  | point hwhole _ _ =>
    cases whole with
    | nil =>
      obtain rfl := Option.some.inj hc
      decide
    | cons d rest =>
      obtain rfl := Option.some.inj hc
      exact ne_sign_of_isDigit (hwhole d (List.mem_cons_self ..))

/-- What the reader cuts off in front of the power of ten is digits with at most one point. -/
theorem pointed_of_parts {rest : List Char}
    (hfraction : fractionPart (body.dropWhile Char.isDigit) = (fraction, rest))
    (hne : body.takeWhile Char.isDigit ++ fraction ≠ []) :
    ∃ front, body = front ++ rest ∧ Pointed front (body.takeWhile Char.isDigit) fraction := by
  have htake : ∀ text : List Char, AreDigits (text.takeWhile Char.isDigit) := fun _ =>
    List.all_eq_true.1 List.all_takeWhile
  have hbody : body = body.takeWhile Char.isDigit ++ body.dropWhile Char.isDigit :=
    List.takeWhile_append_dropWhile.symm
  unfold fractionPart at hfraction
  split at hfraction
  · next behind hpoint =>
    cases hfraction
    refine ⟨body.takeWhile Char.isDigit ++ '.' :: behind.takeWhile Char.isDigit, ?_,
      .point (htake _) (htake _) hne⟩
    rw [List.append_assoc, List.cons_append, List.takeWhile_append_dropWhile, ← hpoint]
    exact hbody
  · cases hfraction
    rw [List.append_nil] at hne
    exact ⟨body.takeWhile Char.isDigit, hbody, .whole (htake _) hne⟩

end Body

/-! ## Numerals -/

/-- The digits as one number, scaled down by those behind the point. -/
theorem ofDigits_append (whole fraction : List Char) :
    (ofDigits (whole ++ fraction) : ℚ) =
      (ofDigits whole + ofDigits fraction / 10 ^ fraction.length) * 10 ^ fraction.length := by
  have h : ofDigits (whole ++ fraction) =
      10 ^ fraction.length * ofDigits whole + ofDigits fraction := by
    rw [ofDigits, Nat.ofDigitChars_append, Nat.ofDigitChars_eq_ofDigitChars_zero]
    rfl
  rw [h]
  push_cast
  field_simp

theorem value_mk (negative : Bool) (whole fraction : List Char) (length : Nat) (exponent : Int) :
    Decimal.value ⟨negative, ofDigits (whole ++ fraction), length, exponent - fraction.length⟩ =
      (if negative then -1 else 1) *
        (ofDigits whole + ofDigits fraction / 10 ^ fraction.length) * 10 ^ exponent := by
  rw [Decimal.value, ofDigits_append, zpow_sub₀ (by norm_num), zpow_natCast]
  field_simp

theorem denotesDecimal_of_decimal? {word : List Char} {d : Decimal} (h : decimal? word = some d) :
    DenotesDecimal word d.value := by
  unfold decimal? at h
  generalize hs : splitSign word = parts at h
  obtain ⟨negative, body⟩ := parts
  obtain ⟨sign, hsign, rfl⟩ := splitSign_eq hs
  generalize hfraction : fractionPart (body.dropWhile Char.isDigit) = parts at h
  obtain ⟨fraction, rest⟩ := parts
  dsimp only at h
  rw [hfraction] at h
  split at h
  · cases h
  · next hne =>
    obtain ⟨exponent, hscale, rfl⟩ := Option.map_eq_some_iff.1 h
    obtain ⟨front, hbody, hpointed⟩ := pointed_of_parts hfraction hne
    rw [value_mk]
    generalize body.takeWhile Char.isDigit = whole at hpointed ⊢
    rw [hbody]
    exact .numeral hsign hpointed (exponentPart?_eq_some_iff.1 hscale)

theorem exists_decimal?_eq_some {word : List Char} {v : ℚ} (h : DenotesDecimal word v) :
    ∃ d, decimal? word = some d ∧ d.value = v := by
  obtain ⟨hsign, hbody, hscale⟩ := h
  obtain ⟨hwhole, hfraction⟩ := hbody.parts hscale
  unfold decimal?
  simp only [splitSign_append hsign hbody.head?_ne_sign, hwhole, hfraction, if_neg hbody.ne_nil,
    exponentPart?_eq_some_iff.2 hscale, Option.map_some]
  exact ⟨_, rfl, value_mk ..⟩

/-! ## Values -/

theorem abs_value (d : Decimal) : |d.value| = d.coefficient * 10 ^ d.exponent := by
  have hnonneg : (0 : ℚ) ≤ d.coefficient * 10 ^ d.exponent := by positivity
  rw [Decimal.value, mul_assoc, abs_mul, abs_of_nonneg hnonneg]
  cases d.negative <;> simp

theorem cast_doubleBound : ((Decimal.doubleBound : ℕ) : ℚ) = 2 ^ 1024 - 2 ^ 970 := by
  rw [Decimal.doubleBound]
  -- the exponents become variables, so that no step computes a power
  generalize ha : 1024 = a, hb : 970 = b
  rw [Nat.pow_eq, Nat.pow_eq, Nat.cast_sub (Nat.pow_le_pow_right (by decide) (by omega))]
  push_cast
  rfl

theorem fitsDouble_iff_value {d : Decimal} : d.FitsDouble ↔ |d.value| < 2 ^ 1024 - 2 ^ 970 := by
  rw [abs_value, ← cast_doubleBound, Decimal.FitsDouble]
  -- the bound stays a variable, so that no step computes it
  generalize Decimal.doubleBound = bound
  by_cases he : 0 ≤ d.exponent
  · have hpow : (10 : ℚ) ^ d.exponent = 10 ^ d.exponent.toNat := by
      rw [← zpow_natCast, Int.toNat_of_nonneg he]
    rw [if_pos he, hpow, Nat.pow_eq]
    exact_mod_cast Iff.rfl
  · have hpow : (10 : ℚ) ^ d.exponent = (10 ^ (-d.exponent).toNat)⁻¹ := by
      rw [← zpow_natCast, Int.toNat_of_nonneg (by omega), zpow_neg, inv_inv]
    rw [if_neg he, hpow, ← div_eq_mul_inv, div_lt_iff₀ (by positivity), Nat.pow_eq]
    exact_mod_cast Iff.rfl

/-- A word is taken for a number exactly if it is a decimal numeral of a value that is not too
large. -/
theorem isFiniteDecimal_iff_value {word : List Char} :
    isFiniteDecimal word = true ↔ ∃ v, DenotesDecimal word v ∧ |v| < 2 ^ 1024 - 2 ^ 970 := by
  rw [isFiniteDecimal_iff]
  constructor
  · rintro ⟨d, hd, hfits⟩
    exact ⟨d.value, denotesDecimal_of_decimal? hd, fitsDouble_iff_value.1 hfits⟩
  · rintro ⟨v, hv, hlt⟩
    obtain ⟨d, hd, rfl⟩ := exists_decimal?_eq_some hv
    exact ⟨d, hd, fitsDouble_iff_value.2 hlt⟩

/-- The least whole number that is too large, and the one below it. -/
example : isFiniteDecimal (Nat.toDigits 10 (Decimal.doubleBound - 1)) ∧
    ¬isFiniteDecimal (Nat.toDigits 10 Decimal.doubleBound) := by decide +kernel

end GlyphCanvas.Numeral
