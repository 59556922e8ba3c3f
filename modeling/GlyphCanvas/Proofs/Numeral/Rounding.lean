import Mathlib.Algebra.Order.Floor.Ring
import Mathlib.Data.Int.Log
import Mathlib.Data.Rat.Floor
import Mathlib.Tactic.Linarith
import Mathlib.Tactic.NormNum
import Mathlib.Tactic.Ring

/-!
# Rounding to doubles

* `roundEven`: the nearest whole number, and of two equally near the even one.
* `spacing`: the distance of doubles around a number, which is `2 ^ -1074` next to zero and leaves
  them 53 binary digits elsewhere.
* `nearestDouble`: the correctly rounded double of a number. It is infinite if the nearest multiple of
  the spacing is `2 ^ 1024` or more.
* `exists_nearestDouble_eq_finite_iff`: the double is finite exactly if the number lies below
  `2 ^ 1024 - 2 ^ 970` in magnitude.
-/

namespace GlyphCanvas.Numeral

/-- The whole number nearest to `q`, of two equally near the even one. -/
def roundEven (q : ℚ) : ℤ :=
  if q - ⌊q⌋ < 1 / 2 then ⌊q⌋
  else if 1 / 2 < q - ⌊q⌋ then ⌊q⌋ + 1
  else ⌊q⌋ + ⌊q⌋ % 2

/-- The exponent of the spacing. -/
def spacingExponent (q : ℚ) : ℤ :=
  max (Int.log 2 q - 52) (-1074)

/-- The distance of neighbouring doubles around a number that is not negative, if there were such of
every size. -/
def spacing (q : ℚ) : ℚ :=
  2 ^ spacingExponent q

/-- A double, with its value if it has one. -/
inductive Double where
  | finite (value : ℚ)
  | infinite (negative : Bool)
  | notANumber

/-- The double nearest to a number. Of two equally near the one with an even last digit is taken. -/
def nearestDouble (q : ℚ) : Double :=
  let magnitude := roundEven (|q| / spacing |q|) * spacing |q|
  if magnitude < 2 ^ 1024 then .finite (if q < 0 then -magnitude else magnitude)
  else .infinite (q < 0)

/-! ## Whole numbers -/

section Whole

variable {q : ℚ} {k : ℤ}

theorem roundEven_cases (q : ℚ) :
    q < ⌊q⌋ + 1 / 2 ∧ roundEven q = ⌊q⌋ ∨ (⌊q⌋ : ℚ) + 1 / 2 < q ∧ roundEven q = ⌊q⌋ + 1 ∨
      q = ⌊q⌋ + 1 / 2 ∧ roundEven q = ⌊q⌋ + ⌊q⌋ % 2 := by
  unfold roundEven
  split
  · exact .inl ⟨by linarith, rfl⟩
  split
  · exact .inr (.inl ⟨by linarith, rfl⟩)
  · exact .inr (.inr ⟨by linarith, rfl⟩)

/-- The numbers that are rounded to an odd number or below are those less than half a unit above
it. -/
theorem roundEven_le_iff_of_odd (hk : k % 2 = 1) : roundEven q ≤ k ↔ q < k + 1 / 2 := by
  have hfloor : (⌊q⌋ : ℚ) ≤ q := Int.floor_le q
  have hnext : q < ⌊q⌋ + 1 := Int.lt_floor_add_one q
  rcases lt_trichotomy ⌊q⌋ k with hlt | rfl | hgt
  · have hround : roundEven q ≤ ⌊q⌋ + 1 := by
      obtain ⟨-, h⟩ | ⟨-, h⟩ | ⟨-, h⟩ := roundEven_cases q <;> omega
    have hle : (⌊q⌋ : ℚ) + 1 ≤ k := by exact_mod_cast hlt
    exact ⟨fun _ => by linarith, fun _ => by omega⟩
  · obtain ⟨hq, h⟩ | ⟨hq, h⟩ | ⟨hq, h⟩ := roundEven_cases q
    · exact ⟨fun _ => hq, fun _ => h.le⟩
    · exact ⟨fun _ => by omega, fun _ => by linarith⟩
    · exact ⟨fun _ => by omega, fun _ => by linarith⟩
  · have hround : ⌊q⌋ ≤ roundEven q := by
      obtain ⟨-, h⟩ | ⟨-, h⟩ | ⟨-, h⟩ := roundEven_cases q <;> omega
    have hle : (k : ℚ) + 1 ≤ ⌊q⌋ := by exact_mod_cast hgt
    exact ⟨fun _ => by omega, fun _ => by linarith⟩

theorem roundEven_le_of_le (h : q ≤ k) : roundEven q ≤ k := by
  have hfloor : ⌊q⌋ ≤ k := Int.floor_le_iff.2 (by linarith)
  obtain ⟨-, hr⟩ | ⟨hq, hr⟩ | ⟨hq, hr⟩ := roundEven_cases q
  · omega
  all_goals
    have hlt : (⌊q⌋ : ℚ) < k := by linarith
    have : ⌊q⌋ < k := by exact_mod_cast hlt
    omega

theorem le_roundEven_of_le (h : k ≤ q) : k ≤ roundEven q := by
  have hfloor : k ≤ ⌊q⌋ := Int.le_floor.2 h
  obtain ⟨-, hr⟩ | ⟨-, hr⟩ | ⟨-, hr⟩ := roundEven_cases q <;> omega

end Whole

/-! ## Doubles -/

section Doubles

variable {q : ℚ}

theorem spacing_pos (q : ℚ) : 0 < spacing q :=
  zpow_pos (by norm_num) _

/-- A number is less than `2 ^ 53` times its spacing. -/
theorem div_spacing_lt (q : ℚ) : q / spacing q < 2 ^ 53 := by
  rw [div_lt_iff₀ (spacing_pos q), spacing, ← zpow_natCast, ← zpow_add₀ (by norm_num)]
  have hlog : q < 2 ^ (Int.log 2 q + 1) := by
    exact_mod_cast Int.lt_zpow_succ_log_self (by decide : 1 < 2) q
  refine hlog.trans_le (zpow_le_zpow_right₀ (by norm_num) ?_)
  rw [spacingExponent]
  push_cast
  omega

theorem spacing_of_le (h : -1022 ≤ Int.log 2 q) : spacing q = 2 ^ (Int.log 2 q - 52) := by
  rw [spacing, spacingExponent, max_eq_left (by omega)]

/-- Below `2 ^ 1023` no number is rounded beyond it. -/
theorem round_lt_of_log_lt (h : Int.log 2 q < 1023) :
    roundEven (q / spacing q) * spacing q < 2 ^ 1024 := by
  have hround : roundEven (q / spacing q) ≤ 2 ^ 53 :=
    roundEven_le_of_le (by push_cast; exact (div_spacing_lt q).le)
  have hexponent : spacingExponent q ≤ (970 : ℕ) := by
    rw [spacingExponent]
    omega
  calc (roundEven (q / spacing q) : ℚ) * spacing q
    _ ≤ 2 ^ 53 * 2 ^ ((970 : ℕ) : ℤ) :=
      mul_le_mul (by exact_mod_cast hround) (zpow_le_zpow_right₀ (by norm_num) hexponent)
        (spacing_pos q).le (by positivity)
    _ = 2 ^ 1023 := by rw [zpow_natCast, ← pow_add]
    _ < 2 ^ 1024 := pow_lt_pow_right₀ (by norm_num) (by norm_num)

/-- The bound is half of `2 ^ 971` below `2 ^ 53` times that. -/
theorem limit_eq : (2 : ℚ) ^ 1024 - 2 ^ 970 = (2 ^ 53 - 1 / 2) * 2 ^ 971 := by
  have htop : (2 : ℚ) ^ 1024 = 2 ^ 53 * 2 ^ 971 := pow_add 2 53 971
  have hhalf : (2 : ℚ) ^ 971 = 2 ^ 970 * 2 := pow_succ 2 970
  -- the power stays a variable, so that no step computes it
  generalize (2 : ℚ) ^ 970 = p at hhalf ⊢
  rw [htop, hhalf]
  ring

/-- Between `2 ^ 1023` and `2 ^ 1024` the spacing is `2 ^ 971`. The greatest double is
`2 ^ 53 - 1` times that, an odd multiple. -/
theorem round_lt_iff_of_log_eq (h : Int.log 2 q = 1023) :
    roundEven (q / spacing q) * spacing q < 2 ^ 1024 ↔ q < 2 ^ 1024 - 2 ^ 970 := by
  have hspacing : spacing q = 2 ^ 971 := by
    rw [spacing_of_le (by omega), h, ← zpow_natCast]
    norm_num
  have htop : (2 : ℚ) ^ 1024 = 2 ^ 53 * 2 ^ 971 := pow_add 2 53 971
  have hpos : (0 : ℚ) < 2 ^ 971 := by positivity
  have hodd : ((2 ^ 53 - 1 : ℤ) : ℚ) + 1 / 2 = 2 ^ 53 - 1 / 2 := by norm_num
  calc (roundEven (q / spacing q) : ℚ) * spacing q < 2 ^ 1024
    _ ↔ (roundEven (q / spacing q) : ℚ) < ((2 ^ 53 : ℤ) : ℚ) := by
      rw [hspacing, htop, mul_lt_mul_iff_left₀ hpos]
      push_cast
      rfl
    _ ↔ roundEven (q / spacing q) ≤ 2 ^ 53 - 1 := by
      rw [Int.cast_lt, Int.le_sub_one_iff]
    _ ↔ q / 2 ^ 971 < ((2 ^ 53 - 1 : ℤ) : ℚ) + 1 / 2 := by
      rw [roundEven_le_iff_of_odd (by norm_num), hspacing]
    _ ↔ q < 2 ^ 1024 - 2 ^ 970 := by
      rw [hodd, div_lt_iff₀ hpos, limit_eq]

/-- From `2 ^ 1024` on no number is rounded below it. -/
theorem le_round_of_le_log (h : 1024 ≤ Int.log 2 q) (hself : (2 : ℚ) ^ Int.log 2 q ≤ q) :
    2 ^ 1024 ≤ roundEven (q / spacing q) * spacing q := by
  have hsplit : (2 : ℚ) ^ Int.log 2 q = 2 ^ 52 * spacing q := by
    rw [spacing_of_le (by omega), ← zpow_natCast, ← zpow_add₀ (by norm_num)]
    congr 1
    push_cast
    ring
  have hround : 2 ^ 52 ≤ roundEven (q / spacing q) := by
    refine le_roundEven_of_le ?_
    rw [le_div_iff₀ (spacing_pos q)]
    exact_mod_cast hsplit ▸ hself
  calc (2 : ℚ) ^ 1024
    _ ≤ 2 ^ Int.log 2 q := by
      rw [← zpow_natCast]
      exact zpow_le_zpow_right₀ (by norm_num) h
    _ = 2 ^ 52 * spacing q := hsplit
    _ ≤ roundEven (q / spacing q) * spacing q :=
      mul_le_mul_of_nonneg_right (by exact_mod_cast hround) (spacing_pos q).le

/-- Rounding stops giving finite doubles half a spacing below `2 ^ 1024`, where a tie goes to the even
multiple. -/
theorem round_lt_iff (hq : 0 ≤ q) :
    roundEven (q / spacing q) * spacing q < 2 ^ 1024 ↔ q < 2 ^ 1024 - 2 ^ 970 := by
  have hpos : (0 : ℚ) < 2 ^ 971 := by positivity
  rcases lt_trichotomy (Int.log 2 q) 1023 with hlt | heq | hgt
  · refine ⟨fun _ => ?_, fun _ => round_lt_of_log_lt hlt⟩
    calc q
      _ < 2 ^ (Int.log 2 q + 1) := by
        exact_mod_cast Int.lt_zpow_succ_log_self (by decide : 1 < 2) q
      _ ≤ 2 ^ ((1023 : ℕ) : ℤ) := zpow_le_zpow_right₀ (by norm_num) (by push_cast; omega)
      _ = 2 ^ 52 * 2 ^ 971 := by rw [zpow_natCast, ← pow_add]
      _ ≤ (2 ^ 53 - 1 / 2) * 2 ^ 971 := mul_le_mul_of_nonneg_right (by norm_num) hpos.le
      _ = 2 ^ 1024 - 2 ^ 970 := limit_eq.symm
  · exact round_lt_iff_of_log_eq heq
  · have hne : q ≠ 0 := by
      rintro rfl
      simp at hgt
    have hself : (2 : ℚ) ^ Int.log 2 q ≤ q := by
      exact_mod_cast Int.zpow_log_le_self (by decide : 1 < 2) (hq.lt_of_ne hne.symm)
    have hlarge : (2 : ℚ) ^ 1024 ≤ q := by
      refine le_trans ?_ hself
      rw [← zpow_natCast]
      exact zpow_le_zpow_right₀ (by norm_num) (by push_cast; omega)
    have hbound : (2 : ℚ) ^ 1024 - 2 ^ 970 ≤ 2 ^ 1024 := sub_le_self _ (by positivity)
    exact ⟨fun h => absurd h (not_lt.2 (le_round_of_le_log (by omega) hself)),
      fun h => absurd h (not_lt.2 (hbound.trans hlarge))⟩

/-- The nearest double is finite exactly below the bound. -/
theorem exists_nearestDouble_eq_finite_iff :
    (∃ value, nearestDouble q = .finite value) ↔ |q| < 2 ^ 1024 - 2 ^ 970 := by
  rw [← round_lt_iff (abs_nonneg q), nearestDouble]
  by_cases h : roundEven (|q| / spacing |q|) * spacing |q| < 2 ^ 1024
  · rw [if_pos h]
    exact ⟨fun _ => h, fun _ => ⟨_, rfl⟩⟩
  · rw [if_neg h]
    exact ⟨fun ⟨_, hfinite⟩ => (nomatch hfinite), fun hlt => absurd hlt h⟩

end Doubles

end GlyphCanvas.Numeral
