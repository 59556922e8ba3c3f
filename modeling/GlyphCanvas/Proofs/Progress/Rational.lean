import GlyphCanvas.Progress.Blend
import GlyphCanvas.Proofs.Progress.Readings
import Mathlib.Algebra.Order.Field.Rat
import Mathlib.Algebra.Order.Field.Basic
import Mathlib.Tactic.Positivity

/-!
# Progress without rounding

The blend computed in the rational numbers. A command that is one of `total` has the percentages
from `share total done` to `share total (done + 1)` to itself, and ends at the upper one.

* `Blend.Logs`: the percentages reported so far are strictly increasing, lie between 0 and a bound,
  and the last of them is the one remembered.
* `Blend.Logs.report`, `Blend.Logs.report_bound`: a report within the bound keeps this, and one of
  the bound makes it the last percentage.
* `Blend.Logs.command`: a command reports within its share and ends at the upper end of it.
-/

namespace GlyphCanvas.Progress

instance Percentage.ofRat : Percentage ℚ where
  decLt := inferInstance
  decLe := inferInstance

/-- The percentage at which `done` of `total` commands are complete. -/
def share (total done : Nat) : ℚ :=
  100 * done / total

theorem clamp_of_mem {value : ℚ} (hl : 0 ≤ value) (hu : value ≤ 100) : clamp value = value := by
  unfold clamp
  rw [if_neg, if_neg]
  · exact not_lt.2 hu
  · exact not_lt.2 hl

theorem clamp_mem (value : ℚ) : 0 ≤ clamp value ∧ clamp value ≤ 100 := by
  unfold clamp
  split
  · exact ⟨by decide, by decide⟩
  · next hl =>
    split
    · exact ⟨by decide, by decide⟩
    · next hu => exact ⟨not_lt.1 hl, not_lt.1 hu⟩

/-! ## Shares -/

theorem share_zero (total : Nat) : share total 0 = 0 := by
  rw [share, Nat.cast_zero, mul_zero, zero_div]

theorem share_self {total : Nat} (h : 0 < total) : share total total = 100 :=
  mul_div_cancel_right₀ 100 (Nat.cast_ne_zero.2 (Nat.ne_of_gt h))

theorem share_succ (total done : Nat) : share total (done + 1) = share total done + 100 / total := by
  rw [share, share, Nat.cast_succ, mul_add, mul_one, add_div]

theorem share_le_share (total : Nat) {done done' : Nat} (h : done ≤ done') :
    share total done ≤ share total done' := by
  unfold share
  gcongr

theorem share_lt_hundred {total done : Nat} (h : done < total) : share total done < 100 := by
  have htotal : (0 : ℚ) < total := Nat.cast_pos.2 (by omega)
  have hcast : (done : ℚ) < total := Nat.cast_lt.2 h
  exact (div_lt_iff₀ htotal).2 (mul_lt_mul_of_pos_left hcast (by norm_num))

theorem share_nonneg (total done : Nat) : 0 ≤ share total done := by
  rw [← share_zero total]
  exact share_le_share total (Nat.zero_le done)

theorem share_le_hundred {total done : Nat} (h : done ≤ total) : share total done ≤ 100 := by
  rcases Nat.eq_zero_or_pos total with rfl | hpos
  · obtain rfl : done = 0 := Nat.le_zero.1 h
    rw [share_zero]
    norm_num
  · rw [← share_self hpos]
    exact share_le_share total h

namespace Blend

theorem credit_eq (b : Blend ℚ) : b.credit = share b.total b.done := by
  show (b.done : ℚ) / b.total * 100 = 100 * b.done / b.total
  rw [div_mul_eq_mul_div, mul_comm]

theorem complete_eq (b : Blend ℚ) :
    b.complete = ({ b with done := b.done + 1 } : Blend ℚ).report (share b.total (b.done + 1)) :=
  congrArg ({ b with done := b.done + 1 } : Blend ℚ).report (credit_eq _)

/-- What a command shows stays within its share. -/
theorem overall_mem (b : Blend ℚ) (shown : Nat) :
    0 ≤ b.overall shown ∧ b.overall shown ≤ share b.total (b.done + 1) := by
  obtain ⟨hl, hu⟩ := clamp_mem (shown : ℚ)
  have htotal : (0 : ℚ) ≤ b.total := Nat.cast_nonneg b.total
  have hoverall : b.overall shown = share b.total b.done + clamp (shown : ℚ) / b.total :=
    congrArg (· + _) b.credit_eq
  rw [hoverall, share_succ]
  constructor
  · exact add_nonneg (share_nonneg _ _) (div_nonneg hl htotal)
  · gcongr

/-! ## Reports -/

theorem report_of_le {b : Blend ℚ} {value last : ℚ} (hl : 0 ≤ value) (hu : value ≤ 100)
    (hlast : b.last = some last) (h : value ≤ last) : b.report value = (b, []) := by
  unfold report
  dsimp only
  rw [clamp_of_mem hl hu, hlast]
  exact if_pos h

theorem report_of_lt {b : Blend ℚ} {value : ℚ} (hl : 0 ≤ value) (hu : value ≤ 100)
    (h : ∀ last, b.last = some last → last < value) :
    b.report value = ({ b with last := some value }, [value]) := by
  unfold report
  dsimp only
  rw [clamp_of_mem hl hu]
  cases hlast : b.last with
  | none => rfl
  | some last => exact if_neg (not_le.2 (h last hlast))

/-- The percentages reported so far are strictly increasing and lie between 0 and a bound, and the
last of them is remembered. -/
structure Logs (b : Blend ℚ) (reports : List ℚ) (bound : ℚ) : Prop where
  last : b.last = reports.getLast?
  increasing : reports.Pairwise (· < ·)
  within : ∀ p ∈ reports, 0 ≤ p ∧ p ≤ bound

namespace Logs

variable {b : Blend ℚ} {reports : List ℚ} {bound value : ℚ}

theorem start (total : Nat) (bound : ℚ) : (Blend.start total : Blend ℚ).Logs [] bound where
  last := rfl
  increasing := .nil
  within := by simp

theorem mono (h : b.Logs reports bound) {bound' : ℚ} (hle : bound ≤ bound') :
    b.Logs reports bound' where
  last := h.last
  increasing := h.increasing
  within p hp := ⟨(h.within p hp).1, le_trans (h.within p hp).2 hle⟩

/-- Whether or not a percentage is reported, the one remembered is not less afterwards. -/
theorem report (h : b.Logs reports bound) (hl : 0 ≤ value) (hu : value ≤ bound)
    (hbound : bound ≤ 100) :
    (b.report value).1.Logs (reports ++ (b.report value).2) bound ∧
      ∃ last, (reports ++ (b.report value).2).getLast? = some last ∧ value ≤ last := by
  have hu' := le_trans hu hbound
  by_cases hold : ∃ last, b.last = some last ∧ value ≤ last
  · obtain ⟨last, hlast, hle⟩ := hold
    rw [report_of_le hl hu' hlast hle, List.append_nil]
    exact ⟨h, last, h.last ▸ hlast, hle⟩
  · have hnew : ∀ last, b.last = some last → last < value := by
      intro last hlast
      exact not_le.1 fun hle => hold ⟨last, hlast, hle⟩
    rw [report_of_lt hl hu' hnew]
    refine ⟨⟨?_, ?_, ?_⟩, value, List.getLast?_concat, le_rfl⟩
    · exact List.getLast?_concat.symm
    · exact pairwise_append_of_getLast?_lt h.increasing fun last hlast =>
        hnew last (h.last.trans hlast)
    · intro p hp
      rcases List.mem_append.1 hp with hp | hp
      · exact h.within p hp
      · rw [List.mem_singleton.1 hp]
        exact ⟨hl, hu⟩

/-- The percentage remembered after the bound itself was reported is the bound. -/
theorem report_bound (h : b.Logs reports bound) (hl : 0 ≤ bound) (hbound : bound ≤ 100) :
    (b.report bound).1.Logs (reports ++ (b.report bound).2) bound ∧
      (reports ++ (b.report bound).2).getLast? = some bound := by
  obtain ⟨hlogs, last, hlast, hle⟩ := h.report hl le_rfl hbound
  have hge := (hlogs.within last (List.mem_of_getLast? hlast)).2
  rw [hlast, le_antisymm hge hle]
  exact ⟨hlogs, rfl⟩

/-- What a command shows is reported within its share. -/
theorem underWay (h : b.Logs reports (share b.total (b.done + 1))) (hlt : b.done < b.total)
    (shown : List Nat) :
    (b.underWay shown).1.Logs (reports ++ (b.underWay shown).2) (share b.total (b.done + 1)) := by
  induction shown generalizing b reports with
  | nil => rwa [Blend.underWay, List.append_nil]
  | cons first rest ih =>
    obtain ⟨hl, hu⟩ := b.overall_mem first
    obtain ⟨hdone, htotal⟩ := b.report_counts (b.overall first)
    have hfirst := (h.report hl hu (share_le_hundred hlt)).1
    rw [← hdone, ← htotal] at hfirst hlt
    have hrest := ih hfirst hlt
    rw [hdone, htotal, List.append_assoc] at hrest
    exact hrest

/-- A command that is complete has reported the end of its share, and nothing beyond it. -/
theorem complete (h : b.Logs reports (share b.total (b.done + 1))) (hlt : b.done < b.total) :
    b.complete.1.Logs (reports ++ b.complete.2) (share b.total (b.done + 1)) ∧
      (reports ++ b.complete.2).getLast? = some (share b.total (b.done + 1)) := by
  have hcounted : ({ b with done := b.done + 1 } : Blend ℚ).Logs reports
      (share b.total (b.done + 1)) := ⟨h.last, h.increasing, h.within⟩
  rw [complete_eq]
  exact hcounted.report_bound (share_nonneg _ _) (share_le_hundred hlt)

/-- A whole command takes the percentages from its beginning to the end of its share. -/
theorem command {total done : Nat} (htotal : b.total = total) (hdone : b.done = done)
    (hlt : done < total) (h : b.Logs reports (share total done)) (shown : List Nat) :
    (b.underWay shown).1.complete.1.Logs
        (reports ++ ((b.underWay shown).2 ++ (b.underWay shown).1.complete.2))
        (share total (done + 1)) ∧
      (reports ++ ((b.underWay shown).2 ++ (b.underWay shown).1.complete.2)).getLast? =
        some (share total (done + 1)) := by
  subst htotal hdone
  have hunder := (h.mono (share_le_share b.total (Nat.le_succ b.done))).underWay hlt shown
  obtain ⟨hdone, htotal⟩ := b.underWay_counts shown
  rw [← hdone, ← htotal] at hunder hlt
  have hcomplete := hunder.complete hlt
  rw [hdone, htotal, List.append_assoc] at hcomplete
  exact hcomplete

/-- At the end a script is at 100, which is reported unless it stands already. -/
theorem conclude (h : b.Logs reports 100) :
    (reports ++ b.conclude.2).Pairwise (· < ·) ∧
      (∀ p ∈ reports ++ b.conclude.2, 0 ≤ p ∧ p ≤ 100) ∧
      (reports ++ b.conclude.2).getLast? = some 100 := by
  obtain ⟨hlogs, hlast⟩ := h.report_bound (by norm_num) le_rfl
  exact ⟨hlogs.increasing, hlogs.within, hlast⟩

end Logs

end Blend

end GlyphCanvas.Progress
