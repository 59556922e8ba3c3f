import GlyphCanvas.Progress.Meter
import Mathlib.Data.Finset.Sort
import Mathlib.Order.Interval.Finset.Nat

/-!
# What a meter shows

* `percentages`: the different whole percentages that the units of a piece of work make one after
  the other, and `closed`, the same with 100 at the end. Neither counts units or remembers what was
  shown.
* `shown_repeat_advance`: after some of the units a meter has shown just these percentages, by
  induction on the units.
* `readings_eq`: all that is shown for a piece of work is its percentages, closed.
* `Rise`: a list of percentages that climbs to 100. What a meter shows does (`rise_readings`).
-/

namespace GlyphCanvas.Progress

/-- The different values of `100 * k / total`, rounded down, for `k` from 1 to `done`, in increasing
order. -/
def percentages (total done : Nat) : List Nat :=
  ((Finset.Icc 1 done).image fun k => 100 * k / total).sort

/-- Some percentages, and 100 behind them unless that is the last of them. -/
def closed (values : List Nat) : List Nat :=
  if values.getLast? = some 100 then values else values ++ [100]

/-- The percentages increase strictly and end at 100, so there are few of them and 100 is there
once. -/
structure Rise (shown : List Nat) : Prop where
  increasing : shown.Pairwise (· < ·)
  getLast?_eq : shown.getLast? = some 100
  length_le : shown.length ≤ 101
  count_eq : shown.count 100 = 1

/-! ## Increasing lists -/

section Increasing

variable {α : Type} [Preorder α] {values : List α} {v w : α}

/-- The last of increasing values is the greatest. -/
theorem le_of_getLast?_eq (h : values.Pairwise (· < ·)) (hlast : values.getLast? = some w)
    (hv : v ∈ values) : v ≤ w := by
  have hle := (h.imp le_of_lt).rel_getLast hv
  rw [List.getLast?_eq_some_getLast (List.ne_nil_of_mem hv), Option.some.injEq] at hlast
  rwa [hlast] at hle

/-- A value greater than the last of increasing values may stand behind it. -/
theorem pairwise_append_of_getLast?_lt (h : values.Pairwise (· < ·))
    (hlt : ∀ last, values.getLast? = some last → last < w) :
    (values ++ [w]).Pairwise (· < ·) := by
  refine List.pairwise_append.2 ⟨h, List.pairwise_singleton _ _, fun v hv w' hw' => ?_⟩
  rw [List.mem_singleton.1 hw']
  obtain ⟨last, hlast⟩ := Option.ne_none_iff_exists'.1
    (mt List.getLast?_eq_none_iff.1 (List.ne_nil_of_mem hv))
  exact lt_of_le_of_lt (le_of_getLast?_eq h hlast hv) (hlt last hlast)

end Increasing

section Rising

variable {values : List Nat} {w : Nat}

theorem pairwise_append_of_getLast?_ne (h : values.Pairwise (· < ·)) (hle : ∀ v ∈ values, v ≤ w)
    (hne : values.getLast? ≠ some w) : (values ++ [w]).Pairwise (· < ·) := by
  refine pairwise_append_of_getLast?_lt h fun last hlast => ?_
  refine Nat.lt_of_le_of_ne (hle last (List.mem_of_getLast? hlast)) ?_
  rintro rfl
  exact hne hlast

theorem Rise.of_getLast?_eq (h : values.Pairwise (· < ·)) (hlast : values.getLast? = some 100) :
    Rise values := by
  have hnodup : values.Nodup := h.imp Nat.ne_of_lt
  have hsub : values ⊆ List.range 101 := fun v hv =>
    List.mem_range.2 (Nat.lt_succ_of_le (le_of_getLast?_eq h hlast hv))
  have hlength : values.length ≤ 101 := by
    calc values.length
      _ ≤ (List.range 101).length := (hnodup.subperm hsub).length_le
      _ = 101 := List.length_range
  exact ⟨h, hlast, hlength, List.count_eq_one_of_mem hnodup (List.mem_of_getLast? hlast)⟩

theorem rise_closed (h : values.Pairwise (· < ·)) (hle : ∀ v ∈ values, v ≤ 100) :
    Rise (closed values) := by
  unfold closed
  split
  · next hlast => exact .of_getLast?_eq h hlast
  · next hne => exact .of_getLast?_eq (pairwise_append_of_getLast?_ne h hle hne) List.getLast?_concat

end Rising

/-! ## Percentages -/

variable {total done v : Nat}

theorem mem_percentages_iff :
    v ∈ percentages total done ↔ ∃ k, (1 ≤ k ∧ k ≤ done) ∧ 100 * k / total = v := by
  simp [percentages]

theorem pairwise_percentages (total done : Nat) : (percentages total done).Pairwise (· < ·) :=
  (Finset.sortedLT_sort _).pairwise

theorem le_of_mem_percentages (h : v ∈ percentages total done) : v ≤ 100 * done / total := by
  obtain ⟨k, ⟨-, hk⟩, rfl⟩ := mem_percentages_iff.1 h
  exact Nat.div_le_div_right (Nat.mul_le_mul_left 100 hk)

theorem div_le_hundred (h : done ≤ total) : 100 * done / total ≤ 100 :=
  Nat.div_le_of_le_mul (by rw [Nat.mul_comm total]; exact Nat.mul_le_mul_left 100 h)

/-- One more unit adds its percentage unless that is the last one already. -/
theorem percentages_succ (total done : Nat) :
    percentages total (done + 1) =
      if (percentages total done).getLast? = some (100 * (done + 1) / total) then
        percentages total done
      else percentages total done ++ [100 * (done + 1) / total] := by
  have hle : ∀ v ∈ percentages total done, v ≤ 100 * (done + 1) / total := fun v hv =>
    (le_of_mem_percentages hv).trans (Nat.div_le_div_right (by omega))
  have hmem : ∀ v, v ∈ percentages total (done + 1) ↔
      v ∈ percentages total done ∨ v = 100 * (done + 1) / total := by
    intro v
    simp only [mem_percentages_iff]
    constructor
    · rintro ⟨k, ⟨hk₁, hk⟩, rfl⟩
      obtain rfl | hlt := Nat.eq_or_lt_of_le hk
      · exact .inr rfl
      · exact .inl ⟨k, ⟨hk₁, Nat.le_of_lt_succ hlt⟩, rfl⟩
    · rintro (⟨k, ⟨hk₁, hk⟩, rfl⟩ | rfl)
      · exact ⟨k, ⟨hk₁, Nat.le_succ_of_le hk⟩, rfl⟩
      · exact ⟨done + 1, ⟨by omega, le_rfl⟩, rfl⟩
  -- increasing lists with the same values are the same
  have heq : ∀ values : List Nat, values.Pairwise (· < ·) →
      (∀ v, v ∈ values ↔ v ∈ percentages total done ∨ v = 100 * (done + 1) / total) →
        percentages total (done + 1) = values := fun values hvalues hiff =>
    (pairwise_percentages _ _).sortedLT.eq_of_mem_iff hvalues.sortedLT
      (fun {v} => (hmem v).trans (hiff v).symm)
  split
  · next hlast =>
    refine heq _ (pairwise_percentages _ _) fun v => (or_iff_left_of_imp ?_).symm
    rintro rfl
    exact List.mem_of_getLast? hlast
  · next hne =>
    refine heq _ (pairwise_append_of_getLast?_ne (pairwise_percentages _ _) hle hne) fun v => ?_
    rw [List.mem_append, List.mem_singleton]

/-! ## Meters -/

theorem percent_eq (hdone : 1 ≤ done) (h : done ≤ total) :
    percent total done = 100 * done / total := by
  rw [percent, Nat.mul_comm done, Nat.max_eq_left (hdone.trans h), Nat.min_eq_left (div_le_hundred h)]

theorem Meter.advance_done (m : Meter) : m.advance.done = m.done + 1 := by
  unfold Meter.advance
  dsimp only
  split <;> rfl

theorem Meter.advance_total (m : Meter) : m.advance.total = m.total := by
  unfold Meter.advance
  dsimp only
  split <;> rfl

theorem Meter.shown_advance (m : Meter) :
    m.advance.shown.toList =
      if m.shown.toList.getLast? = some (percent m.total (m.done + 1)) then m.shown.toList
      else m.shown.toList ++ [percent m.total (m.done + 1)] := by
  unfold Meter.advance
  dsimp only
  rw [Array.getLast?_toList]
  split
  · rfl
  · exact Array.toList_push ..

/-- A meter counts the units and has shown their percentages. -/
theorem shown_repeat_advance (h : done ≤ total) :
    let m := Nat.repeat Meter.advance done (Meter.start total)
    m.total = total ∧ m.done = done ∧ m.shown.toList = percentages total done := by
  induction done with
  | zero => exact ⟨rfl, rfl, by simp [Nat.repeat, Meter.start, percentages]⟩
  | succ done ih =>
    obtain ⟨htotal, hdone, hshown⟩ := ih (Nat.le_of_succ_le h)
    refine ⟨(Meter.advance_total _).trans htotal, ?_, ?_⟩
    · rw [Nat.repeat, Meter.advance_done, hdone]
    · rw [Nat.repeat, Meter.shown_advance, htotal, hdone, hshown,
        percent_eq (Nat.succ_pos done) h, percentages_succ]

/-- What is shown for a piece of work: the different percentages of the units that are done, and 100
at the end. -/
theorem readings_eq (h : done ≤ total) :
    readings total done = closed (percentages total done) := by
  obtain ⟨-, -, hshown⟩ := shown_repeat_advance h
  rw [readings, Meter.finish, closed, ← hshown, Array.getLast?_toList]

theorem rise_readings (h : done ≤ total) : Rise (readings total done) := by
  rw [readings_eq h]
  exact rise_closed (pairwise_percentages total done) fun v hv =>
    (le_of_mem_percentages hv).trans (div_le_hundred h)

end GlyphCanvas.Progress
