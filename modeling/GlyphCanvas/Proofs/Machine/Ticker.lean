import GlyphCanvas.Proofs.Machine.Cells
import GlyphCanvas.Proofs.Progress.Readings
import GlyphCanvas.Proofs.Slot.Work

/-!
# Meters with machine integers

* `Machine.Ticker`: the progress of one piece of work with machine integers, computed unchecked.
* `Progress.Meter.ticker`: a meter as such.
* `Machine.step_meter`: as long as no more units are done than there are, and there are no more than
  a canvas has cells, a step never breaks down and shows what the meter shows.
-/

namespace GlyphCanvas

open Progress

namespace Machine

/-- The progress of one piece of work, and everything that was shown for it. -/
structure Ticker where
  total : UInt64
  done : UInt64
  reported : Option UInt64
  shown : List Nat

namespace Ticker

/-- Work that has not begun. -/
def start (total : UInt64) : Ticker :=
  { total := max total 1, done := 0, reported := none, shown := [] }

/-- The whole percentage that is reached, at most 100. -/
def reached (total done : UInt64) : Machine UInt64 := do
  let (_, quotient) ← divide (← multiply done 100) total
  return min quotient 100

/-- One more unit is done. -/
def step (t : Ticker) : Machine Ticker := do
  let done ← add t.done 1
  let percent ← reached t.total done
  if t.reported = some percent then return { t with done }
  else
    return { t with done, reported := some percent, shown := t.shown ++ [percent.toNat] }

/-- The work is over: all that was shown, with 100 at the end. -/
def finish (t : Ticker) : List Nat :=
  if t.reported = some 100 then t.shown else t.shown ++ [100]

end Ticker

end Machine

/-- A meter with machine integers. -/
def Progress.Meter.ticker (m : Meter) : Machine.Ticker :=
  { total := .ofNat (max m.total 1)
    done := .ofNat m.done
    reported := m.shown.back?.map .ofNat
    shown := m.shown.toList }

/-- The stored canvas after a change, and the percentages shown on the way. -/
def Canvas.Change.stored (change : Change) : Stored × List Nat :=
  (change.canvas.stored, change.shown)

namespace Machine

/-! ## What was shown last -/

theorem percent_le (total done : Nat) : percent total done ≤ 100 :=
  Nat.min_le_right _ _

/-- What a step reaches stands last, whether or not it is shown again. -/
theorem back?_advance (m : Meter) :
    m.advance.shown.back? = some (percent m.total (m.done + 1)) := by
  unfold Meter.advance
  dsimp only
  split
  · next h => exact h
  · exact Array.back?_push ..

theorem back?_meter_le {total done v : Nat} (h : (Work.meter total done).shown.back? = some v) :
    v ≤ 100 := by
  cases done with
  | zero => cases h
  | succ done =>
    rw [Work.meter, Nat.repeat, back?_advance, Option.some.injEq] at h
    exact h ▸ percent_le _ _

/-- The same number was reported last. -/
theorem reported_eq_iff (total done : Nat) {v : Nat} (hv : v ≤ 100) :
    (Work.meter total done).ticker.reported = some (.ofNat v) ↔
      (Work.meter total done).shown.back? = some v := by
  unfold Meter.ticker
  dsimp only
  cases hback : (Work.meter total done).shown.back? with
  | none => simp
  | some w =>
    have hw := back?_meter_le hback
    rw [Option.map_some, Option.some.injEq, Option.some.injEq, ofNat_inj (by omega) (by omega)]

/-! ## Steps -/

variable {total done : Nat}

theorem start_eq (h : total ≤ Canvas.maxCells) :
    Ticker.start (.ofNat total) = (Work.meter total 0).ticker := by
  have hword : total < 2 ^ 64 := h.trans_lt Canvas.maxCells_lt
  have hmax : max (UInt64.ofNat total) 1 = .ofNat (max total 1) := max_ofNat hword (by decide)
  rw [Ticker.start, hmax]
  rfl

theorem reached_eq (hdone : done ≤ total) (h : total ≤ Canvas.maxCells) :
    Ticker.reached (.ofNat (max total 1)) (.ofNat done) = pure (.ofNat (percent total done)) := by
  have hword : Canvas.maxCells * 100 < 2 ^ 64 := by decide
  have htotal : max total 1 < 2 ^ 64 := by omega
  have hproduct : done * 100 < 2 ^ 64 := by omega
  have hmultiply : multiply (.ofNat done) 100 = pure (.ofNat (done * 100)) :=
    multiply_ofNat (b := 100) (by omega) (by decide) hproduct
  have hne : UInt64.ofNat (max total 1) ≠ 0 := ofNat_ne_zero (by omega) htotal
  have hquotient : done * 100 / max total 1 < 2 ^ 64 :=
    (Nat.div_le_self _ _).trans_lt hproduct
  have hmin : min (UInt64.ofNat (done * 100) / .ofNat (max total 1)) 100 =
      .ofNat (percent total done) := by
    rw [← UInt64.ofNat_div hproduct htotal]
    exact min_ofNat (b := 100) hquotient (by decide)
  rw [Ticker.reached, hmultiply, pure_bind, divide_eq hne, pure_bind]
  exact congrArg pure hmin

theorem step_meter (hdone : done < total) (h : total ≤ Canvas.maxCells) :
    (Work.meter total done).ticker.step = pure (Work.meter total (done + 1)).ticker := by
  have hadd : add (.ofNat done) 1 = pure (.ofNat (done + 1)) :=
    add_one ((Nat.succ_le_of_lt hdone |>.trans h).trans_lt Canvas.maxCells_lt)
  have hreached := reached_eq (Nat.succ_le_of_lt hdone) h
  have hle := percent_le total (done + 1)
  have hsame := reported_eq_iff total done hle
  have hvalue : (UInt64.ofNat (percent total (done + 1))).toNat = percent total (done + 1) :=
    UInt64.toNat_ofNat_of_lt' (hle.trans_lt (by decide))
  obtain ⟨htotal, hunits, -⟩ :
      (Work.meter total done).total = total ∧ (Work.meter total done).done = done ∧ _ :=
    shown_repeat_advance hdone.le
  show _ = pure (Work.meter total done).advance.ticker
  generalize Work.meter total done = m at *
  subst htotal hunits
  unfold Ticker.step Meter.advance
  rw [show m.ticker.done = .ofNat m.done from rfl, hadd, pure_bind,
    show m.ticker.total = .ofNat (max m.total 1) from rfl, hreached, pure_bind]
  by_cases hshown : m.shown.back? = some (percent m.total (m.done + 1))
  · rw [if_pos hshown, if_pos (hsame.2 hshown)]
    rfl
  · rw [if_neg hshown, if_neg (mt hsame.1 hshown), hvalue]
    unfold Meter.ticker
    simp only [Array.back?_push, Option.map_some, Array.toList_push]

theorem finish_meter (total done : Nat) :
    (Work.meter total done).ticker.finish = readings total done := by
  have h100 : (100 : UInt64) = .ofNat 100 := rfl
  rw [Ticker.finish, h100]
  simp only [reported_eq_iff total done (Nat.le_refl 100)]
  rfl

end Machine

end GlyphCanvas
