/-!
# The progress of one piece of work

A piece of work has a number of equal units. After each unit its whole percentage is shown when it
differs from the one shown last, and at the end 100 is shown unless it stands already.

* `Meter.advance`, `Meter.finish`: the two moments at which a percentage may be shown.
* `readings`: everything shown while some of the units are done and then the work is declared over.
-/

namespace GlyphCanvas.Progress

/-- The whole percentage that `done` of `total` units make, at most 100. Work without units counts
as having one. -/
def percent (total done : Nat) : Nat :=
  min (done * 100 / max total 1) 100

/-- The state of a piece of work: its units, those done, and what has been shown. -/
structure Meter where
  total : Nat
  done : Nat
  shown : Array Nat

namespace Meter

/-- Work that has not begun. -/
def start (total : Nat) : Meter :=
  { total, done := 0, shown := #[] }

/-- One more unit is done. -/
def advance (m : Meter) : Meter :=
  let reached := percent m.total (m.done + 1)
  if m.shown.back? = some reached then { m with done := m.done + 1 }
  else { m with done := m.done + 1, shown := m.shown.push reached }

/-- The work is over: all that was shown, with 100 at the end. -/
def finish (m : Meter) : List Nat :=
  if m.shown.back? = some 100 then m.shown.toList else m.shown.toList ++ [100]

end Meter

/-- All percentages shown for work of `total` units of which `done` are done before it is over. -/
def readings (total done : Nat) : List Nat :=
  (Nat.repeat Meter.advance done (Meter.start total)).finish

example : readings 4 4 = [25, 50, 75, 100] ∧ readings 300 3 = [0, 1, 100] ∧
    readings 9 0 = [100] := by decide +kernel

end GlyphCanvas.Progress
