/-!
# The progress of a whole script

A script of `total` commands is at `100 · done / total` percent when `done` of them are complete,
and a command under way adds its share. A percentage is reported only if it is greater than the
one reported before.

* `Percentage`: the operations that percentages need. Doubles have them, and so has every ordered
  field, in which the same blend can be computed without rounding.
* `Blend.underWay`, `Blend.complete`, `Blend.conclude`: the moments at which a percentage may be
  reported, each with the reports that it makes.
-/

namespace GlyphCanvas.Progress

/-- Numbers in which percentages are computed. -/
class Percentage (α : Type) extends NatCast α, Add α, Mul α, Div α, LT α, LE α where
  decLt : DecidableLT α
  decLe : DecidableLE α

instance Percentage.decidableLT {α : Type} [Percentage α] : DecidableLT α := Percentage.decLt

instance Percentage.decidableLE {α : Type} [Percentage α] : DecidableLE α := Percentage.decLe

instance Percentage.ofFloat : Percentage Float where
  natCast := Float.ofNat
  decLt := fun a b => Float.decLt a b
  decLe := fun a b => Float.decLe a b

/-- A script's commands, those that are complete, and the percentage reported last. -/
structure Blend (α : Type) where
  total : Nat
  done : Nat
  last : Option α
deriving DecidableEq

variable {α : Type} [Percentage α]

/-- The nearest number from 0 to 100. -/
def clamp (value : α) : α :=
  if value < ((0 : Nat) : α) then ((0 : Nat) : α)
  else if ((100 : Nat) : α) < value then ((100 : Nat) : α)
  else value

namespace Blend

/-- A script that has not begun. -/
def start (total : Nat) : Blend α :=
  { total, done := 0, last := none }

/-- The percentage when all complete commands are counted and the current one is at `shown`. -/
def overall (b : Blend α) (shown : Nat) : α :=
  (b.done : α) / (b.total : α) * ((100 : Nat) : α) + clamp (shown : α) / (b.total : α)

/-- The percentage when exactly the complete commands are counted. -/
def credit (b : Blend α) : α :=
  (b.done : α) / (b.total : α) * ((100 : Nat) : α)

/-- Reports a percentage if it is progress. -/
def report (b : Blend α) (value : α) : Blend α × List α :=
  let value := clamp value
  match b.last with
  | some last => if value ≤ last then (b, []) else ({ b with last := some value }, [value])
  | none => ({ b with last := some value }, [value])

/-- Reports what a command shows while it is under way. -/
def underWay (b : Blend α) : List Nat → Blend α × List α
  | [] => (b, [])
  | shown :: rest =>
    let (b, reports) := b.report (b.overall shown)
    let (b, more) := b.underWay rest
    (b, reports ++ more)

/-- One more command is complete. -/
def complete (b : Blend α) : Blend α × List α :=
  let b := { b with done := b.done + 1 }
  b.report b.credit

/-- The script is at its end. -/
def conclude (b : Blend α) : Blend α × List α :=
  b.report ((100 : Nat) : α)

/-! ## What is counted

Reports remember the last percentage and change no count. -/

theorem report_counts (b : Blend α) (value : α) :
    (b.report value).1.done = b.done ∧ (b.report value).1.total = b.total := by
  unfold report
  dsimp only
  split
  · split <;> exact ⟨rfl, rfl⟩
  · exact ⟨rfl, rfl⟩

theorem underWay_counts (b : Blend α) (shown : List Nat) :
    (b.underWay shown).1.done = b.done ∧ (b.underWay shown).1.total = b.total := by
  induction shown generalizing b with
  | nil => exact ⟨rfl, rfl⟩
  | cons first rest ih =>
    obtain ⟨hdone, htotal⟩ := b.report_counts (b.overall first)
    obtain ⟨hdone', htotal'⟩ := ih (b.report (b.overall first)).1
    exact ⟨hdone'.trans hdone, htotal'.trans htotal⟩

@[simp] theorem underWay_done (b : Blend α) (shown : List Nat) :
    (b.underWay shown).1.done = b.done :=
  (b.underWay_counts shown).1

@[simp] theorem underWay_total (b : Blend α) (shown : List Nat) :
    (b.underWay shown).1.total = b.total :=
  (b.underWay_counts shown).2

@[simp] theorem complete_done (b : Blend α) : b.complete.1.done = b.done + 1 :=
  (report_counts _ _).1

@[simp] theorem complete_total (b : Blend α) : b.complete.1.total = b.total :=
  (report_counts _ _).2

@[simp] theorem conclude_done (b : Blend α) : b.conclude.1.done = b.done :=
  (report_counts _ _).1

@[simp] theorem conclude_total (b : Blend α) : b.conclude.1.total = b.total :=
  (report_counts _ _).2

end Blend

end GlyphCanvas.Progress
