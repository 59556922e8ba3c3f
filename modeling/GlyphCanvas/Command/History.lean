import GlyphCanvas.Command.Slot

/-!
# What a slot has gone through

* `Slot.Request`: anything that can be asked of a slot, a command or a line.
* `Slot.after`: the slot after some requests, refused ones included, which starts empty.
* `Slot.Reached`: the slots that are left by some requests.
-/

namespace GlyphCanvas

namespace Slot

/-- Something asked of a slot. -/
inductive Request where
  | command (command : Command)
  | line (text : String)

/-- What becomes of a slot at a request, and the answer. -/
def serve (slot : Slot) : Request → Reply
  | .command command => slot.apply command
  | .line text => slot.applyLine text

/-- The slot after some requests, in order. -/
def after (requests : List Request) : Slot :=
  requests.foldl (fun slot request => (slot.serve request).slot) none

/-- The slot is what some requests leave of an empty one. -/
def Reached (slot : Slot) : Prop :=
  ∃ requests, slot = after requests

@[simp] theorem after_nil : after [] = none := rfl

theorem after_append_singleton (requests : List Request) (request : Request) :
    after (requests ++ [request]) = ((after requests).serve request).slot := by
  simp [after]

theorem Reached.none : Reached none :=
  ⟨[], rfl⟩

/-- What holds of the empty slot and stays true at every request holds of all reached slots. -/
theorem Reached.induction {P : Slot → Prop} (empty : P Option.none)
    (step : ∀ slot, P slot → ∀ request, P (slot.serve request).slot) {slot : Slot}
    (h : slot.Reached) : P slot := by
  obtain ⟨requests, rfl⟩ := h
  have all : ∀ (rest : List Request) (s : Slot), P s →
      P (rest.foldl (fun slot request => (slot.serve request).slot) s) := by
    intro rest
    induction rest with
    | nil => exact fun _ hs => hs
    | cons request rest ih => exact fun s hs => ih _ (step s hs request)
  exact all requests _ empty

end Slot

end GlyphCanvas
