import GlyphCanvas.Proofs.Canvas.Likeness
import GlyphCanvas.Proofs.Slot.Effect
import Mathlib.Data.List.Forall2

/-!
# Two slots that are asked corresponding commands

Two runs of commands are compared reply by reply. How much of an error is compared is left to a
function `view`, and which canvases count as alike to a relation `like`.

* `Reply.Agrees`: two replies agree in their answers, in the percentages shown and in their slots.
* `Slot.replies`: all replies of a slot to some commands.
* `Slot.apply_create_agrees`, `Slot.change_agrees`: creations and drawings that agree on canvases
  agree on slots.
* `Slot.replies_agree`: if replies to one command agree, replies to any number of commands do.
-/

namespace GlyphCanvas

variable {κ : Type} {view : CommandError → κ} {like : Canvas → Canvas → Prop}

/-- The replies are both refusals that look the same, or both successes. They show the same
percentages, and they leave two empty slots or two canvases that are alike. -/
structure Reply.Agrees (view : CommandError → κ) (like : Canvas → Canvas → Prop)
    (a b : Reply) : Prop where
  answer : Agree view (fun _ _ => True) a.answer b.answer
  shown : a.shown = b.shown
  slot : Option.Rel like a.slot b.slot

namespace Slot

/-- The replies of a slot to commands that are carried out one after the other, whatever comes of
each. -/
def replies (slot : Slot) : List Command → List Reply
  | [] => []
  | command :: rest => slot.apply command :: replies (slot.apply command).slot rest

variable {s t : Slot}

theorem refuse_agrees (h : Option.Rel like s t) {e e' : CommandError} (same : view e = view e') :
    (s.refuse e).Agrees view like (t.refuse e') where
  answer := .refused same
  shown := rfl
  slot := h

theorem accept_agrees {a b : Canvas.Change} (h : a.Alike like b) :
    (accept a).Agrees view like (accept b) where
  answer := .done trivial
  shown := h.shown
  slot := .some h.canvas

/-- A new canvas replaces what the slot holds, so creations are compared by their canvases. -/
theorem apply_create_agrees {w h w' h' : Int}
    (hcreate : Agree view like (Canvas.create w h) (Canvas.create w' h'))
    (hslot : Option.Rel like s t) :
    (s.apply (.create w h)).Agrees view like (t.apply (.create w' h')) := by
  simp only [apply]
  generalize Canvas.create w h = x at hcreate
  generalize Canvas.create w' h' = y at hcreate
  cases hcreate with
  | refused same => exact refuse_agrees hslot same
  | done related => exact accept_agrees { canvas := related, shown := rfl }

/-- A drawing changes a canvas in the slot only, so drawings are compared on canvases. -/
theorem change_agrees {draw draw' : Canvas → Except CommandError Canvas.Change}
    (hdraw : ∀ c d, like c d → Agree view (Canvas.Change.Alike like) (draw c) (draw' d))
    (h : Option.Rel like s t) : (s.change draw).Agrees view like (t.change draw') := by
  cases h with
  | none => exact refuse_agrees .none rfl
  | @some c d hcd =>
    have hagree := hdraw c d hcd
    simp only [change]
    generalize draw c = x at hagree
    generalize draw' d = y at hagree
    cases hagree with
    | refused same => exact refuse_agrees (.some hcd) same
    | done alike => exact accept_agrees alike

/-- Slots that agree to begin with go on agreeing. -/
theorem replies_agree {f : Command → Command}
    (step : ∀ s t : Slot, Option.Rel like s t → ∀ command,
      (s.apply command).Agrees view like (t.apply (f command)))
    (h : Option.Rel like s t) (commands : List Command) :
    List.Forall₂ (Reply.Agrees view like) (s.replies commands) (t.replies (commands.map f)) := by
  induction commands generalizing s t with
  | nil => exact .nil
  | cons command rest ih =>
    have hreply := step s t h command
    exact .cons hreply (ih hreply.slot)

end Slot

end GlyphCanvas
