import GlyphCanvas.Canvas.Cell
import Mathlib.Data.Finset.Prod
import Mathlib.Data.Set.Card
import Mathlib.Order.Interval.Finset.Nat

/-!
# Counting cells

* `ncard_eq_length`: a set is as large as a list that holds each of its elements once.
* `Cell.length_le_of_nodup`: a canvas has as many cells as its size says, so a list that holds none
  of them twice is no longer than that.
-/

namespace GlyphCanvas

/-- A set has as many elements as a list that holds each of them once. -/
theorem ncard_eq_length {α : Type} {P : α → Prop} {elements : List α} (hnodup : elements.Nodup)
    (hmem : ∀ a, a ∈ elements ↔ P a) : {a | P a}.ncard = elements.length := by
  classical
  have hset : {a | P a} = ↑elements.toFinset := by
    ext a
    simp [hmem]
  rw [hset, Set.ncard_coe_finset, List.toFinset_card_of_nodup hnodup]

namespace Cell

variable {width height : Nat}

theorem toPoint_injective : (toPoint : Cell width height → Point).Injective := by
  intro p q h
  rw [← Option.some_inj, ← ofPoint?_toPoint p, ← ofPoint?_toPoint q, h]

theorem length_le_of_nodup {cells : List (Cell width height)} (h : cells.Nodup) :
    cells.length ≤ width * height := by
  have hinjective : Function.Injective fun q : Cell width height => (q.x, q.y) := fun p q hpq =>
    Cell.ext (congrArg Prod.fst hpq) (congrArg Prod.snd hpq)
  have hsub : (cells.map fun q => (q.x, q.y)).toFinset ⊆
      Finset.Icc 1 width ×ˢ Finset.Icc 1 height := by
    intro place hplace
    obtain ⟨q, -, rfl⟩ := List.mem_map.1 (List.mem_toFinset.1 hplace)
    simp only [Finset.mem_product, Finset.mem_Icc]
    exact ⟨⟨q.one_le_x, q.x_le⟩, q.one_le_y, q.y_le⟩
  calc cells.length
    _ = (cells.map fun q => (q.x, q.y)).toFinset.card := by
      rw [List.toFinset_card_of_nodup (h.map hinjective), List.length_map]
    _ ≤ (Finset.Icc 1 width ×ˢ Finset.Icc 1 height).card := Finset.card_le_card hsub
    _ = width * height := by simp

end Cell

end GlyphCanvas
