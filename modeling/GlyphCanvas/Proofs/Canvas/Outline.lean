import GlyphCanvas.Canvas.Draw
import Mathlib.Data.List.FinRange

/-!
# The cells of lines and outlines

* `Cell.mem_across_iff`, `Cell.mem_down_iff`: the cells of a row or a column between two cells.
* `Cell.OnBorder`: the cell is on the border of the box with two opposite corners.
* `Cell.mem_outline_iff`, `Cell.nodup_outline`: an outline goes through the cells on the border, and
  through each of them once.
* `Cell.border`: the same for every box, also for one of a single row or column.
-/

namespace GlyphCanvas.Cell

variable {width height : Nat} {a b q : Cell width height}

/-! ## Straight lines -/

theorem mem_across_iff :
    q ∈ across a b ↔ q.y = a.y ∧ min a.x b.x ≤ q.x ∧ q.x ≤ max a.x b.x := by
  rw [across, List.mem_ofFn]
  constructor
  · rintro ⟨i, rfl⟩
    have := i.isLt
    refine ⟨rfl, ?_, ?_⟩ <;> dsimp only <;> omega
  · rintro ⟨hy, hl, hu⟩
    refine ⟨⟨q.x - min a.x b.x, by omega⟩, Cell.ext ?_ hy.symm⟩
    dsimp only
    omega

theorem mem_down_iff :
    q ∈ down a b ↔ q.x = a.x ∧ min a.y b.y ≤ q.y ∧ q.y ≤ max a.y b.y := by
  rw [down, List.mem_ofFn]
  constructor
  · rintro ⟨i, rfl⟩
    have := i.isLt
    refine ⟨rfl, ?_, ?_⟩ <;> dsimp only <;> omega
  · rintro ⟨hx, hl, hu⟩
    refine ⟨⟨q.y - min a.y b.y, by omega⟩, Cell.ext hx.symm ?_⟩
    dsimp only
    omega

theorem nodup_across (a b : Cell width height) : (across a b).Nodup := by
  refine List.nodup_ofFn.2 fun i j h => Fin.ext ?_
  have hx := congrArg Cell.x h
  dsimp only at hx
  omega

theorem nodup_down (a b : Cell width height) : (down a b).Nodup := by
  refine List.nodup_ofFn.2 fun i j h => Fin.ext ?_
  have hy := congrArg Cell.y h
  dsimp only at hy
  omega

/-! ## The inner part of a side -/

theorem mem_between_iff {cells : List (Cell width height)} :
    q ∈ between cells ↔ ∃ i, ∃ h : i + 2 < cells.length, cells[i + 1] = q := by
  rw [between, List.mem_iff_getElem]
  constructor
  · rintro ⟨i, hi, rfl⟩
    rw [List.length_dropLast, List.length_tail] at hi
    exact ⟨i, by omega, by rw [List.getElem_dropLast, List.getElem_tail]⟩
  · rintro ⟨i, hi, rfl⟩
    refine ⟨i, ?_, by rw [List.getElem_dropLast, List.getElem_tail]⟩
    rw [List.length_dropLast, List.length_tail]
    omega

theorem mem_between_down_iff :
    q ∈ between (down a b) ↔ q.x = a.x ∧ min a.y b.y < q.y ∧ q.y < max a.y b.y := by
  rw [mem_between_iff]
  constructor
  · rintro ⟨i, hi, rfl⟩
    have hlength : i + 2 < max a.y b.y - min a.y b.y + 1 := by simpa [down] using hi
    refine ⟨?_, ?_, ?_⟩ <;> simp only [down, List.getElem_ofFn]
    · omega
    · omega
  · rintro ⟨hx, hl, hu⟩
    refine ⟨q.y - min a.y b.y - 1, ?_, Cell.ext ?_ ?_⟩ <;>
      simp only [down, List.length_ofFn, List.getElem_ofFn] <;> omega

theorem nodup_between {cells : List (Cell width height)} (h : cells.Nodup) :
    (between cells).Nodup :=
  h.sublist ((List.dropLast_sublist _).trans (List.tail_sublist _))

/-! ## Outlines -/

/-- The cell is on the border of the box with opposite corners `a` and `b`. -/
structure OnBorder (a b q : Cell width height) : Prop where
  x_within : min a.x b.x ≤ q.x ∧ q.x ≤ max a.x b.x
  y_within : min a.y b.y ≤ q.y ∧ q.y ≤ max a.y b.y
  on_side : q.x = a.x ∨ q.x = b.x ∨ q.y = a.y ∨ q.y = b.y

theorem mem_top_iff : q ∈ across (topmost a b) (bottommost a b) ↔
    q.y = min a.y b.y ∧ min a.x b.x ≤ q.x ∧ q.x ≤ max a.x b.x := by
  rw [mem_across_iff, topmost, bottommost]
  split <;> omega

theorem mem_bottom_iff : q ∈ across (bottommost a b) (topmost a b) ↔
    q.y = max a.y b.y ∧ min a.x b.x ≤ q.x ∧ q.x ≤ max a.x b.x := by
  rw [mem_across_iff, topmost, bottommost]
  split <;> omega

theorem mem_left_iff : q ∈ between (down (leftmost a b) (rightmost a b)) ↔
    q.x = min a.x b.x ∧ min a.y b.y < q.y ∧ q.y < max a.y b.y := by
  rw [mem_between_down_iff, leftmost, rightmost]
  split <;> omega

theorem mem_right_iff : q ∈ between (down (rightmost a b) (leftmost a b)) ↔
    q.x = max a.x b.x ∧ min a.y b.y < q.y ∧ q.y < max a.y b.y := by
  rw [mem_between_down_iff, leftmost, rightmost]
  split <;> omega

theorem mem_outline_iff : q ∈ outline a b ↔ OnBorder a b q := by
  simp only [outline, List.mem_append, List.mem_reverse, mem_top_iff, mem_bottom_iff, mem_left_iff,
    mem_right_iff]
  constructor
  · intro h
    constructor <;> omega
  · rintro ⟨hx, hy, hside⟩
    omega

/-- The four sides of a box of several rows and columns have no cell in common, since the corners
belong to the upper and the lower side only. -/
theorem nodup_outline (hx : a.x ≠ b.x) (hy : a.y ≠ b.y) : (outline a b).Nodup := by
  have htop := nodup_across (topmost a b) (bottommost a b)
  have hright := nodup_between (nodup_down (rightmost a b) (leftmost a b))
  have hbottom := List.nodup_reverse.2 (nodup_across (bottommost a b) (topmost a b))
  have hleft := List.nodup_reverse.2 (nodup_between (nodup_down (leftmost a b) (rightmost a b)))
  refine ((htop.append hright ?_).append hbottom ?_).append hleft ?_
  · intro q hq hq'
    rw [mem_top_iff] at hq
    rw [mem_right_iff] at hq'
    omega
  · intro q hq hq'
    rw [List.mem_append, mem_top_iff, mem_right_iff] at hq
    rw [List.mem_reverse, mem_bottom_iff] at hq'
    omega
  · intro q hq hq'
    simp only [List.mem_append, List.mem_reverse, mem_top_iff, mem_right_iff, mem_bottom_iff] at hq
    rw [List.mem_reverse, mem_left_iff] at hq'
    omega

/-! ## Borders -/

/-- The border of the box with opposite corners `a` and `b`: an outline, or the straight line that
the box is. -/
def border (a b : Cell width height) : List (Cell width height) :=
  if a.y = b.y then across a b
  else if a.x = b.x then down a b
  else outline a b

theorem border_eq_outline (h : ¬(a.x = b.x ∨ a.y = b.y)) : border a b = outline a b := by
  obtain ⟨hx, hy⟩ := not_or.1 h
  rw [border, if_neg hy, if_neg hx]

theorem mem_border_iff : q ∈ border a b ↔ OnBorder a b q := by
  unfold border
  split
  · next hy =>
    rw [mem_across_iff]
    constructor
    · intro h
      constructor <;> omega
    · rintro ⟨hx, hy, -⟩
      omega
  split
  · next hx =>
    rw [mem_down_iff]
    constructor
    · intro h
      constructor <;> omega
    · rintro ⟨hx, hy, -⟩
      omega
  · exact mem_outline_iff

theorem nodup_border (a b : Cell width height) : (border a b).Nodup := by
  unfold border
  split
  · exact nodup_across a b
  split
  · exact nodup_down a b
  · next hy hx => exact nodup_outline hx hy

end GlyphCanvas.Cell
