import GlyphCanvas.Proofs.Canvas.Position
import Mathlib.Algebra.Ring.Int.Defs

/-!
# Which canvases can be created

* `Canvas.sizeFault?`: what is wrong with a size, in terms of the exact integers: the width comes
  first, then the height, then both together.
* `Canvas.create_eq`: a size with a fault is refused for it, and any other gives a fresh grid.
* `Canvas.create_eq_ok_iff`, `Canvas.create_eq_error_iff`: which sizes make a canvas, and which canvas,
  and what the others are refused for.
* `Canvas.Blank`: the size of a canvas, its frame and its blanks, one position at a time
  (`Canvas.blank_of_create`).
-/

namespace GlyphCanvas.Canvas

/-- What is wrong with a size, if something is. -/
def sizeFault? (width height : Int) : Option DimensionFault :=
  if width < 1 then some (.notPositive .width width)
  else if height < 1 then some (.notPositive .height height)
  else if 2 ^ 24 < (width + 2) * (height + 2) then some (.tooLarge width.toNat height.toNat)
  else none

theorem sizeFault?_eq_none_iff {width height : Int} :
    sizeFault? width height = none ↔
      1 ≤ width ∧ 1 ≤ height ∧ (width + 2) * (height + 2) ≤ 2 ^ 24 := by
  unfold sizeFault?
  split
  · next hw => simp only [reduceCtorEq, false_iff]; omega
  split
  · next hh => simp only [reduceCtorEq, false_iff]; omega
  split
  · next hsize => simp only [reduceCtorEq, false_iff]; omega
  · next hw hh hsize => simp only [true_iff]; omega

theorem side_of_pos (which : Side) {value : Int} (h : 1 ≤ value) :
    side which value = .ok value.toNat :=
  if_pos h

theorem side_of_lt (which : Side) {value : Int} (h : value < 1) :
    side which value = .error (.invalidDimension (.notPositive which value)) :=
  if_neg (by omega)

/-- The limit on the cells is one on the exact product. -/
theorem cells_le_maxCells_iff {width height : Int} (hw : 1 ≤ width) (hh : 1 ≤ height) :
    (width.toNat + 2) * (height.toNat + 2) ≤ maxCells ↔ (width + 2) * (height + 2) ≤ 2 ^ 24 := by
  obtain ⟨w, rfl⟩ := Int.eq_ofNat_of_zero_le (Int.le_of_lt hw)
  obtain ⟨h, rfl⟩ := Int.eq_ofNat_of_zero_le (Int.le_of_lt hh)
  rw [Int.toNat_natCast, Int.toNat_natCast, ← Int.ofNat_le]
  rfl

theorem create_eq (width height : Int) :
    create width height =
      match sizeFault? width height with
      | some fault => .error (.invalidDimension fault)
      | none => .ok
        { width := width.toNat, height := height.toNat
          grid := .fresh width.toNat height.toNat } := by
  unfold create sizeFault?
  by_cases hw : width < 1
  · rw [if_pos hw, side_of_lt _ hw]
    rfl
  rw [if_neg hw, side_of_pos _ (Int.not_lt.1 hw)]
  by_cases hh : height < 1
  · rw [if_pos hh, side_of_lt _ hh]
    rfl
  rw [if_neg hh, side_of_pos _ (Int.not_lt.1 hh)]
  have hcells := cells_le_maxCells_iff (Int.not_lt.1 hw) (Int.not_lt.1 hh)
  by_cases hsize : (width + 2) * (height + 2) ≤ 2 ^ 24
  · rw [if_neg (Int.not_lt.2 hsize)]
    exact if_pos (hcells.2 hsize)
  · rw [if_pos (Int.not_le.1 hsize)]
    exact if_neg (mt hcells.1 hsize)

/-- A canvas is made of any positive size that does not exceed the limit, and it is fresh. -/
theorem create_eq_ok_iff {w h : Int} {c : Canvas} :
    create w h = .ok c ↔ 1 ≤ c.width ∧ 1 ≤ c.height ∧ w = c.width ∧ h = c.height ∧
      (c.width + 2) * (c.height + 2) ≤ maxCells ∧ c.grid = Grid.fresh c.width c.height := by
  rw [create_eq]
  constructor
  · intro hc
    cases hfault : sizeFault? w h with
    | some fault => simp [hfault] at hc
    | none =>
      obtain ⟨hw, hh, hsize⟩ := sizeFault?_eq_none_iff.1 hfault
      rw [hfault] at hc
      cases hc
      refine ⟨?_, ?_, ?_, ?_, (cells_le_maxCells_iff hw hh).2 hsize, rfl⟩ <;> dsimp only <;> omega
  · obtain ⟨width, height, grid⟩ := c
    rintro ⟨hw, hh, rfl, rfl, hsize, hgrid⟩
    have hw' : 1 ≤ (width : Int) := Int.ofNat_le.2 hw
    have hh' : 1 ≤ (height : Int) := Int.ofNat_le.2 hh
    rw [sizeFault?_eq_none_iff.2 ⟨hw', hh', (cells_le_maxCells_iff hw' hh').1 hsize⟩,
      show grid = Grid.fresh width height from hgrid]
    rfl

theorem create_eq_error_iff {width height : Int} {error : CommandError} :
    create width height = .error error ↔
      ∃ fault, sizeFault? width height = some fault ∧ error = .invalidDimension fault := by
  rw [create_eq]
  cases sizeFault? width height with
  | none => simp
  | some fault => simp [eq_comm]

theorem exists_create_eq_ok_iff {width height : Int} :
    (∃ c, create width height = .ok c) ↔
      1 ≤ width ∧ 1 ≤ height ∧ (width + 2) * (height + 2) ≤ 2 ^ 24 := by
  rw [← sizeFault?_eq_none_iff, create_eq]
  cases sizeFault? width height <;> simp

/-- The canvas has that size and a frame around blanks: dashes in the first and the last row, bars at
both ends of the other rows. -/
structure Blank (width height : Int) (c : Canvas) : Prop where
  width_eq : c.width = width
  height_eq : c.height = height
  get?_eq : ∀ p : Point, (1 ≤ p.x ∧ p.x ≤ width) ∧ 1 ≤ p.y ∧ p.y ≤ height → c.get? p = some ' '
  charAt_eq : ∀ (x : Fin (c.width + 2)) (y : Fin (c.height + 2)), c.grid.charAt x y =
    if y.val = 0 ∨ y.val = c.height + 1 then '-'
    else if x.val = 0 ∨ x.val = c.width + 1 then '|' else ' '

theorem blank_of_create {width height : Int} {c : Canvas} (h : create width height = .ok c) :
    c.Blank width height := by
  obtain ⟨-, -, rfl, rfl, -, hgrid⟩ := create_eq_ok_iff.1 h
  refine { width_eq := rfl, height_eq := rfl, get?_eq := fun p hp => ?_, charAt_eq := fun x y => ?_ }
  · obtain ⟨cell, rfl⟩ := exists_toPoint_iff.2 hp
    rw [get?, Cell.ofPoint?_toPoint, Option.map_some, hgrid, Grid.glyph_fresh]
    rfl
  · rw [hgrid]
    exact Grid.charAt_fresh x y

end GlyphCanvas.Canvas
