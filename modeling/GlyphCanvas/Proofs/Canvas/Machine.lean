import GlyphCanvas.Proofs.Canvas.Creation
import Mathlib.Algebra.Ring.Nat
import Mathlib.Data.List.FinRange
import Mathlib.Logic.Basic

/-!
# Creating a canvas with machine integers

The sides are signed integers of 64 bits, and what is computed from them are unsigned ones.

* `Machine`: a computation that can be refused. It breaks down at an operation without a result
  among the machine integers, unless the operation is one that is checked.
* `Machine.create`: the creation of a canvas, cell by cell, and only the size of the whole is
  checked.
* `Machine.run_create`: it never breaks down, and it comes to what `Canvas.create` says, which
  computes without bounds.
* `Canvas.create_exactly`: so a canvas is created exactly if its size has no fault, and it is blank.
-/

namespace GlyphCanvas

/-- A computation with machine integers: a value, a refusal, or nothing if it breaks down. -/
abbrev Machine := ExceptT CommandError Option

/-- A canvas as it is stored. -/
structure Stored where
  cells : List Char
  width : UInt64
  height : UInt64
deriving DecidableEq

/-- The canvas as it is stored. -/
def Canvas.stored (c : Canvas) : Stored :=
  { cells := c.grid.toList, width := .ofNat c.width, height := .ofNat c.height }

namespace Machine

/-- The unsigned machine integer of that value, if there is one. -/
def word? (value : Int) : Option UInt64 :=
  if 0 ≤ value ∧ value < 2 ^ 64 then some (.ofNat value.toNat) else none

/-- The sum, unchecked. -/
def add (a b : UInt64) : Machine UInt64 :=
  ExceptT.lift (word? (a.toNat + b.toNat))

/-- Remainder and quotient, unchecked. -/
def divide (a b : UInt64) : Machine (UInt64 × UInt64) :=
  ExceptT.lift (if b = 0 then none else some (a % b, a / b))

/-- A side length, which must be a positive integer. -/
def side (which : Side) (value : Int64) : Machine UInt64 :=
  match (word? value.toInt).filter (0 < ·) with
  | some size => return size
  | none => throw (.invalidDimension (.notPositive which value.toInt))

/-- What stands in a fresh canvas behind an index. -/
def freshCell (stride width height index : UInt64) : Machine Char := do
  let (x, y) ← divide index stride
  if y = 0 then return '-'
  if y = (← add height 1) then return '-'
  if x = 0 then return '|'
  if x = (← add width 1) then return '|'
  return ' '

/-- A blank canvas inside its frame. The number of its cells is checked, and nothing else. -/
def blank (width height : UInt64) : Machine Stored := do
  let stride ← add width 2
  let rows ← add height 2
  match (word? (stride.toNat * rows.toNat)).filter (· ≤ 0x1000000) with
  | some size =>
    let cells ← (List.range size.toNat).mapM fun index =>
      freshCell stride width height (.ofNat index)
    return { cells, width, height }
  | none => throw (.invalidDimension (.tooLarge width.toNat height.toNat))

/-- A blank canvas with sides that are checked before anything is computed. -/
def create (width height : Int64) : Machine Stored := do
  let width ← side .width width
  let height ← side .height height
  blank width height

/-! ## One operation -/

section Operations

variable {a b c : UInt64} {value : Int}

theorem word?_eq_some_iff : word? value = some a ↔ (a.toNat : Int) = value := by
  have ha := a.toNat_lt
  unfold word?
  split
  · next h =>
    have hlt : value.toNat < 2 ^ 64 := by omega
    rw [Option.some.injEq, ← UInt64.toNat_inj, UInt64.toNat_ofNat_of_lt' hlt]
    omega
  · simp only [reduceCtorEq, false_iff]
    omega

theorem add_eq (h : a.toNat + b.toNat = c.toNat) : add a b = pure c := by
  have hword : word? (a.toNat + b.toNat) = some c := word?_eq_some_iff.2 (by omega)
  rw [add, hword]
  rfl

theorem divide_eq (h : b ≠ 0) : divide a b = pure (a % b, a / b) := by
  rw [divide, if_neg h]
  rfl

theorem side_of_pos (which : Side) {side : Int64} (h : 1 ≤ side.toInt)
    (ha : (a.toNat : Int) = side.toInt) : Machine.side which side = pure a := by
  have hpos : 0 < a := UInt64.lt_iff_toNat_lt.2 (by rw [UInt64.toNat_zero]; omega)
  rw [Machine.side, word?_eq_some_iff.2 ha, Option.filter_some, if_pos (decide_eq_true hpos)]

theorem side_of_lt (which : Side) {side : Int64} (h : side.toInt < 1) :
    Machine.side which side = throw (.invalidDimension (.notPositive which side.toInt)) := by
  have hnone : (word? side.toInt).filter (0 < ·) = none := by
    rw [Option.filter_eq_none_iff]
    intro a ha
    rw [word?_eq_some_iff] at ha
    rw [decide_eq_true_eq, UInt64.lt_iff_toNat_lt, UInt64.toNat_zero]
    omega
  rw [Machine.side, hnone]

end Operations

/-! ## Cells -/

theorem mapM_eq_pure {α β : Type} {f : α → Machine β} {g : α → β} {elements : List α}
    (h : ∀ a ∈ elements, f a = pure (g a)) : elements.mapM f = pure (elements.map g) := by
  induction elements with
  | nil => rfl
  | cons a rest ih =>
    rw [List.mapM_cons, h a (List.mem_cons_self ..), pure_bind,
      ih fun b hb => h b (List.mem_cons_of_mem _ hb), pure_bind, List.map_cons]

/-- The row and the column behind an index are those of the grid. -/
theorem freshCell_eq {stride width height : UInt64} (hstride : stride.toNat = width.toNat + 2)
    (hheight : height.toNat + 1 < 2 ^ 64) {index : Nat} (hindex : index < 2 ^ 64) :
    freshCell stride width height (.ofNat index) =
      pure (freshGlyph width.toNat height.toNat (index % (width.toNat + 2))
        (index / (width.toNat + 2))) := by
  have hwidth : width.toNat + 1 < 2 ^ 64 := by
    have := stride.toNat_lt
    omega
  have hne : stride ≠ 0 := by
    rintro rfl
    simp at hstride
  have hbottom : add height 1 = pure (height + 1) := add_eq (by
    rw [UInt64.toNat_add, UInt64.toNat_one, Nat.mod_eq_of_lt hheight])
  have hright : add width 1 = pure (width + 1) := add_eq (by
    rw [UInt64.toNat_add, UInt64.toNat_one, Nat.mod_eq_of_lt hwidth])
  unfold freshCell
  simp only [divide_eq hne, hbottom, hright, pure_bind, ← UInt64.toNat_inj, UInt64.toNat_div,
    UInt64.toNat_mod, UInt64.toNat_add, UInt64.toNat_ofNat_of_lt' hindex, hstride,
    UInt64.toNat_zero, UInt64.toNat_one, Nat.mod_eq_of_lt hheight, Nat.mod_eq_of_lt hwidth]
  simp only [freshGlyph, ite_or, apply_ite pure]
  rfl

/-- A grid that is filled cell by cell. -/
theorem toList_fresh (width height : Nat) :
    (Grid.fresh width height).toList =
      (List.range ((width + 2) * (height + 2))).map fun index =>
        freshGlyph width height (index % (width + 2)) (index / (width + 2)) := by
  rw [Grid.fresh, Vector.toList_ofFn, List.ofFn_eq_map, ← List.map_coe_finRange_eq_range,
    List.map_map]
  rfl

/-! ## Creation -/

theorem size_eq_some_iff {product : Nat} {size : UInt64} :
    (word? product).filter (· ≤ 0x1000000) = some size ↔
      size.toNat = product ∧ product ≤ Canvas.maxCells := by
  rw [Option.filter_eq_some_iff, word?_eq_some_iff, Int.natCast_inj, decide_eq_true_eq,
    UInt64.le_iff_toNat_le]
  constructor
  · rintro ⟨rfl, hle⟩
    exact ⟨rfl, hle⟩
  · rintro ⟨rfl, hle⟩
    exact ⟨rfl, hle⟩

/-- Too large a product is refused also if it is no machine integer. -/
theorem size_eq_none {product : Nat} (h : ¬product ≤ Canvas.maxCells) :
    (word? product).filter (· ≤ 0x1000000) = none :=
  Option.eq_none_iff_forall_ne_some.2 fun _ hsize => h (size_eq_some_iff.1 hsize).2

theorem blank_eq {width height : UInt64} (hwidth : width.toNat + 2 < 2 ^ 64)
    (hheight : height.toNat + 2 < 2 ^ 64) :
    blank width height =
      if (width.toNat + 2) * (height.toNat + 2) ≤ Canvas.maxCells then
        pure (Canvas.stored ⟨width.toNat, height.toNat, .fresh width.toNat height.toNat⟩)
      else throw (.invalidDimension (.tooLarge width.toNat height.toNat)) := by
  have hstride : (width + 2).toNat = width.toNat + 2 :=
    (UInt64.toNat_add width 2).trans (Nat.mod_eq_of_lt hwidth)
  have hrows : (height + 2).toNat = height.toNat + 2 :=
    (UInt64.toNat_add height 2).trans (Nat.mod_eq_of_lt hheight)
  rw [blank, add_eq hstride.symm, pure_bind, add_eq hrows.symm, pure_bind, hstride, hrows,
    ← Int.natCast_mul]
  by_cases hle : (width.toNat + 2) * (height.toNat + 2) ≤ Canvas.maxCells
  · have hlt : (width.toNat + 2) * (height.toNat + 2) < 2 ^ 64 := Nat.lt_of_le_of_lt hle (by decide)
    have hsize := UInt64.toNat_ofNat_of_lt' hlt
    have hcells := mapM_eq_pure (f := fun index => freshCell (width + 2) width height (.ofNat index))
      fun index hindex => freshCell_eq hstride (Nat.lt_of_succ_lt hheight)
        ((List.mem_range.1 hindex).trans hlt)
    rw [size_eq_some_iff.2 ⟨hsize, hle⟩, if_pos hle]
    dsimp only
    rw [hsize, hcells, pure_bind, ← toList_fresh, Canvas.stored, UInt64.ofNat_toNat,
      UInt64.ofNat_toNat]
  · rw [size_eq_none hle, if_neg hle]

/-- The unsigned integer of a signed one that is positive. -/
theorem exists_toNat_eq {side : Int64} (h : 1 ≤ side.toInt) :
    ∃ a : UInt64, (a.toNat : Int) = side.toInt ∧ a.toNat + 2 < 2 ^ 64 := by
  have hlt := side.toInt_lt
  have hlt' : side.toInt.toNat < 2 ^ 64 := by omega
  refine ⟨.ofNat side.toInt.toNat, ?_⟩
  rw [UInt64.toNat_ofNat_of_lt' hlt']
  omega

/-- Creating a canvas never breaks down, and it comes to what it does without bounds on the
integers. -/
theorem create_eq (width height : Int64) :
    create width height =
      match Canvas.create width.toInt height.toInt with
      | .ok c => pure c.stored
      | .error error => throw error := by
  unfold create Canvas.create
  by_cases hw : width.toInt < 1
  · rw [side_of_lt _ hw, Canvas.side_of_lt _ hw]
    rfl
  obtain ⟨w, hwidth, hwlt⟩ := exists_toNat_eq (Int.not_lt.1 hw)
  rw [side_of_pos _ (Int.not_lt.1 hw) hwidth, Canvas.side_of_pos _ (Int.not_lt.1 hw), pure_bind]
  by_cases hh : height.toInt < 1
  · rw [side_of_lt _ hh, Canvas.side_of_lt _ hh]
    rfl
  obtain ⟨h, hheight, hhlt⟩ := exists_toNat_eq (Int.not_lt.1 hh)
  rw [side_of_pos _ (Int.not_lt.1 hh) hheight, Canvas.side_of_pos _ (Int.not_lt.1 hh), pure_bind,
    blank_eq hwlt hhlt, ← hwidth, ← hheight, Int.toNat_natCast, Int.toNat_natCast]
  show _ = match (if _ then _ else _ : Except CommandError Canvas) with
    | .ok c => pure c.stored
    | .error error => throw error
  split <;> rfl

theorem run_create (width height : Int64) :
    (create width height).run =
      some ((Canvas.create width.toInt height.toInt).map Canvas.stored) := by
  rw [create_eq]
  cases Canvas.create width.toInt height.toInt <;> rfl

/-- The largest sides: the number of cells is no machine integer. -/
example : (create Int64.maxValue Int64.maxValue).run =
    some (.error (.invalidDimension (.tooLarge 9223372036854775807 9223372036854775807))) := by
  decide +kernel

end Machine

namespace Canvas

/-- No operation on the way to a canvas breaks down. A canvas is created exactly if both sides are
positive and there are at most `2 ^ 24` cells with the frame. Any other size is refused for its
width, else for its height, else for the whole. The canvas has that size, and blanks inside its
frame. -/
theorem create_exactly (width height : Int64) :
    (Machine.create width height).run = some ((create width.toInt height.toInt).map stored) ∧
      ((∃ c, create width.toInt height.toInt = .ok c) ↔
        1 ≤ width.toInt ∧ 1 ≤ height.toInt ∧ (width.toInt + 2) * (height.toInt + 2) ≤ 2 ^ 24) ∧
      (∀ error, create width.toInt height.toInt = .error error ↔
        ∃ fault, sizeFault? width.toInt height.toInt = some fault ∧
          error = .invalidDimension fault) ∧
      ∀ c, create width.toInt height.toInt = .ok c → c.Blank width.toInt height.toInt :=
  ⟨Machine.run_create width height, exists_create_eq_ok_iff, fun _ => create_eq_error_iff,
    fun _ => blank_of_create⟩

/-- One column, as high as it can be, and one row more. -/
theorem create_exactly_thin :
    (∃ c, create 1 5592403 = .ok c ∧ c.Blank 1 5592403) ∧ ¬∃ c, create 1 5592404 = .ok c := by
  obtain ⟨-, hfits, -, hblank⟩ := create_exactly 1 5592403
  obtain ⟨-, hlarge, -, -⟩ := create_exactly 1 5592404
  obtain ⟨c, hc⟩ := hfits.2 (by decide)
  exact ⟨⟨c, hc, hblank c hc⟩, mt hlarge.1 (by decide)⟩

end Canvas

end GlyphCanvas
