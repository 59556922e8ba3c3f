import GlyphCanvas.Proofs.Canvas.Counting
import GlyphCanvas.Proofs.Canvas.Drawing
import GlyphCanvas.Proofs.Machine.Ticker

/-!
# Lines and rectangles with machine integers

* `Machine.paint`: ink in some cells, one after the other, with a step of progress for each.
* `Machine.drawLine`, `Machine.drawRectangle`: the drawings, nothing in them checked but the points.
* `Machine.drawLine_eq`, `Machine.drawRectangle_eq`: on a small canvas they never break down, and
  they come to the drawings without bounds on the integers.
-/

namespace GlyphCanvas

namespace Machine

/-- The integers from one to another, both included. -/
def through (low high : UInt64) : List UInt64 :=
  (List.range' low.toNat (high.toNat + 1 - low.toNat)).map .ofNat

/-- The integers from one on that are below another. -/
def upTo (low high : UInt64) : List UInt64 :=
  (List.range' low.toNat (high.toNat - low.toNat)).map .ofNat

/-- Puts ink in a cell and counts it. -/
def stroke (state : Stored × Ticker) (cell : UInt64 × UInt64) : Machine (Stored × Ticker) := do
  let place ← index state.1 cell.1 cell.2
  let s ← write state.1 place inkGlyph
  return (s, ← state.2.step)

/-- Puts ink in some cells. -/
def paint (s : Stored) (cells : List (UInt64 × UInt64)) : Machine (Stored × List Nat) := do
  let (s, ticker) ← cells.foldlM stroke (s, .start (← count cells))
  return (s, ticker.finish)

/-- The cells between two points in one row or one column. -/
def segment (s : Stored) (start stop : Point) : Machine (List (UInt64 × UInt64)) := do
  let (x₁, y₁) ← locate s start
  let (x₂, y₂) ← locate s stop
  if y₁ = y₂ then return (through (min x₁ x₂) (max x₁ x₂)).map fun x => (x, y₁)
  else if x₁ = x₂ then return (through (min y₁ y₂) (max y₁ y₂)).map fun y => (x₁, y)
  else throw (.unsupportedGeometry start stop)

/-- Draws the straight line between two points. -/
def drawLine (s : Stored) (start stop : Point) : Machine (Stored × List Nat) := do
  paint s (← segment s start stop)

/-- The number of cells that room is made for before an outline is put together. -/
def room (left right top bottom : UInt64) : Machine UInt64 := do
  let columns ← add (← subtract right left) 1
  let rows ← subtract (← subtract bottom top) 1
  add (← multiply 2 columns) (← multiply 2 rows)

/-- The outline of a box, clockwise from the top left corner. -/
def outline (left right top bottom : UInt64) : Machine (List (UInt64 × UInt64)) := do
  let _ ← room left right top bottom
  let above := (through left right).map fun x => (x, top)
  let behind := (upTo (← add top 1) bottom).map fun y => (right, y)
  let below := (through left right).reverse.map fun x => (x, bottom)
  let before := (upTo (← add top 1) bottom).reverse.map fun y => (left, y)
  return above ++ behind ++ below ++ before

/-- Draws the outline of the box with two opposite corners. -/
def drawRectangle (s : Stored) (first opposite : Point) : Machine (Stored × List Nat) := do
  let (x₁, y₁) ← locate s first
  let (x₂, y₂) ← locate s opposite
  if x₁ = x₂ ∨ y₁ = y₂ then drawLine s first opposite
  else paint s (← outline (min x₁ x₂) (max x₁ x₂) (min y₁ y₂) (max y₁ y₂))

/-! ## Ink -/

section Ink

variable {c : Canvas} (h : c.Small)
include h

theorem stroke_eq {total done : Nat} (hdone : done < total) (htotal : total ≤ Canvas.maxCells)
    (p : Cell c.width c.height) :
    stroke (c.stored, (Work.meter total done).ticker) p.words =
      pure (Canvas.stored { c with grid := c.grid.put p inkGlyph },
        (Work.meter total (done + 1)).ticker) := by
  dsimp only [stroke, Cell.words]
  rw [index_cell h, pure_bind, write_index h, pure_bind, step_meter hdone htotal, pure_bind]

theorem foldlM_stroke {total : Nat} (htotal : total ≤ Canvas.maxCells)
    (cells : List (Cell c.width c.height)) (g : Grid c.width c.height) (done : Nat)
    (hdone : done + cells.length ≤ total) :
    (cells.map Cell.words).foldlM stroke
        (Canvas.stored { c with grid := g }, (Work.meter total done).ticker) =
      pure (Canvas.stored { c with grid := g.putAll cells inkGlyph },
        (Work.meter total (done + cells.length)).ticker) := by
  induction cells generalizing g done with
  | nil => rfl
  | cons p rest ih =>
    rw [List.length_cons] at hdone
    have hstroke := stroke_eq (c := { c with grid := g }) h (by omega : done < total) htotal p
    rw [List.map_cons, List.foldlM_cons, hstroke, pure_bind, ih (g.put p inkGlyph) _ (by omega),
      List.length_cons, Nat.add_right_comm, Nat.add_assoc]
    rfl

/-- Ink in no more cells than the canvas can have. -/
theorem paint_words {cells : List (Cell c.width c.height)}
    (hlength : cells.length ≤ Canvas.maxCells) :
    paint c.stored (cells.map Cell.words) = pure (c.ink cells).stored := by
  have hcount : count (cells.map Cell.words) = pure (.ofNat cells.length) :=
    count_eq (List.length_map _) (hlength.trans_lt Canvas.maxCells_lt)
  have hfold := foldlM_stroke h hlength cells c.grid 0 (by omega)
  rw [Nat.zero_add] at hfold
  rw [paint, hcount, pure_bind, start_eq hlength, hfold, pure_bind]
  dsimp only
  rw [finish_meter]
  rfl

theorem paint_border (a b : Cell c.width c.height) :
    paint c.stored ((Cell.border a b).map Cell.words) = pure (c.ink (Cell.border a b)).stored :=
  paint_words h ((Cell.length_le_of_nodup (Cell.nodup_border a b)).trans h.area_le)

end Ink

/-! ## Rows and columns -/

section Sides

variable {low high : Nat}

theorem through_ofNat (hlow : low < 2 ^ 64) (hhigh : high < 2 ^ 64) :
    through (.ofNat low) (.ofNat high) = (List.range' low (high + 1 - low)).map .ofNat := by
  rw [through, UInt64.toNat_ofNat_of_lt' hlow, UInt64.toNat_ofNat_of_lt' hhigh]

theorem upTo_ofNat (hlow : low < 2 ^ 64) (hhigh : high < 2 ^ 64) :
    upTo (.ofNat low) (.ofNat high) = (List.range' low (high - low)).map .ofNat := by
  rw [upTo, UInt64.toNat_ofNat_of_lt' hlow, UInt64.toNat_ofNat_of_lt' hhigh]

/-- A list that is given place by place, as one over a range. -/
theorem ofFn_eq_through {α : Type} {f : Fin (high - low + 1) → α} {g : UInt64 → α}
    (hle : low ≤ high) (hhigh : high < 2 ^ 64) (hfg : ∀ i, f i = g (.ofNat (low + i))) :
    List.ofFn f = (through (.ofNat low) (.ofNat high)).map g := by
  rw [through_ofNat (hle.trans_lt hhigh) hhigh, List.map_map]
  refine List.ext_getElem ?_ fun i hi hi' => ?_
  · rw [List.length_ofFn, List.length_map, List.length_range']
    omega
  · rw [List.getElem_ofFn, List.getElem_map, List.getElem_range', Nat.one_mul, hfg]
    rfl

variable {c : Canvas} (h : c.Small) {row column : Nat} (p q : Cell c.width c.height)
include h

theorem words_across (hlow : min p.x q.x = low) (hhigh : max p.x q.x = high) (hrow : p.y = row) :
    (Cell.across p q).map Cell.words =
      (through (.ofNat low) (.ofNat high)).map fun x => (x, .ofNat row) := by
  subst hlow hhigh hrow
  rw [Cell.across, List.map_ofFn]
  exact ofFn_eq_through min_le_max (max_lt (h.x_lt p) (h.x_lt q)) fun _ => rfl

theorem words_down (hlow : min p.y q.y = low) (hhigh : max p.y q.y = high)
    (hcolumn : p.x = column) :
    (Cell.down p q).map Cell.words =
      (through (.ofNat low) (.ofNat high)).map fun y => (.ofNat column, y) := by
  subst hlow hhigh hcolumn
  rw [Cell.down, List.map_ofFn]
  exact ofFn_eq_through min_le_max (max_lt (h.y_lt p) (h.y_lt q)) fun _ => rfl

/-- The inner part of a side starts one further down and stops before its end. -/
theorem words_between (hlow : min p.y q.y = low) (hhigh : max p.y q.y = high)
    (hcolumn : p.x = column) :
    (Cell.between (Cell.down p q)).map Cell.words =
      (upTo (.ofNat (low + 1)) (.ofNat high)).map fun y => (.ofNat column, y) := by
  have hp := h.y_lt p
  have hq := h.y_lt q
  have := h.height_lt
  have hp' := p.y_le
  have hq' := q.y_le
  have hinner : (List.range' low (high + 1 - low)).tail.dropLast =
      List.range' (low + 1) (high - (low + 1)) := by
    rw [List.tail_range', List.dropLast_eq_take, List.length_range',
      List.take_range'_of_length_ge (by omega)]
    congr 1
    omega
  rw [Cell.between, List.map_dropLast, List.map_tail, words_down h p q hlow hhigh hcolumn,
    through_ofNat (by omega) (by omega), upTo_ofNat (by omega) (by omega), ← hinner]
  simp only [List.map_tail, List.map_dropLast]

end Sides

/-! ## Drawings -/

section Drawings

variable {left right top bottom : Nat}

theorem room_ofNat (hx : left ≤ right) (hright : right ≤ Canvas.maxCells) (hy : top < bottom)
    (hbottom : bottom ≤ Canvas.maxCells) :
    room (.ofNat left) (.ofNat right) (.ofNat top) (.ofNat bottom) =
      pure (.ofNat (2 * (right - left + 1) + 2 * (bottom - top - 1))) := by
  have hword : 2 * (Canvas.maxCells + 1) + 2 * Canvas.maxCells < 2 ^ 64 := by decide
  have hdouble : ∀ {n : Nat}, 2 * n < 2 ^ 64 → multiply 2 (.ofNat n) = pure (.ofNat (2 * n)) :=
    fun hn => multiply_ofNat (a := 2) (by decide) (by omega) hn
  rw [room, subtract_ofNat hx (by omega), pure_bind, add_one (by omega), pure_bind,
    subtract_ofNat hy.le (by omega), pure_bind, subtract_one (by omega) (by omega), pure_bind,
    hdouble (by omega), pure_bind, hdouble (by omega), pure_bind, add_ofNat (by omega)]

/-- The upper and the lower row of the box reach from its left to its right column. -/
theorem ends_rows {width height : Nat} (a b : Cell width height) :
    min (Cell.topmost a b).x (Cell.bottommost a b).x = min a.x b.x ∧
      max (Cell.topmost a b).x (Cell.bottommost a b).x = max a.x b.x ∧
      (Cell.topmost a b).y = min a.y b.y ∧ (Cell.bottommost a b).y = max a.y b.y := by
  unfold Cell.topmost Cell.bottommost
  split <;> omega

theorem ends_columns {width height : Nat} (a b : Cell width height) :
    min (Cell.leftmost a b).y (Cell.rightmost a b).y = min a.y b.y ∧
      max (Cell.leftmost a b).y (Cell.rightmost a b).y = max a.y b.y ∧
      (Cell.leftmost a b).x = min a.x b.x ∧ (Cell.rightmost a b).x = max a.x b.x := by
  unfold Cell.leftmost Cell.rightmost
  split <;> omega

variable {c : Canvas} (h : c.Small)
include h

/-- The four sides of the outline, each in its direction. -/
theorem words_outline (a b : Cell c.width c.height) (hy : a.y ≠ b.y) :
    outline (min (.ofNat a.x) (.ofNat b.x)) (max (.ofNat a.x) (.ofNat b.x))
        (min (.ofNat a.y) (.ofNat b.y)) (max (.ofNat a.y) (.ofNat b.y)) =
      pure ((Cell.outline a b).map Cell.words) := by
  have hax := a.x_le
  have hbx := b.x_le
  have hay := a.y_le
  have hby := b.y_le
  have hwidth := h.width_le
  have hheight := h.height_le
  have hlt := h.height_lt
  have hcolumns : min a.x b.x ≤ max a.x b.x := min_le_max
  have hright : max a.x b.x ≤ Canvas.maxCells := by omega
  have hrows : min a.y b.y < max a.y b.y := by omega
  have hbottom : max a.y b.y ≤ Canvas.maxCells := by omega
  have hnext : add (.ofNat (min a.y b.y)) 1 = pure (.ofNat (min a.y b.y + 1)) :=
    add_one (by omega)
  rw [min_ofNat (h.x_lt a) (h.x_lt b), max_ofNat (h.x_lt a) (h.x_lt b),
    min_ofNat (h.y_lt a) (h.y_lt b), max_ofNat (h.y_lt a) (h.y_lt b), outline,
    room_ofNat hcolumns hright hrows hbottom, pure_bind, hnext, pure_bind, pure_bind]
  obtain ⟨hlow, hhigh, htop, hunder⟩ := ends_rows a b
  obtain ⟨hup, hdown, hwest, heast⟩ := ends_columns a b
  have habove := words_across h _ _ hlow hhigh htop
  have hbehind := words_between h _ _ ((min_comm _ _).trans hup) ((max_comm _ _).trans hdown) heast
  have hbelow := words_across h _ _ ((min_comm _ _).trans hlow) ((max_comm _ _).trans hhigh) hunder
  have hbefore := words_between h _ _ hup hdown hwest
  rw [Cell.outline]
  simp only [List.map_append, List.map_reverse, habove, hbelow, hbehind, hbefore]

/-- The path between two points is the same. -/
theorem segment_eq (start stop : Point) :
    segment c.stored start stop =
      MonadExcept.ofExcept ((c.path start stop).map (List.map Cell.words)) := by
  rw [segment, Canvas.path, locate_eq h, locate_eq h]
  cases c.locate start with
  | error error => rfl
  | ok a =>
    cases c.locate stop with
    | error error => rfl
    | ok b =>
      show (if UInt64.ofNat a.y = .ofNat b.y then _
          else if UInt64.ofNat a.x = .ofNat b.x then _ else _) =
        MonadExcept.ofExcept (Except.map _ (if a.y = b.y then _ else if a.x = b.x then _ else _))
      simp only [ofNat_inj (h.x_lt a) (h.x_lt b), ofNat_inj (h.y_lt a) (h.y_lt b)]
      by_cases hy : a.y = b.y
      · have hwords := words_across h a b rfl rfl rfl
        rw [← min_ofNat (h.x_lt a) (h.x_lt b), ← max_ofNat (h.x_lt a) (h.x_lt b)] at hwords
        rw [if_pos hy, if_pos hy]
        exact congrArg pure hwords.symm
      by_cases hx : a.x = b.x
      · have hwords := words_down h a b rfl rfl rfl
        rw [← min_ofNat (h.y_lt a) (h.y_lt b), ← max_ofNat (h.y_lt a) (h.y_lt b)] at hwords
        rw [if_neg hy, if_neg hy, if_pos hx, if_pos hx]
        exact congrArg pure hwords.symm
      · rw [if_neg hy, if_neg hy, if_neg hx, if_neg hx]
        rfl

theorem drawLine_eq (start stop : Point) :
    drawLine c.stored start stop =
      MonadExcept.ofExcept ((c.drawLine start stop).map Canvas.Change.stored) := by
  rw [drawLine, segment_eq h]
  cases hpath : c.path start stop with
  | error error =>
    rw [Canvas.drawLine, hpath]
    rfl
  | ok cells =>
    have hdraw : c.drawLine start stop = .ok (c.ink cells) := by
      rw [Canvas.drawLine, hpath]
      rfl
    obtain ⟨a, b, rfl, rfl, straight, -⟩ := Canvas.drawLine_eq_ok_iff.1 hdraw
    rw [c.path_toPoint straight, Except.ok.injEq] at hpath
    subst hpath
    rw [hdraw]
    show (pure _ >>= paint c.stored) = pure _
    rw [pure_bind]
    exact paint_border h a b

theorem drawRectangle_eq (first opposite : Point) :
    drawRectangle c.stored first opposite =
      MonadExcept.ofExcept ((c.drawRectangle first opposite).map Canvas.Change.stored) := by
  rw [drawRectangle, Canvas.drawRectangle, locate_eq h, locate_eq h]
  cases c.locate first with
  | error error => rfl
  | ok a =>
    cases c.locate opposite with
    | error error => rfl
    | ok b =>
      show (if UInt64.ofNat a.x = .ofNat b.x ∨ UInt64.ofNat a.y = .ofNat b.y then _ else _) =
        MonadExcept.ofExcept (Except.map _ (if a.x = b.x ∨ a.y = b.y then _ else _))
      simp only [ofNat_inj (h.x_lt a) (h.x_lt b), ofNat_inj (h.y_lt a) (h.y_lt b)]
      split
      · exact drawLine_eq h first opposite
      · next hbox =>
        rw [words_outline h a b (not_or.1 hbox).2, pure_bind, ← Cell.border_eq_outline hbox]
        exact paint_border h a b

end Drawings

end Machine

end GlyphCanvas
