import GlyphCanvas.Proofs.Canvas.Creation

/-!
# The rows of a canvas in its text

* `Canvas.Legible`: the frame is intact and no cell holds a line end. Fresh canvases are legible,
  and paint that is no line end keeps them so.
* `Canvas.splitOn_render`: the lines of the text of a legible canvas are its rows.
* `Canvas.rows_eq`: the rows are the upper edge of the frame, those of the cells and the lower edge.
  The two edges are dashes throughout (`Canvas.Legible.row_top`, `Canvas.Legible.row_bottom`), and
  no other row begins with one (`Canvas.Legible.head?_ne_of_mem_cellRows`).
* `Canvas.ShownBy`: some rows show a canvas, so that its size and what stands at every point can be
  read off from them. The rows of a canvas do (`Canvas.shownBy_rows`).
* `Canvas.rows_injective`: a canvas is determined by its rows, and so a legible one by its text
  (`Canvas.Legible.eq_of_render_eq`).
-/

namespace GlyphCanvas

namespace Grid

variable {width height : Nat} {g : Grid width height}

/-- A position has a cell or shows the frame. -/
theorem Framed.charAt_cases (h : g.Framed) (x : Fin (width + 2)) (y : Fin (height + 2)) :
    (∃ p : Cell width height, g.charAt x y = g.glyph p) ∨ g.charAt x y = '-' ∨
      g.charAt x y = '|' := by
  by_cases hin : ∃ p : Cell width height, p.At x y
  · obtain ⟨p, hp⟩ := hin
    exact .inl ⟨p, g.charAt_of_at hp⟩
  · rw [Cell.exists_at_iff] at hin
    have hx := x.isLt
    have hy := y.isLt
    by_cases htop : y.val = 0
    · obtain rfl : y = 0 := Fin.ext htop
      exact .inr (.inl (h.top x))
    by_cases hbottom : y.val = height + 1
    · obtain rfl : y = Fin.last _ := Fin.ext hbottom
      exact .inr (.inl (h.bottom x))
    by_cases hleft : x.val = 0
    · obtain rfl : x = 0 := Fin.ext hleft
      exact .inr (.inr (h.left y (by omega) (by omega)))
    · obtain rfl : x = Fin.last _ := Fin.ext (by simp only [Fin.val_last]; omega)
      exact .inr (.inr (h.right y (by omega) (by omega)))

end Grid

namespace Canvas

/-- The text of a canvas in characters. -/
theorem toList_render (c : Canvas) : c.render.toList = ['\n'].intercalate c.rows := by
  have hrows : (c.rows.map String.ofList).map String.toList = c.rows := by
    simp
  rw [render, String.toList_intercalate, hrows]
  rfl

theorem rows_ne_nil (c : Canvas) : c.rows ≠ [] := by
  simp [rows]

@[simp] theorem length_row (c : Canvas) (y : Fin (c.height + 2)) :
    (c.row y).length = c.width + 2 :=
  List.length_ofFn

/-- The rows between the two edges of the frame. -/
def cellRows (c : Canvas) : List (List Char) :=
  List.ofFn fun y : Fin c.height => c.row y.castSucc.succ

theorem rows_eq (c : Canvas) : c.rows = c.row 0 :: c.cellRows ++ [c.row (Fin.last _)] := by
  rw [rows, List.ofFn_succ, List.ofFn_succ_last]
  rfl

theorem head?_row (c : Canvas) (y : Fin (c.height + 2)) :
    (c.row y).head? = some (c.grid.charAt 0 y) := by
  rw [row, List.ofFn_succ, List.head?_cons]

theorem row_eq_replicate {c : Canvas} {y : Fin (c.height + 2)} {glyph : Char}
    (h : ∀ x, c.grid.charAt x y = glyph) : c.row y = List.replicate (c.width + 2) glyph := by
  refine List.eq_replicate_iff.2 ⟨c.length_row y, fun d hd => ?_⟩
  obtain ⟨x, rfl⟩ := List.mem_ofFn.1 hd
  exact h x

/-! ## Rows and columns -/

@[simp] theorem length_rows (c : Canvas) : c.rows.length = c.height + 2 :=
  List.length_ofFn

theorem length_of_mem_rows {c : Canvas} {line : List Char} (h : line ∈ c.rows) :
    line.length = c.width + 2 := by
  obtain ⟨y, rfl⟩ := List.mem_ofFn.1 h
  exact c.length_row y

theorem getElem?_rows (c : Canvas) (y : Fin (c.height + 2)) : c.rows[y.val]? = some (c.row y) := by
  rw [rows, List.getElem?_ofFn, dif_pos y.isLt]

theorem getElem?_row (c : Canvas) (y : Fin (c.height + 2)) (x : Fin (c.width + 2)) :
    (c.row y)[x.val]? = some (c.grid.charAt x y) := by
  rw [row, List.getElem?_ofFn, dif_pos x.isLt]

/-- The point is drawable, and what stands there is in its column of its row. -/
theorem get?_of_mem {c : Canvas} {p : Point}
    (h : (1 ≤ p.x ∧ p.x ≤ c.width) ∧ 1 ≤ p.y ∧ p.y ≤ c.height) :
    ∃ row glyph, c.rows[p.y.toNat]? = some row ∧ row[p.x.toNat]? = some glyph ∧
      c.get? p = some glyph := by
  obtain ⟨cell, rfl⟩ := exists_toPoint_iff.2 h
  refine ⟨c.row cell.row, c.grid.glyph cell, c.getElem?_rows cell.row, ?_, ?_⟩
  · rw [← c.grid.charAt_of_at cell.at_column_row]
    exact c.getElem?_row cell.row cell.column
  · rw [get?, Cell.ofPoint?_toPoint, Option.map_some]

/-- Nothing stands at a point that is not drawable. -/
theorem get?_of_not_mem {c : Canvas} {p : Point}
    (h : ¬((1 ≤ p.x ∧ p.x ≤ c.width) ∧ 1 ≤ p.y ∧ p.y ≤ c.height)) : c.get? p = none := by
  rw [get?, Option.map_eq_none_iff, Option.eq_none_iff_forall_ne_some]
  intro cell hcell
  exact h (exists_toPoint_iff.1 ⟨cell, Cell.ofPoint?_eq_some_iff.1 hcell⟩)

/-- The rows show the canvas with its frame: their number and lengths are its size, what stands at a
drawable point is in that column of that row, and nothing stands at any other point. -/
structure ShownBy (c : Canvas) (rows : List (List Char)) : Prop where
  length_eq : rows.length = c.height + 2
  length_row_eq : ∀ row ∈ rows, row.length = c.width + 2
  get?_inside : ∀ p : Point, (1 ≤ p.x ∧ p.x ≤ c.width) ∧ 1 ≤ p.y ∧ p.y ≤ c.height →
    ∃ row glyph, rows[p.y.toNat]? = some row ∧ row[p.x.toNat]? = some glyph ∧
      c.get? p = some glyph
  get?_outside : ∀ p : Point, ¬((1 ≤ p.x ∧ p.x ≤ c.width) ∧ 1 ≤ p.y ∧ p.y ≤ c.height) →
    c.get? p = none

theorem shownBy_rows (c : Canvas) : c.ShownBy c.rows where
  length_eq := c.length_rows
  length_row_eq _ := length_of_mem_rows
  get?_inside _ := get?_of_mem
  get?_outside _ := get?_of_not_mem

/-- A canvas is determined by its rows, its size included. -/
theorem rows_injective {c d : Canvas} (h : c.rows = d.rows) : c = d := by
  have hheight : c.height = d.height := by
    have := congrArg List.length h
    rwa [length_rows, length_rows, Nat.add_right_cancel_iff] at this
  have hwidth : c.width = d.width := by
    have htop : c.row 0 ∈ d.rows := h ▸ List.mem_ofFn.2 ⟨0, rfl⟩
    have := length_of_mem_rows htop
    rwa [length_row, Nat.add_right_cancel_iff] at this
  obtain ⟨width, height, g⟩ := c
  obtain ⟨width', height', g'⟩ := d
  obtain rfl : width = width' := hwidth
  obtain rfl : height = height' := hheight
  congr
  refine Grid.ext_charAt fun x y => ?_
  have hrow : row ⟨width, height, g⟩ y = row ⟨width, height, g'⟩ y := by
    rw [← Option.some_inj, ← getElem?_rows, ← getElem?_rows, h]
  rw [← Option.some_inj, ← getElem?_row ⟨width, height, g⟩, ← getElem?_row ⟨width, height, g'⟩, hrow]

/-! ## Legible canvases -/

/-- The frame is intact and no cell holds a line end. -/
structure Legible (c : Canvas) : Prop where
  framed : c.grid.Framed
  glyph_ne : ∀ p, c.grid.glyph p ≠ '\n'

theorem Legible.create {w h : Int} {c : Canvas} (hc : create w h = .ok c) : c.Legible := by
  obtain ⟨-, -, -, -, -, hgrid⟩ := create_eq_ok_iff.1 hc
  constructor
  · exact hgrid ▸ Grid.framed_fresh
  · intro p
    rw [hgrid, Grid.glyph_fresh]
    decide

theorem Legible.paint {c : Canvas} (h : c.Legible) (cells : List (Cell c.width c.height))
    {glyph : Char} (hglyph : glyph ≠ '\n') : (c.paint cells glyph).Legible := by
  refine ⟨h.framed.putAll cells glyph, fun (p : Cell c.width c.height) => ?_⟩
  have hp : (c.paint cells glyph).grid.glyph p = if p ∈ cells then glyph else c.grid.glyph p :=
    Grid.glyph_putAll ..
  rw [hp]
  split
  · exact hglyph
  · exact h.glyph_ne p

namespace Legible

variable {c : Canvas}

theorem not_mem_row (h : c.Legible) (y : Fin (c.height + 2)) : '\n' ∉ c.row y := by
  rw [row, List.mem_ofFn]
  rintro ⟨x, hx⟩
  obtain ⟨p, hp⟩ | hp | hp := h.framed.charAt_cases x y
  · exact h.glyph_ne p (hp.symm.trans hx)
  · rw [hp] at hx
    exact absurd hx (by decide)
  · rw [hp] at hx
    exact absurd hx (by decide)

/-- The lines of the text are the rows. -/
theorem splitOn_render (h : c.Legible) : c.render.toList.splitOn '\n' = c.rows := by
  rw [toList_render]
  apply List.splitOn_intercalate _ _ c.rows_ne_nil
  intro line hline
  obtain ⟨y, rfl⟩ := List.mem_ofFn.1 hline
  exact h.not_mem_row y

/-- Legible canvases with one text are the same canvas. -/
theorem eq_of_render_eq {d : Canvas} (hc : c.Legible) (hd : d.Legible) (h : c.render = d.render) :
    c = d := by
  apply rows_injective
  rw [← hc.splitOn_render, ← hd.splitOn_render, h]

theorem row_top (h : c.Legible) : c.row 0 = List.replicate (c.width + 2) '-' :=
  row_eq_replicate h.framed.top

theorem row_bottom (h : c.Legible) : c.row (Fin.last _) = List.replicate (c.width + 2) '-' :=
  row_eq_replicate h.framed.bottom

theorem head?_ne_of_mem_cellRows (h : c.Legible) {line : List Char} (hline : line ∈ c.cellRows) :
    line.head? ≠ some '-' := by
  obtain ⟨y, rfl⟩ := List.mem_ofFn.1 hline
  have hleft : c.grid.charAt 0 y.castSucc.succ = '|' :=
    h.framed.left _ (Nat.succ_pos _) y.isLt
  rw [head?_row, hleft]
  decide

end Legible

end Canvas

end GlyphCanvas
