import GlyphCanvas.Command.Symmetry
import GlyphCanvas.Proofs.Canvas.Creation
import GlyphCanvas.Proofs.Canvas.Likeness
import GlyphCanvas.Proofs.Canvas.Outline
import GlyphCanvas.Proofs.Slot.Agreement

/-!
# Exchanging the axes

* `Cell.transpose`: cells with columns and rows exchanged. Neighbours stay neighbours, a straight
  line becomes the other kind of line, and an outline goes through the exchanged cells in another
  order (`Cell.outline_swap_perm`).
* `Canvas.transposed_iff`: a transposed canvas is one whose cells correspond in this way.
* `Canvas.path_transposed`, `Canvas.drawLine_transposed`, `Canvas.drawRectangle_transposed`,
  `Canvas.fill_transposed`, `Canvas.create_transposed`: each command, with its axes exchanged, does
  to the transposed canvas what it does to the canvas.
* `Slot.replies_transposed`: so a run of commands and the run with all axes exchanged agree at every
  step.
-/

namespace GlyphCanvas

namespace Cell

variable {width height : Nat}

/-- The cell with column and row exchanged. -/
def swap (p : Cell width height) : Cell height width :=
  ⟨p.y, p.x, p.one_le_y, p.y_le, p.one_le_x, p.x_le⟩

/-- The exchange of columns and rows, which undoes itself. -/
def transpose : Cell width height ≃ Cell height width where
  toFun := swap
  invFun := swap
  left_inv _ := rfl
  right_inv _ := rfl

@[simp] theorem toPoint_swap (p : Cell width height) : p.swap.toPoint = p.toPoint.swap := rfl

theorem ofPoint?_swap (p : Point) :
    (ofPoint? p.swap : Option (Cell height width)) = (ofPoint? p).map swap := by
  ext q
  rw [ofPoint?_eq_some_iff, Option.map_eq_some_iff]
  constructor
  · intro hq
    refine ⟨q.swap, ofPoint?_eq_some_iff.2 ?_, rfl⟩
    rw [toPoint_swap, hq, Point.swap_swap]
  · rintro ⟨r, hr, rfl⟩
    rw [toPoint_swap, ofPoint?_eq_some_iff.1 hr]

theorem keepsSides_transpose :
    KeepsSides (transpose : Cell width height ≃ Cell height width) := by
  intro p q
  show p.swap.Adjacent q.swap ↔ p.Adjacent q
  simp only [Adjacent, swap]
  omega

/-! ## Lines and outlines -/

theorem across_swap (a b : Cell width height) : across a.swap b.swap = (down a b).map swap := by
  rw [across, down, List.map_ofFn]
  rfl

theorem down_swap (a b : Cell width height) : down a.swap b.swap = (across a b).map swap := by
  rw [across, down, List.map_ofFn]
  rfl

theorem across_self (a : Cell width height) : across a a = [a] := by
  have hlength : (across a a).length = 1 := by simp [across]
  obtain ⟨q, hq⟩ := List.length_eq_one_iff.1 hlength
  have hmem : a ∈ across a a := mem_across_iff.2 (by omega)
  rw [hq, List.mem_singleton] at hmem
  rw [hq, hmem]

theorem onBorder_swap_iff {a b q : Cell width height} :
    OnBorder a.swap b.swap q.swap ↔ OnBorder a b q := by
  constructor
  · rintro ⟨hx, hy, hside⟩
    simp only [swap] at hx hy hside
    exact ⟨hy, hx, by omega⟩
  · rintro ⟨hx, hy, hside⟩
    refine ⟨hy, hx, ?_⟩
    simp only [swap]
    omega

/-- The sides of the box are drawn in another order. -/
theorem outline_swap_perm {a b : Cell width height} (hx : a.x ≠ b.x) (hy : a.y ≠ b.y) :
    (outline a.swap b.swap).Perm ((outline a b).map swap) := by
  have hinjective : (swap : Cell width height → Cell height width).Injective := transpose.injective
  rw [List.perm_ext_iff_of_nodup (nodup_outline hy hx) ((nodup_outline hx hy).map hinjective)]
  intro q
  rw [← transpose.apply_symm_apply q]
  show (transpose.symm q).swap ∈ _ ↔ (transpose.symm q).swap ∈ _
  rw [List.mem_map_of_injective hinjective, mem_outline_iff, mem_outline_iff, onBorder_swap_iff]

end Cell

namespace Canvas

/-! ## Transposed canvases -/

variable {c d : Canvas}

theorem get?_swap (c : Canvas) (g : Grid c.height c.width) (p : Point) :
    get? ⟨c.height, c.width, g⟩ p.swap = (Cell.ofPoint? p).map fun q => g.glyph (Cell.swap q) := by
  rw [get?, Cell.ofPoint?_swap, Option.map_map]
  rfl

theorem transposed_iff : c.Transposed d ↔
    ∃ g : Grid c.height c.width, d = ⟨c.height, c.width, g⟩ ∧
      Grid.Like Cell.transpose id c.grid g := by
  constructor
  · intro h
    obtain ⟨width, height, g⟩ := d
    obtain ⟨rfl, rfl, hget⟩ := h
    refine ⟨g, rfl, fun p => ?_⟩
    have hp := hget p.toPoint
    rw [get?_swap, get?, Cell.ofPoint?_toPoint] at hp
    exact Option.some.inj hp
  · rintro ⟨g, rfl, hlike⟩
    refine ⟨rfl, rfl, fun p => ?_⟩
    rw [get?_swap, get?]
    congr 1
    funext q
    exact hlike q

/-- What is painted in a canvas is painted in the transposed one. -/
theorem paint_transposed {g : Grid c.height c.width} (h : Grid.Like Cell.transpose id c.grid g)
    {cells : List (Cell c.width c.height)} {cells' : List (Cell c.height c.width)}
    (hcells : ∀ p, Cell.transpose p ∈ cells' ↔ p ∈ cells) (glyph : Char) :
    (c.paint cells glyph).Transposed (paint ⟨c.height, c.width, g⟩ cells' glyph) :=
  transposed_iff.2 ⟨g.putAll cells' glyph, rfl, h.putAll hcells glyph⟩

/-! ## Commands on transposed canvases -/

theorem locate_transposed (c : Canvas) (g : Grid c.height c.width) (p : Point) :
    Agree CommandError.kind (fun a b => b = Cell.swap a) (c.locate p)
      (locate ⟨c.height, c.width, g⟩ p.swap) := by
  unfold locate
  rw [Cell.ofPoint?_swap]
  cases Cell.ofPoint? p with
  | none => exact .refused rfl
  | some a => exact .done rfl

/-- A path along a row becomes one along a column. -/
theorem path_transposed (c : Canvas) (g : Grid c.height c.width) (start stop : Point) :
    Agree CommandError.kind (fun cells cells' => cells' = cells.map Cell.swap) (c.path start stop)
      (path ⟨c.height, c.width, g⟩ start.swap stop.swap) := by
  refine (locate_transposed c g start).bind fun a _ ha => ?_
  refine (locate_transposed c g stop).bind fun b _ hb => ?_
  subst ha hb
  by_cases hy : a.y = b.y
  · by_cases hx : a.x = b.x
    · -- a single cell, which is a part of a row in both canvases
      obtain rfl : a = b := Cell.ext hx hy
      rw [if_pos rfl, if_pos rfl, Cell.across_self, Cell.across_self]
      exact .done rfl
    · rw [if_pos hy, if_neg (show ¬a.swap.y = b.swap.y from hx),
        if_pos (show a.swap.x = b.swap.x from hy)]
      exact .done (Cell.down_swap a b)
  · by_cases hx : a.x = b.x
    · rw [if_neg hy, if_pos hx, if_pos (show a.swap.y = b.swap.y from hx)]
      exact .done (Cell.across_swap a b)
    · rw [if_neg hy, if_neg hx, if_neg (show ¬a.swap.y = b.swap.y from hx),
        if_neg (show ¬a.swap.x = b.swap.x from hy)]
      exact .refused rfl

theorem ink_transposed {g : Grid c.height c.width} (h : Grid.Like Cell.transpose id c.grid g)
    {cells : List (Cell c.width c.height)} {cells' : List (Cell c.height c.width)}
    (hperm : cells'.Perm (cells.map Cell.swap)) :
    (c.ink cells).Alike Transposed (ink ⟨c.height, c.width, g⟩ cells') where
  canvas := by
    refine paint_transposed h (fun p => ?_) inkGlyph
    rw [hperm.mem_iff]
    exact List.mem_map_of_injective Cell.transpose.injective
  shown := by
    simp only [ink, hperm.length_eq, List.length_map]

theorem drawLine_transposed (h : c.Transposed d) (start stop : Point) :
    Agree CommandError.kind (Change.Alike Transposed) (c.drawLine start stop)
      (d.drawLine start.swap stop.swap) := by
  obtain ⟨g, rfl, hlike⟩ := transposed_iff.1 h
  refine (path_transposed c g start stop).bind fun cells _ hcells => .done ?_
  exact ink_transposed hlike (.of_eq hcells)

theorem drawRectangle_transposed (h : c.Transposed d) (first opposite : Point) :
    Agree CommandError.kind (Change.Alike Transposed) (c.drawRectangle first opposite)
      (d.drawRectangle first.swap opposite.swap) := by
  obtain ⟨g, rfl, hlike⟩ := transposed_iff.1 h
  refine (locate_transposed c g first).bind fun a _ ha => ?_
  refine (locate_transposed c g opposite).bind fun b _ hb => ?_
  subst ha hb
  by_cases hline : a.x = b.x ∨ a.y = b.y
  · rw [if_pos hline, if_pos (show a.swap.x = b.swap.x ∨ a.swap.y = b.swap.y from hline.symm)]
    exact drawLine_transposed h first opposite
  · rw [if_neg hline, if_neg (show ¬(a.swap.x = b.swap.x ∨ a.swap.y = b.swap.y) from
      fun hswap => hline hswap.symm)]
    obtain ⟨hx, hy⟩ := not_or.1 hline
    exact .done (ink_transposed hlike (Cell.outline_swap_perm hx hy))

theorem fill_transposed (h : c.Transposed d) (p : Point) (colour : Char) :
    Agree CommandError.kind (Change.Alike Transposed) (c.fill p colour) (d.fill p.swap colour) := by
  obtain ⟨g, rfl, hlike⟩ := transposed_iff.1 h
  exact fill_agrees hlike Cell.keepsSides_transpose Function.injective_id (Nat.mul_comm _ _)
    (fun _ _ hcells => paint_transposed hlike hcells colour) (locate_transposed c g p)

/-! ## Creation -/

theorem kind_of_create_eq_error {w h : Int} {e : CommandError} (he : create w h = .error e) :
    e.kind = .invalidDimension := by
  obtain ⟨fault, -, rfl⟩ := create_eq_error_iff.1 he
  rfl

theorem create_swap {w h : Int} (hc : create w h = .ok c) :
    ∃ d, create h w = .ok d ∧ c.Transposed d := by
  obtain ⟨hwidth, hheight, hw, hh, hsize, hgrid⟩ := create_eq_ok_iff.1 hc
  refine ⟨⟨c.height, c.width, .fresh c.height c.width⟩, ?_, transposed_iff.2 ⟨_, rfl, ?_⟩⟩
  · exact create_eq_ok_iff.2 ⟨hheight, hwidth, hh, hw, by rw [Nat.mul_comm]; exact hsize, rfl⟩
  · intro p
    rw [hgrid, Grid.glyph_fresh, Grid.glyph_fresh]
    rfl

theorem create_transposed (w h : Int) :
    Agree CommandError.kind Transposed (create w h) (create h w) := by
  cases hc : create w h with
  | ok c =>
    obtain ⟨d, hd, hcd⟩ := create_swap hc
    rw [hd]
    exact .done hcd
  | error e =>
    cases hd : create h w with
    | ok d =>
      obtain ⟨c, hc', -⟩ := create_swap hd
      simp [hc] at hc'
    | error e' =>
      exact .refused ((kind_of_create_eq_error hc).trans (kind_of_create_eq_error hd).symm)

end Canvas

namespace Slot

/-- A command and the one with its axes exchanged, on slots with transposed canvases. -/
theorem apply_transposed {s t : Slot} (h : Option.Rel Canvas.Transposed s t) (command : Command) :
    (s.apply command).Agrees CommandError.kind Canvas.Transposed (t.apply command.swap) := by
  cases command with
  | create width height =>
    exact apply_create_agrees (Canvas.create_transposed width height) h
  | line start stop =>
    exact change_agrees (fun _ _ hcd => Canvas.drawLine_transposed hcd start stop) h
  | rectangle first opposite =>
    exact change_agrees (fun _ _ hcd => Canvas.drawRectangle_transposed hcd first opposite) h
  | fill seed colour =>
    exact change_agrees (fun _ _ hcd => Canvas.fill_transposed hcd seed colour) h

/-- Exchanging the axes in all commands exchanges them in all canvases and is not noticed
otherwise: at every step both commands succeed or both are refused for reasons of one kind, they
show the same percentages, and the slots are empty or hold a canvas and its transpose. -/
theorem replies_transposed (commands : List Command) :
    List.Forall₂ (Reply.Agrees CommandError.kind Canvas.Transposed)
      (replies none commands) (replies none (commands.map Command.swap)) :=
  replies_agree (fun _ _ => apply_transposed) .none commands

end Slot

end GlyphCanvas
