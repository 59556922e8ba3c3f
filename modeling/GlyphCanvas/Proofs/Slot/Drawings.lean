import GlyphCanvas.Proofs.Slot.Agreement
import GlyphCanvas.Proofs.Slot.Sheet

/-!
# Lines and rectangles in any order

* `Command.Covers`: the points that a line or a rectangle goes through.
* `Command.DrawsBetween`: the command is a line or a rectangle that is possible between two cells.
  It is carried out on every canvas of their size, whatever was drawn before
  (`Slot.apply_drawsBetween`), and covers the border of their box.
* `Slot.run_drawings`: a run of such commands puts ink in the cells that one of them covers.
* `Rearranged`: drawings in another order, repeated, or with their points exchanged. They cover the
  same points (`Rearranged.covers_iff`).
* `Slot.drawings_in_any_order`: so they end in the same canvas.
-/

namespace GlyphCanvas

/-! ## What a drawing covers -/

/-- The point is in the box with opposite corners `a` and `b`. -/
def Point.Within (p a b : Point) : Prop :=
  (min a.x b.x ≤ p.x ∧ p.x ≤ max a.x b.x) ∧ min a.y b.y ≤ p.y ∧ p.y ≤ max a.y b.y

instance (p a b : Point) : Decidable (p.Within a b) :=
  inferInstanceAs (Decidable (_ ∧ _))

namespace Command

/-- The point is on the segment of a line, which is in one row or column, or on the outline of a
rectangle. -/
def Covers : Command → Point → Prop
  | line start stop, p => p.Within start stop
  | rectangle first opposite, p => p.Within first opposite ∧
      (p.x = first.x ∨ p.x = opposite.x ∨ p.y = first.y ∨ p.y = opposite.y)
  | create .., _ | fill .., _ => False

instance (command : Command) (p : Point) : Decidable (command.Covers p) :=
  match command with
  | line start stop => inferInstanceAs (Decidable (p.Within start stop))
  | rectangle .. => inferInstanceAs (Decidable (_ ∧ _))
  | create .. | fill .. => inferInstanceAs (Decidable False)

/-- The command with its two points, if it has two, exchanged. -/
def exchange : Command → Command
  | line start stop => line stop start
  | rectangle first opposite => rectangle opposite first
  | command => command

theorem exchange_exchange (command : Command) : command.exchange.exchange = command := by
  cases command <;> rfl

theorem covers_exchange {command : Command} {p : Point} :
    command.exchange.Covers p ↔ command.Covers p := by
  cases command with
  | create | fill => rfl
  | line =>
    simp only [exchange, Covers, Point.Within]
    omega
  | rectangle =>
    simp only [exchange, Covers, Point.Within]
    omega

variable {width height : Nat} {a b q : Cell width height} {command : Command}

/-- The command is a line between two cells of one row or column, or a rectangle with two cells as
opposite corners. -/
inductive DrawsBetween (a b : Cell width height) : Command → Prop where
  | line (straight : a.x = b.x ∨ a.y = b.y) : DrawsBetween a b (.line a.toPoint b.toPoint)
  | rectangle : DrawsBetween a b (.rectangle a.toPoint b.toPoint)

namespace DrawsBetween

theorem exchange (h : DrawsBetween a b command) : DrawsBetween b a command.exchange := by
  cases h with
  | line straight => exact .line (straight.imp Eq.symm Eq.symm)
  | rectangle => exact .rectangle

theorem covers_iff (h : DrawsBetween a b command) :
    command.Covers q.toPoint ↔ q ∈ Cell.border a b := by
  rw [Cell.mem_border_iff]
  cases h with
  | line straight =>
    simp only [Covers, Point.Within, Cell.toPoint]
    constructor
    · intro hq
      constructor <;> omega
    · rintro ⟨hx, hy, -⟩
      omega
  | rectangle =>
    simp only [Covers, Point.Within, Cell.toPoint]
    constructor
    · intro hq
      constructor <;> omega
    · rintro ⟨hx, hy, hside⟩
      omega

/-- A drawing stays on the canvas. -/
theorem exists_cell {c : Canvas} {a b : Cell c.width c.height} (h : DrawsBetween a b command)
    {p : Point} (hp : command.Covers p) : ∃ q : Cell c.width c.height, q.toPoint = p := by
  have hwithin : p.Within a.toPoint b.toPoint := by
    cases h with
    | line _ => exact hp
    | rectangle => exact hp.1
  have ha := Canvas.exists_toPoint_iff.1 ⟨a, rfl⟩
  have hb := Canvas.exists_toPoint_iff.1 ⟨b, rfl⟩
  obtain ⟨hx, hy⟩ := hwithin
  exact Canvas.exists_toPoint_iff.2 (by omega)

end DrawsBetween

end Command

/-- The second list holds the drawings of the first in some order, each at least once, and any of
them with its points exchanged. -/
structure Rearranged (drawings arranged : List Command) : Prop where
  each : ∀ d ∈ arranged, d ∈ drawings ∨ d.exchange ∈ drawings
  all : ∀ d ∈ drawings, d ∈ arranged ∨ d.exchange ∈ arranged

variable {drawings arranged : List Command}

theorem Rearranged.covers_iff (h : Rearranged drawings arranged) {p : Point} :
    (∃ d ∈ arranged, d.Covers p) ↔ ∃ d ∈ drawings, d.Covers p := by
  constructor
  · rintro ⟨d, hd, hp⟩
    obtain hsame | hexchanged := h.each d hd
    · exact ⟨d, hsame, hp⟩
    · exact ⟨d.exchange, hexchanged, Command.covers_exchange.2 hp⟩
  · rintro ⟨d, hd, hp⟩
    obtain hsame | hexchanged := h.all d hd
    · exact ⟨d, hsame, hp⟩
    · exact ⟨d.exchange, hexchanged, Command.covers_exchange.2 hp⟩

/-! ## Runs of drawings -/

/-- All the commands are lines or rectangles that are possible on a canvas of that size. -/
def Drawable (width height : Nat) (drawings : List Command) : Prop :=
  ∀ d ∈ drawings, ∃ a b : Cell width height, d.DrawsBetween a b

theorem Drawable.rearranged {width height : Nat}
    (h : Drawable width height drawings) (harranged : Rearranged drawings arranged) :
    Drawable width height arranged := by
  intro d hd
  obtain hsame | hexchanged := harranged.each d hd
  · exact h d hsame
  · obtain ⟨a, b, hab⟩ := h _ hexchanged
    rw [← d.exchange_exchange]
    exact ⟨b, a, hab.exchange⟩

namespace Slot

variable {c : Canvas} {command : Command}

theorem apply_drawsBetween {a b : Cell c.width c.height} (h : command.DrawsBetween a b) :
    apply (some c) command = accept (c.ink (Cell.border a b)) := by
  cases h with
  | line straight => simp only [apply, change, Canvas.drawLine_toPoint c straight]
  | rectangle => simp only [apply, change, Canvas.drawRectangle_toPoint]

theorem exists_drawsBetween (hcommand : command.action = .line ∨ command.action = .rectangle)
    {text : String} (h : (apply (some c) command).answer = .ok text) :
    ∃ a b : Cell c.width c.height, command.DrawsBetween a b := by
  cases command with
  | create | fill => simp [Command.action] at hcommand
  | line start stop =>
    obtain ⟨error, he⟩ | ⟨_, change, hs, hd, -⟩ := change_cases (some c) (·.drawLine start stop)
    · simp [apply, he] at h
    · cases hs
      obtain ⟨a, b, rfl, rfl, straight, -⟩ := Canvas.drawLine_eq_ok_iff.1 hd
      exact ⟨a, b, .line straight⟩
  | rectangle first opposite =>
    obtain ⟨error, he⟩ | ⟨_, change, hs, hd, -⟩ :=
      change_cases (some c) (·.drawRectangle first opposite)
    · simp [apply, he] at h
    · cases hs
      obtain ⟨a, b, rfl, rfl, -⟩ := Canvas.drawRectangle_eq_ok_iff.1 hd
      exact ⟨a, b, .rectangle⟩

/-- Whether a drawing is possible depends on the size of the canvas only, which no drawing
changes. -/
theorem run_drawings (h : Drawable c.width c.height drawings) :
    (∀ reply ∈ replies (some c) drawings, ∃ text, reply.answer = .ok text) ∧
      ∃ cells : List (Cell c.width c.height),
        (∀ q, q ∈ cells ↔ ∃ d ∈ drawings, d.Covers q.toPoint) ∧
        afterAll (some c) (drawings.map .command) = some (c.paint cells inkGlyph) := by
  induction drawings generalizing c with
  | nil => exact ⟨by simp [replies], [], by simp, rfl⟩
  | cons first rest ih =>
    obtain ⟨a, b, hab⟩ := h first (List.mem_cons_self ..)
    have hfirst := apply_drawsBetween hab
    -- the canvas that the first drawing leaves has the size of `c`, so the others are drawable on it
    obtain ⟨hreplies, (cells : List (Cell c.width c.height)), hcells, hafter⟩ :=
      ih (c := (c.ink (Cell.border a b)).canvas) fun d hd => h d (List.mem_cons_of_mem _ hd)
    constructor
    · rw [replies, hfirst]
      intro reply hreply
      obtain rfl | hreply := List.mem_cons.1 hreply
      · exact ⟨_, rfl⟩
      · exact hreplies reply hreply
    · refine ⟨Cell.border a b ++ cells, fun q => ?_, ?_⟩
      · have hq : q ∈ cells ↔ ∃ d ∈ rest, d.Covers q.toPoint := hcells q
        rw [List.mem_append, ← hab.covers_iff, hq, List.exists_mem_cons_iff]
      · rw [List.map_cons]
        show afterAll (apply (some c) first).slot _ = _
        rw [hfirst, accept_slot, hafter]
        simp only [Canvas.paint, Canvas.ink, Grid.putAll_append]

/-- All arrangements of some drawings put ink in the same cells. -/
theorem run_rearranged (h : Drawable c.width c.height drawings)
    {cells : List (Cell c.width c.height)}
    (hcells : ∀ q, q ∈ cells ↔ ∃ d ∈ drawings, d.Covers q.toPoint)
    (harranged : Rearranged drawings arranged) :
    (∀ reply ∈ replies (some c) arranged, ∃ text, reply.answer = .ok text) ∧
      afterAll (some c) (arranged.map .command) = some (c.paint cells inkGlyph) := by
  obtain ⟨hreplies, cells', hcells', hafter⟩ := run_drawings (h.rearranged harranged)
  have hsame : ∀ q, q ∈ cells' ↔ q ∈ cells := fun q => by
    rw [hcells', hcells, harranged.covers_iff]
  refine ⟨hreplies, ?_⟩
  rw [hafter, Canvas.paint, c.grid.putAll_congr hsame]
  rfl

theorem charAt_putAll_covered (h : Drawable c.width c.height drawings)
    {cells : List (Cell c.width c.height)}
    (hcells : ∀ q, q ∈ cells ↔ ∃ d ∈ drawings, d.Covers q.toPoint) (glyph : Char)
    (x : Fin (c.width + 2)) (y : Fin (c.height + 2)) :
    (c.grid.putAll cells glyph).charAt x y =
      if ∃ d ∈ drawings, d.Covers ⟨x, y⟩ then glyph else c.grid.charAt x y := by
  have hcovered : (∃ q ∈ cells, q.At x y) ↔ ∃ d ∈ drawings, d.Covers ⟨x, y⟩ := by
    constructor
    · rintro ⟨q, hq, hx, hy⟩
      have hcovers := (hcells q).1 hq
      rwa [Cell.toPoint, hx, hy] at hcovers
    · rintro ⟨d, hd, hcovers⟩
      obtain ⟨a, b, hab⟩ := h d hd
      obtain ⟨q, hq⟩ := hab.exists_cell hcovers
      refine ⟨q, (hcells q).2 ⟨d, hd, hq ▸ hcovers⟩, ?_⟩
      rw [Cell.toPoint, Point.mk.injEq] at hq
      exact ⟨by omega, by omega⟩
  rw [Grid.charAt_putAll]
  simp only [hcovered]

/-- Lines and rectangles that a canvas takes one by one can be drawn on it in any order, more than
once, and with their points exchanged. That always succeeds, and it ends in the canvas that holds
ink at the points covered by at least one of them and is as before everywhere else. -/
theorem drawings_in_any_order
    (hdrawings : ∀ d ∈ drawings, d.action = .line ∨ d.action = .rectangle)
    (hserved : ∀ d ∈ drawings, ∃ text, (apply (some c) d).answer = .ok text) :
    ∃ grid : Grid c.width c.height,
      (∀ x y, grid.charAt x y =
        if ∃ d ∈ drawings, d.Covers ⟨x, y⟩ then 'x' else c.grid.charAt x y) ∧
      ∀ arranged, Rearranged drawings arranged →
        (∀ reply ∈ replies (some c) arranged, ∃ text, reply.answer = .ok text) ∧
        afterAll (some c) (arranged.map .command) = some { c with grid } := by
  have hdrawable : Drawable c.width c.height drawings := fun d hd => by
    obtain ⟨text, htext⟩ := hserved d hd
    exact exists_drawsBetween (hdrawings d hd) htext
  obtain ⟨-, cells, hcells, -⟩ := run_drawings hdrawable
  exact ⟨c.grid.putAll cells inkGlyph, charAt_putAll_covered hdrawable hcells inkGlyph,
    fun arranged => run_rearranged hdrawable hcells⟩

/-- A line and a rectangle that cross, then the rectangle from its other corner, the line and the
rectangle once more. -/
theorem drawings_in_any_order_crossing :
    let c : Canvas := ⟨3, 2, .fresh 3 2⟩
    let drawings : List Command := [.line ⟨3, 1⟩ ⟨1, 1⟩, .rectangle ⟨2, 1⟩ ⟨3, 2⟩]
    let arranged : List Command :=
      [.rectangle ⟨3, 2⟩ ⟨2, 1⟩, .line ⟨3, 1⟩ ⟨1, 1⟩, .rectangle ⟨2, 1⟩ ⟨3, 2⟩]
    ((∀ d ∈ drawings, d.action = .line ∨ d.action = .rectangle) ∧
        (∀ d ∈ drawings, ∃ text, (apply (some c) d).answer = .ok text) ∧
        Rearranged drawings arranged) ∧
      ∃ grid : Grid c.width c.height,
        (∀ x y, grid.charAt x y =
          if ∃ d ∈ drawings, d.Covers ⟨x, y⟩ then 'x' else c.grid.charAt x y) ∧
        (∀ reply ∈ replies (some c) arranged, ∃ text, reply.answer = .ok text) ∧
        afterAll (some c) (arranged.map .command) = some { c with grid } := by
  intro c drawings arranged
  have hdrawings : ∀ d ∈ drawings, d.action = .line ∨ d.action = .rectangle := by decide
  have hserved : ∀ d ∈ drawings, ∃ text, (apply (some c) d).answer = .ok text := by
    simp only [drawings, List.forall_mem_cons]
    exact ⟨⟨_, rfl⟩, ⟨_, rfl⟩, by simp⟩
  have harranged : Rearranged drawings arranged := ⟨by decide, by decide⟩
  obtain ⟨grid, hgrid, hall⟩ := drawings_in_any_order hdrawings hserved
  exact ⟨⟨hdrawings, hserved, harranged⟩, grid, hgrid, hall arranged harranged⟩

end Slot

end GlyphCanvas
