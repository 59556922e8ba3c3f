import GlyphCanvas.Proofs.Canvas.Counting
import GlyphCanvas.Proofs.Canvas.Flood
import Mathlib.Logic.Relation

/-!
# The worklist of a flood

The loop of a flood one move at a time, with a record of what was put on the stack and what was taken
from it.

* `Flood.Moment`: a flood in the middle of its loop, and `Flood.Moment.next?`, the one move that
  comes next. `Flood.Moment.Leads` is any number of moves.
* `Flood.Moment.Sound`: what holds at every moment. It is kept by a move (`Flood.Moment.Sound.next`)
  and so by any number of them (`Flood.Moment.Sound.leads`).
* `Flood.Moment.leads_run`: the moves lead to the flood that `Flood.run` comes to.
* `Canvas.worklist_of_fill`: the loop ends, and it has put every cell of the region on the stack once
  and taken it from there once.
-/

namespace GlyphCanvas

variable {width height : Nat}

namespace Flood

/-- A flood at one moment of its loop, and what its stack has seen since the loop began. -/
structure Moment (width height : Nat) where
  flood : Flood width height
  /-- Neighbours of the cell taken last that are still to be visited. -/
  ahead : List (Cell width height)
  /-- The cells put on the stack so far, the oldest first. -/
  pushed : List (Cell width height)
  /-- The cells taken from the stack so far, the oldest first. -/
  popped : List (Cell width height)

namespace Moment

/-- The seed has been recoloured and put on the stack. -/
def start (g : Grid width height) (seed : Cell width height) (new : Char) : Moment width height :=
  { flood := .start g seed new, ahead := [], pushed := [seed], popped := [] }

/-- What happens next: a neighbour is visited, or if none is left a cell is taken from the stack.
When the stack is empty too the loop is over. -/
def next? (old new : Char) (m : Moment width height) : Option (Moment width height) :=
  match m.ahead with
  | q :: ahead =>
    if m.flood.grid.glyph q = old then
      some { m with flood := m.flood.visit old new q, ahead, pushed := m.pushed ++ [q] }
    else some { m with ahead }
  | [] =>
    match m.flood.stack with
    | p :: rest =>
      some
        { m with
          flood := { m.flood with stack := rest }
          ahead := p.neighbours
          popped := m.popped ++ [p] }
    | [] => none

/-- Some moves lead from one moment to another. -/
def Leads (old new : Char) : Moment width height → Moment width height → Prop :=
  Relation.ReflTransGen fun m m' => m.next? old new = some m'

/-! ## Every moment -/

/-- What holds at every moment: the flood has put exactly the recorded cells on its stack, and those
that it has not taken are there still. -/
structure Sound (g : Grid width height) (seed : Cell width height) (new : Char)
    (m : Moment width height) : Prop extends Explored g seed new m.pushed m.flood where
  perm : (m.popped ++ m.flood.stack).Perm m.pushed
  adjacent : m.ahead = [] ∨ ∃ p ∈ m.pushed, ∀ q ∈ m.ahead, p.Adjacent q

variable {g : Grid width height} {seed : Cell width height} {new : Char} {m m' : Moment width height}

theorem Sound.start (g : Grid width height) (seed : Cell width height) (new : Char) :
    Sound g seed new (start g seed new) where
  toExplored := (Invariant.start g seed new).toExplored
  perm := .refl _
  adjacent := .inl rfl

/-- A neighbour is visited. -/
theorem Sound.visit (h : Sound g seed new m) (hne : new ≠ g.glyph seed) {q : Cell width height}
    {ahead : List (Cell width height)} (hahead : m.ahead = q :: ahead)
    (hq : m.flood.grid.glyph q = g.glyph seed) :
    Sound g seed new { m with
      flood := m.flood.visit (g.glyph seed) new q, ahead, pushed := m.pushed ++ [q] } := by
  obtain hnil | ⟨p, hp, hadjacent⟩ := h.adjacent
  · simp [hnil] at hahead
  rw [hahead] at hadjacent
  obtain ⟨more, hexplored, hstack⟩ := h.toExplored.visit hne hp (hadjacent q (List.mem_cons_self ..))
  rw [visit_of_eq hq] at hexplored hstack ⊢
  obtain rfl : more = [q] := by
    have := List.append_cancel_right (show [q] ++ m.flood.stack = _ from hstack)
    rwa [eq_comm, List.reverse_eq_iff] at this
  refine { toExplored := hexplored, perm := ?_, adjacent := .inr ⟨p, ?_, ?_⟩ }
  · exact (List.perm_middle.trans (h.perm.cons q)).trans (List.perm_append_singleton q m.pushed).symm
  · exact List.mem_append_left _ hp
  · exact fun r hr => hadjacent r (List.mem_cons_of_mem _ hr)

/-- A neighbour is passed over. -/
theorem Sound.pass (h : Sound g seed new m) {q : Cell width height}
    {ahead : List (Cell width height)} (hahead : m.ahead = q :: ahead) :
    Sound g seed new { m with ahead } := by
  refine { toExplored := h.toExplored, perm := h.perm, adjacent := ?_ }
  obtain hnil | ⟨p, hp, hadjacent⟩ := h.adjacent
  · simp [hnil] at hahead
  · rw [hahead] at hadjacent
    exact .inr ⟨p, hp, fun r hr => hadjacent r (List.mem_cons_of_mem _ hr)⟩

/-- A cell is taken from the stack. -/
theorem Sound.pop (h : Sound g seed new m) {p : Cell width height}
    {rest : List (Cell width height)} (hstack : m.flood.stack = p :: rest) :
    Sound g seed new { m with
      flood := { m.flood with stack := rest }
      ahead := p.neighbours
      popped := m.popped ++ [p] } where
  toExplored := h.toExplored.pop hstack
  perm := by
    have := h.perm
    rw [hstack] at this
    simpa using this
  adjacent := .inr ⟨p, h.stack_subset p (by simp [hstack]), fun _ => Cell.mem_neighbours_iff.1⟩

theorem Sound.next (h : Sound g seed new m) (hne : new ≠ g.glyph seed)
    (hm : m.next? (g.glyph seed) new = some m') : Sound g seed new m' := by
  unfold next? at hm
  split at hm
  · next q ahead hahead =>
    split at hm
    · next hq =>
      cases hm
      exact h.visit hne hahead hq
    · cases hm
      exact h.pass hahead
  · split at hm
    · next p rest hstack =>
      cases hm
      exact h.pop hstack
    · cases hm

theorem Sound.leads (h : Sound g seed new m) (hne : new ≠ g.glyph seed)
    (hm : m.Leads (g.glyph seed) new m') : Sound g seed new m' := by
  induction hm with
  | refl => exact h
  | tail _ hnext ih => exact ih.next hne hnext

/-! ## The end of the loop -/

variable {old : Char}

/-- Moves lead from one moment to all later ones. -/
theorem Leads.of_next?_eq_none {last : Moment width height} (hm : m.Leads old new m')
    (hlast : m.Leads old new last) (hend : last.next? old new = none) : m'.Leads old new last := by
  have hunique : Relator.RightUnique fun m m' : Moment width height =>
      m.next? old new = some m' := fun a b c hb hc => Option.some.inj (hb.symm.trans hc)
  obtain h | h := Relation.ReflTransGen.total_of_right_unique hunique hm hlast
  · exact h
  · -- nothing comes after the last moment, so it is the one it leads to
    obtain rfl | ⟨next, hnext, -⟩ := Relation.ReflTransGen.cases_head h
    · exact .refl
    · rw [hend] at hnext
      cases hnext

/-- All neighbours are visited, one move for each of them. -/
theorem leads_foldl_visit (old new : Char) (f : Flood width height)
    (cells pushed popped : List (Cell width height)) :
    ∃ pushed', Leads old new ⟨f, cells, pushed, popped⟩
      ⟨cells.foldl (Flood.visit old new) f, [], pushed', popped⟩ := by
  induction cells generalizing f pushed with
  | nil => exact ⟨pushed, .refl⟩
  | cons q rest ih =>
    by_cases hq : f.grid.glyph q = old
    · obtain ⟨pushed', h⟩ := ih (f.visit old new q) (pushed ++ [q])
      exact ⟨pushed', .head (if_pos hq) h⟩
    · obtain ⟨pushed', h⟩ := ih f pushed
      rw [List.foldl_cons, visit_of_ne hq]
      exact ⟨pushed', .head (if_neg hq) h⟩

/-- The moves lead to the end of the flood. -/
theorem leads_run (hne : new ≠ old) (f : Flood width height)
    (pushed popped : List (Cell width height)) :
    ∃ pushed' popped', Leads old new ⟨f, [], pushed, popped⟩ ⟨f.run hne, [], pushed', popped'⟩ := by
  induction f using run_induction hne generalizing pushed popped with
  | ended f hs =>
    rw [run_of_nil hne hs]
    exact ⟨pushed, popped, .refl⟩
  | taken f p rest hs ih =>
    obtain ⟨pushed', hvisits⟩ :=
      leads_foldl_visit old new { f with stack := rest } p.neighbours pushed (popped ++ [p])
    obtain ⟨all, taken, hrun⟩ := ih pushed' (popped ++ [p])
    rw [run_of_cons hne hs]
    refine ⟨all, taken, .head ?_ (hvisits.trans ?_)⟩
    · simp only [next?, hs]
    · rwa [← step_eq_foldl]

end Moment

end Flood

namespace Canvas

open Flood (Moment)

variable {c : Canvas} {seed : Cell c.width c.height} {colour : Char} {m last : Moment c.width c.height}

/-- The loop of a fill is over and has come to what the fill does. It has taken as many cells from
the stack as the region has, and put each of these cells on it once and no other. -/
structure Spent (c : Canvas) (seed : Cell c.width c.height) (colour : Char)
    (last : Moment c.width c.height) : Prop where
  ended : last.next? (c.grid.glyph seed) colour = none
  fill_eq : c.fill seed.toPoint colour = .ok
    { canvas := { c with grid := last.flood.grid }
      shown := Progress.readings (c.width * c.height) last.flood.filled }
  length_popped : last.popped.length = {q | c.grid.Joined seed q}.ncard
  length_popped_le : last.popped.length ≤ c.width * c.height
  count_pushed : ∀ q, c.grid.Joined seed q → last.pushed.count q = 1
  not_mem_pushed : ∀ q, ¬c.grid.Joined seed q → q ∉ last.pushed

/-- The loop of a fill is on its way to its last moment. No cell is on the stack twice, and a cell on
it is drawable and shows the colour already. -/
structure Underway (c : Canvas) (seed : Cell c.width c.height) (colour : Char)
    (last m : Moment c.width c.height) : Prop where
  leads : m.Leads (c.grid.glyph seed) colour last
  joined : ∀ q ∈ m.pushed, c.grid.Joined seed q
  stack_nodup : m.flood.stack.Nodup
  get?_eq : ∀ q ∈ m.flood.stack,
    get? { c with grid := m.flood.grid } q.toPoint = some colour

/-- A cell on the stack has been recoloured, so the canvas shows the colour there. -/
theorem get?_of_mem_stack (h : m.Sound c.grid seed colour) {q : Cell c.width c.height}
    (hq : q ∈ m.flood.stack) : get? { c with grid := m.flood.grid } q.toPoint = some colour := by
  have hglyph : m.flood.grid.glyph q = colour := by
    rw [h.grid_eq, Grid.glyph_putAll, if_pos (h.stack_subset q hq)]
  rw [get?, Cell.ofPoint?_toPoint, Option.map_some, hglyph]

/-- At the end of a flood the stack is empty, so all cells put on it have been taken. -/
theorem spent_of_run (hne : colour ≠ c.grid.glyph seed) (h : last.Sound c.grid seed colour)
    (hflood : last.flood = (Flood.start c.grid seed colour).run hne) (hahead : last.ahead = []) :
    c.Spent seed colour last := by
  obtain ⟨all, hall, hstack⟩ := (Flood.Invariant.start c.grid seed colour).run hne
  rw [← hflood] at hall hstack
  have hmem : ∀ q, q ∈ last.pushed ↔ c.grid.Joined seed q := fun q => by
    rw [h.mem_iff hne, ← hall.mem_iff hne, hall.mem_iff_joined hne hstack]
  have hlength : last.popped.length = last.pushed.length := by
    have hperm := h.perm
    rw [hstack, List.append_nil] at hperm
    exact hperm.length_eq
  exact
    { ended := by simp only [Moment.next?, hahead, hstack]
      fill_eq := by
        rw [hflood]
        exact c.fill_of_ne hne
      length_popped := by rw [hlength, ncard_eq_length h.nodup hmem]
      length_popped_le := hlength ▸ Cell.length_le_of_nodup h.nodup
      count_pushed := fun q hq => List.count_eq_one_of_mem h.nodup ((hmem q).2 hq)
      not_mem_pushed := fun q hq => mt (hmem q).1 hq }

/-- The loop of a fill ends. Until then it takes every cell of the region from the stack once, after
it was put there once. -/
theorem worklist_of_fill (c : Canvas) (seed : Cell c.width c.height) (colour : Char)
    (hne : colour ≠ c.grid.glyph seed) :
    ∃ last, (Moment.start c.grid seed colour).Leads (c.grid.glyph seed) colour last ∧
      c.Spent seed colour last ∧
      ∀ m, (Moment.start c.grid seed colour).Leads (c.grid.glyph seed) colour m →
        c.Underway seed colour last m := by
  obtain ⟨pushed, popped, hleads⟩ :=
    Moment.leads_run hne (.start c.grid seed colour) [seed] []
  have hsound : ∀ {m}, (Moment.start c.grid seed colour).Leads (c.grid.glyph seed) colour m →
      m.Sound c.grid seed colour := fun h => (Moment.Sound.start ..).leads hne h
  have hspent := spent_of_run hne (hsound hleads) rfl rfl
  refine ⟨_, hleads, hspent, fun m hm => ?_⟩
  exact
    { leads := hm.of_next?_eq_none hleads hspent.ended
      joined := (hsound hm).joined
      stack_nodup := (hsound hm).stack_nodup
      get?_eq := fun _ => get?_of_mem_stack (hsound hm) }

/-- A ring of blanks around one cell of ink, filled with the bar of the frame. -/
theorem worklist_of_fill_ring :
    let c : Canvas :=
      { width := 3, height := 3
        grid := (Grid.fresh 3 3).put ⟨2, 2, by decide, by decide, by decide, by decide⟩ inkGlyph }
    let seed : Cell c.width c.height := ⟨3, 1, by decide, by decide, by decide, by decide⟩
    '|' ≠ c.grid.glyph seed ∧
    ∃ last, (Moment.start c.grid seed '|').Leads (c.grid.glyph seed) '|' last ∧
      c.Spent seed '|' last ∧
      ∀ m, (Moment.start c.grid seed '|').Leads (c.grid.glyph seed) '|' m →
        c.Underway seed '|' last m := by
  intro c seed
  have hne : '|' ≠ c.grid.glyph seed := by decide +kernel
  exact ⟨hne, worklist_of_fill c seed '|' hne⟩

end Canvas

end GlyphCanvas
