import GlyphCanvas.Canvas.Region
import GlyphCanvas.Proofs.Canvas.Position

/-!
# A flood reaches exactly the region of its seed

* `Flood.Explored`: what holds of a flood at every moment. The cells put on the stack so far are
  joined to the seed, no two of them are the same, and the grid is the old one with the new
  character in them.
* `Flood.Settled`: no neighbour of a cell holds the old character any more. Between two steps this
  is true of every cell that has left the stack (`Flood.Invariant`).
* `Flood.run_start`: when the stack is empty, the cells put on it are those joined to the seed.
* `Canvas.fill_toPoint`, `Canvas.fill_recolours_region`: what a fill does to a canvas.
-/

namespace GlyphCanvas

variable {width height : Nat}

namespace Flood

/-- The flood has put exactly the cells `pushed` on its stack since it began on the grid `g`. -/
structure Explored (g : Grid width height) (seed : Cell width height) (new : Char)
    (pushed : List (Cell width height)) (f : Flood width height) : Prop where
  grid_eq : f.grid = g.putAll pushed new
  filled_eq : f.filled = pushed.length
  nodup : pushed.Nodup
  joined : ∀ q ∈ pushed, g.Joined seed q
  stack_subset : ∀ q ∈ f.stack, q ∈ pushed
  stack_nodup : f.stack.Nodup

/-- No neighbour of the cell holds the old character. -/
def Settled (old : Char) (f : Flood width height) (q : Cell width height) : Prop :=
  ∀ r, q.Adjacent r → f.grid.glyph r ≠ old

variable {g : Grid width height} {seed : Cell width height} {new : Char}
  {pushed : List (Cell width height)} {f : Flood width height}

/-- The cells that still hold the old character are those not pushed yet. -/
theorem Explored.glyph_eq_iff (h : Explored g seed new pushed f) (hne : new ≠ g.glyph seed)
    (q : Cell width height) :
    f.grid.glyph q = g.glyph seed ↔ q ∉ pushed ∧ g.glyph q = g.glyph seed := by
  rw [h.grid_eq, Grid.glyph_putAll]
  by_cases hq : q ∈ pushed <;> simp [hq, hne]

/-- A pushed cell is one of the region that has lost the old character. -/
theorem Explored.mem_iff (h : Explored g seed new pushed f) (hne : new ≠ g.glyph seed)
    (q : Cell width height) :
    q ∈ pushed ↔ g.Joined seed q ∧ f.grid.glyph q ≠ g.glyph seed := by
  rw [ne_eq, h.glyph_eq_iff hne]
  constructor
  · exact fun hq => ⟨h.joined q hq, fun hin => hin.1 hq⟩
  · rintro ⟨hq, hin⟩
    exact Decidable.byContradiction fun hout => hin ⟨hout, hq.glyph_eq⟩

/-- A cell is taken from the stack. -/
theorem Explored.pop (h : Explored g seed new pushed f) {p : Cell width height}
    {rest : List (Cell width height)} (hs : f.stack = p :: rest) :
    Explored g seed new pushed { f with stack := rest } :=
  { h with
    stack_subset := fun q hq => h.stack_subset q (by simp [hs, hq])
    stack_nodup := (List.nodup_cons.1 (hs ▸ h.stack_nodup)).2 }

/-! ## One visit -/

theorem visit_of_eq {old : Char} {p : Cell width height} (hp : f.grid.glyph p = old) :
    f.visit old new p =
      { grid := f.grid.put p new, stack := p :: f.stack, filled := f.filled + 1 } :=
  if_pos hp

theorem visit_of_ne {old : Char} {p : Cell width height} (hp : f.grid.glyph p ≠ old) :
    f.visit old new p = f :=
  if_neg hp

/-- A visit next to a pushed cell pushes the visited cell or does nothing. -/
theorem Explored.visit (h : Explored g seed new pushed f) (hne : new ≠ g.glyph seed)
    {p q : Cell width height} (hq : q ∈ pushed) (hqp : q.Adjacent p) :
    ∃ more, Explored g seed new (pushed ++ more) (f.visit (g.glyph seed) new p) ∧
      (f.visit (g.glyph seed) new p).stack = more.reverse ++ f.stack := by
  by_cases hp : f.grid.glyph p = g.glyph seed
  · obtain ⟨hfresh, hold⟩ := (h.glyph_eq_iff hne p).1 hp
    rw [visit_of_eq hp]
    refine ⟨[p], ?_, rfl⟩
    refine
      { grid_eq := by simp only [h.grid_eq, Grid.putAll_append]; rfl
        filled_eq := by simp [h.filled_eq]
        nodup := ?_
        joined := ?_
        stack_subset := ?_
        stack_nodup := List.nodup_cons.2 ⟨fun hs => hfresh (h.stack_subset p hs), h.stack_nodup⟩ }
    · rw [List.nodup_append]
      refine ⟨h.nodup, by simp, ?_⟩
      rintro a ha b hb rfl
      exact hfresh (List.mem_singleton.1 hb ▸ ha)
    · intro r hr
      rcases List.mem_append.1 hr with hr | hr
      · exact h.joined r hr
      · obtain rfl := List.mem_singleton.1 hr
        exact .step (h.joined q hq) hqp hold
    · intro r hr
      rcases List.mem_cons.1 hr with rfl | hr
      · exact List.mem_append_right _ (List.mem_singleton_self _)
      · exact List.mem_append_left _ (h.stack_subset r hr)
  · rw [visit_of_ne hp]
    exact ⟨[], by simpa using h, rfl⟩

/-- A cell loses the old character for good. -/
theorem glyph_visit_ne {old : Char} (hne : new ≠ old) {p r : Cell width height}
    (hr : f.grid.glyph r ≠ old ∨ r = p) : (f.visit old new p).grid.glyph r ≠ old := by
  by_cases hp : f.grid.glyph p = old
  · rw [visit_of_eq hp]
    by_cases hrp : p = r
    · subst hrp
      simpa using hne
    · rw [Grid.glyph_put_of_ne _ hrp]
      exact hr.resolve_right (Ne.symm hrp)
  · rw [visit_of_ne hp]
    rcases hr with hr | rfl
    · exact hr
    · exact hp

/-! ## Visits to some cells in a row -/

theorem Explored.foldl_visit (hne : new ≠ g.glyph seed) {q : Cell width height}
    {cells : List (Cell width height)} (hcells : ∀ p ∈ cells, q.Adjacent p)
    (h : Explored g seed new pushed f) (hq : q ∈ pushed) :
    ∃ more, Explored g seed new (pushed ++ more) (cells.foldl (Flood.visit (g.glyph seed) new) f) ∧
      (cells.foldl (Flood.visit (g.glyph seed) new) f).stack = more.reverse ++ f.stack := by
  induction cells generalizing f pushed with
  | nil => exact ⟨[], by simpa using h, rfl⟩
  | cons p rest ih =>
    obtain ⟨more, h₁, hs₁⟩ := h.visit hne hq (hcells p (List.mem_cons_self ..))
    obtain ⟨more', h₂, hs₂⟩ :=
      ih (fun p hp => hcells p (List.mem_cons_of_mem _ hp)) h₁ (List.mem_append_left _ hq)
    refine ⟨more ++ more', by simpa using h₂, ?_⟩
    rw [List.foldl_cons, hs₂, hs₁]
    simp

theorem glyph_foldl_visit_ne {old : Char} (hne : new ≠ old) {r : Cell width height}
    {cells : List (Cell width height)} (hr : f.grid.glyph r ≠ old ∨ r ∈ cells) :
    (cells.foldl (visit old new) f).grid.glyph r ≠ old := by
  induction cells generalizing f with
  | nil => exact hr.resolve_right List.not_mem_nil
  | cons p rest ih =>
    apply ih
    rcases hr with hr | hr
    · exact .inl (glyph_visit_ne hne (.inl hr))
    · rcases List.mem_cons.1 hr with rfl | hr
      · exact .inl (glyph_visit_ne hne (.inr rfl))
      · exact .inr hr

/-! ## Steps -/

/-- What holds of a flood between two steps: pushed cells are on the stack or settled. -/
structure Invariant (g : Grid width height) (seed : Cell width height) (new : Char)
    (pushed : List (Cell width height)) (f : Flood width height) : Prop
    extends Explored g seed new pushed f where
  seed_mem : seed ∈ pushed
  settled : ∀ q ∈ pushed, q ∈ f.stack ∨ f.Settled (g.glyph seed) q

theorem Invariant.start (g : Grid width height) (seed : Cell width height) (new : Char) :
    Invariant g seed new [seed] (start g seed new) where
  grid_eq := rfl
  filled_eq := rfl
  nodup := List.pairwise_singleton _ _
  joined q hq := by
    obtain rfl := List.mem_singleton.1 hq
    exact .refl
  stack_subset _ hq := hq
  stack_nodup := List.pairwise_singleton _ _
  seed_mem := List.mem_singleton_self _
  settled _ hq := .inl hq

/-- A step takes one cell from the stack and puts the cells `more` on it. -/
theorem Invariant.step (h : Invariant g seed new pushed f) (hne : new ≠ g.glyph seed)
    {p : Cell width height} {rest : List (Cell width height)} (hs : f.stack = p :: rest) :
    ∃ more, Invariant g seed new (pushed ++ more) (f.step (g.glyph seed) new p rest) ∧
      (f.step (g.glyph seed) new p rest).stack = more.reverse ++ rest := by
  have hp : p ∈ pushed := h.stack_subset p (by simp [hs])
  obtain ⟨more, h', hs'⟩ :=
    (h.toExplored.pop hs).foldl_visit hne (fun _ => Cell.mem_neighbours_iff.1) hp
  rw [step_eq_foldl]
  refine ⟨more, { h' with seed_mem := List.mem_append_left _ h.seed_mem, settled := ?_ }, hs'⟩
  intro q hq
  rw [hs', List.mem_append, List.mem_reverse]
  rcases List.mem_append.1 hq with hq | hq
  · have hkept : f.Settled (g.glyph seed) q → Settled (g.glyph seed)
        (p.neighbours.foldl (visit (g.glyph seed) new) { f with stack := rest }) q :=
      fun hset r hr => glyph_foldl_visit_ne hne (.inl (hset r hr))
    rcases h.settled q hq with hin | hset
    · rw [hs] at hin
      rcases List.mem_cons.1 hin with rfl | hin
      · -- the cell taken from the stack: all its neighbours have just been visited
        exact .inr fun r hr => glyph_foldl_visit_ne hne (.inr (Cell.mem_neighbours_iff.2 hr))
      · exact .inl (.inr hin)
    · exact .inr (hkept hset)
  · exact .inl (.inl hq)

theorem run_of_nil {old : Char} (hne : new ≠ old) (hs : f.stack = []) : f.run hne = f := by
  unfold run
  split
  · rfl
  · next hs' => simp [hs] at hs'

theorem run_of_cons {old : Char} (hne : new ≠ old) {p : Cell width height}
    {rest : List (Cell width height)} (hs : f.stack = p :: rest) :
    f.run hne = (f.step old new p rest).run hne := by
  rw [run]
  split
  · next hs' => simp [hs] at hs'
  · next hs' =>
    rw [hs] at hs'
    cases hs'
    rfl

/-- The invariant leads to the end of the run, where no cell is left on the stack. -/
theorem Invariant.run (h : Invariant g seed new pushed f) (hne : new ≠ g.glyph seed) :
    ∃ all, Invariant g seed new all (f.run hne) ∧ (f.run hne).stack = [] := by
  induction f using run_induction hne generalizing pushed with
  | ended f hs =>
    rw [run_of_nil hne hs]
    exact ⟨pushed, h, hs⟩
  | taken f p rest hs ih =>
    obtain ⟨more, h', -⟩ := h.step hne hs
    rw [run_of_cons hne hs]
    exact ih h'

/-- With nothing left on the stack, the cells pushed are the region of the seed. -/
theorem Invariant.mem_iff_joined (h : Invariant g seed new pushed f) (hne : new ≠ g.glyph seed)
    (hs : f.stack = []) (q : Cell width height) : q ∈ pushed ↔ g.Joined seed q := by
  refine ⟨h.joined q, fun hq => ?_⟩
  induction hq with
  | refl => exact h.seed_mem
  | @step q r _ hqr same ih =>
    rcases h.settled q ih with hin | hset
    · simp [hs] at hin
    · by_cases hr : r ∈ pushed
      · exact hr
      · exact absurd ((h.glyph_eq_iff hne r).2 ⟨hr, same⟩) (hset r hqr)

/-- A whole flood recolours the region of its seed, each cell once. -/
theorem run_start (g : Grid width height) (seed : Cell width height) {new : Char}
    (hne : new ≠ g.glyph seed) :
    ∃ region : List (Cell width height), region.Nodup ∧ (∀ q, q ∈ region ↔ g.Joined seed q) ∧
      ((start g seed new).run hne).grid = g.putAll region new ∧
      ((start g seed new).run hne).filled = region.length := by
  obtain ⟨region, h, hs⟩ := (Invariant.start g seed new).run hne
  exact ⟨region, h.nodup, h.mem_iff_joined hne hs, h.grid_eq, h.filled_eq⟩

end Flood

namespace Canvas

theorem locate_toPoint (c : Canvas) (cell : Cell c.width c.height) :
    c.locate cell.toPoint = .ok cell :=
  locate_eq_ok_iff.2 rfl

theorem fill_of_locate_error {c : Canvas} {p : Point} {e : CommandError}
    (h : c.locate p = .error e) (colour : Char) : c.fill p colour = .error e := by
  unfold fill
  rw [h]
  rfl

/-- A region that has the colour already is left alone. -/
theorem fill_of_eq (c : Canvas) {seed : Cell c.width c.height} {colour : Char}
    (h : colour = c.grid.glyph seed) :
    c.fill seed.toPoint colour =
      .ok { canvas := c, shown := Progress.readings (c.width * c.height) 0 } := by
  unfold fill
  simp only [locate_toPoint, bind, Except.bind]
  exact dif_pos h

theorem fill_of_ne (c : Canvas) {seed : Cell c.width c.height} {colour : Char}
    (h : colour ≠ c.grid.glyph seed) :
    let flood := (Flood.start c.grid seed colour).run h
    c.fill seed.toPoint colour = .ok
      { canvas := { c with grid := flood.grid }
        shown := Progress.readings (c.width * c.height) flood.filled } := by
  unfold fill
  simp only [locate_toPoint, bind, Except.bind]
  exact dif_neg h

/-- A fill from a drawable cell succeeds. It paints the region of the cell, each cell once, unless
the region has the colour already. -/
theorem fill_toPoint (c : Canvas) (seed : Cell c.width c.height) (colour : Char) :
    ∃ cells : List (Cell c.width c.height), cells.Nodup ∧
      (∀ q, q ∈ cells ↔ colour ≠ c.grid.glyph seed ∧ c.grid.Joined seed q) ∧
      c.fill seed.toPoint colour = .ok
        { canvas := c.paint cells colour
          shown := Progress.readings (c.width * c.height) cells.length } := by
  by_cases hc : colour = c.grid.glyph seed
  · refine ⟨[], List.nodup_nil, fun q => ?_, c.fill_of_eq hc⟩
    simp [hc]
  · obtain ⟨region, hnodup, hmem, hgrid, hfilled⟩ := Flood.run_start c.grid seed hc
    refine ⟨region, hnodup, fun q => ?_, ?_⟩
    · rw [hmem, and_iff_right hc]
    · rw [c.fill_of_ne hc, hgrid, hfilled]
      rfl

/-- A fill gives the colour to every cell that a path of adjacent cells of one character joins to
the point. It leaves every other position as it is, the frame included. -/
theorem fill_recolours_region (c : Canvas) (p : Point) (colour : Char)
    (hp : (1 ≤ p.x ∧ p.x ≤ c.width) ∧ 1 ≤ p.y ∧ p.y ≤ c.height) :
    ∃ (seed : Cell c.width c.height) (grid : Grid c.width c.height) (shown : List Nat),
      seed.toPoint = p ∧
      c.fill p colour = .ok { canvas := { c with grid }, shown } ∧
      (∀ q, c.grid.Joined seed q → grid.glyph q = colour) ∧
      ∀ x y, (∀ q : Cell c.width c.height, c.grid.Joined seed q → ¬q.At x y) →
        grid.charAt x y = c.grid.charAt x y := by
  obtain ⟨seed, rfl⟩ := exists_toPoint_iff.2 hp
  obtain ⟨cells, -, hmem, hfill⟩ := c.fill_toPoint seed colour
  refine ⟨seed, c.grid.putAll cells colour, _, rfl, hfill, ?_, ?_⟩
  · intro q hq
    rw [Grid.glyph_putAll]
    by_cases hc : colour = c.grid.glyph seed
    · -- nothing is painted, and the region holds the colour already
      rw [if_neg (fun hin => ((hmem q).1 hin).1 hc), hq.glyph_eq, hc]
    · rw [if_pos ((hmem q).2 ⟨hc, hq⟩)]
  · intro x y hxy
    rw [Grid.charAt_putAll, if_neg]
    rintro ⟨q, hq, hat⟩
    exact hxy q ((hmem q).1 hq).2 hat

/-- A corner cut off by a diagonal of ink, filled with the dash of the frame. -/
theorem fill_recolours_region_corner :
    let c : Canvas :=
      { width := 3, height := 3
        grid := (Grid.fresh 3 3).putAll [⟨2, 1, by decide, by decide, by decide, by decide⟩,
          ⟨1, 2, by decide, by decide, by decide, by decide⟩] inkGlyph }
    ((1 ≤ (1 : Int) ∧ (1 : Int) ≤ c.width) ∧ 1 ≤ (1 : Int) ∧ (1 : Int) ≤ c.height) ∧
    ∃ (seed : Cell c.width c.height) (grid : Grid c.width c.height) (shown : List Nat),
      seed.toPoint = ⟨1, 1⟩ ∧
      c.fill ⟨1, 1⟩ '-' = .ok { canvas := { c with grid }, shown } ∧
      (∀ q, c.grid.Joined seed q → grid.glyph q = '-') ∧
      ∀ x y, (∀ q : Cell c.width c.height, c.grid.Joined seed q → ¬q.At x y) →
        grid.charAt x y = c.grid.charAt x y := by
  intro c
  have hp : (1 ≤ (1 : Int) ∧ (1 : Int) ≤ c.width) ∧ 1 ≤ (1 : Int) ∧ (1 : Int) ≤ c.height := by
    decide
  exact ⟨hp, fill_recolours_region c ⟨1, 1⟩ '-' hp⟩

end Canvas

end GlyphCanvas
