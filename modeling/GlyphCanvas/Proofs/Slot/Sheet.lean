import GlyphCanvas.Proofs.Canvas.Creation
import GlyphCanvas.Proofs.Slot.Effect
import Mathlib.Algebra.Group.Nat.Defs

/-!
# The canvas since it was created

* `Slot.carriedOut`: the commands among some requests that succeeded, in order.
* `Canvas.Sheet`: what a canvas shows of its size and of the commands carried out on it: an intact
  frame, and inside it blanks, ink and the colours of the fills.
* `Slot.sheet_of_carriedOut`: requests that create no canvas keep all that, and the slot is not
  emptied.
* `Slot.sheet_since_create`: so the canvas in a slot is always a sheet of its last creation.
-/

namespace GlyphCanvas

/-- The canvas has the size, the frame and the characters of a canvas created with sides `w` and
`h` on which the commands `since` have been carried out. -/
structure Canvas.Sheet (w h : Int) (since : List Command) (c : Canvas) : Prop where
  width_eq : c.width = w
  height_eq : c.height = h
  one_le_width : 1 ≤ c.width
  one_le_height : 1 ≤ c.height
  cells_eq : c.grid.toArray.size = (c.width + 2) * (c.height + 2)
  cells_le : c.grid.toArray.size ≤ 2 ^ 24
  framed : c.grid.Framed
  glyph_of : ∀ q, c.grid.glyph q = ' ' ∨ c.grid.glyph q = 'x' ∨
    ∃ p, Command.fill p (c.grid.glyph q) ∈ since

namespace Canvas

/-- A fresh canvas is a sheet with nothing carried out on it. -/
theorem Sheet.create {w h : Int} {c : Canvas} (hc : create w h = .ok c) : c.Sheet w h [] := by
  obtain ⟨hw, hh, rfl, rfl, hsize, hgrid⟩ := create_eq_ok_iff.1 hc
  refine
    { width_eq := rfl, height_eq := rfl, one_le_width := hw, one_le_height := hh
      cells_eq := c.grid.size_toArray, cells_le := ?_
      framed := hgrid ▸ Grid.framed_fresh
      glyph_of := fun q => .inl ?_ }
  · rw [c.grid.size_toArray]
    exact hsize
  · rw [hgrid, Grid.glyph_fresh]
    rfl

/-- Painting cells keeps a sheet if the sheet may show the paint. -/
theorem Sheet.paint {w h : Int} {since : List Command} {c : Canvas} (hc : c.Sheet w h since)
    (cells : List (Cell c.width c.height)) {glyph : Char} {command : Command}
    (hglyph : glyph = 'x' ∨ ∃ p, command = .fill p glyph) :
    (c.paint cells glyph).Sheet w h (since ++ [command]) := by
  refine
    { width_eq := hc.width_eq, height_eq := hc.height_eq, one_le_width := hc.one_le_width
      one_le_height := hc.one_le_height, cells_eq := Vector.size_toArray _
      cells_le := ?_, framed := hc.framed.putAll cells glyph, glyph_of := ?_ }
  · have := hc.cells_le
    rw [hc.cells_eq] at this
    rw [Vector.size_toArray]
    exact this
  · intro (q : Cell c.width c.height)
    have hq : (c.paint cells glyph).grid.glyph q = if q ∈ cells then glyph else c.grid.glyph q :=
      Grid.glyph_putAll ..
    rw [hq]
    split
    · rcases hglyph with rfl | ⟨p, rfl⟩
      · exact .inr (.inl rfl)
      · exact .inr (.inr ⟨p, List.mem_append_right _ (List.mem_singleton_self _)⟩)
    · rcases hc.glyph_of q with hq | hq | ⟨p, hq⟩
      · exact .inl hq
      · exact .inr (.inl hq)
      · exact .inr (.inr ⟨p, List.mem_append_left _ hq⟩)

end Canvas

namespace Slot

/-- What a command other than a creation makes of a sheet. -/
theorem Effect.sheet {w h : Int} {since : List Command} {c : Canvas} {command : Command}
    {change : Canvas.Change} (heffect : Effect (some c) command change)
    (hc : c.Sheet w h since) (hcommand : ∀ w' h', command ≠ .create w' h') :
    change.canvas.Sheet w h (since ++ [command]) := by
  cases heffect with
  | created _ => exact absurd rfl (hcommand _ _)
  | inked hs _ cells =>
    cases hs
    exact hc.paint cells (.inl rfl)
  | filled hs cells =>
    cases hs
    exact hc.paint cells (.inr ⟨_, rfl⟩)

/-! ## Runs of requests -/

/-- The slot after some requests, refused ones included. -/
def afterAll (slot : Slot) (requests : List Request) : Slot :=
  requests.foldl (fun slot request => (slot.serve request).slot) slot

/-- The commands that succeed when a slot is asked some requests, in order. -/
def carriedOut (slot : Slot) : List Request → List Command
  | [] => []
  | request :: rest =>
    match (slot.serve request).answer with
    | .ok _ => request.command?.toList ++ carriedOut (slot.serve request).slot rest
    | .error _ => carriedOut (slot.serve request).slot rest

theorem after_eq_afterAll (requests : List Request) : after requests = afterAll none requests := rfl

theorem afterAll_append (slot : Slot) (requests more : List Request) :
    slot.afterAll (requests ++ more) = (slot.afterAll requests).afterAll more :=
  List.foldl_append

/-- A request in front of others is refused and counts for nothing, or it is carried out. -/
theorem request_cases (slot : Slot) (request : Request) :
    (∀ rest, slot.afterAll (request :: rest) = slot.afterAll rest ∧
        slot.carriedOut (request :: rest) = slot.carriedOut rest) ∨
      ∃ command change, Effect slot command change ∧
        ∀ rest, slot.afterAll (request :: rest) = afterAll (some change.canvas) rest ∧
          slot.carriedOut (request :: rest) = command :: carriedOut (some change.canvas) rest := by
  have hafter : ∀ rest, slot.afterAll (request :: rest) = (slot.serve request).slot.afterAll rest :=
    fun _ => rfl
  obtain ⟨error, he⟩ | ⟨command, change, hc, heffect, he⟩ := slot.serve_cases request
  · refine .inl fun rest => ?_
    rw [hafter, carriedOut, he]
    exact ⟨rfl, rfl⟩
  · refine .inr ⟨command, change, heffect, fun rest => ?_⟩
    rw [hafter, carriedOut, he, hc]
    exact ⟨rfl, rfl⟩

/-- A slot that holds a canvas is never emptied. -/
theorem afterAll_some_ne_none (c : Canvas) (requests : List Request) :
    afterAll (some c) requests ≠ none := by
  induction requests generalizing c with
  | nil => exact Option.some_ne_none c
  | cons request rest ih =>
    obtain h | ⟨_, change, -, h⟩ := request_cases (some c) request
    · rw [(h rest).1]
      exact ih c
    · rw [(h rest).1]
      exact ih change.canvas

/-- As long as no canvas is created, a sheet stays a sheet of the same creation. -/
theorem sheet_of_carriedOut {w h : Int} {since : List Command} {c : Canvas}
    (hc : c.Sheet w h since) {requests : List Request}
    (hlast : ∀ w' h', .create w' h' ∉ carriedOut (some c) requests) :
    ∃ c', afterAll (some c) requests = some c' ∧
      c'.Sheet w h (since ++ carriedOut (some c) requests) := by
  induction requests generalizing c since with
  | nil => exact ⟨c, rfl, by simpa [carriedOut] using hc⟩
  | cons request rest ih =>
    obtain hrest | ⟨command, change, heffect, hrest⟩ := request_cases (some c) request
    · rw [(hrest rest).1, (hrest rest).2] at *
      exact ih hc hlast
    · rw [(hrest rest).2] at hlast
      have hnew : ∀ w' h', command ≠ .create w' h' := by
        rintro w' h' rfl
        exact hlast w' h' (List.mem_cons_self ..)
      obtain ⟨c', hc', hsheet⟩ :=
        ih (heffect.sheet hc hnew) fun w' h' hin => hlast w' h' (List.mem_cons_of_mem _ hin)
      rw [(hrest rest).1, (hrest rest).2]
      exact ⟨c', hc', by simpa using hsheet⟩

/-- Requests can be cut right behind the one that carried out a given command. -/
theorem exists_effect_of_carriedOut {slot : Slot} {requests : List Request}
    {before since : List Command} {command : Command}
    (h : slot.carriedOut requests = before ++ command :: since) :
    ∃ slot' change later, Effect slot' command change ∧
      slot.afterAll requests = afterAll (some change.canvas) later ∧
      carriedOut (some change.canvas) later = since := by
  induction requests generalizing slot before with
  | nil => simp [carriedOut] at h
  | cons request rest ih =>
    obtain hrest | ⟨first, change, heffect, hrest⟩ := request_cases slot request
    · rw [(hrest rest).2] at h
      rw [(hrest rest).1]
      exact ih h
    · rw [(hrest rest).2] at h
      rw [(hrest rest).1]
      cases before with
      | nil =>
        obtain ⟨rfl, hsince⟩ := List.cons.inj h
        exact ⟨slot, change, rest, heffect, rfl, hsince⟩
      | cons _ before => exact ih (List.cons.inj h).2

/-- Once a canvas was created the slot is never empty again. As long as no other is created it
holds a canvas of the size asked for, with its frame intact, and every cell inside shows a blank,
ink, or the colour of a fill that was carried out in the meantime. -/
theorem sheet_since_create {requests : List Request} {before since : List Command} {w h : Int}
    (hdone : carriedOut none requests = before ++ .create w h :: since)
    (hlast : ∀ w' h', .create w' h' ∉ since) :
    (∀ later, after (requests ++ later) ≠ none) ∧
      ∃ c, after requests = some c ∧ c.Sheet w h since := by
  obtain ⟨slot, change, later, heffect, hslot, rfl⟩ := exists_effect_of_carriedOut hdone
  have hsheet : change.canvas.Sheet w h [] := by
    cases heffect with
    | created hc => exact .create hc
    | inked _ hcommand _ => simp [Command.action] at hcommand
  rw [after_eq_afterAll, hslot]
  refine ⟨fun more => ?_, sheet_of_carriedOut hsheet hlast⟩
  rw [after_eq_afterAll, afterAll_append, hslot, ← afterAll_append]
  exact afterAll_some_ne_none _ _

/-- The second of two canvases, with refused requests before and after its creation and the bar of
the frame as a colour. -/
theorem sheet_since_create_second :
    let requests : List Request := [.command (.fill ⟨1, 1⟩ 'o'), .line "C 3 2", .line "C 2 1",
      .line "C 0 5", .line "L 1 1 1 1", .command (.rectangle ⟨1, 1⟩ ⟨9, 1⟩), .line "B 2 1 |"]
    let since : List Command := [.line ⟨1, 1⟩ ⟨1, 1⟩, .fill ⟨2, 1⟩ '|']
    (carriedOut none requests = [.create 3 2] ++ .create 2 1 :: since ∧
        ∀ w' h', .create w' h' ∉ since) ∧
      (∀ later, after (requests ++ later) ≠ none) ∧
        ∃ c, after requests = some c ∧ c.Sheet 2 1 since := by
  intro requests since
  have hdone : carriedOut none requests = [.create 3 2] ++ .create 2 1 :: since := by
    decide +kernel
  have hlast : ∀ w' h', .create w' h' ∉ since := by simp [since]
  exact ⟨⟨hdone, hlast⟩, sheet_since_create hdone hlast⟩

end Slot

end GlyphCanvas
