import GlyphCanvas.Command.Grammar
import GlyphCanvas.Proofs.Outcome
import Mathlib.Data.List.Basic

/-!
# Which lines are commands

The reader of commands against the grammar, in both directions.

* `Place`: what an argument has to be, and `Action.places`, the places that an action has.
* `FirstFault`: the leftmost argument that does not fit its place, as the error that names it.
* `Command.Refused`: the words are no command, with the error for the first thing wrong with them.
* `Directive.written_of_command`, `Directive.command_of_written`, `Directive.command_eq_error_iff`:
  what comes of the arguments.
* `Command.ofLine_eq_ok_iff`, `Command.ofLine_eq_error_iff`: a line is read as a command exactly if
  its words are a way to write it, and refused with an error exactly if they are refused with it.
-/

namespace GlyphCanvas

/-- What an argument has to be. -/
inductive Place where
  /-- The width or the height of a canvas. -/
  | side
  /-- The column or the row of a point. -/
  | coordinate
  /-- A character. -/
  | colour
deriving DecidableEq

namespace Place

/-- The word is a numeral of 64 bits, or one character where a colour is wanted. -/
def Fits : Place → String → Prop
  | side, word | coordinate, word => ∃ value, Numeral.Denotes word.toList value
  | colour, word => ∃ c, word.toList = [c]

/-- What is wrong with a word that does not fit. A size may be a number and yet none of 64 bits. -/
def fault : Place → String → CommandError
  | side, word =>
    if Numeral.isFiniteDecimal word.toList then .invalidDimension (.notWhole word)
    else .invalidArgument (.notInteger word)
  | coordinate, word => .invalidArgument (.notInteger word)
  | colour, word => .invalidArgument (.notOneCharacter word)

/-- A reader of words that succeeds where they fit the place and names the fault where not. -/
structure ReadBy {α : Type} (place : Place) (read : String → Except CommandError α) : Prop where
  ok : ∀ {word value}, read word = .ok value → place.Fits word
  error : ∀ {word error}, read word = .error error ↔ ¬place.Fits word ∧ error = place.fault word

end Place

/-- The places of an action's arguments. -/
def Action.places : Action → List Place
  | create => [.side, .side]
  | line | rectangle => [.coordinate, .coordinate, .coordinate, .coordinate]
  | fill => [.coordinate, .coordinate, .colour]

/-- The leftmost argument that does not fit has this fault. -/
inductive FirstFault : List Place → List String → CommandError → Prop where
  | here {place : Place} {places : List Place} {word : String} {rest : List String}
      (h : ¬place.Fits word) : FirstFault (place :: places) (word :: rest) (place.fault word)
  | later {place : Place} {places : List Place} {word : String} {rest : List String}
      {error : CommandError} (h : place.Fits word) (hrest : FirstFault places rest error) :
      FirstFault (place :: places) (word :: rest) error

/-- The words are no command. The first word is looked at first, then the number of arguments, then
each of them from the left. -/
inductive Command.Refused : List String → CommandError → Prop where
  | blank : Refused [] (.unknownAction "")
  | action {word : String} {arguments : List String} (h : ∀ a : Action, word ≠ a.code) :
      Refused (word :: arguments) (.unknownAction word)
  | count {a : Action} {arguments : List String} (h : arguments.length ≠ a.places.length) :
      Refused (a.code :: arguments) (.invalidArgument (.count a arguments.length))
  | argument {a : Action} {arguments : List String} {error : CommandError}
      (hcount : arguments.length = a.places.length) (h : FirstFault a.places arguments error) :
      Refused (a.code :: arguments) error

theorem Action.code_injective {a b : Action} (h : a.code = b.code) : a = b := by
  rw [← Option.some.injEq, ← ofCode?_code a, h, ofCode?_code]

namespace Directive

/-! ## One argument -/

/-- A word is read as an integer or denotes none. -/
theorem signed?_cases (word : String) :
    (∃ value, Numeral.signed? word.toList = some value ∧ Numeral.Denotes word.toList value) ∨
      Numeral.signed? word.toList = none ∧ ¬∃ value, Numeral.Denotes word.toList value := by
  cases h : Numeral.signed? word.toList with
  | some value => exact .inl ⟨value, rfl, Numeral.signed?_eq_some_iff.1 h⟩
  | none =>
    refine .inr ⟨rfl, ?_⟩
    rintro ⟨value, hvalue⟩
    rw [Numeral.signed?_eq_some_iff.2 hvalue] at h
    cases h

theorem readInteger_eq_ok_iff {word : String} {value : Int} :
    readInteger word = .ok value ↔ Numeral.Denotes word.toList value := by
  rw [← Numeral.signed?_eq_some_iff]
  unfold readInteger
  cases Numeral.signed? word.toList <;> simp

theorem readSide_of_none {word : String} (h : Numeral.signed? word.toList = none) :
    readSide word = .error (Place.side.fault word) := by
  unfold readSide Place.fault
  rw [h]
  exact (apply_ite _ _ _ _).symm

theorem readSide_eq_ok_iff {word : String} {value : Int} :
    readSide word = .ok value ↔ Numeral.Denotes word.toList value := by
  rw [← Numeral.signed?_eq_some_iff]
  cases h : Numeral.signed? word.toList with
  | some v => simp [readSide, h]
  | none => simp [readSide_of_none h]

theorem readColour_eq_ok_iff {word : String} {colour : Char} :
    readColour word = .ok colour ↔ word.toList = [colour] := by
  unfold readColour
  split
  · next c hc => simp [hc]
  · next hne => simpa using hne colour

theorem readBy_readInteger : Place.ReadBy .coordinate readInteger where
  ok h := ⟨_, readInteger_eq_ok_iff.1 h⟩
  error {word error} := by
    obtain ⟨value, h, hvalue⟩ | ⟨h, hnone⟩ := signed?_cases word
    · have hfits : Place.Fits .coordinate word := ⟨value, hvalue⟩
      simp [readInteger, h, hfits]
    · have hfits : ¬Place.Fits .coordinate word := hnone
      simp [readInteger, h, hfits, Place.fault, eq_comm]

theorem readBy_readSide : Place.ReadBy .side readSide where
  ok h := ⟨_, readSide_eq_ok_iff.1 h⟩
  error {word error} := by
    obtain ⟨value, h, hvalue⟩ | ⟨h, hnone⟩ := signed?_cases word
    · have hfits : Place.Fits .side word := ⟨value, hvalue⟩
      simp [readSide, h, hfits]
    · have hfits : ¬Place.Fits .side word := hnone
      simp [readSide_of_none h, hfits, eq_comm]

theorem readBy_readColour : Place.ReadBy .colour readColour where
  ok h := ⟨_, readColour_eq_ok_iff.1 h⟩
  error {word error} := by
    unfold readColour
    split
    · next c hc => simp [Place.Fits, hc]
    · next hne =>
      have hfits : ¬Place.Fits .colour word := fun ⟨c, hc⟩ => hne c hc
      simp [hfits, Place.fault, eq_comm]

end Directive

/-! ## Arguments from the left -/

theorem not_firstFault_nil {words : List String} {error : CommandError} :
    ¬FirstFault [] words error := nofun

/-- Reading one more argument in front finds its fault first. -/
theorem Place.ReadBy.firstFault_iff {α β : Type} {place : Place}
    {read : String → Except CommandError α} (hread : place.ReadBy read)
    {next : α → Except CommandError β} {places : List Place}
    {word : String} {rest : List String} {error : CommandError}
    (hnext : ∀ value, next value = .error error ↔ FirstFault places rest error) :
    (read word >>= next) = .error error ↔ FirstFault (place :: places) (word :: rest) error := by
  rw [bind_eq_error_iff, hread.error]
  constructor
  · rintro (⟨hfits, rfl⟩ | ⟨value, hvalue, herror⟩)
    · exact .here hfits
    · exact .later (hread.ok hvalue) ((hnext value).1 herror)
  · intro h
    cases h with
    | here hfits => exact .inl ⟨hfits, rfl⟩
    | later hfits hrest =>
      cases hvalue : read word with
      | ok value => exact .inr ⟨value, rfl, (hnext value).2 hrest⟩
      | error error => exact absurd hfits (hread.error.1 hvalue).1

namespace Directive

variable {action : Action} {arguments : List String}

/-- The number of arguments is checked before anything else. -/
theorem command_of_length_ne (h : arguments.length ≠ action.places.length) :
    command ⟨action, arguments⟩ = .error (.invalidArgument (.count action arguments.length)) := by
  unfold command
  split
  case h_5 => rfl
  all_goals
    next haction harguments =>
    cases haction
    cases harguments
    exact absurd rfl h

theorem command_eq_error_of_length {error : CommandError}
    (h : arguments.length = action.places.length) :
    command ⟨action, arguments⟩ = .error error ↔ FirstFault action.places arguments error := by
  have hdone : ∀ (c : Command) (words : List String),
      (.ok c : Except CommandError Command) = .error error ↔ FirstFault [] words error := by
    simp [not_firstFault_nil]
  have hpoint : ∀ {places x y rest} {next : Point → Except CommandError Command},
      (∀ p, next p = .error error ↔ FirstFault places rest error) →
        ((readPoint x y >>= next) = .error error ↔
          FirstFault (.coordinate :: .coordinate :: places) (x :: y :: rest) error) := by
    intro places x y rest next hnext
    rw [readPoint]
    simp only [bind_assoc, pure_bind]
    exact readBy_readInteger.firstFault_iff fun _ => readBy_readInteger.firstFault_iff fun _ =>
      hnext _
  cases action with
  | create =>
    obtain ⟨a, b, rfl⟩ := List.length_eq_two.1 h
    exact readBy_readSide.firstFault_iff fun _ => readBy_readSide.firstFault_iff fun _ => hdone _ _
  | line =>
    obtain ⟨a, b, c, d, rfl⟩ := List.length_eq_four.1 h
    exact hpoint fun _ => hpoint fun _ => hdone _ _
  | rectangle =>
    obtain ⟨a, b, c, d, rfl⟩ := List.length_eq_four.1 h
    exact hpoint fun _ => hpoint fun _ => hdone _ _
  | fill =>
    obtain ⟨a, b, c, rfl⟩ := List.length_eq_three.1 h
    exact hpoint fun _ => readBy_readColour.firstFault_iff fun _ => hdone _ _

theorem command_eq_error_iff {error : CommandError} :
    command ⟨action, arguments⟩ = .error error ↔
      Command.Refused (action.code :: arguments) error := by
  constructor
  · intro h
    by_cases hlength : arguments.length = action.places.length
    · exact .argument hlength ((command_eq_error_of_length hlength).1 h)
    · rw [command_of_length_ne hlength, Except.error.injEq] at h
      exact h ▸ .count hlength
  · intro h
    generalize hwords : action.code :: arguments = words at h
    cases h with
    | blank => cases hwords
    | action hunknown =>
      obtain ⟨rfl, -⟩ := List.cons.inj hwords
      exact absurd rfl (hunknown action)
    | count hlength =>
      obtain ⟨hcode, rfl⟩ := List.cons.inj hwords
      obtain rfl := Action.code_injective hcode
      exact command_of_length_ne hlength
    | argument hlength hfault =>
      obtain ⟨hcode, rfl⟩ := List.cons.inj hwords
      obtain rfl := Action.code_injective hcode
      exact (command_eq_error_of_length hlength).2 hfault

theorem readPoint_eq_ok_iff {x y : String} {p : Point} :
    readPoint x y = .ok p ↔ Numeral.Denotes x.toList p.x ∧ Numeral.Denotes y.toList p.y := by
  unfold readPoint
  simp only [bind_eq_ok_iff, readInteger_eq_ok_iff]
  constructor
  · rintro ⟨a, ha, b, hb, h⟩
    cases h
    exact ⟨ha, hb⟩
  · rintro ⟨hx, hy⟩
    exact ⟨p.x, hx, p.y, hy, rfl⟩

theorem written_of_command {c : Command} (h : command ⟨action, arguments⟩ = .ok c) :
    Command.Written (action.code :: arguments) c := by
  have hlength : arguments.length = action.places.length := by
    by_contra hne
    simp [command_of_length_ne hne] at h
  cases action with
  | create =>
    obtain ⟨w, t, rfl⟩ := List.length_eq_two.1 hlength
    obtain ⟨width, hw, h⟩ := bind_eq_ok_iff.1 h
    obtain ⟨height, ht, h⟩ := bind_eq_ok_iff.1 h
    cases h
    exact .create (readSide_eq_ok_iff.1 hw) (readSide_eq_ok_iff.1 ht)
  | line =>
    obtain ⟨x₁, y₁, x₂, y₂, rfl⟩ := List.length_eq_four.1 hlength
    obtain ⟨start, hstart, h⟩ := bind_eq_ok_iff.1 h
    obtain ⟨stop, hstop, h⟩ := bind_eq_ok_iff.1 h
    cases h
    obtain ⟨hx₁, hy₁⟩ := readPoint_eq_ok_iff.1 hstart
    obtain ⟨hx₂, hy₂⟩ := readPoint_eq_ok_iff.1 hstop
    exact .line hx₁ hy₁ hx₂ hy₂
  | rectangle =>
    obtain ⟨x₁, y₁, x₂, y₂, rfl⟩ := List.length_eq_four.1 hlength
    obtain ⟨first, hfirst, h⟩ := bind_eq_ok_iff.1 h
    obtain ⟨opposite, hopposite, h⟩ := bind_eq_ok_iff.1 h
    cases h
    obtain ⟨hx₁, hy₁⟩ := readPoint_eq_ok_iff.1 hfirst
    obtain ⟨hx₂, hy₂⟩ := readPoint_eq_ok_iff.1 hopposite
    exact .rectangle hx₁ hy₁ hx₂ hy₂
  | fill =>
    obtain ⟨x, y, word, rfl⟩ := List.length_eq_three.1 hlength
    obtain ⟨seed, hseed, h⟩ := bind_eq_ok_iff.1 h
    obtain ⟨colour, hcolour, h⟩ := bind_eq_ok_iff.1 h
    cases h
    obtain ⟨hx, hy⟩ := readPoint_eq_ok_iff.1 hseed
    exact .fill hx hy (readColour_eq_ok_iff.1 hcolour)

theorem command_of_written {c : Command} (h : Command.Written (action.code :: arguments) c) :
    command ⟨action, arguments⟩ = .ok c := by
  have hpoint : ∀ {x y : String} {p : Point}, Numeral.Denotes x.toList p.x →
      Numeral.Denotes y.toList p.y → readPoint x y = .ok p :=
    fun hx hy => readPoint_eq_ok_iff.2 ⟨hx, hy⟩
  generalize hwords : action.code :: arguments = words at h
  cases h with
  | create hw hh =>
    obtain ⟨hcode, rfl⟩ := List.cons.inj hwords
    obtain rfl : action = .create := Action.code_injective hcode
    simp only [command, readSide_eq_ok_iff.2 hw, readSide_eq_ok_iff.2 hh]
    rfl
  | line ha hb hc hd =>
    obtain ⟨hcode, rfl⟩ := List.cons.inj hwords
    obtain rfl : action = .line := Action.code_injective hcode
    simp only [command, hpoint ha hb, hpoint hc hd]
    rfl
  | rectangle ha hb hc hd =>
    obtain ⟨hcode, rfl⟩ := List.cons.inj hwords
    obtain rfl : action = .rectangle := Action.code_injective hcode
    simp only [command, hpoint ha hb, hpoint hc hd]
    rfl
  | fill ha hb hc =>
    obtain ⟨hcode, rfl⟩ := List.cons.inj hwords
    obtain rfl : action = .fill := Action.code_injective hcode
    simp only [command, hpoint ha hb, readColour_eq_ok_iff.2 hc]
    rfl

end Directive

/-! ## Lines -/

namespace Command

variable {line : String}

theorem head_cases (words : List String) :
    (∃ (a : Action) (arguments : List String), words = a.code :: arguments) ∨
      ∀ a : Action, words.headD "" ≠ a.code := by
  by_cases h : ∃ a : Action, words.headD "" = a.code
  · obtain ⟨a, ha⟩ := h
    cases words with
    | nil => cases a <;> exact absurd ha (by decide)
    | cons word arguments => exact .inl ⟨a, arguments, congrArg (· :: arguments) ha⟩
  · exact .inr fun a ha => h ⟨a, ha⟩

theorem ofLine_of_words {a : Action} {arguments : List String}
    (h : Text.words line = a.code :: arguments) :
    ofLine line = Directive.command ⟨a, arguments⟩ := by
  simp only [ofLine, Directive.ofLine, h, List.headD_cons, Action.ofCode?_code, List.tail_cons]
  rfl

theorem ofLine_of_unknown (h : ∀ a : Action, (Text.words line).headD "" ≠ a.code) :
    ofLine line = .error (.unknownAction ((Text.words line).headD "")) := by
  have hcode : Action.ofCode? ((Text.words line).headD "") = none :=
    Option.eq_none_iff_forall_ne_some.2 fun a ha => h a (Action.ofCode?_eq_some_iff.1 ha)
  simp only [ofLine, Directive.ofLine, hcode]
  rfl

theorem Written.words_eq {words : List String} {c : Command} (h : Written words c) :
    ∃ arguments, words = c.action.code :: arguments := by
  cases h <;> exact ⟨_, rfl⟩

theorem ofLine_eq_ok_iff {c : Command} :
    ofLine line = .ok c ↔ Written (Text.words line) c := by
  obtain ⟨a, arguments, hwords⟩ | hunknown := head_cases (Text.words line)
  · rw [ofLine_of_words hwords, hwords]
    exact ⟨Directive.written_of_command, Directive.command_of_written⟩
  · rw [ofLine_of_unknown hunknown]
    refine ⟨nofun, fun h => ?_⟩
    obtain ⟨arguments, hwords⟩ := h.words_eq
    rw [hwords] at hunknown
    exact absurd rfl (hunknown c.action)

theorem refused_iff_of_unknown {words : List String} (h : ∀ a : Action, words.headD "" ≠ a.code)
    {error : CommandError} : Refused words error ↔ error = .unknownAction (words.headD "") := by
  constructor
  · rintro (_ | _ | @⟨a, _, _⟩ | @⟨a, _, _, _, _⟩)
    · rfl
    · rfl
    · exact absurd rfl (h a)
    · exact absurd rfl (h a)
  · rintro rfl
    cases words with
    | nil => exact .blank
    | cons word arguments => exact .action h

theorem ofLine_eq_error_iff {error : CommandError} :
    ofLine line = .error error ↔ Refused (Text.words line) error := by
  obtain ⟨a, arguments, hwords⟩ | hunknown := head_cases (Text.words line)
  · rw [ofLine_of_words hwords, hwords]
    exact Directive.command_eq_error_iff
  · rw [ofLine_of_unknown hunknown, refused_iff_of_unknown hunknown, Except.error.injEq, eq_comm]

/-- A line is read as a command exactly if its words are a way to write that command, and it is
refused with an error exactly if that is the first thing wrong with its words. -/
theorem ofLine_grammar (line : String) :
    (∀ c, ofLine line = .ok c ↔ Written (Text.words line) c) ∧
      ∀ error, ofLine line = .error error ↔ Refused (Text.words line) error :=
  ⟨fun _ => ofLine_eq_ok_iff, fun _ => ofLine_eq_error_iff⟩

end Command

end GlyphCanvas
