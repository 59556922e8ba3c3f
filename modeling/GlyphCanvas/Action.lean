/-!
# Actions

The four things a script line can ask for, and the one-letter codes that name them. `ofCode?`
reads exactly the codes that `code` writes (`ofCode?_eq_some_iff`).
-/

namespace GlyphCanvas

/-- What a script line asks for. -/
inductive Action where
  /-- Start a blank canvas. -/
  | create
  /-- Draw a horizontal or vertical line. -/
  | line
  /-- Draw the outline of a rectangle. -/
  | rectangle
  /-- Recolour a connected region. -/
  | fill
deriving DecidableEq

namespace Action

/-- The letter that names an action in a script. -/
def code : Action → String
  | create => "C"
  | line => "L"
  | rectangle => "R"
  | fill => "B"

/-- The action that a word names, if it names one. Case matters. -/
def ofCode? (word : String) : Option Action :=
  if word = "C" then some create
  else if word = "L" then some line
  else if word = "R" then some rectangle
  else if word = "B" then some fill
  else none

/-- Every action but `create` works on a canvas that is there already. -/
def needsCanvas : Action → Bool
  | create => false
  | line | rectangle | fill => true

/-- How many arguments follow the code. -/
def arity : Action → Nat
  | create => 2
  | line | rectangle => 4
  | fill => 3

theorem ofCode?_code (a : Action) : ofCode? a.code = some a := by
  cases a <;> decide

theorem ofCode?_eq_some_iff {word : String} {a : Action} :
    ofCode? word = some a ↔ word = a.code := by
  constructor
  · intro h
    unfold ofCode? at h
    split at h
    · next hw => cases h; exact hw
    split at h
    · next hw => cases h; exact hw
    split at h
    · next hw => cases h; exact hw
    split at h
    · next hw => cases h; exact hw
    · cases h
  · rintro rfl
    exact ofCode?_code a

end Action

end GlyphCanvas
