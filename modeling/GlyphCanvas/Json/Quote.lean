/-!
# JSON strings

* `quote` writes a text between double quotes. Escaped are the quote, the backslash and the
  characters below U+0020, the shortest way each.
* `unquote?` reads what follows an opening quote, up to the closing one: any JSON escape is
  understood, surrogate escapes only in pairs, and raw characters below U+0020 are refused.
* `LeavesUnder`: what was read has left fewer characters than this. Every reader of a part of a
  JSON text has such a bound, and by them reading ends.
-/

namespace GlyphCanvas.Json

/-! ## What a reader leaves -/

/-- If something was read, fewer than `n` characters are left behind it. -/
def LeavesUnder {α : Type} (n : Nat) (answer : Option (α × List Char)) : Prop :=
  ∀ x rest, answer = some (x, rest) → rest.length < n

namespace LeavesUnder

variable {α β : Type} {n k : Nat} {answer : Option (α × List Char)} {rest : List Char}

theorem none : LeavesUnder n (.none : Option (α × List Char)) :=
  fun _ _ h => nomatch h

theorem some {x : α} (h : rest.length < n) : LeavesUnder n (.some (x, rest)) := by
  rintro _ _ ⟨⟩
  exact h

theorem mono (h : LeavesUnder n answer) (hle : n ≤ k) : LeavesUnder k answer :=
  fun x rest hread => Nat.lt_of_lt_of_le (h x rest hread) hle

/-- One reader behind another. -/
theorem bind {next : α × List Char → Option (β × List Char)} (h : LeavesUnder n answer)
    (hnext : ∀ x rest, rest.length < n → LeavesUnder k (next (x, rest))) :
    LeavesUnder k (answer.bind next) := by
  intro y rest' hread
  obtain ⟨⟨x, rest⟩, hfirst, hread⟩ := Option.bind_eq_some_iff.1 hread
  exact hnext x rest (h x rest hfirst) y rest' hread

/-- Something else made of what was read. -/
theorem map {f : α × List Char → β × List Char} (h : LeavesUnder n answer)
    (hf : ∀ p, (f p).2 = p.2) : LeavesUnder n (answer.map f) := by
  intro y rest hread
  obtain ⟨⟨x, rest'⟩, hfirst, hmade⟩ := Option.map_eq_some_iff.1 hread
  have hrest : rest' = rest := (hf (x, rest')).symm.trans (congrArg Prod.snd hmade)
  exact hrest ▸ h x rest' hfirst

/-- A reader behind a check that takes nothing from the text. -/
theorem given {o : Option β} {next : β → Option (α × List Char)}
    (h : ∀ y, LeavesUnder n (next y)) : LeavesUnder n (o.bind next) := by
  intro x rest hread
  obtain ⟨y, -, hread⟩ := Option.bind_eq_some_iff.1 hread
  exact h y x rest hread

end LeavesUnder

/-! ## Writing -/

/-- The lower-case hexadecimal digit of a number below 16. -/
def hexDigit (n : Nat) : Char :=
  Nat.digitChar n

/-- How one character is written inside quotes. -/
def quoteChar (c : Char) : List Char :=
  if c = '"' then ['\\', '"']
  else if c = '\\' then ['\\', '\\']
  else if c = '\x08' then ['\\', 'b']
  else if c = '\t' then ['\\', 't']
  else if c = '\n' then ['\\', 'n']
  else if c = '\x0c' then ['\\', 'f']
  else if c = '\r' then ['\\', 'r']
  else if c.toNat < 0x20 then
    ['\\', 'u', '0', '0', hexDigit (c.toNat / 16), hexDigit (c.toNat % 16)]
  else [c]

/-- A text as a JSON string. -/
def quote (text : List Char) : List Char :=
  '"' :: text.flatMap quoteChar ++ ['"']

/-! ## Reading -/

/-- The value of a hexadecimal digit of either case. -/
def hexValue? (c : Char) : Option Nat :=
  if '0' ≤ c ∧ c ≤ '9' then some (c.toNat - 48)
  else if 'a' ≤ c ∧ c ≤ 'f' then some (c.toNat - 87)
  else if 'A' ≤ c ∧ c ≤ 'F' then some (c.toNat - 55)
  else none

/-- The value of four hexadecimal digits. -/
def hex4? (a b c d : Char) : Option Nat := do
  return 4096 * (← hexValue? a) + 256 * (← hexValue? b) + 16 * (← hexValue? c) + (← hexValue? d)

/-- The character that a letter after a backslash stands for. -/
def simpleEscape? (c : Char) : Option Char :=
  if c = '"' ∨ c = '\\' ∨ c = '/' then some c
  else if c = 'b' then some '\x08'
  else if c = 'f' then some '\x0c'
  else if c = 'n' then some '\n'
  else if c = 'r' then some '\r'
  else if c = 't' then some '\t'
  else none

/-- The character written as two UTF-16 units, if they form a pair. -/
def ofSurrogates? (high low : Nat) : Option Char :=
  if 0xDC00 ≤ low ∧ low ≤ 0xDFFF then
    some (Char.ofNat (0x10000 + (high - 0xD800) * 0x400 + (low - 0xDC00)))
  else none

/-- The character that an escape stands for, and what follows it. The text begins behind the
backslash. -/
def escape? : List Char → Option (Char × List Char)
  | 'u' :: a :: b :: c :: d :: rest => do
    let unit ← hex4? a b c d
    if 0xD800 ≤ unit ∧ unit ≤ 0xDBFF then
      match rest with
      | '\\' :: 'u' :: a :: b :: c :: d :: rest =>
        return (← ofSurrogates? unit (← hex4? a b c d), rest)
      | _ => none
    else if 0xDC00 ≤ unit ∧ unit ≤ 0xDFFF then none
    else return (Char.ofNat unit, rest)
  | c :: rest => (simpleEscape? c).map (·, rest)
  | [] => none

theorem leavesUnder_escape? (s : List Char) : LeavesUnder s.length (escape? s) := by
  unfold escape?
  split
  · refine .given fun unit => ?_
    split
    · split
      · refine .given fun low => .given fun c => .some ?_
        simp only [List.length_cons]
        omega
      · exact .none
    · split
      · exact .none
      · refine .some ?_
        simp only [List.length_cons]
        omega
  · rw [Option.map_eq_bind]
    exact .given fun _ => .some (Nat.lt_succ_self _)
  · exact .none

/-- The text up to the closing quote, and what follows the quote. -/
def unquote? (s : List Char) : Option (List Char × List Char) :=
  match s with
  | [] => none
  | '"' :: rest => some ([], rest)
  | '\\' :: rest =>
    match _h : escape? rest with
    | some (c, rest) => (unquote? rest).map fun (text, rest) => (c :: text, rest)
    | none => none
  | c :: rest =>
    if c.toNat < 0x20 then none
    else (unquote? rest).map fun (text, rest) => (c :: text, rest)
termination_by s.length
decreasing_by
  · have := leavesUnder_escape? _ _ _ _h
    simp only [List.length_cons]
    omega
  · simp

theorem leavesUnder_unquote? (s : List Char) : LeavesUnder s.length (unquote? s) := by
  -- on the length, since an escape takes more characters than the backslash
  induction hn : s.length using Nat.strongRecOn generalizing s with
  | ind n ih =>
    subst hn
    unfold unquote?
    split
    · exact .none
    · exact .some (Nat.lt_succ_self _)
    · next rest =>
      split
      · next c rest' hescape =>
        have hless := Nat.lt_succ_of_lt (leavesUnder_escape? rest c rest' hescape)
        exact .mono (.map (ih _ hless rest' rfl) fun _ => rfl) (Nat.le_of_lt hless)
      · exact .none
    · next c rest _ _ =>
      split
      · exact .none
      · exact .mono (.map (ih _ (Nat.lt_succ_self _) rest rfl) fun _ => rfl) (Nat.le_succ _)

end GlyphCanvas.Json
