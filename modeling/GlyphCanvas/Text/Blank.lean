/-!
# White space, words and lines

* `isBlank`: the Unicode property White_Space.
* `pieces`: a text cut at its separators, empty pieces kept.
* `words`: the maximal runs of characters that are not white space.
* `trim`: a text without the white space at its two ends. It has the same words (`words_trim`).
-/

namespace GlyphCanvas.Text

/-- The code points with the Unicode property White_Space. -/
def blanks : List Nat :=
  [0x9, 0xA, 0xB, 0xC, 0xD, 0x20, 0x85, 0xA0, 0x1680, 0x2000, 0x2001, 0x2002, 0x2003, 0x2004,
    0x2005, 0x2006, 0x2007, 0x2008, 0x2009, 0x200A, 0x2028, 0x2029, 0x202F, 0x205F, 0x3000]

/-- White space in the sense of Unicode; the zero-width space U+200B is not among it. -/
def isBlank (c : Char) : Bool :=
  blanks.contains c.toNat

/-- Cuts a text at every separator. There is one piece more than there are separators. -/
def pieces (separates : Char → Bool) (text : List Char) : List (List Char) :=
  text.foldr (fun c rest => if separates c then [] :: rest else rest.modifyHead (c :: ·)) [[]]

/-- The words of a text: what stands between white space, from left to right. -/
def words (text : String) : List String :=
  ((pieces isBlank text.toList).filter (!·.isEmpty)).map String.ofList

/-- A text without the white space at its two ends. -/
def trim (text : List Char) : List Char :=
  ((text.dropWhile isBlank).reverse.dropWhile isBlank).reverse

@[simp] theorem pieces_nil (separates : Char → Bool) : pieces separates [] = [[]] := rfl

theorem pieces_cons (separates : Char → Bool) (c : Char) (text : List Char) :
    pieces separates (c :: text) =
      if separates c then [] :: pieces separates text
      else (pieces separates text).modifyHead (c :: ·) := rfl

theorem pieces_ne_nil (separates : Char → Bool) (text : List Char) :
    pieces separates text ≠ [] := by
  induction text with
  | nil => simp
  | cons c rest ih =>
    rw [pieces_cons]
    split
    · simp
    · cases h : pieces separates rest with
      | nil => exact absurd h ih
      | cons p ps => simp

theorem pieces_append_singleton {separates : Char → Bool} {c : Char} (h : separates c = true)
    (text : List Char) : pieces separates (text ++ [c]) = pieces separates text ++ [[]] := by
  induction text with
  | nil => simp [pieces_cons, h]
  | cons d rest ih =>
    rw [List.cons_append, pieces_cons, pieces_cons, ih]
    split
    · rfl
    · cases hp : pieces separates rest with
      | nil => exact absurd hp (pieces_ne_nil separates rest)
      | cons p ps => rfl

/-! ## Trimming -/

theorem words_dropWhile (text : List Char) :
    words (String.ofList (text.dropWhile isBlank)) = words (String.ofList text) := by
  induction text with
  | nil => rfl
  | cons c rest ih =>
    rw [List.dropWhile_cons]
    split
    · next hc =>
      rw [ih]
      simp [words, pieces_cons, hc]
    · rfl

theorem words_reverse_dropWhile_reverse (text : List Char) :
    words (String.ofList (text.reverse.dropWhile isBlank).reverse) =
      words (String.ofList text) := by
  generalize hr : text.reverse = reversed
  obtain rfl : text = reversed.reverse := by rw [← hr, List.reverse_reverse]
  clear hr
  induction reversed with
  | nil => rfl
  | cons c rest ih =>
    rw [List.dropWhile_cons]
    split
    · next hc =>
      rw [ih]
      simp [words, pieces_append_singleton hc]
    · rfl

/-- White space at the ends of a text separates nothing. -/
theorem words_trim (text : List Char) :
    words (String.ofList (trim text)) = words (String.ofList text) := by
  rw [trim, words_reverse_dropWhile_reverse, words_dropWhile]

/-- Nothing is left of a text exactly when there is only white space. -/
theorem isEmpty_trim (text : List Char) : (trim text).isEmpty = text.all isBlank := by
  have hleft : (trim text).any (fun c => !isBlank c) = !text.all isBlank := by
    rw [trim, List.any_reverse, List.any_dropWhile, List.all_reverse, List.not_all_eq_any_not,
      List.any_dropWhile]
  cases hall : text.all isBlank with
  | false =>
    rw [hall] at hleft
    cases ht : trim text with
    | nil => simp [ht] at hleft
    | cons c rest => rfl
  | true =>
    have hdrop : (text ++ []).dropWhile isBlank = [].dropWhile isBlank :=
      List.dropWhile_append_of_pos (List.all_eq_true.1 hall)
    rw [List.append_nil, List.dropWhile_nil] at hdrop
    rw [trim, hdrop]
    rfl

end GlyphCanvas.Text
