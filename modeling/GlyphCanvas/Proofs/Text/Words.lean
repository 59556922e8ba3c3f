import GlyphCanvas.Text.Blank

/-!
# The words and the lines of a text

* `Text.IsWord`: a text that is not empty and holds no white space.
* `Text.words_of_isWord`, `Text.isWord_of_mem_words`: such a text is its own only word, and every
  word of a text is such.
* `Text.any_not_isBlank_iff`: a text without words is white space throughout.
* `Text.words_append_cons`: white space between two texts keeps their words apart.
* `Text.words_intercalate`: texts with a space between any two have the words of all of them.
* `Text.not_mem_intercalate_of_isWord`: words with a space between any two stay on one line.
* `Text.splitOn_join`: texts with a line end behind each have the lines of all of them.
-/

namespace GlyphCanvas.Text

theorem pieces_eq_splitOnP (separates : Char → Bool) (text : List Char) :
    pieces separates text = text.splitOnP separates := by
  induction text with
  | nil => rfl
  | cons c rest ih => rw [pieces_cons, List.splitOnP_cons_eq_if_modifyHead, ih]

/-- No piece holds a separator. -/
theorem eq_false_of_mem_pieces {separates : Char → Bool} {text piece : List Char}
    (h : piece ∈ pieces separates text) : ∀ c ∈ piece, separates c = false := by
  induction text generalizing piece with
  | nil =>
    rw [pieces_nil, List.mem_singleton] at h
    simp [h]
  | cons d rest ih =>
    rw [pieces_cons] at h
    split at h
    · rcases List.mem_cons.1 h with rfl | h
      · exact fun c hc => absurd hc List.not_mem_nil
      · exact ih h
    · next hd =>
      cases hp : pieces separates rest with
      | nil => exact absurd hp (pieces_ne_nil separates rest)
      | cons first others =>
        rw [hp, List.modifyHead_cons] at h
        rcases List.mem_cons.1 h with rfl | h
        · intro c hc
          rcases List.mem_cons.1 hc with rfl | hc
          · exact Bool.eq_false_iff.2 hd
          · exact ih (hp ▸ List.mem_cons_self) c hc
        · exact ih (hp ▸ List.mem_cons_of_mem _ h)

/-- The text is not empty and holds no white space. -/
structure IsWord (text : String) : Prop where
  ne_empty : text ≠ ""
  solid : ∀ c ∈ text.toList, isBlank c = false

theorem isWord_of_mem_words {text word : String} (h : word ∈ words text) : IsWord word := by
  obtain ⟨piece, hpiece, rfl⟩ := List.mem_map.1 h
  obtain ⟨hmem, hne⟩ := List.mem_filter.1 hpiece
  constructor
  · rw [Ne, String.ofList_eq_empty_iff]
    simpa using hne
  · rw [String.toList_ofList]
    exact eq_false_of_mem_pieces hmem

theorem words_of_isWord {text : String} (h : IsWord text) : words text = [text] := by
  have hne : text.toList ≠ [] := fun he => h.ne_empty (String.toList_eq_nil_iff.1 he)
  rw [words, pieces_eq_splitOnP, List.splitOnP_eq_singleton h.solid]
  simp [hne]

/-- A text has a word exactly if it is not white space throughout. -/
theorem any_not_isBlank_iff {text : List Char} :
    (text.any fun c => !isBlank c) = true ↔ words (String.ofList text) ≠ [] := by
  induction text with
  | nil => decide
  | cons c rest ih =>
    rw [List.any_cons]
    cases hc : isBlank c with
    | true =>
      have hwords : words (String.ofList (c :: rest)) = words (String.ofList rest) := by
        simp [words, pieces_cons, hc]
      rw [hwords, ← ih]
      rfl
    | false =>
      obtain ⟨piece, others, hpieces⟩ := List.exists_cons_of_ne_nil (pieces_ne_nil isBlank rest)
      simp [words, pieces_cons, hc, hpieces]

theorem words_append_cons {c : Char} (hc : isBlank c = true) (text rest : List Char) :
    words (String.ofList (text ++ c :: rest)) =
      words (String.ofList text) ++ words (String.ofList rest) := by
  simp only [words, String.toList_ofList, pieces_eq_splitOnP, List.splitOnP_append_cons _ _ hc,
    List.filter_append, List.map_append]

theorem words_append_space (text rest : String) :
    words (text ++ " " ++ rest) = words text ++ words rest := by
  have hlist : text ++ " " ++ rest = String.ofList (text.toList ++ ' ' :: rest.toList) := by
    apply String.toList_inj.1
    simp
  rw [hlist, words_append_cons (by decide), String.ofList_toList, String.ofList_toList]

theorem words_intercalate (texts : List String) :
    words (" ".intercalate texts) = texts.flatMap words := by
  induction texts with
  | nil => decide
  | cons text rest ih =>
    cases rest with
    | nil => simp
    | cons next others =>
      rw [String.intercalate_cons_cons, words_append_space, ih]
      rfl

/-- What holds throughout some texts and a separator holds throughout the texts with the separator
between any two. -/
theorem forall_mem_intercalate {p : Char → Prop} {separator : List Char}
    {texts : List (List Char)} (hseparator : ∀ c ∈ separator, p c)
    (h : ∀ text ∈ texts, ∀ c ∈ text, p c) : ∀ c ∈ separator.intercalate texts, p c := by
  induction texts with
  | nil => exact fun c hc => absurd hc List.not_mem_nil
  | cons text rest ih =>
    obtain ⟨htext, hrest⟩ := List.forall_mem_cons.1 h
    cases rest with
    | nil =>
      rw [List.intercalate_singleton]
      exact htext
    | cons next others =>
      rw [List.intercalate_cons_cons]
      exact List.forall_mem_append.2 ⟨List.forall_mem_append.2 ⟨htext, hseparator⟩, ih hrest⟩

/-- Between words with a space between any two there is no other white space. -/
theorem not_mem_intercalate_of_isWord {texts : List String} (h : ∀ text ∈ texts, IsWord text)
    {c : Char} (hc : isBlank c = true) (hspace : c ≠ ' ') :
    c ∉ (" ".intercalate texts).toList := by
  have hall : ∀ d ∈ [' '].intercalate (texts.map String.toList), d ≠ c := by
    apply forall_mem_intercalate
    · simpa using hspace.symm
    · intro text htext d hd
      obtain ⟨word, hword, rfl⟩ := List.mem_map.1 htext
      rintro rfl
      rw [(h word hword).solid d hd] at hc
      cases hc
  rw [String.toList_intercalate]
  exact fun hmem => hall c hmem rfl

/-- Words with a space between any two are the words of the whole. -/
theorem words_intercalate_of_isWord {texts : List String} (h : ∀ text ∈ texts, IsWord text) :
    words (" ".intercalate texts) = texts := by
  rw [words_intercalate]
  induction texts with
  | nil => rfl
  | cons text rest ih =>
    rw [List.flatMap_cons, words_of_isWord (h text List.mem_cons_self),
      ih fun next hnext => h next (List.mem_cons_of_mem _ hnext), List.singleton_append]

/-- Texts with a line end behind each have the lines of all of them, and an empty one behind the
last line end. -/
theorem splitOn_join (texts : List String) :
    (String.join (texts.map (· ++ "\n"))).toList.splitOn '\n' =
      texts.flatMap (·.toList.splitOn '\n') ++ [[]] := by
  rw [String.toList_join]
  induction texts with
  | nil => rfl
  | cons text rest ih =>
    have htext : (text ++ "\n").toList = text.toList ++ ['\n'] := String.toList_append ..
    rw [List.map_cons, List.flatMap_cons, htext, List.append_assoc, List.singleton_append,
      List.splitOn_append_cons_self, ih, List.flatMap_cons, List.append_assoc]

end GlyphCanvas.Text
