/-
This file splits a text into words and joins words into a text. The words are the
non-empty pieces between blanks, and everything about them follows from one equation,
`words_append_blank`: a blank splits the words of a text. A normalized text is its
words joined by single spaces; normalizing keeps the words (`words_normalize`), so a
second normalization changes nothing.
-/

import BlockCheck.Text.Blank

namespace BlockCheck

/-! ### Words -/

/-- The words of a text are its longest pieces without blanks, in order. -/
def words (text : Text) : List Text := (text.splitOnP isBlank).filter fun piece => !piece.isEmpty

/-- Join texts with a single space between each two. -/
def joinWords (texts : List Text) : Text := [' '].intercalate texts

/-- The first word of a text, or nothing where the text is blank. -/
def firstWord (text : Text) : Text := (words text).headD []

@[simp] theorem words_nil : words [] = [] := by simp [words, List.splitOnP_nil]

/-- A blank splits the words of a text. -/
theorem words_append_blank {c : Char} (blank : isBlank c = true) (before after : Text) :
    words (before ++ c :: after) = words before ++ words after := by
  unfold words
  rw [List.splitOnP_append_cons before after blank, List.filter_append]

/-- A blank in front belongs to no word. -/
theorem words_cons_blank {c : Char} (blank : isBlank c = true) (text : Text) :
    words (c :: text) = words text := by
  simpa using words_append_blank blank [] text

/-- A blank at the end belongs to no word. -/
theorem words_append_singleton_blank {c : Char} (blank : isBlank c = true) (text : Text) :
    words (text ++ [c]) = words text := by
  simpa using words_append_blank blank text []

/-- A non-empty text without blanks is one word. -/
theorem words_eq_singleton {text : Text} (nonempty : text ≠ [])
    (solid : ∀ c ∈ text, isBlank c = false) : words text = [text] := by
  unfold words
  rw [List.splitOnP_eq_singleton solid]
  simp [nonempty]

/-- No piece of a split holds an element that was split at. -/
theorem test_eq_false_of_mem_splitOnP {α : Type} {test : α → Bool} {whole : List α} :
    ∀ {piece : List α}, piece ∈ whole.splitOnP test → ∀ element ∈ piece, test element = false := by
  induction whole with
  | nil =>
    intro piece member element inside
    simp only [List.splitOnP_nil, List.mem_singleton] at member
    simp [member] at inside
  | cons first rest inductionHypothesis =>
    intro piece member element inside
    rw [List.splitOnP_cons_eq_if_modifyHead] at member
    by_cases split : test first = true
    · rw [if_pos split, List.mem_cons] at member
      rcases member with rfl | later
      · simp at inside
      · exact inductionHypothesis later element inside
    · rw [if_neg split] at member
      obtain ⟨head, tail, shape⟩ :=
        List.exists_cons_of_ne_nil (List.splitOnP_ne_nil test rest)
      rw [shape, List.modifyHead_cons, List.mem_cons] at member
      rcases member with rfl | later
      · rcases List.mem_cons.mp inside with rfl | deeper
        · simpa using split
        · exact inductionHypothesis (shape ▸ List.mem_cons_self) element deeper
      · exact inductionHypothesis (shape ▸ List.mem_cons_of_mem _ later) element inside

/-- A word is not empty and holds no blank. -/
theorem of_mem_words {text word : Text} (member : word ∈ words text) :
    word ≠ [] ∧ ∀ c ∈ word, isBlank c = false := by
  obtain ⟨piece, nonempty⟩ := List.mem_filter.mp member
  exact ⟨by simpa using nonempty, test_eq_false_of_mem_splitOnP piece⟩

/-- The words of joined words are those words. -/
theorem words_joinWords {texts : List Text}
    (proper : ∀ word ∈ texts, word ≠ [] ∧ ∀ c ∈ word, isBlank c = false) :
    words (joinWords texts) = texts := by
  induction texts with
  | nil => simp [joinWords]
  | cons word rest inductionHypothesis =>
    obtain ⟨nonempty, solid⟩ := proper word List.mem_cons_self
    cases rest with
    | nil => simpa [joinWords] using words_eq_singleton nonempty solid
    | cons next others =>
      have joined : joinWords (word :: next :: others) =
          word ++ ' ' :: joinWords (next :: others) := by
        simp [joinWords, List.intercalate_cons_cons]
      rw [joined, words_append_blank isBlank_space, words_eq_singleton nonempty solid,
        inductionHypothesis fun later member => proper later (List.mem_cons_of_mem _ member)]
      rfl

/-! ### Normalized texts -/

/-- Normalizing collapses every run of blanks to a single space and drops those at the
ends. -/
def normalize (text : Text) : Text := joinWords (words text)

/-- Normalizing keeps the words. -/
@[simp] theorem words_normalize (text : Text) : words (normalize text) = words text :=
  words_joinWords fun _ => of_mem_words

/-- A second normalization changes nothing. -/
@[simp]
theorem normalize_normalize (text : Text) : normalize (normalize text) = normalize text := by
  unfold normalize
  rw [words_joinWords fun _ => of_mem_words]

@[simp] theorem normalize_nil : normalize [] = [] := by simp [normalize, joinWords]

/-- Only the words of a text decide its normal form. -/
theorem normalize_eq_normalize_iff {left right : Text} :
    normalize left = normalize right ↔ words left = words right := by
  constructor
  · intro same
    rw [← words_normalize left, same, words_normalize]
  · intro same
    unfold normalize
    rw [same]

/-- A text normalizes to nothing exactly when it has no words. -/
theorem normalize_eq_nil_iff {text : Text} : normalize text = [] ↔ words text = [] := by
  rw [← normalize_nil, normalize_eq_normalize_iff, words_nil]

/-- The only blank of joined words is the single space. -/
theorem eq_space_of_mem_joinWords {texts : List Text}
    (solid : ∀ word ∈ texts, ∀ c ∈ word, isBlank c = false) {c : Char}
    (member : c ∈ joinWords texts) (blank : isBlank c = true) : c = ' ' := by
  induction texts with
  | nil => simp [joinWords] at member
  | cons word rest inductionHypothesis =>
    cases rest with
    | nil =>
      have inWord : c ∈ word := by simpa [joinWords] using member
      simp [solid word List.mem_cons_self c inWord] at blank
    | cons next others =>
      have joined : joinWords (word :: next :: others) =
          word ++ ' ' :: joinWords (next :: others) := by
        simp [joinWords, List.intercalate_cons_cons]
      rw [joined, List.mem_append, List.mem_cons] at member
      rcases member with inWord | isSpace | later
      · simp [solid word List.mem_cons_self c inWord] at blank
      · exact isSpace
      · exact inductionHypothesis
          (fun word' member' => solid word' (List.mem_cons_of_mem _ member')) later

/-- A normalized text holds no line break. -/
theorem newline_not_mem_normalize (text : Text) : '\n' ∉ normalize text := by
  intro member
  have solid : ∀ word ∈ words text, ∀ c ∈ word, isBlank c = false :=
    fun _ wordMember => (of_mem_words wordMember).2
  exact absurd (eq_space_of_mem_joinWords solid member isBlank_newline) (by decide)

end BlockCheck
