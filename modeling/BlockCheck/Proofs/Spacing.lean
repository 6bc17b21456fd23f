/-
This file says what normalizing does to a text. The characters that are not blank stay, in
their order (`solid_normalize`), so whether and how often one of them occurs is the same
before and after. Where a mark stands that is no blank, the two parts around it are
normalized as well, up to blanks next to the mark (`IsSpaced.cut`).

The headers of blocks are taken apart after their line has been normalized. With the
relation `IsSpaced` the parts can be read off the line as it was written.
-/

import BlockCheck.Text.Lines

namespace BlockCheck

/-! ### Joining -/

@[simp] theorem joinWords_nil : joinWords [] = [] := rfl

@[simp] theorem joinWords_singleton (word : Text) : joinWords [word] = word :=
  List.intercalate_singleton

theorem joinWords_cons_cons (word next : Text) (others : List Text) :
    joinWords (word :: next :: others) = word ++ ' ' :: joinWords (next :: others) := by
  simp [joinWords, List.intercalate_cons_cons]

theorem joinWords_cons_of_ne_nil {word : Text} {others : List Text} (more : others ≠ []) :
    joinWords (word :: others) = word ++ ' ' :: joinWords others := by
  obtain ⟨next, rest, rfl⟩ := List.exists_cons_of_ne_nil more
  exact joinWords_cons_cons word next rest

/-! ### The characters that are not blank -/

/-- A text without its blanks. -/
def solid (text : Text) : Text := text.filter fun c => !isBlank c

theorem solid_append (front back : Text) : solid (front ++ back) = solid front ++ solid back :=
  List.filter_append ..

theorem solid_eq_self {text : Text} (noBlank : ∀ c ∈ text, isBlank c = false) :
    solid text = text :=
  List.filter_eq_self.mpr fun c member => by simp [noBlank c member]

theorem solid_eq_nil_iff {text : Text} : solid text = [] ↔ isBlankText text = true := by
  simp [solid, isBlankText]

/-- What stands between joined texts is blank. -/
theorem solid_intercalate {separator : Text} (blank : solid separator = []) (texts : List Text) :
    solid (separator.intercalate texts) = (texts.map solid).flatten := by
  induction texts with
  | nil => rfl
  | cons text rest inductionHypothesis =>
    cases rest with
    | nil => simp
    | cons next others =>
      rw [List.intercalate_cons_cons, solid_append, solid_append, blank, inductionHypothesis]
      simp

/-- The words of a text are its characters that are not blank. -/
theorem flatten_words (text : Text) : (words text).flatten = solid text := by
  rw [words, List.flatten_filter_not_isEmpty]
  induction text with
  | nil => rfl
  | cons c rest inductionHypothesis =>
    rw [List.splitOnP_cons_eq_if_modifyHead]
    obtain ⟨head, tail, shape⟩ := List.exists_cons_of_ne_nil (List.splitOnP_ne_nil isBlank rest)
    rw [shape] at inductionHypothesis ⊢
    cases blank : isBlank c with
    | true => simpa [solid, blank] using inductionHypothesis
    | false => simpa [solid, blank] using inductionHypothesis

theorem solid_normalize (text : Text) : solid (normalize text) = solid text := by
  have eachSolid : (words text).map solid = words text :=
    (List.map_congr_left fun word member => solid_eq_self (of_mem_words member).2).trans
      (List.map_id' _)
  rw [normalize, joinWords, solid_intercalate rfl, eachSolid, flatten_words]

/-- A character that is not blank occurs as often before normalizing as after it. -/
theorem count_normalize {c : Char} (notBlank : isBlank c = false) (text : Text) :
    (normalize text).count c = text.count c := by
  have keep : ∀ other : Text, (solid other).count c = other.count c :=
    fun other => List.count_filter (by simp [notBlank])
  rw [← keep (normalize text), solid_normalize, keep]

theorem mem_normalize_iff {c : Char} (notBlank : isBlank c = false) {text : Text} :
    c ∈ normalize text ↔ c ∈ text := by
  rw [← List.count_pos_iff, ← List.count_pos_iff, count_normalize notBlank]

theorem words_eq_nil_iff {text : Text} : words text = [] ↔ isBlankText text = true := by
  rw [← solid_eq_nil_iff, ← flatten_words]
  constructor
  · intro none
    rw [none, List.flatten_nil]
  · intro flat
    refine List.eq_nil_iff_forall_not_mem.mpr fun word member => ?_
    exact (of_mem_words member).1 (List.flatten_eq_nil_iff.mp flat word member)

theorem words_blank_append {front : Text} (blank : isBlankText front = true) (text : Text) :
    words (front ++ text) = words text := by
  induction front with
  | nil => rfl
  | cons c rest inductionHypothesis =>
    simp only [isBlankText, List.all_cons, Bool.and_eq_true] at blank
    rw [List.cons_append, words_cons_blank blank.1, inductionHypothesis blank.2]

theorem words_append_of_blank {back : Text} (blank : isBlankText back = true) (text : Text) :
    words (text ++ back) = words text := by
  cases back with
  | nil => rw [List.append_nil]
  | cons c rest =>
    simp only [isBlankText, List.all_cons, Bool.and_eq_true] at blank
    rw [words_append_blank blank.1, words_eq_nil_iff.mpr blank.2, List.append_nil]

theorem normalize_cons_blank {c : Char} (blank : isBlank c = true) (text : Text) :
    normalize (c :: text) = normalize text :=
  normalize_eq_normalize_iff.mpr (words_cons_blank blank text)

theorem isBlankText_append (front back : Text) :
    isBlankText (front ++ back) = (isBlankText front && isBlankText back) :=
  List.all_append

/-! ### Character by character -/

/-- What normalizing leaves of the blanks that a text starts with, where something stands in
front of the text. -/
def gap : Text → Text
  | [] => []
  | c :: rest => if isBlank c && !isBlankText rest then [' '] else []

theorem gap_blank (text : Text) : isBlankText (gap text) = true := by
  cases text with
  | nil => rfl
  | cons c rest =>
    rw [gap]
    split <;> rfl

/-- A text that is not blank has the same gap whatever comes after it. -/
theorem gap_append {text : Text} (notBlank : isBlankText text = false) (more : Text) :
    gap (text ++ more) = gap text := by
  cases text with
  | nil => simp [isBlankText] at notBlank
  | cons c rest =>
    cases blank : isBlank c with
    | false => simp [gap, blank]
    | true =>
      have restNotBlank : isBlankText rest = false := by
        simpa [isBlankText, blank] using notBlank
      have longerNotBlank : isBlankText (rest ++ more) = false := by
        rw [isBlankText_append, restNotBlank, Bool.false_and]
      simp [gap, blank, restNotBlank, longerNotBlank]

theorem gap_of_blank {text : Text} (blank : isBlankText text = true) : gap text = [] := by
  cases text with
  | nil => rfl
  | cons c rest =>
    simp only [isBlankText, List.all_cons, Bool.and_eq_true] at blank
    simp [gap, isBlankText, blank]

/-- A character that is not blank stays in front, and the blanks after it become their
gap. -/
theorem normalize_cons_solid {c : Char} (notBlank : isBlank c = false) (text : Text) :
    normalize (c :: text) = c :: (gap text ++ normalize text) := by
  cases text with
  | nil => simp [normalize, words_eq_singleton (List.cons_ne_nil c []) (by simpa), gap]
  | cons d rest =>
    cases blank : isBlank d with
    | true =>
      have alone : words [c] = [[c]] := words_eq_singleton (List.cons_ne_nil c []) (by simpa)
      have split : words (c :: d :: rest) = [c] :: words rest := by
        rw [show c :: d :: rest = [c] ++ d :: rest from rfl, words_append_blank blank, alone]
        rfl
      rw [normalize_cons_blank blank, normalize, split, normalize, gap]
      cases restBlank : isBlankText rest with
      | true => simp [blank, words_eq_nil_iff.mpr restBlank]
      | false =>
        have more : words rest ≠ [] := by
          rw [Ne, words_eq_nil_iff, restBlank]
          simp
        rw [joinWords_cons_of_ne_nil more]
        simp [blank]
    | false =>
      obtain ⟨head, tail, shape⟩ := List.exists_cons_of_ne_nil (List.splitOnP_ne_nil isBlank rest)
      simp only [normalize, words, List.splitOnP_cons_eq_if_modifyHead, shape, notBlank, blank, gap]
      simp only [Bool.false_eq_true, if_false, List.modifyHead_cons, List.filter_cons,
        List.isEmpty_cons, Bool.not_false, if_true, Bool.false_and, List.nil_append]
      cases tail.filter fun piece => !piece.isEmpty with
      | nil => rfl
      | cons next others => rw [joinWords_cons_cons, joinWords_cons_cons]; rfl

/-- Around a mark that is not blank both parts of a text are normalized, up to blanks next to
the mark. The blanks in front of the mark belong to neither part. -/
theorem normalize_append_mark {mark : Char} (notBlank : isBlank mark = false)
    (before after : Text) :
    ∃ blanks, isBlankText blanks = true ∧
      normalize (before ++ mark :: after) =
        normalize before ++ blanks ++ mark :: (gap after ++ normalize after) := by
  induction before with
  | nil => exact ⟨[], rfl, by simp [normalize_cons_solid notBlank]⟩
  | cons c rest inductionHypothesis =>
    obtain ⟨blanks, areBlank, shape⟩ := inductionHypothesis
    cases blank : isBlank c with
    | true =>
      refine ⟨blanks, areBlank, ?_⟩
      rw [List.cons_append, normalize_cons_blank blank, shape, normalize_cons_blank blank]
    | false =>
      rw [List.cons_append, normalize_cons_solid blank, shape, normalize_cons_solid blank]
      cases restBlank : isBlankText rest with
      | true =>
        refine ⟨gap (rest ++ mark :: after) ++ blanks, ?_, ?_⟩
        · rw [isBlankText_append, gap_blank, areBlank, Bool.true_and]
        · have nothing : normalize rest = [] :=
            normalize_eq_nil_iff.mpr (words_eq_nil_iff.mpr restBlank)
          simp [nothing, gap_of_blank restBlank]
      | false =>
        refine ⟨blanks, areBlank, ?_⟩
        rw [gap_append restBlank]
        simp

/-! ### Trimming -/

theorem dropEnd_append {test : Char → Bool} {front back : Text}
    (remains : dropEnd test back ≠ []) :
    dropEnd test (front ++ back) = front ++ dropEnd test back := by
  unfold dropEnd at remains ⊢
  rw [List.reverse_append, List.dropWhile_append, if_neg (by simpa using remains),
    List.reverse_append, List.reverse_reverse]

theorem dropEnd_append_of_pos {test : Char → Bool} {back : Text} (dropped : ∀ c ∈ back, test c)
    (front : Text) : dropEnd test (front ++ back) = dropEnd test front := by
  unfold dropEnd
  rw [List.reverse_append, List.dropWhile_append_of_pos (by simpa using dropped)]

theorem dropEnd_eq_self {test : Char → Bool} {text : Text} (kept : ∀ c ∈ text, test c = false) :
    dropEnd test text = text := by
  cases reversed : text.reverse with
  | nil => rw [dropEnd, reversed, List.dropWhile_nil, ← reversed, List.reverse_reverse]
  | cons last others =>
    have lastKept : test last = false := by
      refine kept last (List.mem_reverse.mp ?_)
      rw [reversed]
      exact List.mem_cons_self
    rw [dropEnd, reversed, List.dropWhile_cons_of_neg (by simp [lastKept]), ← reversed,
      List.reverse_reverse]

theorem dropWhile_normalize (text : Text) :
    (normalize text).dropWhile isBlank = normalize text := by
  induction text with
  | nil => simp
  | cons c rest inductionHypothesis =>
    cases blank : isBlank c with
    | true => rw [normalize_cons_blank blank, inductionHypothesis]
    | false => rw [normalize_cons_solid blank, List.dropWhile_cons_of_neg (by simp [blank])]

theorem dropEnd_normalize (text : Text) : dropEnd isBlank (normalize text) = normalize text := by
  induction text with
  | nil => simp [dropEnd]
  | cons c rest inductionHypothesis =>
    cases blank : isBlank c with
    | true => rw [normalize_cons_blank blank, inductionHypothesis]
    | false =>
      rw [normalize_cons_solid blank]
      by_cases nothing : normalize rest = []
      · have restBlank := words_eq_nil_iff.mp (normalize_eq_nil_iff.mp nothing)
        simp [nothing, gap_of_blank restBlank, dropEnd, blank]
      · rw [← List.cons_append, dropEnd_append (by rwa [inductionHypothesis]), inductionHypothesis]

/-! ### Texts that are written like another -/

/-- A text is the normal form of another one, up to blanks at its ends. -/
def IsSpaced (raw text : Text) : Prop :=
  ∃ front back, isBlankText front = true ∧ isBlankText back = true ∧
    text = front ++ normalize raw ++ back

namespace IsSpaced

variable {raw text before after : Text} {mark : Char}

theorem normalized (raw : Text) : IsSpaced raw (normalize raw) :=
  ⟨[], [], rfl, rfl, by simp⟩

theorem mem_iff (spaced : IsSpaced raw text) (notBlank : isBlank mark = false) :
    mark ∈ text ↔ mark ∈ raw := by
  obtain ⟨front, back, frontBlank, backBlank, rfl⟩ := spaced
  have notFront : mark ∉ front := fun member => by
    simp [List.all_eq_true.mp frontBlank mark member] at notBlank
  have notBack : mark ∉ back := fun member => by
    simp [List.all_eq_true.mp backBlank mark member] at notBlank
  simp [notFront, notBack, mem_normalize_iff notBlank]

/-- Trimming takes the blanks at the ends away and leaves the normal form. -/
theorem trim_eq (spaced : IsSpaced raw text) : trim text = normalize raw := by
  obtain ⟨front, back, frontBlank, backBlank, rfl⟩ := spaced
  unfold isBlankText at frontBlank backBlank
  rw [List.all_eq_true] at frontBlank backBlank
  rw [trim, List.append_assoc, List.dropWhile_append_of_pos frontBlank, List.dropWhile_append,
    dropWhile_normalize]
  by_cases nothing : normalize raw = []
  · have gone : back.dropWhile isBlank = [] := by
      rw [← List.append_nil back, List.dropWhile_append_of_pos backBlank, List.dropWhile_nil]
    simp [nothing, gone, dropEnd]
  · rw [if_neg (by simpa using nothing), dropEnd_append_of_pos backBlank, dropEnd_normalize]

theorem words_eq (spaced : IsSpaced raw text) : words text = words raw := by
  obtain ⟨front, back, frontBlank, backBlank, rfl⟩ := spaced
  rw [words_append_of_blank backBlank, words_blank_append frontBlank, words_normalize]

/-- A text that is written like two parts around a mark can be cut at the mark, and its parts
are written like those. -/
theorem cut (spaced : IsSpaced (before ++ mark :: after) text) (notBlank : isBlank mark = false)
    (absent : mark ∉ before) :
    ∃ left right, cutAt? mark text = some (left, right) ∧ IsSpaced before left ∧
      IsSpaced after right := by
  obtain ⟨front, back, frontBlank, backBlank, rfl⟩ := spaced
  obtain ⟨blanks, areBlank, shape⟩ := normalize_append_mark notBlank before after
  have left : IsSpaced before (front ++ normalize before ++ blanks) :=
    ⟨front, blanks, frontBlank, areBlank, rfl⟩
  have right : IsSpaced after (gap after ++ normalize after ++ back) :=
    ⟨gap after, back, gap_blank after, backBlank, rfl⟩
  refine ⟨_, _, cutAt?_eq_some_iff.mpr ⟨?_, ?_⟩, left, right⟩
  · rw [shape]
    simp
  · rwa [left.mem_iff notBlank]

theorem takeWhile (spaced : IsSpaced (before ++ mark :: after) text)
    (notBlank : isBlank mark = false) (absent : mark ∉ before) :
    IsSpaced before (text.takeWhile (· != mark)) := by
  obtain ⟨left, right, isCut, leftSpaced, -⟩ := spaced.cut notBlank absent
  obtain ⟨rfl, leftAbsent⟩ := cutAt?_eq_some_iff.mp isCut
  rw [List.takeWhile_append_of_pos fun c member => by
    simpa using fun same : c = mark => leftAbsent (same ▸ member)]
  simpa using leftSpaced

/-- The pieces between marks are written like those of the other text. -/
theorem map_trim_splitOn (spaced : IsSpaced raw text) (notBlank : isBlank mark = false) :
    (text.splitOn mark).map trim = (raw.splitOn mark).map normalize := by
  induction count : raw.length using Nat.strongRecOn generalizing raw text with
  | ind length inductionHypothesis =>
    cases isCut : cutAt? mark raw with
    | none =>
      have absent := cutAt?_eq_none_iff.mp isCut
      rw [List.splitOn_eq_singleton absent,
        List.splitOn_eq_singleton (by rwa [spaced.mem_iff notBlank])]
      simp [spaced.trim_eq]
    | some parts =>
      obtain ⟨before, after⟩ := parts
      obtain ⟨rfl, absent⟩ := cutAt?_eq_some_iff.mp isCut
      obtain ⟨left, right, isCut', leftSpaced, rightSpaced⟩ := spaced.cut notBlank absent
      obtain ⟨rfl, leftAbsent⟩ := cutAt?_eq_some_iff.mp isCut'
      have shorter : after.length < length := by
        rw [← count]
        simp
        omega
      rw [List.splitOn_append_cons_self, List.splitOn_append_cons_self,
        List.splitOn_eq_singleton absent, List.splitOn_eq_singleton leftAbsent]
      simp [leftSpaced.trim_eq, inductionHypothesis _ shorter rightSpaced rfl]

end IsSpaced

end BlockCheck
