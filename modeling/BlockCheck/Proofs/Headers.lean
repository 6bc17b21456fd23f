/-
This file reads the header of a block off its line as it was written. The header is found in
the normalized line, but where its marks stand in the written line decides what its parts
are: each part is what stands between two marks, normalized. For a function the marks are
the two round brackets, for a loop the first two separators and the curly bracket, and for a
branch the two words with a round bracket.
-/

import BlockCheck.LineForm
import BlockCheck.Proofs.Spacing

namespace BlockCheck

/-! ### Functions -/

/-- The parameters in an inner text that is written like another one are the normalized
pieces of that one. -/
theorem splitParameters_of_isSpaced {raw inner : Text} (spaced : IsSpaced raw inner) :
    splitParameters inner = if isBlankText raw then [] else (raw.splitOn ',').map normalize := by
  have sameBlank : isBlankText inner = isBlankText raw := by
    rw [Bool.eq_iff_iff, ← words_eq_nil_iff, ← words_eq_nil_iff, spaced.words_eq]
  rw [splitParameters, sameBlank, spaced.map_trim_splitOn (by decide)]

/-- Texts that are normalized to the same text have the same pieces between marks, once these
are normalized. -/
theorem map_normalize_splitOn_congr {mark : Char} (notBlank : isBlank mark = false)
    {left right : Text} (same : normalize left = normalize right) :
    (left.splitOn mark).map normalize = (right.splitOn mark).map normalize := by
  have spaced : IsSpaced right (normalize left) := same ▸ IsSpaced.normalized right
  rw [← (IsSpaced.normalized left).map_trim_splitOn notBlank, spaced.map_trim_splitOn notBlank]

/-- Texts that are joined with commas and spaces are the pieces between the commas. -/
theorem map_normalize_splitOn_intercalate {texts : List Text} (nonempty : texts ≠ [])
    (absent : ∀ text ∈ texts, ',' ∉ text) :
    (([',', ' '].intercalate texts).splitOn ',').map normalize = texts.map normalize := by
  induction texts with
  | nil => exact absurd rfl nonempty
  | cons text rest inductionHypothesis =>
    obtain ⟨textAbsent, restAbsent⟩ := List.forall_mem_cons.mp absent
    cases rest with
    | nil => simp [List.splitOn_eq_singleton textAbsent]
    | cons next others =>
      have sameTail := map_normalize_splitOn_congr (show isBlank ',' = false by decide)
        (normalize_cons_blank isBlank_space ([',', ' '].intercalate (next :: others)))
      rw [List.intercalate_cons_cons, List.append_assoc, List.cons_append, List.singleton_append,
        List.splitOn_append_cons_self, List.splitOn_eq_singleton textAbsent, List.singleton_append,
        List.map_cons, sameTail, inductionHypothesis (by simp) restAbsent]
      rfl

/-- The header of a function whose first opening bracket is known. -/
theorem functionHeader?_of_cutAt? {line before later : Text}
    (isOpened : cutAt? '(' line = some (before, later)) (following : List Text) :
    functionHeader? line following =
      if ')' ∈ before then none
      else (cutAt? ')' later).map fun (inner, after) =>
        .function ((following.headD []).takeWhile (· != '(')) (splitParameters inner)
          (firstWord after) := by
  rw [functionHeader?, isOpened]
  show ((guard (')' ∉ before) : Option Unit).bind fun _ => (cutAt? ')' later).bind fun parts =>
    some (Header.function ((following.headD []).takeWhile (· != '(')) (splitParameters parts.1)
      (firstWord parts.2))) = _
  by_cases early : ')' ∈ before
  · have stops : guard (')' ∉ before) = (none : Option Unit) := if_neg (not_not_intro early)
    rw [stops, if_pos early, Option.bind_none]
  · have passes : guard (')' ∉ before) = (some () : Option Unit) := if_pos early
    rw [passes, if_neg early, Option.bind_some]
    cases cutAt? ')' later <;> rfl

/-- The header of a function is found where an opening round bracket stands before a closing
one. -/
theorem functionHeader?_normalize {before inner after : Text} (following : List Text)
    (noOpening : '(' ∉ before) (noClosing : ')' ∉ before) (noInnerClosing : ')' ∉ inner) :
    functionHeader? (normalize (before ++ '(' :: (inner ++ ')' :: after))) following =
      some (.function ((following.headD []).takeWhile (· != '('))
        (if isBlankText inner then [] else (inner.splitOn ',').map normalize)
        (firstWord after)) := by
  have whole := IsSpaced.normalized (before ++ '(' :: (inner ++ ')' :: after))
  obtain ⟨left, right, isOpened, leftSpaced, rightSpaced⟩ := whole.cut (by decide) noOpening
  obtain ⟨middle, rest, isClosed, middleSpaced, restSpaced⟩ :=
    rightSpaced.cut (by decide) noInnerClosing
  have leftNoClosing : ')' ∉ left := by rwa [leftSpaced.mem_iff (by decide)]
  rw [functionHeader?_of_cutAt? isOpened, if_neg leftNoClosing, isClosed, Option.map_some]
  show some (Header.function _ (splitParameters middle) (firstWord rest)) = _
  rw [firstWord, restSpaced.words_eq, splitParameters_of_isSpaced middleSpaced, firstWord]

/-! ### Loops -/

/-- A clause without curly brackets loses none at its end. -/
theorem trim_dropEnd_normalize {clause : Text} (noOpening : '{' ∉ clause)
    (noClosing : '}' ∉ clause) :
    trim (dropEnd isCurly (normalize clause)) = normalize clause := by
  have noCurly : ∀ c ∈ normalize clause, isCurly c = false := by
    intro c member
    rw [← Bool.not_eq_true, isCurly, Bool.or_eq_true, beq_iff_eq, beq_iff_eq]
    rintro (rfl | rfl)
    · exact noOpening ((mem_normalize_iff (by decide)).mp member)
    · exact noClosing ((mem_normalize_iff (by decide)).mp member)
  rw [dropEnd_eq_self noCurly, (IsSpaced.normalized clause).trim_eq]

/-- The header of a loop is found where two separators stand before the first opening curly
bracket. -/
theorem loopHeader?_words {initializer condition increment after : Text}
    (noSeparator : clauseSeparator ∉ initializer) (noBrace : '{' ∉ initializer)
    (noLaterSeparator : clauseSeparator ∉ condition) (noLaterBrace : '{' ∉ condition)
    (noLastBrace : '{' ∉ increment) :
    loopHeader? (words (initializer ++ clauseSeparator ::
        (condition ++ clauseSeparator :: (increment ++ '{' :: after)))) =
      some (.loop (normalize initializer) (normalize condition)
        (trim (dropEnd isCurly (normalize increment)))) := by
  have notBlank : isBlank clauseSeparator = false := by decide
  have different : ('{' : Char) ≠ clauseSeparator := by decide
  have whole : IsSpaced ((initializer ++ clauseSeparator ::
      (condition ++ clauseSeparator :: increment)) ++ '{' :: after)
      (normalize (initializer ++ clauseSeparator ::
        (condition ++ clauseSeparator :: (increment ++ '{' :: after)))) := by
    simpa using IsSpaced.normalized (initializer ++ clauseSeparator ::
      (condition ++ clauseSeparator :: (increment ++ '{' :: after)))
  have clausesSpaced := whole.takeWhile (by decide) (by
    simp [noBrace, noLaterBrace, noLastBrace, different])
  obtain ⟨first, later, isCut, firstSpaced, laterSpaced⟩ := clausesSpaced.cut notBlank noSeparator
  obtain ⟨second, third, isCutAgain, secondSpaced, thirdSpaced⟩ :=
    laterSpaced.cut notBlank noLaterSeparator
  unfold normalize at isCut
  simp [loopHeader?, isCut, isCutAgain, firstSpaced.trim_eq, secondSpaced.trim_eq,
    thirdSpaced.trim_eq]

/-! ### Branches -/

theorem findIdx?_append_cons {Element : Type} {test : Element → Bool} {front : List Element}
    {hit : Element} (absent : ∀ element ∈ front, test element = false) (isHit : test hit = true)
    (back : List Element) : (front ++ hit :: back).findIdx? test = some front.length := by
  have nowhere : front.findIdx? test = none := List.findIdx?_eq_none_iff.mpr absent
  rw [List.findIdx?_append, nowhere, List.findIdx?_cons, isHit]
  simp

/-- The header of a branch is found where a word with an opening round bracket stands before
one with a closing round bracket, and its condition is the words between the first two such
words. -/
theorem branchHeader?_append {before inside : List Text} {opening closing : Text}
    (noOpening : ∀ word ∈ before, '(' ∉ word) (noClosing : ∀ word ∈ before ++ [opening], ')' ∉ word)
    (opens : '(' ∈ opening) (noInnerClosing : ∀ word ∈ inside, ')' ∉ word)
    (closes : ')' ∈ closing) (after : List Text) :
    branchHeader? (before ++ opening :: (inside ++ closing :: after)) =
      some (.branch (joinWords inside)) := by
  have regrouped : before ++ opening :: (inside ++ closing :: after) =
      (before ++ [opening] ++ inside) ++ closing :: after := by simp
  have noEarlierClosing : ∀ word ∈ before ++ [opening] ++ inside, word.contains ')' = false := by
    intro word member
    rcases List.mem_append.mp member with early | inner
    · simpa using noClosing word early
    · simpa using noInnerClosing word inner
  have noEarlierOpening : ∀ word ∈ before, word.contains '(' = false :=
    fun word member => by simpa using noOpening word member
  have found : (before ++ opening :: (inside ++ closing :: after)).findIdx?
      (fun word => word.contains '(') = some before.length :=
    findIdx?_append_cons noEarlierOpening (by simpa using opens) (inside ++ closing :: after)
  have foundClosing : (before ++ opening :: (inside ++ closing :: after)).findIdx?
      (fun word => word.contains ')') = some (before ++ [opening] ++ inside).length := by
    rw [regrouped]
    exact findIdx?_append_cons noEarlierClosing (by simpa using closes) after
  rw [branchHeader?, found, foundClosing, regrouped, Option.bind_eq_bind, Option.bind_some,
    Option.bind_some, List.take_left, List.drop_left' (by simp)]
  rfl

end BlockCheck
