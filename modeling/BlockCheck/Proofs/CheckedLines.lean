/-
This file reads a line with operations that are not defined everywhere, in the way a
program that keeps no proofs would do it. The words of the line are counted and taken from
an index on, and the round brackets of a function are found by two searches that know
nothing of each other and cut out by their byte offsets. Any of these can fault.

None does, on any line. The index goes up with every word that decides nothing, so the
words after it are there and are those that are left (`ofWordsChecked_eq`). The first
closing bracket stands before the first opening one, in which case nothing is cut, or it is
the first one after it (`findByte?_closing_cases`); then the two offsets bound a piece of
the line, wherever the keyword stands and however many bytes the other characters take.
-/

import BlockCheck.Proofs.Headers
import BlockCheck.Proofs.PartialOperations

namespace BlockCheck

/-! ### Lines -/

/-- The header of a function, from the offsets of the first brackets of each kind. -/
def functionHeaderChecked (line : Text) (following : List Text) : Except Fault (Option Header) :=
  match findByte? '(' line, findByte? ')' line with
  | some opening, some closing =>
    if closing < opening then return none
    else do
      let inner ← slice (opening + 1) closing line
      let tail ← sliceFrom (closing + 1) line
      return some (.function ((following.headD []).takeWhile (· != '(')) (splitParameters inner)
        (firstWord tail))
  | _, _ => return none

/-- The header of a branch, from the indices of the words with brackets. Where the indices
bound no words the condition is empty. -/
def branchHeaderByIndex? (allWords : List Text) : Option Header := do
  let opening ← allWords.findIdx? fun word => word.contains '('
  let closing ← allWords.findIdx? fun word => word.contains ')'
  return .branch (((elementsBetween? (opening + 1) closing allWords).map joinWords).getD [])

/-- Read the words of a line that are left, the first of which has the index `index` among
all words. -/
def LineForm.ofWordsChecked (line : Text) (allWords : List Text) (index : Nat) :
    List Text → Except Fault LineForm
  | [] => return .statement (.code line)
  | word :: remaining =>
    if word = returnKeyword then do
      let following ← elementsFrom (index + 1) allWords
      return .statement (.returning (joinWords following))
    else if word = functionKeyword then do
      let following ← elementsFrom (index + 1) allWords
      let header? ← functionHeaderChecked line following
      return .ofHeader? header?
    else if word = loopKeyword then do
      let following ← elementsFrom (index + 1) allWords
      return .ofHeader? (loopHeader? following)
    else if word = branchKeyword then return .ofHeader? (branchHeaderByIndex? allWords)
    else
      match cutAt? ':' word with
      | some (name, value) => return .statement (.declaration name value)
      | none => LineForm.ofWordsChecked line allWords (index + 1) remaining

/-- What a line is. Its words are the pieces between single spaces, counted from zero. -/
def LineForm.ofLineChecked (line : Text) : Except Fault LineForm :=
  LineForm.ofWordsChecked line (line.splitOn ' ') 0 (line.splitOn ' ')

/-! ### Functions -/

/-- The first closing bracket of a line is found before an opening one, or it is the first one
after it. -/
theorem findByte?_closing_cases {before later : Text} {closing : Nat}
    (found : findByte? ')' (before ++ '(' :: later) = some closing) :
    (')' ∈ before ∧ closing < byteLength before) ∨
      (')' ∉ before ∧ ∃ inner after, later = inner ++ ')' :: after ∧ ')' ∉ inner ∧
        closing = byteLength (before ++ '(' :: inner)) := by
  by_cases early : ')' ∈ before
  · obtain ⟨front, back, rfl, absent⟩ := List.eq_append_cons_of_mem early
    rw [List.append_assoc, List.cons_append, findByte?_append absent, Option.some.injEq] at found
    have positive := Char.utf8Size_pos ')'
    refine Or.inl ⟨early, ?_⟩
    rw [← found, byteLength_append, byteLength_cons]
    omega
  · by_cases member : ')' ∈ later
    · obtain ⟨inner, after, rfl, noInner⟩ := List.eq_append_cons_of_mem member
      have absent : ')' ∉ before ++ '(' :: inner := by simp [early, noInner]
      have first := findByte?_append absent after
      rw [List.append_assoc, List.cons_append, found, Option.some.injEq] at first
      exact Or.inr ⟨early, inner, after, rfl, noInner, first⟩
    · have absent : ')' ∉ before ++ '(' :: later := by simp [early, member]
      rw [findByte?_of_not_mem absent] at found
      simp at found

/-- The two offsets bound the piece between the brackets, and the line can be cut behind the
closing one. Both brackets take one byte. -/
theorem slices_between_brackets (before inner after : Text) :
    slice (byteLength before + 1) (byteLength (before ++ '(' :: inner))
        (before ++ '(' :: (inner ++ ')' :: after)) = .ok inner ∧
      sliceFrom (byteLength (before ++ '(' :: inner) + 1)
        (before ++ '(' :: (inner ++ ')' :: after)) = .ok after := by
  have opening : byteLength (before ++ ['(']) = byteLength before + 1 := by
    rw [byteLength_append]
    rfl
  have closing : byteLength (before ++ '(' :: inner ++ [')']) =
      byteLength (before ++ '(' :: inner) + 1 := by
    rw [byteLength_append]
    rfl
  exact ⟨slice_eq_ok_iff.mpr ⟨before ++ ['('], ')' :: after, by simp, opening, by simp⟩,
    sliceFrom_eq_ok_iff.mpr ⟨before ++ '(' :: inner ++ [')'], by simp, closing⟩⟩

/-- Two offsets that a line can be cut at as the header of a function is: the piece between them
without the bracket at the first one, and what follows the bracket at the second one. -/
structure BoundPieces (line : Text) (opening closing : Nat) : Prop where
  /-- The piece between the brackets ends where it starts or later. -/
  ordered : opening + 1 ≤ closing
  /-- The piece behind the brackets does not start past the end. -/
  within : closing + 1 ≤ byteLength line
  /-- The piece between the brackets starts at a character. -/
  afterOpening : IsBoundary line (opening + 1)
  /-- The piece between the brackets ends at a character. -/
  beforeClosing : IsBoundary line closing
  /-- The piece behind the brackets starts at a character or at the end. -/
  afterClosing : IsBoundary line (closing + 1)

/-- Offsets of first brackets bound pieces of the line, unless the closing one comes first. -/
theorem boundPieces_of_findByte? {line : Text} {opening closing : Nat}
    (opens : findByte? '(' line = some opening) (closes : findByte? ')' line = some closing)
    (ordered : ¬closing < opening) : BoundPieces line opening closing := by
  rw [findByte?_eq, Option.map_eq_some_iff] at opens
  obtain ⟨⟨before, later⟩, isOpened, rfl⟩ := opens
  obtain ⟨rfl, -⟩ := cutAt?_eq_some_iff.mp isOpened
  rcases findByte?_closing_cases closes with ⟨-, less⟩ | ⟨-, inner, after, rfl, -, rfl⟩
  · exact absurd less ordered
  · obtain ⟨innerSliced, tailSliced⟩ := slices_between_brackets before inner after
    obtain ⟨inOrder, -, starts, stops⟩ := exists_slice_iff.mp ⟨inner, innerSliced⟩
    obtain ⟨front, split, length⟩ := sliceFrom_eq_ok_iff.mp tailSliced
    have behind : IsBoundary (before ++ '(' :: (inner ++ ')' :: after))
        (byteLength (before ++ '(' :: inner) + 1) := ⟨front, after, split, length⟩
    exact ⟨inOrder, behind.le_byteLength, starts, stops, behind⟩

/-- The two searches for the brackets never give offsets that the line cannot be cut at, and
the header they lead to is the one that is found by cutting. -/
theorem functionHeaderChecked_eq (line : Text) (following : List Text) :
    functionHeaderChecked line following = .ok (functionHeader? line following) := by
  cases isOpened : cutAt? '(' line with
  | none =>
    have nowhere : findByte? '(' line = none := by rw [findByte?_eq, isOpened, Option.map_none]
    rw [functionHeaderChecked, functionHeader?, nowhere, isOpened]
    rfl
  | some parts =>
    obtain ⟨before, later⟩ := parts
    rw [functionHeader?_of_cutAt? isOpened]
    obtain ⟨rfl, noOpening⟩ := cutAt?_eq_some_iff.mp isOpened
    rw [functionHeaderChecked, findByte?_append noOpening]
    cases closes : findByte? ')' (before ++ '(' :: later) with
    | none =>
      have absent : ')' ∉ before ++ '(' :: later := by
        rwa [findByte?_eq, Option.map_eq_none_iff, cutAt?_eq_none_iff] at closes
      have notLater : ')' ∉ later := fun member => absent (by simp [member])
      rw [cutAt?_eq_none_iff.mpr notLater, Option.map_none, ite_self]
      rfl
    | some closing =>
      rcases findByte?_closing_cases closes with
        ⟨early, less⟩ | ⟨late, inner, after, rfl, noInner, rfl⟩
      · rw [if_pos early]
        simp only [if_pos less]
        rfl
      · have ordered : ¬byteLength (before ++ '(' :: inner) < byteLength before := by simp
        obtain ⟨innerSliced, tailSliced⟩ := slices_between_brackets before inner after
        rw [if_neg late, cutAt?_eq_some_iff.mpr ⟨rfl, noInner⟩]
        simp only [if_neg ordered, innerSliced, tailSliced]
        rfl

/-- Brackets before the keyword bound the parameters, and the keyword is taken for the type. -/
example : functionHeaderChecked ['ü', '(', 'é', ')', ' ', 'f', 'c'] [] =
    .ok (some (.function [] [['é']] ['f', 'c'])) := by rfl

/-! ### Branches -/

/-- Indices that bound no words give the same empty condition as dropping too many words. -/
theorem branchHeaderByIndex?_eq (allWords : List Text) :
    branchHeaderByIndex? allWords = branchHeader? allWords := by
  unfold branchHeaderByIndex? branchHeader?
  cases allWords.findIdx? fun word => word.contains '(' with
  | none => rfl
  | some opening =>
    cases found : allWords.findIdx? fun word => word.contains ')' with
    | none => rfl
    | some closing =>
      have within : closing < allWords.length := (List.findIdx?_eq_some_iff_getElem.mp found).1
      have condition : ((elementsBetween? (opening + 1) closing allWords).map joinWords).getD [] =
          joinWords ((allWords.take closing).drop (opening + 1)) := by
        rw [← getD_elementsBetween? (opening + 1) (Nat.le_of_lt within)]
        exact Option.getD_map joinWords [] _
      exact congrArg (fun inside => some (Header.branch inside)) condition

/-! ### Words -/

/-- The words after the one with the index `seen.length` are there, and they are those that are
left after it. -/
theorem ofWordsChecked_eq (line : Text) (seen remaining : List Text) :
    LineForm.ofWordsChecked line (seen ++ remaining) seen.length remaining =
      .ok (LineForm.ofWords line (seen ++ remaining) remaining) := by
  induction remaining generalizing seen with
  | nil => rfl
  | cons word remaining inductionHypothesis =>
    have regrouped : seen ++ word :: remaining = (seen ++ [word]) ++ remaining := by simp
    have following :
        elementsFrom (seen.length + 1) (seen ++ word :: remaining) = .ok remaining := by
      have taken := elementsFrom_append (seen ++ [word]) remaining
      rwa [← regrouped, List.length_append] at taken
    have further := inductionHypothesis (seen ++ [word])
    rw [← regrouped, List.length_append] at further
    rw [LineForm.ofWordsChecked, LineForm.ofWords, following]
    by_cases isReturn : word = returnKeyword
    · rw [if_pos isReturn, if_pos isReturn]
      rfl
    rw [if_neg isReturn, if_neg isReturn]
    by_cases isFunction : word = functionKeyword
    · rw [if_pos isFunction, if_pos isFunction]
      exact congrArg (Except.map LineForm.ofHeader?) (functionHeaderChecked_eq line remaining)
    rw [if_neg isFunction, if_neg isFunction]
    by_cases isLoop : word = loopKeyword
    · rw [if_pos isLoop, if_pos isLoop]
      rfl
    rw [if_neg isLoop, if_neg isLoop]
    by_cases isBranch : word = branchKeyword
    · rw [if_pos isBranch, if_pos isBranch, branchHeaderByIndex?_eq]
      rfl
    rw [if_neg isBranch, if_neg isBranch]
    cases cutAt? ':' word with
    | some parts => rfl
    | none => exact further

/-- No line is at fault, whatever its pieces are. -/
theorem ofLineChecked_eq_ofWords (line : Text) :
    LineForm.ofLineChecked line =
      .ok (LineForm.ofWords line (line.splitOn ' ') (line.splitOn ' ')) :=
  ofWordsChecked_eq line [] (line.splitOn ' ')

/-- The pieces of a statement line between single spaces are its words. -/
theorem splitOn_space_of_isStatementLine {line : Text} (proper : IsStatementLine line) :
    line.splitOn ' ' = words line := by
  obtain ⟨nonempty, normal⟩ := proper
  have some : words line ≠ [] := fun none => nonempty (by rw [← normal, normalize_eq_nil_iff, none])
  have solid (word : Text) (member : word ∈ words line) : ' ' ∉ word := fun inside =>
    absurd ((of_mem_words member).2 ' ' inside) (by decide)
  calc line.splitOn ' ' = (normalize line).splitOn ' ' := by rw [normal]
    _ = words line := List.splitOn_intercalate ' ' solid some

/-- A statement line is read as what it is. -/
theorem ofLineChecked_eq {line : Text} (proper : IsStatementLine line) :
    LineForm.ofLineChecked line = .ok (LineForm.ofLine line) := by
  rw [ofLineChecked_eq_ofWords, splitOn_space_of_isStatementLine proper, LineForm.ofLine]

end BlockCheck
