/-
This file says what a single line is, by its leftmost word that decides. A word decides when it is
a keyword or holds a colon; where none does, the line is a line of code. A return and a declaration
are then read whatever else stands on the line. A header needs its marks, and each kind of header
searches for them in its own way: a function in the whole line, where the first opening round
bracket has to stand before the first closing one; a loop after its keyword and before the next
opening curly bracket, where two separators have to stand; a branch in the whole line, where both
round brackets have to stand in any order. For each kind it is said exactly when the marks are
found.

A line whose marks are not found stands for nothing, and nothing else is lost with it: the reader
goes on with the next line and with the count of open blocks that it had.
-/

import BlockCheck.Proofs.Canonical
import BlockCheck.Proofs.CheckedLines
import BlockCheck.Proofs.LoopLines
import BlockCheck.Proofs.ReaderStates

namespace BlockCheck

/-! ### The marks of headers -/

/-- Both round brackets occur, and the first opening one stands before the first closing one. -/
def HasBracketsInOrder (line : Text) : Prop :=
  '(' ∈ line ∧ ')' ∈ line ∧ line.idxOf '(' < line.idxOf ')'

/-- Two separators stand before the first opening curly bracket, or before the end where there is
none. -/
def HasSeparators (text : Text) : Prop :=
  2 ≤ (text.takeWhile (· != '{')).count clauseSeparator

/-- Both round brackets occur. -/
def HasBrackets (line : Text) : Prop := '(' ∈ line ∧ ')' ∈ line

/-- The first opening bracket stands before the first closing one exactly where no closing bracket
stands before it and one stands after it. -/
theorem hasBracketsInOrder_append_iff {before : Text} (noOpening : '(' ∉ before) (later : Text) :
    HasBracketsInOrder (before ++ '(' :: later) ↔ ')' ∉ before ∧ ')' ∈ later := by
  have first : (before ++ '(' :: later).idxOf '(' = before.length := by
    rw [List.idxOf_append_of_notMem noOpening, List.idxOf_cons_self, Nat.add_zero]
  rw [HasBracketsInOrder, first]
  by_cases early : ')' ∈ before
  · have less : before.idxOf ')' < before.length := List.idxOf_lt_length_of_mem early
    rw [List.idxOf_append_of_mem early]
    constructor
    · rintro ⟨-, -, ordered⟩
      omega
    · rintro ⟨absent, -⟩
      exact absurd early absent
  · rw [List.idxOf_append_of_notMem early, List.idxOf_cons_ne _ (by decide)]
    simp [early]

/-- The header of a function is found exactly where its brackets stand in order. -/
theorem functionHeader?_cases (line : Text) (following : List Text) :
    (HasBracketsInOrder line ∧ ∃ name parameters returnType,
        functionHeader? line following = some (.function name parameters returnType)) ∨
      (¬ HasBracketsInOrder line ∧ functionHeader? line following = none) := by
  cases isOpened : cutAt? '(' line with
  | none =>
    have absent := cutAt?_eq_none_iff.mp isOpened
    refine Or.inr ⟨fun inOrder => absent inOrder.1, ?_⟩
    rw [functionHeader?, isOpened]
    rfl
  | some parts =>
    obtain ⟨before, later⟩ := parts
    rw [functionHeader?_of_cutAt? isOpened]
    obtain ⟨rfl, noOpening⟩ := cutAt?_eq_some_iff.mp isOpened
    rw [hasBracketsInOrder_append_iff noOpening]
    by_cases early : ')' ∈ before
    · exact Or.inr ⟨fun inOrder => inOrder.1 early, if_pos early⟩
    rw [if_neg early]
    cases isClosed : cutAt? ')' later with
    | none =>
      have absent := cutAt?_eq_none_iff.mp isClosed
      exact Or.inr ⟨fun inOrder => absent inOrder.2, rfl⟩
    | some others =>
      have present : ')' ∈ later := by
        rw [(cutAt?_eq_some_iff.mp isClosed).1]
        simp
      exact Or.inl ⟨⟨early, present⟩, _, _, _, rfl⟩

/-- A character that is not blank stands in a text exactly where it stands in one of its words. -/
theorem exists_mem_words_iff {c : Char} (notBlank : isBlank c = false) {text : Text} :
    (∃ word ∈ words text, c ∈ word) ↔ c ∈ text := by
  rw [← List.mem_flatten, flatten_words, solid, List.mem_filter, notBlank]
  simp

/-- A bracket is searched in the words as it would be in the whole text. -/
theorem findIdx?_words_eq_none_iff {c : Char} (notBlank : isBlank c = false) {text : Text} :
    ((words text).findIdx? fun word => word.contains c) = none ↔ c ∉ text := by
  rw [List.findIdx?_eq_none_iff, ← exists_mem_words_iff notBlank]
  simp

theorem mem_of_findIdx?_words {c : Char} (notBlank : isBlank c = false) {text : Text}
    {position : Nat}
    (found : ((words text).findIdx? fun word => word.contains c) = some position) : c ∈ text := by
  by_contra absent
  rw [(findIdx?_words_eq_none_iff notBlank).mpr absent] at found
  nomatch found

/-- The header of a branch is found exactly where both brackets stand on its line. -/
theorem branchHeader?_cases (line : Text) :
    (HasBrackets line ∧ ∃ condition, branchHeader? (words line) = some (.branch condition)) ∨
      (¬ HasBrackets line ∧ branchHeader? (words line) = none) := by
  unfold branchHeader?
  cases opens : (words line).findIdx? fun word => word.contains '(' with
  | none =>
    have absent := (findIdx?_words_eq_none_iff (by decide)).mp opens
    exact Or.inr ⟨fun both => absent both.1, rfl⟩
  | some opening =>
    cases closes : (words line).findIdx? fun word => word.contains ')' with
    | none =>
      have absent := (findIdx?_words_eq_none_iff (by decide)).mp closes
      exact Or.inr ⟨fun both => absent both.2, rfl⟩
    | some closing =>
      have both : HasBrackets line :=
        ⟨mem_of_findIdx?_words (by decide) opens, mem_of_findIdx?_words (by decide) closes⟩
      exact Or.inl ⟨both, _, rfl⟩

/-! ### The word that decides -/

/-- A word that is a keyword or holds a colon. -/
def IsDeciding (word : Text) : Prop := word ∈ keywords ∨ ':' ∈ word

/-- A reader that comes to a line goes on behind it as if the line were not there: the line is no
segment, the lines behind it are all left, and as many blocks are open as before. -/
structure IsPassedOver (line : Text) : Prop where
  unreadable : LineForm.ofLine line = .unreadable
  segments : ∀ depth opened available,
    segmentLines depth opened (line :: available) = segmentLines depth opened available
  step : ∀ depth rest opened found next,
    ReaderStep depth ⟨line :: rest, opened, none, found⟩ next ↔ next = ⟨rest, opened, none, found⟩

theorem IsPassedOver.of_unreadable {line : Text}
    (isUnreadable : LineForm.ofLine line = .unreadable) : IsPassedOver line where
  unreadable := isUnreadable
  segments depth opened available := segmentLines_unreadable depth opened isUnreadable available
  step depth rest opened found next := by
    constructor
    · intro steps
      cases steps with
      | unreadable => rfl
      | statement isStatement => simp [isUnreadable] at isStatement
      | header isHeader => simp [isUnreadable] at isHeader
    · rintro rfl
      exact .unreadable isUnreadable

/-- A line is a header of a kind exactly where its marks are found, and else it is passed over. -/
structure IsHeaderIff (line : Text) (kind : Construct) (marked : Prop) : Prop where
  header : marked ↔ ∃ header, LineForm.ofLine line = .header header ∧ header.construct = kind
  passedOver : ¬ marked → IsPassedOver line

/-- What a line is by the word on it that decides, given the words that follow. -/
structure IsDecidedBy (line word : Text) (following : List Text) : Prop where
  returning : word = returnKeyword →
    LineForm.ofLine line = .statement (.returning (joinWords following))
  declaration : word ∉ keywords → ∃ name value, word = name ++ ':' :: value ∧ ':' ∉ name ∧
    LineForm.ofLine line = .statement (.declaration name value)
  function : word = functionKeyword → IsHeaderIff line .function (HasBracketsInOrder line)
  loop : word = loopKeyword → IsHeaderIff line .loop (HasSeparators (joinWords following))
  branch : word = branchKeyword → IsHeaderIff line .branch (HasBrackets line)

/-- A line is of the kind of the header that is found on it. -/
theorem isHeaderIff_of_cases {line : Text} {kind : Construct} {marked : Prop}
    {found? : Option Header} (read : LineForm.ofLine line = .ofHeader? found?)
    (found : (marked ∧ ∃ header, found? = some header ∧ header.construct = kind) ∨
      (¬ marked ∧ found? = none)) : IsHeaderIff line kind marked := by
  rcases found with ⟨isMarked, header, rfl, isKind⟩ | ⟨notMarked, rfl⟩
  · exact ⟨⟨fun _ => ⟨header, read, isKind⟩, fun _ => isMarked⟩, fun not => absurd isMarked not⟩
  · have isUnreadable : LineForm.ofLine line = .unreadable := read
    refine ⟨⟨fun isMarked => absurd isMarked notMarked, ?_⟩, fun _ => .of_unreadable isUnreadable⟩
    rintro ⟨header, isHeader, -⟩
    rw [isUnreadable] at isHeader
    nomatch isHeader

theorem isDecidedBy_of_ofWords {line word : Text} {following : List Text}
    (read : LineForm.ofLine line = LineForm.ofWords line (words line) (word :: following))
    (decides : IsDeciding word) : IsDecidedBy line word following where
  returning isReturn := by rw [read, LineForm.ofWords, if_pos isReturn]
  declaration noKeyword := by
    obtain ⟨name, value, rfl, absent⟩ :=
      List.eq_append_cons_of_mem (decides.resolve_left noKeyword)
    exact ⟨name, value, rfl, absent, read.trans (LineForm.ofWords_declaration _ _ _ absent value)⟩
  function := by
    rintro rfl
    refine isHeaderIff_of_cases read ?_
    rcases functionHeader?_cases line following with ⟨marked, name, parameters, type, found⟩ | none
    · exact Or.inl ⟨marked, _, found, rfl⟩
    · exact Or.inr none
  loop := by
    rintro rfl
    refine isHeaderIff_of_cases read ?_
    rcases loopHeader?_cases following with ⟨marked, first, second, third, found⟩ | ⟨few, none⟩
    · exact Or.inl ⟨marked, _, found, rfl⟩
    · exact Or.inr ⟨Nat.not_le.mpr few, none⟩
  branch := by
    rintro rfl
    refine isHeaderIff_of_cases read ?_
    rcases branchHeader?_cases line with ⟨marked, condition, found⟩ | none
    · exact Or.inl ⟨marked, _, found, rfl⟩
    · exact Or.inr none

/-- A line is decided by the leftmost of its words that is a keyword or holds a colon, and is a line
of code where there is none. A return and a declaration are read as they are; a header is read
exactly where its marks are found, and else its line stands for nothing and the reader goes on
behind it as it was. -/
theorem leftmost_word_decides {line : Text} (proper : IsStatementLine line) :
    ((∀ word ∈ line.splitOn ' ', ¬ IsDeciding word) →
        LineForm.ofLine line = .statement (.code line)) ∧
      ∀ before word following, line.splitOn ' ' = before ++ word :: following →
        (∀ earlier ∈ before, ¬ IsDeciding earlier) → IsDeciding word →
          IsDecidedBy line word following := by
  rw [splitOn_space_of_isStatementLine proper]
  constructor
  · intro undecided
    exact LineForm.ofWords_code line _ fun word member => not_or.mp (undecided word member)
  · intro before word following split undecided decides
    refine isDecidedBy_of_ofWords ?_ decides
    rw [LineForm.ofLine, split, LineForm.ofWords_append line _ fun earlier member =>
      not_or.mp (undecided earlier member)]

/-- A loop in the middle of its line with a separator on both sides of the curly bracket. -/
def earlyBraceLoopLine : Text := "go ( for 0;1 \x7b 2;3".toList

/-- A branch behind another word, with its brackets in the wrong order and a colon after it. -/
def turnedBranchLine : Text := "else if ) x:1 (".toList

/-- The loop is passed over, since only one separator counts. The branch is one, since it does not
matter in which order its brackets stand and the colon comes too late to decide. -/
theorem leftmost_word_decides_earlyBraceLoopLine :
    (IsStatementLine earlyBraceLoopLine ∧ IsPassedOver earlyBraceLoopLine) ∧
      IsStatementLine turnedBranchLine ∧
        ∃ header, LineForm.ofLine turnedBranchLine = .header header ∧
          header.construct = .branch := by
  have loopProper : IsStatementLine earlyBraceLoopLine := ⟨by decide, by decide +kernel⟩
  have branchProper : IsStatementLine turnedBranchLine := ⟨by decide, by decide +kernel⟩
  have loopDecided := (leftmost_word_decides loopProper).2 ["go".toList, "(".toList] loopKeyword
    ["0;1".toList, "\x7b".toList, "2;3".toList] (by decide +kernel)
    (by unfold IsDeciding; decide) (Or.inl (by decide))
  have branchDecided := (leftmost_word_decides branchProper).2 ["else".toList] branchKeyword
    [")".toList, "x:1".toList, "(".toList] (by decide +kernel)
    (by unfold IsDeciding; decide) (Or.inl (by decide))
  have few : ¬ HasSeparators (joinWords ["0;1".toList, "\x7b".toList, "2;3".toList]) := by
    unfold HasSeparators
    decide
  have both : HasBrackets turnedBranchLine := by
    unfold HasBrackets
    decide
  exact ⟨⟨loopProper, (loopDecided.loop rfl).passedOver few⟩, branchProper,
    (branchDecided.branch rfl).header.mp both⟩

end BlockCheck
