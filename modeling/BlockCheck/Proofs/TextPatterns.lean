/-
This file says what the operands and increments of the grammar are as regular expressions. The
tests that decide whether a text is an identifier, a number or an increment look at the text
character by character, cut it at a point and take two plus signs off its end; the expressions say
the same in the way in which a grammar is written, with ranges of characters, sequences, choices
and repetitions, and with a matching relation that has one rule for each way to match.

Only one kind of repetition occurs, that of a single character out of some ranges. A text matches
it when all its characters are in the ranges (`matches_repeated_oneOf_iff`), and this turns each
expression into a test.

Whether an operand stands anywhere in a text is a question about all its pieces, and the test asks
it of the single characters only. That is enough (`mentionsOperand_iff`): every operand holds a
character that is an operand by itself.
-/

import BlockCheck.Grammar.Operand
import Mathlib.Data.List.Infix

namespace BlockCheck

/-! ### Patterns -/

/-- A regular expression over characters. -/
inductive TextPattern where
  /-- One character that lies in one of some ranges, each with its first and last character. -/
  | oneOf (ranges : List (Char × Char))
  /-- No character. -/
  | empty
  /-- One pattern and then another. -/
  | followedBy (first second : TextPattern)
  /-- One of two patterns. -/
  | either (left right : TextPattern)
  /-- A pattern any number of times. -/
  | repeated (inner : TextPattern)
  deriving DecidableEq, Repr

namespace TextPattern

/-- A pattern at least once. -/
def atLeastOnce (inner : TextPattern) : TextPattern := followedBy inner (repeated inner)

/-- A pattern once or not at all. -/
def optional (inner : TextPattern) : TextPattern := either inner empty

/-- A text matches a pattern. -/
inductive Matches : TextPattern → Text → Prop where
  | oneOf {ranges : List (Char × Char)} {first last c : Char} (listed : (first, last) ∈ ranges)
      (above : first ≤ c) (below : c ≤ last) : Matches (oneOf ranges) [c]
  | empty : Matches empty []
  | followedBy {first second : TextPattern} {front back : Text} (frontMatches : Matches first front)
      (backMatches : Matches second back) : Matches (followedBy first second) (front ++ back)
  | left {left right : TextPattern} {text : Text} (isLeft : Matches left text) :
      Matches (either left right) text
  | right {left right : TextPattern} {text : Text} (isRight : Matches right text) :
      Matches (either left right) text
  | stop {inner : TextPattern} : Matches (repeated inner) []
  | again {inner : TextPattern} {front back : Text} (frontMatches : Matches inner front)
      (backMatches : Matches (repeated inner) back) : Matches (repeated inner) (front ++ back)

/-- A character lies in one of some ranges. -/
def isInRanges (ranges : List (Char × Char)) (c : Char) : Bool :=
  ranges.any fun (first, last) => decide (first ≤ c) && decide (c ≤ last)

section

variable {ranges : List (Char × Char)} {text : Text} {first second left right : TextPattern}

theorem matches_oneOf_iff :
    (oneOf ranges).Matches text ↔ ∃ c, text = [c] ∧ isInRanges ranges c = true := by
  constructor
  · rintro ⟨listed, above, below⟩
    exact ⟨_, rfl, List.any_eq_true.mpr ⟨_, listed, by simp [above, below]⟩⟩
  · rintro ⟨c, rfl, inRanges⟩
    obtain ⟨⟨first, last⟩, listed, within⟩ := List.any_eq_true.mp inRanges
    rw [Bool.and_eq_true, decide_eq_true_eq, decide_eq_true_eq] at within
    exact .oneOf listed within.1 within.2

theorem matches_empty_iff : empty.Matches text ↔ text = [] := by
  constructor
  · rintro ⟨⟩
    rfl
  · rintro rfl
    exact .empty

theorem matches_followedBy_iff :
    (followedBy first second).Matches text ↔
      ∃ front back, text = front ++ back ∧ first.Matches front ∧ second.Matches back := by
  constructor
  · rintro ⟨⟩
    exact ⟨_, _, rfl, ‹_›, ‹_›⟩
  · rintro ⟨front, back, rfl, frontMatches, backMatches⟩
    exact .followedBy frontMatches backMatches

theorem matches_either_iff :
    (either left right).Matches text ↔ left.Matches text ∨ right.Matches text := by
  constructor
  · intro isMatch
    cases isMatch with
    | left isLeft => exact .inl isLeft
    | right isRight => exact .inr isRight
  · rintro (isLeft | isRight)
    · exact .left isLeft
    · exact .right isRight

/-- A repeated character class is matched by the texts of such characters. -/
theorem matches_repeated_oneOf_iff :
    (repeated (oneOf ranges)).Matches text ↔ text.all (isInRanges ranges) = true := by
  constructor
  · intro isMatch
    generalize isPattern : repeated (oneOf ranges) = pattern at isMatch
    induction isMatch with
    | stop => rfl
    | again frontMatches backMatches frontHypothesis backHypothesis =>
      obtain rfl := TextPattern.repeated.inj isPattern
      obtain ⟨c, rfl, inRanges⟩ := matches_oneOf_iff.mp frontMatches
      rw [List.singleton_append, List.all_cons, inRanges, backHypothesis isPattern]
      rfl
    | _ => nomatch isPattern
  · intro inRanges
    induction text with
    | nil => exact .stop
    | cons c rest inductionHypothesis =>
      rw [List.all_cons, Bool.and_eq_true] at inRanges
      exact .again (matches_oneOf_iff.mpr ⟨c, rfl, inRanges.1⟩) (inductionHypothesis inRanges.2)

theorem matches_atLeastOnce_oneOf_iff :
    (oneOf ranges).atLeastOnce.Matches text ↔
      text ≠ [] ∧ text.all (isInRanges ranges) = true := by
  simp only [atLeastOnce, matches_followedBy_iff, matches_oneOf_iff, matches_repeated_oneOf_iff]
  constructor
  · rintro ⟨_, back, rfl, ⟨c, rfl, inRanges⟩, later⟩
    exact ⟨List.cons_ne_nil c back, by simp [inRanges, later]⟩
  · rintro ⟨nonempty, inRanges⟩
    obtain ⟨c, rest, rfl⟩ := List.exists_cons_of_ne_nil nonempty
    rw [List.all_cons, Bool.and_eq_true] at inRanges
    exact ⟨[c], rest, rfl, ⟨c, rfl, inRanges.1⟩, inRanges.2⟩

theorem matches_optional_iff : first.optional.Matches text ↔ first.Matches text ∨ text = [] := by
  rw [optional, matches_either_iff, matches_empty_iff]

end

/-! ### Operands -/

/-- The ranges of the letters and the underscore. -/
def letterRanges : List (Char × Char) := [('A', 'Z'), ('a', 'z'), ('_', '_')]

/-- The range of the digits. -/
def digitRanges : List (Char × Char) := [('0', '9')]

/-- Identifiers: `[A-Za-z_][A-Za-z0-9_]*`. -/
def identifier : TextPattern :=
  followedBy (oneOf letterRanges) (repeated (oneOf (letterRanges ++ digitRanges)))

/-- Numbers: `[0-9]+(\.[0-9]+)?`. -/
def number : TextPattern :=
  followedBy (oneOf digitRanges).atLeastOnce
    (optional (followedBy (oneOf [('.', '.')]) (oneOf digitRanges).atLeastOnce))

/-- Operands: an identifier or a number. -/
def operand : TextPattern := either identifier number

/-- Increments: `[0-9]+\+\+`. -/
def increment : TextPattern :=
  followedBy (oneOf digitRanges).atLeastOnce
    (followedBy (oneOf [('+', '+')]) (oneOf [('+', '+')]))

theorem isInRanges_nil (c : Char) : isInRanges [] c = false := rfl

theorem isInRanges_cons (first last : Char) (rest : List (Char × Char)) (c : Char) :
    isInRanges ((first, last) :: rest) c =
      (decide (first ≤ c) && decide (c ≤ last) || isInRanges rest c) := rfl

/-- A range of one character. -/
theorem isInRanges_cons_self (only : Char) (rest : List (Char × Char)) (c : Char) :
    isInRanges ((only, only) :: rest) c = (c == only || isInRanges rest c) := by
  have both : (decide (only ≤ c) && decide (c ≤ only)) = (c == only) := by
    rw [Bool.eq_iff_iff, Bool.and_eq_true, decide_eq_true_eq, decide_eq_true_eq, beq_iff_eq]
    constructor
    · rintro ⟨above, below⟩
      exact Char.le_antisymm below above
    · rintro rfl
      exact ⟨Char.le_refl c, Char.le_refl c⟩
  rw [isInRanges_cons, both]

/-- A range of one character is matched by that character. -/
theorem matches_character_iff {only : Char} {text : Text} :
    (oneOf [(only, only)]).Matches text ↔ text = [only] := by
  rw [matches_oneOf_iff]
  simp only [isInRanges_cons_self, isInRanges_nil, Bool.or_false, beq_iff_eq]
  constructor
  · rintro ⟨c, rfl, rfl⟩
    rfl
  · rintro rfl
    exact ⟨only, rfl, rfl⟩

theorem isInRanges_append (front back : List (Char × Char)) (c : Char) :
    isInRanges (front ++ back) c = (isInRanges front c || isInRanges back c) :=
  List.any_append

theorem isInRanges_letterRanges : isInRanges letterRanges = startsIdentifier := by
  funext c
  have isUpper : c.isUpper = (decide ('A' ≤ c) && decide (c ≤ 'Z')) := Bool.decide_and ..
  have isLetter : c.isAlpha =
      (decide ('A' ≤ c) && decide (c ≤ 'Z') || decide ('a' ≤ c) && decide (c ≤ 'z')) :=
    congrArg (· || c.isLower) isUpper
  rw [letterRanges, isInRanges_cons, isInRanges_cons, isInRanges_cons_self, isInRanges_nil,
    Bool.or_false, startsIdentifier, isLetter, Bool.or_assoc]

theorem isInRanges_digitRanges : isInRanges digitRanges = Char.isDigit := by
  funext c
  rw [digitRanges, isInRanges_cons, isInRanges_nil, Char.isDigit, Bool.or_false]
  rfl

theorem continuesIdentifier_eq (c : Char) :
    continuesIdentifier c = (startsIdentifier c || c.isDigit) := by
  rw [continuesIdentifier, startsIdentifier, Char.isAlphanum, Bool.or_right_comm]

theorem isInRanges_identifier : isInRanges (letterRanges ++ digitRanges) = continuesIdentifier := by
  funext c
  rw [isInRanges_append, isInRanges_letterRanges, isInRanges_digitRanges, continuesIdentifier_eq]

theorem matches_identifier_iff {text : Text} :
    identifier.Matches text ↔ isIdentifier text = true := by
  rw [identifier, matches_followedBy_iff]
  simp only [matches_oneOf_iff, matches_repeated_oneOf_iff, isInRanges_letterRanges,
    isInRanges_identifier]
  constructor
  · rintro ⟨_, rest, rfl, ⟨c, rfl, starts⟩, continues⟩
    rw [List.singleton_append, isIdentifier, starts, continues]
    rfl
  · intro isName
    cases text with
    | nil => nomatch isName
    | cons c rest =>
      rw [isIdentifier, Bool.and_eq_true] at isName
      exact ⟨[c], rest, rfl, ⟨c, rfl, isName.1⟩, isName.2⟩

/-- Digits are matched by the repeated range of the digits. -/
theorem matches_digits_iff {text : Text} :
    (oneOf digitRanges).atLeastOnce.Matches text ↔ isDigits text = true := by
  rw [matches_atLeastOnce_oneOf_iff, isInRanges_digitRanges, isDigits]
  simp

theorem point_not_mem_of_isDigits {text : Text} (digits : isDigits text = true) : '.' ∉ text := by
  rw [isDigits, Bool.and_eq_true, List.all_eq_true] at digits
  exact fun member => absurd (digits.2 '.' member) (by decide)

theorem matches_number_iff {text : Text} : number.Matches text ↔ isNumber text = true := by
  rw [number, matches_followedBy_iff]
  simp only [matches_digits_iff, matches_optional_iff]
  constructor
  · rintro ⟨whole, _, rfl, digits, fractional | rfl⟩
    · obtain ⟨_, fraction, rfl, isPoint, fractionDigits⟩ := matches_followedBy_iff.mp fractional
      obtain rfl := matches_character_iff.mp isPoint
      have isCut : cutAt? '.' (whole ++ '.' :: fraction) = some (whole, fraction) :=
        cutAt?_eq_some_iff.mpr ⟨rfl, point_not_mem_of_isDigits digits⟩
      rw [List.singleton_append, isNumber, isCut]
      exact Bool.and_eq_true_iff.mpr ⟨digits, matches_digits_iff.mp fractionDigits⟩
    · rw [List.append_nil, isNumber, cutAt?_eq_none_iff.mpr (point_not_mem_of_isDigits digits)]
      exact digits
  · intro isNumeral
    rw [isNumber] at isNumeral
    cases isCut : cutAt? '.' text with
    | none =>
      rw [isCut] at isNumeral
      exact ⟨text, [], (List.append_nil text).symm, isNumeral, .inr rfl⟩
    | some parts =>
      obtain ⟨whole, fraction⟩ := parts
      rw [isCut, Bool.and_eq_true] at isNumeral
      obtain ⟨rfl, -⟩ := cutAt?_eq_some_iff.mp isCut
      refine ⟨whole, '.' :: fraction, rfl, isNumeral.1, .inl ?_⟩
      exact matches_followedBy_iff.mpr ⟨['.'], fraction, rfl, matches_character_iff.mpr rfl,
        matches_digits_iff.mpr isNumeral.2⟩

theorem matches_operand_iff {text : Text} : operand.Matches text ↔ isOperand text = true := by
  rw [operand, matches_either_iff, matches_identifier_iff, matches_number_iff, isOperand,
    Bool.or_eq_true]

theorem matches_increment_iff {text : Text} : increment.Matches text ↔ isIncrement text = true := by
  simp only [increment, matches_followedBy_iff, matches_digits_iff, matches_character_iff]
  constructor
  · rintro ⟨count, _, rfl, digits, _, _, rfl, rfl, rfl⟩
    have isSuffix : ['+', '+'].isSuffixOf? (count ++ ['+', '+']) = some count :=
      List.isSuffixOf?_eq_some_iff_append_eq.mpr rfl
    rw [List.singleton_append, isIncrement, isSuffix]
    exact digits
  · intro isIncremented
    rw [isIncrement] at isIncremented
    cases isSuffix : ['+', '+'].isSuffixOf? text with
    | none =>
      rw [isSuffix] at isIncremented
      nomatch isIncremented
    | some count =>
      rw [isSuffix] at isIncremented
      exact ⟨count, ['+', '+'], (List.isSuffixOf?_eq_some_iff_append_eq.mp isSuffix).symm,
        isIncremented, ['+'], ['+'], rfl, rfl, rfl⟩

end TextPattern

/-! ### Characters of identifiers -/

theorem isBlank_of_continuesIdentifier {c : Char} (continues : continuesIdentifier c = true) :
    isBlank c = false := by
  rw [← TextPattern.isInRanges_identifier] at continues
  have code : 65 ≤ c.toNat ∧ c.toNat ≤ 90 ∨ 97 ≤ c.toNat ∧ c.toNat ≤ 122 ∨ c.toNat = 95 ∨
      48 ≤ c.toNat ∧ c.toNat ≤ 57 := by
    simpa [TextPattern.isInRanges, TextPattern.letterRanges, TextPattern.digitRanges, Char.le_def,
      UInt32.le_iff_toNat_le, Nat.le_antisymm_iff, and_comm] using continues
  rw [isBlank, List.any_eq_false]
  simp only [blankRanges, List.forall_mem_cons, Bool.and_eq_true, decide_eq_true_eq]
  refine ⟨?_, ?_, ?_, ?_, ?_, ?_, ?_, ?_, ?_, ?_, List.forall_mem_nil _⟩ <;> omega

theorem continuesIdentifier_of_isIdentifier {text : Text} (isName : isIdentifier text = true) :
    text ≠ [] ∧ ∀ c ∈ text, continuesIdentifier c = true := by
  cases text with
  | nil => nomatch isName
  | cons first rest =>
    rw [isIdentifier, Bool.and_eq_true, List.all_eq_true] at isName
    have firstContinues : continuesIdentifier first = true := by
      rw [TextPattern.continuesIdentifier_eq, isName.1, Bool.true_or]
    exact ⟨List.cons_ne_nil first rest, List.forall_mem_cons.mpr ⟨firstContinues, isName.2⟩⟩

theorem continuesIdentifier_of_isDigits {text : Text} (digits : isDigits text = true) :
    text ≠ [] ∧ ∀ c ∈ text, continuesIdentifier c = true := by
  rw [isDigits, Bool.and_eq_true, List.all_eq_true] at digits
  refine ⟨by simpa using digits.1, fun c member => ?_⟩
  rw [TextPattern.continuesIdentifier_eq, digits.2 c member, Bool.or_true]

/-! ### Operands inside of a text -/

/-- A character that continues an identifier is an operand by itself: it starts an identifier, or
it is a digit. -/
theorem isIdentifier_or_isNumber_of_continuesIdentifier {c : Char}
    (continues : continuesIdentifier c = true) :
    isIdentifier [c] = true ∨ isNumber [c] = true := by
  rw [TextPattern.continuesIdentifier_eq, Bool.or_eq_true] at continues
  rcases continues with starts | digit
  · left
    rw [isIdentifier, starts, List.all_nil, Bool.and_true]
  · right
    rw [← TextPattern.matches_number_iff, TextPattern.number, TextPattern.matches_followedBy_iff]
    refine ⟨[c], [], rfl, TextPattern.matches_digits_iff.mpr ?_,
      TextPattern.matches_optional_iff.mpr (.inr rfl)⟩
    simpa [isDigits] using digit

/-- A number holds a digit, which continues an identifier. -/
theorem exists_continuesIdentifier_of_isNumber {text : Text} (isNumeral : isNumber text = true) :
    ∃ c ∈ text, continuesIdentifier c = true := by
  rw [← TextPattern.matches_number_iff, TextPattern.number,
    TextPattern.matches_followedBy_iff] at isNumeral
  obtain ⟨whole, later, rfl, wholeMatches, -⟩ := isNumeral
  obtain ⟨nonempty, continues⟩ :=
    continuesIdentifier_of_isDigits (TextPattern.matches_digits_iff.mp wholeMatches)
  obtain ⟨c, member⟩ := List.exists_mem_of_ne_nil whole nonempty
  exact ⟨c, List.mem_append_left later member, continues c member⟩

/-- An operand is mentioned where some piece of the text is an identifier or a number. -/
theorem mentionsOperand_iff {text : Text} :
    mentionsOperand text = true ↔
      ∃ part, part <:+: text ∧ (isIdentifier part = true ∨ isNumber part = true) := by
  rw [mentionsOperand, List.any_eq_true]
  constructor
  · rintro ⟨c, member, continues⟩
    exact ⟨[c], (List.singleton_infix_iff c text).mpr member,
      isIdentifier_or_isNumber_of_continuesIdentifier continues⟩
  · rintro ⟨part, piece, isName | isNumeral⟩
    · obtain ⟨nonempty, continues⟩ := continuesIdentifier_of_isIdentifier isName
      obtain ⟨c, member⟩ := List.exists_mem_of_ne_nil part nonempty
      exact ⟨c, piece.subset member, continues c member⟩
    · obtain ⟨c, member, continues⟩ := exists_continuesIdentifier_of_isNumber isNumeral
      exact ⟨c, piece.subset member, continues⟩

/-- The scans of the grammar decide what their regular expressions describe. A text is an
identifier, a number or an increment exactly when it matches the expression of that name, and an
operand is mentioned in it exactly when some piece of it is an identifier or a number. -/
theorem scans_decide_patterns (text : Text) :
    (isIdentifier text = true ↔ TextPattern.identifier.Matches text) ∧
      (isNumber text = true ↔ TextPattern.number.Matches text) ∧
      (isIncrement text = true ↔ TextPattern.increment.Matches text) ∧
      (mentionsOperand text = true ↔
        ∃ part, part <:+: text ∧ (isIdentifier part = true ∨ isNumber part = true)) :=
  ⟨TextPattern.matches_identifier_iff.symm, TextPattern.matches_number_iff.symm,
    TextPattern.matches_increment_iff.symm, mentionsOperand_iff⟩

/-- A second point, a third plus sign, and a letter and a digit that are not those of ASCII. -/
example : isNumber "1.2.3".toList = false ∧ isIncrement "1+++".toList = false ∧
    mentionsOperand "\u00e9\u0663".toList = false := by decide

end BlockCheck
