/-
This file proves that the test for comparisons accepts exactly the texts of the form operand,
operator, operand, with blanks around them or not, and that such a text has that form in one way
only.

The test cuts a text at the first occurrence of each operator in turn and does not go back. That is
enough because an operand holds no character of an operator: in a text of the form, the characters
of operators are those of its own operator, so the first occurrence of that operator is where it was
written (`ComparisonReading.Fits.cut`), and every other operator either does not occur or leaves one
of its characters to an operand. Which operators are tried first therefore does not matter.
-/

import BlockCheck.Proofs.Spacing
import BlockCheck.Proofs.TextPatterns
import Mathlib.Data.List.Basic

namespace BlockCheck

/-! ### Cutting at a text -/

/-- A cut at a text gives back what stands around it. -/
theorem eq_append_of_cutAtText? {mark text before after : Text}
    (isCut : cutAtText? mark text = some (before, after)) : text = before ++ (mark ++ after) := by
  fun_induction cutAtText? mark text generalizing before with
  | case1 isEmpty =>
    obtain ⟨rfl, rfl⟩ := Prod.mk.inj (Option.some.inj isCut)
    simp [isEmpty]
  | case2 notEmpty => nomatch isCut
  | case3 c rest later isPrefix =>
    obtain ⟨rfl, rfl⟩ := Prod.mk.inj (Option.some.inj isCut)
    exact (List.isPrefixOf?_eq_some_iff_append_eq.mp isPrefix).symm
  | case4 c rest noPrefix inductionHypothesis =>
    obtain ⟨⟨front, back⟩, found, same⟩ := Option.map_eq_some_iff.mp isCut
    obtain ⟨rfl, rfl⟩ := Prod.mk.inj same
    exact congrArg (c :: ·) (inductionHypothesis found)

/-- A text is cut at a mark where nothing before the mark starts like it. -/
theorem cutAtText?_append {first : Char} {others before : Text} (absent : first ∉ before)
    (after : Text) :
    cutAtText? (first :: others) (before ++ (first :: others ++ after)) = some (before, after) := by
  induction before with
  | nil =>
    have isPrefix : (first :: others).isPrefixOf? (first :: others ++ after) = some after :=
      List.isPrefixOf?_eq_some_iff_append_eq.mpr rfl
    rw [List.nil_append, List.cons_append, cutAtText?, ← List.cons_append, isPrefix]
  | cons c rest inductionHypothesis =>
    obtain ⟨different, laterAbsent⟩ := List.ne_and_not_mem_of_not_mem_cons absent
    have noPrefix :
        (first :: others).isPrefixOf? (c :: (rest ++ (first :: others ++ after))) = none := by
      rw [List.isPrefixOf?, if_neg (by simpa using different)]
    rw [List.cons_append, cutAtText?, noPrefix]
    simp only [inductionHypothesis laterAbsent, Option.map_some]

/-! ### Trimming -/

/-- What is trimmed off a text are blanks at its ends. -/
theorem exists_trim_eq (text : Text) :
    ∃ front back, isBlankText front = true ∧ isBlankText back = true ∧
      text = front ++ (trim text ++ back) := by
  have ends (other : Text) :
      dropEnd isBlank other ++ (other.reverse.takeWhile isBlank).reverse = other := by
    rw [dropEnd, ← List.reverse_append, List.takeWhile_append_dropWhile, List.reverse_reverse]
  refine ⟨text.takeWhile isBlank, ((text.dropWhile isBlank).reverse.takeWhile isBlank).reverse,
    List.all_takeWhile, ?_, ?_⟩
  · rw [isBlankText, List.all_reverse]
    exact List.all_takeWhile
  · rw [trim, ends, List.takeWhile_append_dropWhile]

/-- Blanks around a text without blanks are trimmed off. -/
theorem trim_around {front text back : Text} (frontBlank : isBlankText front = true)
    (backBlank : isBlankText back = true) (nonempty : text ≠ [])
    (noBlank : ∀ c ∈ text, isBlank c = false) : trim (front ++ (text ++ back)) = text := by
  have own : normalize text = text := by
    rw [normalize, words_eq_singleton nonempty noBlank, joinWords_singleton]
  have spaced : IsSpaced text (front ++ (text ++ back)) :=
    ⟨front, back, frontBlank, backBlank, by rw [own, List.append_assoc]⟩
  rw [spaced.trim_eq, own]

/-! ### Characters of operands and of operators -/

/-- A character that may occur in an operand. -/
def isOperandCharacter (c : Char) : Bool := continuesIdentifier c || c == '.'

/-- A character that occurs in an operator. -/
def isOperatorCharacter (c : Char) : Bool := c == '=' || c == '!' || c == '<' || c == '>'

/-- A character of an operand is no blank and occurs in no operator. -/
theorem isOperandCharacter_apart {c : Char} (inOperand : isOperandCharacter c = true) :
    isBlank c = false ∧ isOperatorCharacter c = false := by
  constructor
  · rw [isOperandCharacter, Bool.or_eq_true, beq_iff_eq] at inOperand
    rcases inOperand with continues | rfl
    · exact isBlank_of_continuesIdentifier continues
    · decide
  · rw [← Bool.not_eq_true]
    intro inOperator
    simp only [isOperatorCharacter, Bool.or_eq_true, beq_iff_eq] at inOperator
    rcases inOperator with ((rfl | rfl) | rfl) | rfl <;> exact absurd inOperand (by decide)

theorem isOperatorCharacter_of_isBlank {c : Char} (blank : isBlank c = true) :
    isOperatorCharacter c = false := by
  rw [← Bool.not_eq_true]
  intro inOperator
  simp only [isOperatorCharacter, Bool.or_eq_true, beq_iff_eq] at inOperator
  rcases inOperator with ((rfl | rfl) | rfl) | rfl <;> exact absurd blank (by decide)

theorem isOperandCharacter_of_isDigits {text : Text} (digits : isDigits text = true) :
    text ≠ [] ∧ ∀ c ∈ text, isOperandCharacter c = true := by
  obtain ⟨nonempty, continues⟩ := continuesIdentifier_of_isDigits digits
  exact ⟨nonempty, fun c member => by rw [isOperandCharacter, continues c member, Bool.true_or]⟩

/-- An operand is not empty and holds nothing but its characters. -/
theorem isOperandCharacter_of_isOperand {text : Text} (isOperand : isOperand text = true) :
    text ≠ [] ∧ ∀ c ∈ text, isOperandCharacter c = true := by
  rw [BlockCheck.isOperand, Bool.or_eq_true] at isOperand
  rcases isOperand with isName | isNumeral
  · obtain ⟨nonempty, continues⟩ := continuesIdentifier_of_isIdentifier isName
    exact ⟨nonempty, fun c member => by rw [isOperandCharacter, continues c member, Bool.true_or]⟩
  · rw [isNumber] at isNumeral
    cases isCut : cutAt? '.' text with
    | none =>
      rw [isCut] at isNumeral
      exact isOperandCharacter_of_isDigits isNumeral
    | some parts =>
      obtain ⟨whole, fraction⟩ := parts
      rw [isCut, Bool.and_eq_true] at isNumeral
      obtain ⟨nonempty, wholeCharacters⟩ := isOperandCharacter_of_isDigits isNumeral.1
      have fractionCharacters := (isOperandCharacter_of_isDigits isNumeral.2).2
      obtain ⟨rfl, -⟩ := cutAt?_eq_some_iff.mp isCut
      exact ⟨by simp, List.forall_mem_append.mpr
        ⟨wholeCharacters, List.forall_mem_cons.mpr ⟨by decide, fractionCharacters⟩⟩⟩

namespace Comparison

variable (comparison : Comparison)

theorem operator_ne_nil : comparison.operator ≠ [] := by
  cases comparison <;> exact List.cons_ne_nil _ _

theorem isOperatorCharacter_of_mem_operator :
    ∀ c ∈ comparison.operator, isOperatorCharacter c = true := by
  rw [← List.all_eq_true]
  cases comparison <;> rfl

/-- A comparison is found by its operator. -/
theorem find?_operator :
    Comparison.all.find? (fun other => other.operator == comparison.operator) =
      some comparison := by
  cases comparison <;> rfl

theorem operator_injective : Function.Injective Comparison.operator := by
  intro left right same
  have found := find?_operator left
  rw [same, find?_operator right] at found
  exact (Option.some.inj found).symm

theorem mem_all : comparison ∈ Comparison.all := by
  cases comparison <;> decide

/-- The six operators, as they are written. -/
theorem exists_operator_eq_iff {operator : Text} :
    (∃ comparison : Comparison, comparison.operator = operator) ↔
      operator = "==".toList ∨ operator = "!=".toList ∨ operator = "<=".toList ∨
        operator = ">=".toList ∨ operator = "<".toList ∨ operator = ">".toList := by
  constructor
  · rintro ⟨comparison, rfl⟩
    cases comparison <;> decide
  · rintro (rfl | rfl | rfl | rfl | rfl | rfl)
    exacts [⟨.equal, rfl⟩, ⟨.unequal, rfl⟩, ⟨.atMost, rfl⟩, ⟨.atLeast, rfl⟩, ⟨.less, rfl⟩,
      ⟨.greater, rfl⟩]

end Comparison

/-! ### Readings -/

/-- The operator of a comparison and its two operands. -/
@[ext]
structure ComparisonReading where
  operator : Text
  left : Text
  right : Text
  deriving DecidableEq, Repr

/-- A text is written as a reading says: operand, operator and operand, with blanks around each of
them or not. -/
structure ComparisonReading.Fits (reading : ComparisonReading) (text : Text) : Prop where
  operator : reading.operator = "==".toList ∨ reading.operator = "!=".toList ∨
    reading.operator = "<=".toList ∨ reading.operator = ">=".toList ∨
    reading.operator = "<".toList ∨ reading.operator = ">".toList
  left : TextPattern.operand.Matches reading.left
  right : TextPattern.operand.Matches reading.right
  written : ∃ first second third fourth,
    isBlankText first = true ∧ isBlankText second = true ∧ isBlankText third = true ∧
      isBlankText fourth = true ∧
      text = (first ++ (reading.left ++ second)) ++
        (reading.operator ++ (third ++ (reading.right ++ fourth)))

/-- An operand with blanks around it holds no character of an operator, and it is what trimming
leaves. -/
theorem operand_around {front operand back : Text} (frontBlank : isBlankText front = true)
    (backBlank : isBlankText back = true) (isOperand : TextPattern.operand.Matches operand) :
    (∀ c ∈ front ++ (operand ++ back), isOperatorCharacter c = false) ∧
      trim (front ++ (operand ++ back)) = operand := by
  obtain ⟨nonempty, characters⟩ :=
    isOperandCharacter_of_isOperand (TextPattern.matches_operand_iff.mp isOperand)
  have apart (c : Char) (member : c ∈ operand) := isOperandCharacter_apart (characters c member)
  have blankApart {blanks : Text} (blank : isBlankText blanks = true) :
      ∀ c ∈ blanks, isOperatorCharacter c = false := fun c member =>
    isOperatorCharacter_of_isBlank (List.all_eq_true.mp blank c member)
  constructor
  · exact List.forall_mem_append.mpr ⟨blankApart frontBlank, List.forall_mem_append.mpr
      ⟨fun c member => (apart c member).2, blankApart backBlank⟩⟩
  · exact trim_around frontBlank backBlank nonempty fun c member => (apart c member).1

namespace ComparisonReading.Fits

variable {reading other : ComparisonReading} {text : Text}

/-- A text that is written as a reading says is cut at the operator of the reading into parts
without characters of operators, which are the operands up to blanks. -/
theorem cut (fits : reading.Fits text) :
    ∃ before after, cutAtText? reading.operator text = some (before, after) ∧
      (∀ c ∈ before ++ after, isOperatorCharacter c = false) ∧
      trim before = reading.left ∧ trim after = reading.right := by
  obtain ⟨comparison, isOperator⟩ := Comparison.exists_operator_eq_iff.mpr fits.operator
  obtain ⟨-, isLeft, isRight, first, second, third, fourth, firstBlank, secondBlank, thirdBlank,
    fourthBlank, rfl⟩ := fits
  obtain ⟨leftApart, leftTrimmed⟩ := operand_around firstBlank secondBlank isLeft
  obtain ⟨rightApart, rightTrimmed⟩ := operand_around thirdBlank fourthBlank isRight
  obtain ⟨mark, others, shape⟩ := List.exists_cons_of_ne_nil comparison.operator_ne_nil
  have isMark : isOperatorCharacter mark = true :=
    comparison.isOperatorCharacter_of_mem_operator mark (shape ▸ List.mem_cons_self)
  have absent : mark ∉ first ++ (reading.left ++ second) := fun member =>
    absurd isMark (by simp [leftApart mark member])
  refine ⟨_, _, ?_, List.forall_mem_append.mpr ⟨leftApart, rightApart⟩, leftTrimmed, rightTrimmed⟩
  rw [← isOperator, shape]
  exact cutAtText?_append absent _

/-- The characters of operators in a text that is written as a reading says are the operator of the
reading. -/
theorem filter_eq (fits : reading.Fits text) :
    text.filter isOperatorCharacter = reading.operator := by
  obtain ⟨comparison, isOperator⟩ := Comparison.exists_operator_eq_iff.mpr fits.operator
  obtain ⟨before, after, isCut, apart, -⟩ := fits.cut
  obtain ⟨beforeApart, afterApart⟩ := List.forall_mem_append.mp apart
  have none {part : Text} (partApart : ∀ c ∈ part, isOperatorCharacter c = false) :
      part.filter isOperatorCharacter = [] :=
    List.filter_eq_nil_iff.mpr fun c member => by simp [partApart c member]
  rw [eq_append_of_cutAtText? isCut, List.filter_append, List.filter_append, none beforeApart,
    none afterApart, List.nil_append, List.append_nil, ← isOperator]
  exact List.filter_eq_self.mpr comparison.isOperatorCharacter_of_mem_operator

/-- A text is written as one reading says at most. -/
theorem unique (fits : reading.Fits text) (otherFits : other.Fits text) : reading = other := by
  have sameOperator := fits.filter_eq.symm.trans otherFits.filter_eq
  obtain ⟨before, after, isCut, -, leftTrimmed, rightTrimmed⟩ := fits.cut
  obtain ⟨otherBefore, otherAfter, otherCut, -, otherLeft, otherRight⟩ := otherFits.cut
  rw [sameOperator, otherCut] at isCut
  obtain ⟨rfl, rfl⟩ := Prod.mk.inj (Option.some.inj isCut)
  exact ComparisonReading.ext sameOperator (leftTrimmed.symm.trans otherLeft)
    (rightTrimmed.symm.trans otherRight)

end ComparisonReading.Fits

/-- A comparison is found in a text exactly where the text is written as a reading with that
comparison says. -/
theorem Comparison.isWrittenIn_iff {comparison : Comparison} {text : Text} :
    comparison.isWrittenIn text = true ↔
      ∃ left right, ComparisonReading.Fits ⟨comparison.operator, left, right⟩ text := by
  constructor
  · intro isWritten
    rw [isWrittenIn] at isWritten
    cases isCut : cutAtText? comparison.operator text with
    | none =>
      rw [isCut] at isWritten
      nomatch isWritten
    | some parts =>
      obtain ⟨before, after⟩ := parts
      rw [isCut, Bool.and_eq_true] at isWritten
      obtain ⟨first, second, firstBlank, secondBlank, beforeShape⟩ := exists_trim_eq before
      obtain ⟨third, fourth, thirdBlank, fourthBlank, afterShape⟩ := exists_trim_eq after
      refine ⟨trim before, trim after, Comparison.exists_operator_eq_iff.mp ⟨comparison, rfl⟩,
        TextPattern.matches_operand_iff.mpr isWritten.1,
        TextPattern.matches_operand_iff.mpr isWritten.2, first, second, third, fourth, firstBlank,
        secondBlank, thirdBlank, fourthBlank, ?_⟩
      rw [← beforeShape, ← afterShape]
      exact eq_append_of_cutAtText? isCut
  · rintro ⟨left, right, fits⟩
    obtain ⟨before, after, isCut, -, rfl, rfl⟩ := fits.cut
    rw [isWrittenIn, isCut, Bool.and_eq_true]
    exact ⟨TextPattern.matches_operand_iff.mp fits.left,
      TextPattern.matches_operand_iff.mp fits.right⟩

theorem isComparison_iff {text : Text} :
    isComparison text = true ↔ ∃ reading : ComparisonReading, reading.Fits text := by
  rw [isComparison, List.any_eq_true]
  constructor
  · rintro ⟨comparison, -, isWritten⟩
    obtain ⟨left, right, fits⟩ := Comparison.isWrittenIn_iff.mp isWritten
    exact ⟨⟨comparison.operator, left, right⟩, fits⟩
  · rintro ⟨⟨operator, left, right⟩, fits⟩
    obtain ⟨comparison, rfl⟩ := Comparison.exists_operator_eq_iff.mpr fits.operator
    exact ⟨comparison, comparison.mem_all, Comparison.isWrittenIn_iff.mpr ⟨left, right, fits⟩⟩

/-! ### The order of the operators -/

/-- Whatever the order in which comparisons are tried, the one that is found is the one that is
written in the text. -/
theorem find?_isWrittenIn_eq_some_iff {order : List Comparison} (complete : ∀ each, each ∈ order)
    {comparison : Comparison} {text : Text} :
    order.find? (fun each => each.isWrittenIn text) = some comparison ↔
      comparison.isWrittenIn text = true := by
  constructor
  · exact List.find?_some
  · intro isWritten
    obtain ⟨left, right, fits⟩ := Comparison.isWrittenIn_iff.mp isWritten
    cases found : order.find? fun each => each.isWrittenIn text with
    | none =>
      exact absurd isWritten (List.find?_eq_none.mp found comparison (complete comparison))
    | some first =>
      have firstWritten : first.isWrittenIn text = true :=
        List.find?_some (p := fun each : Comparison => each.isWrittenIn text) found
      obtain ⟨firstLeft, firstRight, firstFits⟩ := Comparison.isWrittenIn_iff.mp firstWritten
      have sameOperator := (ComparisonReading.mk.inj (firstFits.unique fits)).1
      rw [Comparison.operator_injective sameOperator]

/-- A text is a comparison exactly when it is an operand, an operator and an operand, with blanks
around them or not, and then there is one operator and one pair of operands of which that is true.
The order in which the operators are tried decides neither whether a comparison is found nor which
one. -/
theorem comparison_is_read_in_one_way (text : Text) :
    (isComparison text = true ↔ ∃ reading : ComparisonReading, reading.Fits text) ∧
      (isComparison text = true ↔ ∃! reading : ComparisonReading, reading.Fits text) ∧
      ∀ order : List Comparison, order.Perm Comparison.all →
        (order.any fun comparison => comparison.isWrittenIn text) = isComparison text ∧
          (order.find? fun comparison => comparison.isWrittenIn text) =
            Comparison.all.find? fun comparison => comparison.isWrittenIn text := by
  refine ⟨isComparison_iff, ?_, fun order reordered => ⟨?_, ?_⟩⟩
  · rw [isComparison_iff]
    constructor
    · rintro ⟨reading, fits⟩
      exact ⟨reading, fits, fun other otherFits => otherFits.unique fits⟩
    · exact ExistsUnique.exists
  · exact reordered.any_eq
  · have complete (each : Comparison) : each ∈ order := reordered.mem_iff.mpr each.mem_all
    ext comparison
    rw [find?_isWrittenIn_eq_some_iff complete, find?_isWrittenIn_eq_some_iff Comparison.mem_all]

/-- A comparison with a no-break space in front, a glued operator and a tab at its end. -/
def spacedComparison : Text := "\u00a0count<=3.5\t".toList

/-- Two operators between three operands. -/
def doubleComparison : Text := "a<b>=c".toList

/-- With the shorter operators first, `<=` is still what is found in the one text, and nothing is
found in the other. -/
theorem comparison_is_read_in_one_way_spacedComparison :
    let reversed := Comparison.all.reverse
    reversed.Perm Comparison.all ∧
      (isComparison spacedComparison = true ∧
        (∃! reading : ComparisonReading, reading.Fits spacedComparison) ∧
        (reversed.find? fun comparison => comparison.isWrittenIn spacedComparison) =
          some .atMost) ∧
      ¬ (∃ reading : ComparisonReading, reading.Fits doubleComparison) ∧
        (reversed.any fun comparison => comparison.isWrittenIn doubleComparison) = false := by
  intro reversed
  have reordered : reversed.Perm Comparison.all := List.reverse_perm _
  have isWritten : isComparison spacedComparison = true := by decide +kernel
  have isNone : isComparison doubleComparison = false := by decide +kernel
  obtain ⟨-, once, inAnyOrder⟩ := comparison_is_read_in_one_way spacedComparison
  obtain ⟨sometimes, -, notInAnyOrder⟩ := comparison_is_read_in_one_way doubleComparison
  refine ⟨reordered, ⟨isWritten, once.mp isWritten, ?_⟩, ?_, ?_⟩
  · rw [(inAnyOrder reversed reordered).2]
    decide +kernel
  · rw [← sometimes, isNone]
    exact Bool.false_ne_true
  · rw [(notInAnyOrder reversed reordered).1, isNone]

end BlockCheck
