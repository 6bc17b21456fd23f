/-
This file reads the two scans of a raw text off its statement lines. The scan for brackets
follows characters and the scan for loop clauses looks at raw lines, but neither can tell a
text from its statement lines: brackets, separators and keywords are not blank, and what
normalizing changes is. So both scans say the same of two texts that are put on top of each
other as of the texts apart, as long as the first one leaves no bracket open.
-/

import BlockCheck.Brackets
import BlockCheck.LoopClauses
import BlockCheck.Proofs.Levels
import BlockCheck.Proofs.Spacing

namespace BlockCheck

/-! ### Loop clauses -/

theorem lineHasLoopClauses_normalize (line : Text) :
    lineHasLoopClauses (normalize line) = lineHasLoopClauses line := by
  have notBlank : isBlank clauseSeparator = false := by decide
  rw [lineHasLoopClauses, lineHasLoopClauses, firstWord, firstWord, words_normalize,
    count_normalize notBlank]

/-- The scan for loop clauses may look at the statement lines of a text instead. The blank lines
that are left out have no first word. -/
theorem hasLoopClauses_eq_all (text : Text) :
    hasLoopClauses text = (statementLines text).all lineHasLoopClauses := by
  rw [hasLoopClauses, statementLines]
  induction lines text with
  | nil => rfl
  | cons line rest inductionHypothesis =>
    rw [keepStatements_cons, List.all_append, List.all_cons, inductionHypothesis]
    congr 1
    by_cases nothing : normalize line = []
    · have noWords : words line = [] := normalize_eq_nil_iff.mp nothing
      simp [keepStatements, nothing, lineHasLoopClauses, firstWord, noWords, loopKeyword]
    · simp [keepStatements, nothing, lineHasLoopClauses_normalize]

theorem hasLoopClauses_append_newline (front back : Text) :
    hasLoopClauses (front ++ '\n' :: back) = (hasLoopClauses front && hasLoopClauses back) := by
  simp only [hasLoopClauses_eq_all, statementLines_append_newline, List.all_append]

/-! ### Brackets -/

/-- The characters of a text that are not blank are those of its statement lines. -/
theorem solid_flatten_statementLines (text : Text) :
    solid (statementLines text).flatten = solid text := by
  have eachLine (texts : List Text) :
      solid (keepStatements texts).flatten = (texts.map solid).flatten := by
    induction texts with
    | nil => rfl
    | cons line rest inductionHypothesis =>
      rw [keepStatements_cons, List.flatten_append, solid_append, inductionHypothesis,
        List.map_cons, List.flatten_cons, ← solid_normalize line]
      by_cases nothing : normalize line = [] <;> simp [keepStatements, nothing, solid]
  have newlineBlank : solid ['\n'] = [] := by decide
  rw [statementLines_eq_splitOn, eachLine, ← solid_intercalate newlineBlank,
    List.intercalate_splitOn '\n']

section

variable {mark : Char → NestingMark} (neutral : ∀ c, isBlank c = true → mark c = .neutral)

include neutral

theorem follow?_solid (level : Nat) (text : Text) :
    follow? mark level (solid text) = follow? mark level text :=
  follow?_filter mark (fun c dropped => neutral c (by simpa using dropped)) level text

theorem follow?_normalize (level : Nat) (text : Text) :
    follow? mark level (normalize text) = follow? mark level text := by
  rw [← follow?_solid neutral, solid_normalize, follow?_solid neutral]

/-- Following a text is following its statement lines one after the other. -/
theorem follow?_statementLines (level : Nat) (text : Text) :
    follow? mark level text = (statementLines text).foldlM (follow? mark) level := by
  rw [← follow?_solid neutral, ← solid_flatten_statementLines, follow?_solid neutral]
  induction statementLines text generalizing level with
  | nil => rfl
  | cons line rest inductionHypothesis =>
    rw [List.flatten_cons, follow?_append, List.foldlM_cons]
    congr 1
    funext next
    exact inductionHypothesis next

theorem isBalanced_append_newline {front : Text} (balanced : isBalanced mark front = true)
    (back : Text) : isBalanced mark (front ++ '\n' :: back) = isBalanced mark back := by
  have followed : follow? mark 0 front = some 0 := by simpa [isBalanced] using balanced
  rw [isBalanced, follow?_append, followed, Option.bind_some, follow?_cons,
    neutral '\n' isBlank_newline]
  rfl

end

theorem roundMark_of_blank (c : Char) (blank : isBlank c = true) : roundMark c = .neutral := by
  unfold roundMark
  rw [if_neg, if_neg] <;> rintro rfl <;> revert blank <;> decide

theorem curlyMark_of_blank (c : Char) (blank : isBlank c = true) : curlyMark c = .neutral := by
  unfold curlyMark
  rw [if_neg, if_neg] <;> rintro rfl <;> revert blank <;> decide

/-- A text with balanced brackets can be taken out of another one, wherever it stands. -/
theorem hasBalancedBrackets_append_append {middle : Text}
    (balanced : hasBalancedBrackets middle = true) (front back : Text) :
    hasBalancedBrackets (front ++ (middle ++ back)) = hasBalancedBrackets (front ++ back) := by
  rw [hasBalancedBrackets, Bool.and_eq_true] at balanced
  rw [hasBalancedBrackets, isBalanced_append_append _ balanced.1,
    isBalanced_append_append _ balanced.2, hasBalancedBrackets]

theorem hasBalancedBrackets_append_newline {front : Text}
    (balanced : hasBalancedBrackets front = true) (back : Text) :
    hasBalancedBrackets (front ++ '\n' :: back) = hasBalancedBrackets back := by
  rw [hasBalancedBrackets, Bool.and_eq_true] at balanced
  rw [hasBalancedBrackets, isBalanced_append_newline roundMark_of_blank balanced.1,
    isBalanced_append_newline curlyMark_of_blank balanced.2, hasBalancedBrackets]

end BlockCheck
