/-
This file proves that the layout of a text does not matter. What a program is read as and how
it is judged depends on its statement lines alone: not on blank lines, on what the lines end
with, on indentation, or on which blanks stand between two words and how many.

Reading starts from the statement lines, so it cannot know more. The two scans look at the
text itself; that they cannot know more either is what `Scans` proves. Laid out in the
plainest way, as its statement lines with a line feed between each two, a program is
therefore still the same program.
-/

import BlockCheck.Judge
import BlockCheck.Proofs.Scans

namespace BlockCheck

/-! ### The scans -/

/-- Two texts with the same statement lines are both balanced or neither is, for every kind of
bracket that is no blank. -/
theorem isBalanced_congr {mark : Char → NestingMark}
    (neutral : ∀ c, isBlank c = true → mark c = .neutral) {left right : Text}
    (same : statementLines left = statementLines right) :
    isBalanced mark left = isBalanced mark right := by
  rw [isBalanced, isBalanced, follow?_statementLines neutral, same,
    ← follow?_statementLines neutral]

theorem hasBalancedBrackets_congr {left right : Text}
    (same : statementLines left = statementLines right) :
    hasBalancedBrackets left = hasBalancedBrackets right := by
  rw [hasBalancedBrackets, hasBalancedBrackets, isBalanced_congr roundMark_of_blank same,
    isBalanced_congr curlyMark_of_blank same]

theorem hasLoopClauses_congr {left right : Text}
    (same : statementLines left = statementLines right) :
    hasLoopClauses left = hasLoopClauses right := by
  rw [hasLoopClauses_eq_all, hasLoopClauses_eq_all, same]

/-! ### Reading and judging -/

theorem readSegments_congr {left right : Text} (same : statementLines left = statementLines right)
    (depth : Nat) : readSegments depth left = readSegments depth right := by
  rw [readSegments, readSegments, same]

theorem readProgram_congr {left right : Text} (same : statementLines left = statementLines right) :
    readProgram left = readProgram right := by
  rw [readProgram, readProgram, readSegments_congr same]

theorem judge_congr {left right : Text} (same : statementLines left = statementLines right) :
    judge left = judge right := by
  rw [judge, judge, hasBalancedBrackets_congr same, hasLoopClauses_congr same,
    readProgram_congr same]

/-! ### Layout -/

/-- Two texts that cannot be told apart by the scans, by reading them, by the verdict, or by what
is recorded on the way. -/
structure IndistinguishableTexts (left right : Text) : Prop where
  brackets : hasBalancedBrackets left = hasBalancedBrackets right
  clauses : hasLoopClauses left = hasLoopClauses right
  segments : ∀ depth, readSegments depth left = readSegments depth right
  nodes : readProgram left = readProgram right
  verdict : verdict left = verdict right
  events : judgeEvents left = judgeEvents right

theorem indistinguishableTexts_congr {left right : Text}
    (same : statementLines left = statementLines right) : IndistinguishableTexts left right where
  brackets := hasBalancedBrackets_congr same
  clauses := hasLoopClauses_congr same
  segments := readSegments_congr same
  nodes := readProgram_congr same
  verdict := by rw [verdict, verdict, judge_congr same]
  events := by rw [judgeEvents, judgeEvents, verdict, verdict, judge_congr same]

/-- Lines that are normalized, joined and read again keep what the lines themselves keep. -/
theorem statementLines_joinLines_normalize (texts : List Text) :
    statementLines (joinLines (texts.map normalize)) = keepStatements texts := by
  induction texts with
  | nil => rfl
  | cons line rest inductionHypothesis =>
    have oneLine := statementLines_of_newline_not_mem (newline_not_mem_normalize line)
    rw [List.map_cons, statementLines_joinLines_cons, inductionHypothesis, oneLine,
      keepStatements_cons line rest]
    simp only [keepStatements, List.map_cons, List.map_nil, normalize_normalize]

/-- Texts with the same statement lines cannot be told apart, and no text can be told from its
normalized lines with a line feed between each two, whether the blank ones are kept or not. -/
theorem indistinguishableTexts_of_statementLines_eq :
    (∀ left right, statementLines left = statementLines right → IndistinguishableTexts left right) ∧
      ∀ text, IndistinguishableTexts text (joinLines (statementLines text)) ∧
        IndistinguishableTexts text (joinLines ((lines text).map normalize)) := by
  refine ⟨fun left right => indistinguishableTexts_congr, fun text =>
    ⟨indistinguishableTexts_congr ?_, indistinguishableTexts_congr ?_⟩⟩
  · exact (statementLines_joinLines fun _ => isStatementLine_of_mem_statementLines).symm
  · exact (statementLines_joinLines_normalize (lines text)).symm

/-- A function that is written with line ends of two characters, tabs, a no-break space, a lone
carriage return between two words, and blank lines. -/
def raggedSource : Text :=
  "\r\n\tfc f\r( a )  int \x7b\r\n\u00a0\n\t return\u00a0a \r\n\x7d\n\n".toList

/-- The same function in the plainest layout. -/
def plainSource : Text := "fc f ( a ) int \x7b\nreturn a\n\x7d".toList

theorem indistinguishableTexts_raggedSource_plainSource :
    statementLines raggedSource = statementLines plainSource ∧ raggedSource ≠ plainSource ∧
      IndistinguishableTexts raggedSource plainSource ∧
      joinLines (statementLines raggedSource) = plainSource ∧
      IndistinguishableTexts raggedSource (joinLines (statementLines raggedSource)) := by
  have same : statementLines raggedSource = statementLines plainSource := by decide +kernel
  have different : raggedSource ≠ plainSource := by decide +kernel
  have joined : joinLines (statementLines raggedSource) = plainSource := by decide +kernel
  exact ⟨same, different, indistinguishableTexts_of_statementLines_eq.1 _ _ same, joined,
    (indistinguishableTexts_of_statementLines_eq.2 raggedSource).1⟩

end BlockCheck
