/-
This file proves that the scan for brackets protects the reading of blocks in programs that are
laid out well. The scan follows single characters through the whole text. Reading follows lines,
and only inside the block that it is taking, from level zero again for each body. What the one
counts the other need not see: a bracket in the middle of a line, or a header without a bracket.

In a text that is laid out well, an opening curly bracket ends its line and a closing one is a
line by itself, so a line does to the level of lines what its characters do to the level of
characters (`follow?_curlyMark`). The scan then follows the lines of the whole text as reading
follows those of a body, and where every header opens a level, a text that comes back to level
zero leaves no block open, at the top or inside.
-/

import BlockCheck.Proofs.HeadersOpen
import BlockCheck.Proofs.Scans
import BlockCheck.Proofs.Verdicts
import Mathlib.Data.List.Basic

namespace BlockCheck

/-! ### Lines that are laid out well -/

/-- An opening curly bracket can only be the last character of a line, and a closing one can only
be the whole line. -/
def HasBracketsAtEnds (line : Text) : Prop :=
  '{' ∉ line.dropLast ∧ ('}' ∈ line → line = closingLine)

instance (line : Text) : Decidable (HasBracketsAtEnds line) :=
  inferInstanceAs (Decidable ('{' ∉ line.dropLast ∧ ('}' ∈ line → line = closingLine)))

/-- Lines with their curly brackets at the ends, among which every header opens a level. -/
structure IsLaidOut (available : List Text) : Prop where
  bracketsAtEnds : ∀ line ∈ available, HasBracketsAtEnds line
  headersOpen : HeadersOpen available

/-- A text without curly brackets leaves their level alone. -/
theorem follow?_curlyMark_of_not_mem {text : Text} (noOpening : '{' ∉ text)
    (noClosing : '}' ∉ text) (level : Nat) : follow? curlyMark level text = some level := by
  refine follow?_of_neutral curlyMark (fun c member => ?_) level
  rw [curlyMark, if_neg, if_neg]
  · exact fun isClosing => noClosing (isClosing ▸ member)
  · exact fun isOpening => noOpening (isOpening ▸ member)

/-- The characters of a line that is laid out well do to the level what the line does. -/
theorem HasBracketsAtEnds.follow?_eq {line : Text} (atEnds : HasBracketsAtEnds line)
    (level : Nat) : follow? curlyMark level line = (blockMark line).step? level := by
  obtain ⟨noEarlierOpening, closingAlone⟩ := atEnds
  by_cases hasClosing : '}' ∈ line
  · rw [closingAlone hasClosing, blockMark_closingLine, closingLine, follow?_singleton]
    rfl
  by_cases opens : line.getLast? = some '{'
  · rw [blockMark_eq_opens_iff.mpr opens]
    obtain ⟨front, rfl⟩ := List.getLast?_eq_some_iff.mp opens
    rw [List.dropLast_concat] at noEarlierOpening
    have noClosing : '}' ∉ front := fun member => hasClosing (List.mem_append_left _ member)
    rw [follow?_append, follow?_curlyMark_of_not_mem noEarlierOpening noClosing, Option.bind_some,
      follow?_singleton]
    rfl
  · have noOpening : '{' ∉ line := fun member =>
      noEarlierOpening (List.mem_dropLast_of_mem_of_ne_getLast? member (Ne.symm opens))
    have neutral : blockMark line = .neutral := by
      rw [blockMark, if_neg, if_neg opens]
      rintro rfl
      exact hasClosing (by decide)
    rw [follow?_curlyMark_of_not_mem noOpening hasClosing, neutral]
    rfl

/-- The level of curly brackets in a text is the level of its lines. -/
theorem follow?_curlyMark {text : Text}
    (atEnds : ∀ line ∈ statementLines text, HasBracketsAtEnds line) (level : Nat) :
    follow? curlyMark level text = follow? blockMark level (statementLines text) := by
  rw [follow?_statementLines curlyMark_of_blank]
  revert atEnds
  induction statementLines text generalizing level with
  | nil => exact fun _ => rfl
  | cons line rest inductionHypothesis =>
    intro atEnds
    obtain ⟨lineAtEnds, restAtEnds⟩ := List.forall_mem_cons.mp atEnds
    rw [List.foldlM_cons, follow?_cons, lineAtEnds.follow?_eq]
    exact Option.bind_congr fun next _ => inductionHypothesis next restAtEnds

/-- The scan for curly brackets finds a text balanced exactly when its lines are. -/
theorem isBalanced_curlyMark {text : Text}
    (atEnds : ∀ line ∈ statementLines text, HasBracketsAtEnds line) :
    isBalanced curlyMark text = isBalanced blockMark (statementLines text) := by
  rw [isBalanced, isBalanced, follow?_curlyMark atEnds]

/-! ### Programs that are laid out well -/

/-- A program that is laid out well and has balanced brackets leaves no block open and has a
tree. -/
theorem IsLaidOut.exists_nodes {source : Text} (laidOut : IsLaidOut (statementLines source))
    (balanced : hasBalancedBrackets source = true) :
    (∃ segments, (readSegments 0 source).outcome = .ok segments) ∧
      ∃ nodes, (readProgram source).outcome = .ok nodes := by
  rw [hasBalancedBrackets, Bool.and_eq_true,
    isBalanced_curlyMark laidOut.bracketsAtEnds] at balanced
  exact exists_nodes_of_follow? laidOut.headersOpen (beq_iff_eq.mp balanced.2)

/-- In a program that is laid out well the scan for brackets finds every block that is left open.
If the brackets are balanced, the program has a tree; so it is never rejected for a block that is
not closed, and if such a block is met in the text itself or in a body inside, the brackets are not
balanced. -/
theorem exists_readProgram_of_isLaidOut {source : Text}
    (laidOut : IsLaidOut (statementLines source)) :
    (hasBalancedBrackets source = true →
        (∃ segments, (readSegments 0 source).outcome = .ok segments) ∧
          ∃ nodes, (readProgram source).outcome = .ok nodes) ∧
      verdict source ≠ .rejected (.structural .unterminatedBlock) ∧
      (∀ cause, (readSegments 0 source).outcome = .error cause →
        hasBalancedBrackets source = false) ∧
      ∀ failure, (readProgram source).outcome = .error failure →
        hasBalancedBrackets source = false := by
  refine ⟨laidOut.exists_nodes, ?_, fun cause failed => ?_, fun failure failed => ?_⟩
  · rw [verdict_eq]
    cases balanced : hasBalancedBrackets source with
    | false => simp
    | true =>
      obtain ⟨-, nodes, read⟩ := laidOut.exists_nodes balanced
      rw [read]
      cases hasLoopClauses source with
      | false => simp
      | true =>
        simp only [reduceCtorEq, if_false, treeVerdict]
        split <;> simp
  · refine Bool.eq_false_iff.mpr fun balanced => ?_
    obtain ⟨⟨segments, read⟩, -⟩ := laidOut.exists_nodes balanced
    rw [read] at failed
    nomatch failed
  · refine Bool.eq_false_iff.mpr fun balanced => ?_
    obtain ⟨-, nodes, read⟩ := laidOut.exists_nodes balanced
    rw [read] at failed
    nomatch failed

/-- A function with a line in its body that opens a level and is no header, and below it a line
that is an opening bracket alone. -/
def laidOutSource : Text :=
  ("fc f ( a ) int \x7b\n loop \x7b\n  if ( a > 1 ) \x7b\n   return 1\n  \x7d\n \x7d\n" ++
    " return a\n\x7d\n\x7b\n\x7d").toList

/-- A loop that is left open: the closing lines in it go to the line of code that opens a level and
to the function. -/
def openLoopSource : Text :=
  "for 0; i<9; 1++ \x7b\nfc f ( a ) int \x7b\n loop \x7b\n return a\n \x7d\n\x7d".toList

theorem exists_readProgram_of_isLaidOut_laidOutSource :
    (IsLaidOut (statementLines laidOutSource) ∧ hasBalancedBrackets laidOutSource = true ∧
        ∃ nodes, (readProgram laidOutSource).outcome = .ok nodes) ∧
      IsLaidOut (statementLines openLoopSource) ∧
        (∃ cause, (readSegments 0 openLoopSource).outcome = .error cause) ∧
        hasBalancedBrackets openLoopSource = false := by
  have laidOut : IsLaidOut (statementLines laidOutSource) := ⟨by decide +kernel, by decide +kernel⟩
  have balanced : hasBalancedBrackets laidOutSource = true := by decide +kernel
  have openLoop : IsLaidOut (statementLines openLoopSource) :=
    ⟨by decide +kernel, by decide +kernel⟩
  have failed : (readSegments 0 openLoopSource).outcome = .error ⟨1⟩ := by
    have found : (segmentLines 0 0 (statementLines openLoopSource)).openBlocks = 1 := by
      decide +kernel
    simp [readSegments, Segmentation.outcome, found]
  exact ⟨⟨laidOut, balanced, ((exists_readProgram_of_isLaidOut laidOut).1 balanced).2⟩, openLoop,
    ⟨_, failed⟩, (exists_readProgram_of_isLaidOut openLoop).2.2.1 _ failed⟩

end BlockCheck
