/-
This file writes a tree as a program and proves that the program is read back as the tree.
Each statement is one line; a block is the line of its header, the lines of its children and
a closing line. The lines are put on top of each other, normalized, cut into blocks, and the
bodies of the blocks are joined and read once more, so what has to be shown is that none of
this can tell the lines of a tree apart from the tree.

Everything that goes through the lines of a program and counts comes back to where it was
after the lines of a tree (`foldlM_renderAll`). This is used for the brackets of both kinds,
which are followed character by character, and for the blocks, which are followed line by
line.
-/

import BlockCheck.Proofs.Canonical
import BlockCheck.Proofs.Verdicts

namespace BlockCheck

/-! ### Writing a tree -/

mutual

/-- The lines of a node. -/
def Node.renderLines : Node → List Text
  | .statement _ content => [content.render]
  | .block _ header children => header.render :: (renderAll children ++ [closingLine])

/-- The lines of some nodes, in order. -/
def renderAll : List Node → List Text
  | [] => []
  | node :: rest => node.renderLines ++ renderAll rest

end

/-- The program that a tree is written as. -/
def render (nodes : List Node) : Text := joinLines (renderAll nodes)

/-- A tree that is read back: what its nodes say is canonical, and the depth of each node is
the number of blocks around it. -/
inductive IsCanonicalAt : Nat → List Node → Prop where
  | nil (depth : Nat) : IsCanonicalAt depth []
  | statement {depth : Nat} {content : Statement} {rest : List Node}
      (canonical : content.IsCanonical) (later : IsCanonicalAt depth rest) :
      IsCanonicalAt depth (.statement depth content :: rest)
  | block {depth : Nat} {header : Header} {children rest : List Node}
      (canonical : header.IsCanonical) (inside : IsCanonicalAt (depth + 1) children)
      (later : IsCanonicalAt depth rest) :
      IsCanonicalAt depth (.block depth header children :: rest)

/-- A line of a tree. -/
inductive IsRenderedLine : Text → Prop where
  | statement {content : Statement} (canonical : content.IsCanonical) :
      IsRenderedLine content.render
  | header {header : Header} (canonical : header.IsCanonical) : IsRenderedLine header.render
  | closing : IsRenderedLine closingLine

section

variable {depth : Nat} {nodes : List Node} {line : Text}

theorem isRenderedLine_of_mem_renderAll (canonical : IsCanonicalAt depth nodes)
    (member : line ∈ renderAll nodes) : IsRenderedLine line := by
  induction canonical with
  | nil depth => simp [renderAll] at member
  | statement isCanonical later inductionHypothesis =>
    simp only [renderAll, Node.renderLines, List.singleton_append, List.mem_cons] at member
    rcases member with rfl | inLater
    · exact .statement isCanonical
    · exact inductionHypothesis inLater
  | block isCanonical inside later insideHypothesis laterHypothesis =>
    simp only [renderAll, Node.renderLines, List.cons_append, List.append_assoc, List.mem_cons,
      List.mem_append, List.nil_append] at member
    rcases member with rfl | inside | rfl | inLater
    · exact .header isCanonical
    · exact insideHypothesis inside
    · exact .closing
    · exact laterHypothesis inLater

theorem normalize_closingLine : normalize closingLine = closingLine :=
  isStatementLine_closingLine.2

namespace IsRenderedLine

theorem newline_not_mem (rendered : IsRenderedLine line) : '\n' ∉ line := by
  cases rendered with
  | statement canonical => exact canonical.isFlat_render.newline_not_mem
  | header canonical => exact canonical.newline_not_mem_render
  | closing => decide

theorem normalize_ne_nil (rendered : IsRenderedLine line) : normalize line ≠ [] := by
  rw [Ne, normalize_eq_nil_iff]
  cases rendered with
  | statement canonical => exact canonical.words_render_ne_nil
  | header canonical => exact Header.words_render_ne_nil _
  | closing =>
    rw [← normalize_eq_nil_iff, normalize_closingLine]
    decide

theorem lineHasLoopClauses_eq_true (rendered : IsRenderedLine line) :
    lineHasLoopClauses line = true := by
  cases rendered with
  | statement canonical => exact canonical.lineHasLoopClauses_render
  | header canonical => exact canonical.lineHasLoopClauses_render
  | closing =>
    rw [← lineHasLoopClauses_normalize, normalize_closingLine]
    decide

end IsRenderedLine

/-- The statement lines of a program that was written from a tree are the lines of the
tree. -/
theorem statementLines_render (canonical : IsCanonicalAt depth nodes) :
    statementLines (render nodes) = (renderAll nodes).map normalize := by
  have rendered : ∀ line ∈ renderAll nodes, IsRenderedLine line := fun line =>
    isRenderedLine_of_mem_renderAll canonical
  rw [render]
  generalize renderAll nodes = written at rendered ⊢
  induction written with
  | nil => rfl
  | cons line rest inductionHypothesis =>
    obtain ⟨first, later⟩ := List.forall_mem_cons.mp rendered
    rw [statementLines_joinLines_cons, inductionHypothesis later,
      statementLines_of_newline_not_mem first.newline_not_mem]
    simp [keepStatements, first.normalize_ne_nil]

/-! ### Passing over the lines of a tree -/

/-- What is counted over the lines of a tree is the same before and after them, when
statements leave it alone and closing lines take back what headers add. -/
theorem foldlM_renderAll {count : Nat → Text → Option Nat} (added : Nat)
    (onStatement : ∀ content : Statement, content.IsCanonical →
      ∀ level, count level content.render = some level)
    (onHeader : ∀ header : Header, header.IsCanonical →
      ∀ level, count level header.render = some (level + added))
    (onClosing : ∀ level, count (level + added) closingLine = some level)
    (canonical : IsCanonicalAt depth nodes) (level : Nat) :
    (renderAll nodes).foldlM count level = some level := by
  induction canonical generalizing level with
  | nil depth => rfl
  | statement isCanonical later inductionHypothesis =>
    rw [renderAll, Node.renderLines, List.singleton_append, List.foldlM_cons,
      onStatement _ isCanonical]
    exact inductionHypothesis level
  | block isCanonical inside later insideHypothesis laterHypothesis =>
    rw [renderAll, Node.renderLines, List.cons_append, List.append_assoc, List.foldlM_cons,
      onHeader _ isCanonical, Option.bind_eq_bind, Option.bind_some, List.foldlM_append,
      insideHypothesis (level + added), Option.bind_eq_bind, Option.bind_some,
      List.singleton_append, List.foldlM_cons, onClosing]
    exact laterHypothesis level

/-- The program that a tree is written as leaves no bracket open. -/
theorem follow?_render {mark : Char → NestingMark} (follows : FollowsBrackets mark)
    (canonical : IsCanonicalAt depth nodes) (level : Nat) :
    follow? mark level (render nodes) = some level := by
  have neutral : ∀ c, isBlank c = true → mark c = .neutral := fun c blank =>
    follows.neutral c (isBracket_of_blank blank)
  obtain ⟨added, curly⟩ := follows.curly
  rw [follow?_statementLines neutral, statementLines_render canonical, List.foldlM_map]
  simp only [follow?_normalize neutral]
  refine foldlM_renderAll added ?_ ?_ ?_ canonical level
  · exact fun content canonical => canonical.isFlat_render.follow?_eq follows
  · exact fun header canonical => canonical.follow?_render follows fun level => (curly level).1
  · intro level
    rw [closingLine, follow?_cons, (curly level).2]
    rfl

theorem hasBalancedBrackets_render (canonical : IsCanonicalAt depth nodes) :
    hasBalancedBrackets (render nodes) = true := by
  have round := follow?_render followsBrackets_roundMark canonical 0
  have curly := follow?_render followsBrackets_curlyMark canonical 0
  rw [hasBalancedBrackets, isBalanced, isBalanced, round, curly]
  rfl

theorem hasLoopClauses_render (canonical : IsCanonicalAt depth nodes) :
    hasLoopClauses (render nodes) = true := by
  rw [hasLoopClauses_eq_all, statementLines_render canonical, List.all_map, List.all_eq_true]
  intro line member
  rw [Function.comp_apply, lineHasLoopClauses_normalize]
  exact (isRenderedLine_of_mem_renderAll canonical member).lineHasLoopClauses_eq_true

theorem follow?_blockMark_renderAll (canonical : IsCanonicalAt depth nodes) (level : Nat) :
    follow? blockMark level ((renderAll nodes).map normalize) = some level := by
  rw [follow?, List.foldlM_map]
  refine foldlM_renderAll 1 ?_ ?_ ?_ canonical level
  · intro content canonical level
    rw [canonical.blockMark_render]
    rfl
  · intro header canonical level
    rw [Header.blockMark_render]
    rfl
  · intro level
    rw [normalize_closingLine]
    rfl

/-! ### Reading a tree back -/

/-- The lines of a tree are read as the tree. -/
theorem IsCanonicalAt.outlined (canonical : IsCanonicalAt depth nodes) :
    Outlined depth ((renderAll nodes).map normalize) nodes := by
  induction canonical with
  | nil depth => exact .nil depth
  | statement isCanonical later inductionHypothesis =>
    exact .statement isCanonical.ofLine_render inductionHypothesis
  | block isCanonical inside later insideHypothesis laterHypothesis =>
    rw [renderAll, Node.renderLines, List.cons_append, List.append_assoc, List.map_cons,
      List.map_append, List.singleton_append, List.map_cons, normalize_closingLine]
    exact .block isCanonical.ofLine_render (follow?_blockMark_renderAll inside 0) insideHypothesis
      laterHypothesis

end

/-- A tree that is written as a program is read back. The program passes both scans of its
text, its tree is the one it was written from, and the verdict on it is the verdict on that
tree. -/
theorem render_reads_back {nodes : List Node} (canonical : IsCanonicalAt 0 nodes) :
    hasBalancedBrackets (render nodes) = true ∧ hasLoopClauses (render nodes) = true ∧
      (readProgram (render nodes)).outcome = .ok nodes ∧
      verdict (render nodes) = treeVerdict nodes := by
  have balanced := hasBalancedBrackets_render canonical
  have complete := hasLoopClauses_render canonical
  have read : (readProgram (render nodes)).outcome = .ok nodes := by
    rw [readProgram_eq_ok_iff, statementLines_render canonical]
    exact canonical.outlined
  exact ⟨balanced, complete, read, verdict_of_tree balanced complete read⟩

/-- A declaration, and a function whose loop returns from a branch. -/
def tallyTree : List Node :=
  [.statement 0 (.declaration ['x'] ['1']),
    .block 0 (.function "Tally".toList ["first".toList, "limit".toList] "int".toList)
      [.block 1 (.loop ['0'] "i<limit".toList "1++".toList)
          [.block 2 (.branch "i == limit".toList) [.statement 3 (.returning ['i'])]],
        .statement 1 (.returning ['0'])]]

theorem render_reads_back_tallyTree :
    IsCanonicalAt 0 tallyTree ∧ hasBalancedBrackets (render tallyTree) = true ∧
      hasLoopClauses (render tallyTree) = true ∧
      (readProgram (render tallyTree)).outcome = .ok tallyTree ∧
      verdict (render tallyTree) = treeVerdict tallyTree := by
  have canonical : IsCanonicalAt 0 tallyTree := by
    refine .statement (by decide) (.block (by decide) (.block (by decide) ?_ ?_) (.nil 0))
    · exact .block (by decide) (.statement (by decide) (.nil 3)) (.nil 2)
    · exact .statement (by decide) (.nil 1)
  exact ⟨canonical, render_reads_back canonical⟩

end BlockCheck
