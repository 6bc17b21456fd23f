/-
This file proves that what stands in the body of a loop or a branch does not matter to the
verdict, wherever the block stands. Two runs are compared that differ in one such body only.
Each of the two bodies is a program of its own that passes the scans, leaves no block open and
has at least one node; nothing is asked of the lines around the block.

The block as a whole leaves the nesting level as it is, so whatever encloses it is cut out in
both runs at the same place (`follow?_block`). The two trees are then the same up to the
children of one loop or branch (`exists_readLines_of_replaced`), and the search for a finding
does not look at those: it asks of a branch only whether it has children at all.
-/

import BlockCheck.Proofs.Scans
import BlockCheck.Proofs.Verdicts
import BlockCheck.Proofs.Wrapped

namespace BlockCheck

/-! ### Nodes that a search finds alike -/

/-- Two lists of nodes that are the same up to what is in the bodies of loops and branches. A
body that is empty in the one is empty in the other. -/
inductive SearchedAlike : List Node → List Node → Prop where
  | nil : SearchedAlike [] []
  | same (node : Node) {rest others : List Node} (later : SearchedAlike rest others) :
      SearchedAlike (node :: rest) (node :: others)
  | inside (depth : Nat) (header : Header) {children changed rest others : List Node}
      (below : SearchedAlike children changed) (later : SearchedAlike rest others) :
      SearchedAlike (.block depth header children :: rest) (.block depth header changed :: others)
  | unsearched (depth : Nat) {header : Header} (notFunction : header.construct ≠ .function)
      {children changed rest others : List Node} (sameEmpty : children.isEmpty = changed.isEmpty)
      (later : SearchedAlike rest others) :
      SearchedAlike (.block depth header children :: rest) (.block depth header changed :: others)

namespace SearchedAlike

variable {nodes others : List Node}

theorem refl (nodes : List Node) : SearchedAlike nodes nodes := by
  induction nodes with
  | nil => exact .nil
  | cons node rest inductionHypothesis => exact .same node inductionHypothesis

theorem isEmpty_eq (alike : SearchedAlike nodes others) : nodes.isEmpty = others.isEmpty := by
  cases alike <;> rfl

theorem any_returnsValue_eq (alike : SearchedAlike nodes others) :
    nodes.any Node.returnsValue = others.any Node.returnsValue := by
  induction alike with
  | nil => rfl
  | same node later inductionHypothesis => rw [List.any_cons, List.any_cons, inductionHypothesis]
  | inside depth header below later belowHypothesis inductionHypothesis =>
    simp only [List.any_cons, Node.returnsValue, inductionHypothesis]
  | unsearched depth notFunction sameEmpty later inductionHypothesis =>
    simp only [List.any_cons, Node.returnsValue, inductionHypothesis]

end SearchedAlike

/-- The rule of a header looks at two things below it: whether there are nodes, and whether one
of them returns a value. -/
theorem Header.clauses_congr (header : Header) {children changed : List Node}
    (sameEmpty : children.isEmpty = changed.isEmpty)
    (sameReturns : children.any Node.returnsValue = changed.any Node.returnsValue) :
    header.clauses children = header.clauses changed := by
  cases header <;> simp only [Header.clauses, sameEmpty, sameReturns]

/-- The rule of a loop or a branch does not look for a value that is returned. -/
theorem Header.clauses_congr_of_ne_function {header : Header}
    (notFunction : header.construct ≠ .function) {children changed : List Node}
    (sameEmpty : children.isEmpty = changed.isEmpty) :
    header.clauses children = header.clauses changed := by
  cases header with
  | function name parameters returnType => exact absurd rfl notFunction
  | loop initializer condition increment => rfl
  | branch condition => simp only [Header.clauses, sameEmpty]

/-- The search finds the same in both. -/
theorem SearchedAlike.firstFinding?_eq {nodes others : List Node}
    (alike : SearchedAlike nodes others) : firstFinding? nodes = firstFinding? others := by
  induction alike with
  | nil => rfl
  | same node later inductionHypothesis => rw [firstFinding?, firstFinding?, inductionHypothesis]
  | inside depth header below later belowHypothesis inductionHypothesis =>
    have sameClauses := header.clauses_congr below.isEmpty_eq below.any_returnsValue_eq
    simp only [firstFinding?, Node.finding?, Node.ownFinding?, Node.clauses, Node.depth,
      Node.construct, sameClauses, belowHypothesis, inductionHypothesis]
  | unsearched depth notFunction sameEmpty later inductionHypothesis =>
    have sameClauses := Header.clauses_congr_of_ne_function notFunction sameEmpty
    simp only [firstFinding?, Node.finding?, Node.ownFinding?, Node.clauses, Node.depth,
      Node.construct, sameClauses, if_neg notFunction, inductionHypothesis]

theorem SearchedAlike.treeVerdict_eq {nodes others : List Node}
    (alike : SearchedAlike nodes others) : treeVerdict nodes = treeVerdict others := by
  rw [treeVerdict, treeVerdict, alike.firstFinding?_eq]

/-! ### Reading around a body that is replaced -/

/-- The lines of a body that is a program of its own, leaves no block open and is read as at
least one node at whatever depth. -/
structure FillsBody (body : List Text) : Prop where
  proper : ∀ line ∈ body, IsStatementLine line
  balanced : follow? blockMark 0 body = some 0
  filled : ∀ depth, ∃ node others, readLines depth body = .ok (node :: others)

section

variable {line : Text} {header : Header} {body other : List Text}

theorem append_around (front tail rest : List Text) :
    front ++ line :: (body ++ closingLine :: (tail ++ closingLine :: rest)) =
      (front ++ line :: (body ++ closingLine :: tail)) ++ closingLine :: rest := by
  simp only [List.append_assoc, List.cons_append]

theorem isStatementLine_around (properLine : IsStatementLine line) (bodyFills : FillsBody body)
    {front back : List Text} (properFront : ∀ line ∈ front, IsStatementLine line)
    (properBack : ∀ line ∈ back, IsStatementLine line) :
    ∀ each ∈ front ++ line :: (body ++ closingLine :: back), IsStatementLine each :=
  List.forall_mem_append.mpr ⟨properFront, forall_mem_block_iff.mpr
    ⟨properLine, bodyFills.proper, isStatementLine_closingLine, properBack⟩⟩

variable (properLine : IsStatementLine line) (isHeader : LineForm.ofLine line = .header header)
  (notFunction : header.construct ≠ .function) (opens : blockMark line = .opens)
  (bodyFills : FillsBody body) (otherFills : FillsBody other)

include properLine isHeader notFunction opens bodyFills otherFills

/-- Where lines with a loop or a branch among them are read as a tree, they are read with another
body of it too, as a tree that a search finds alike. A block in front is closed before the one that
is replaced, or encloses it up to where the lines below close it. -/
theorem exists_readLines_of_replaced {front back : List Text}
    (properFront : ∀ line ∈ front, IsStatementLine line)
    (properBack : ∀ line ∈ back, IsStatementLine line) {depth : Nat} {nodes : List Node}
    (read : readLines depth (front ++ line :: (body ++ closingLine :: back)) = .ok nodes) :
    ∃ others, readLines depth (front ++ line :: (other ++ closingLine :: back)) = .ok others ∧
      SearchedAlike nodes others := by
  induction front using segment_induction generalizing back depth nodes with
  | nil =>
    rw [List.nil_append] at read ⊢
    rw [readLines_block_eq_ok_iff _ isHeader bodyFills.balanced bodyFills.proper] at read
    obtain ⟨children, rest, inside, later, rfl⟩ := read
    obtain ⟨first, more, insideFilled⟩ := bodyFills.filled (depth + 1)
    obtain ⟨otherFirst, otherMore, otherInside⟩ := otherFills.filled (depth + 1)
    rw [insideFilled, Except.ok.injEq] at inside
    refine ⟨.block depth header (otherFirst :: otherMore) :: rest, ?_, ?_⟩
    · rw [readLines_block_eq_ok_iff _ isHeader otherFills.balanced otherFills.proper]
      exact ⟨_, rest, otherInside, later, rfl⟩
    · rw [← inside]
      exact .unsearched depth notFunction rfl (.refl rest)
  | statement first content rest isStatement inductionHypothesis =>
    rw [List.cons_append, readLines_statement _ isStatement] at read ⊢
    obtain ⟨later, restRead, rfl⟩ := map_eq_ok_iff.mp read
    obtain ⟨others, otherRead, alike⟩ :=
      inductionHypothesis (List.forall_mem_cons.mp properFront).2 properBack restRead
    exact ⟨_, map_eq_ok_iff.mpr ⟨others, otherRead, rfl⟩, .same _ alike⟩
  | unreadable first rest isUnreadable inductionHypothesis =>
    rw [List.cons_append, readLines_unreadable _ isUnreadable] at read ⊢
    exact inductionHypothesis (List.forall_mem_cons.mp properFront).2 properBack read
  | block first outer inner rest isOuter balanced insideHypothesis laterHypothesis =>
    obtain ⟨-, properInner, -, properRest⟩ := forall_mem_block_iff.mp properFront
    rw [List.cons_append, List.append_assoc, List.cons_append] at read ⊢
    obtain ⟨children, later, inside, restRead, rfl⟩ :=
      (readLines_block_eq_ok_iff _ isOuter balanced properInner _ _).mp read
    obtain ⟨others, otherRead, alike⟩ := laterHypothesis properRest properBack restRead
    refine ⟨_, ?_, .same _ alike⟩
    exact (readLines_block_eq_ok_iff _ isOuter balanced properInner _ _).mpr
      ⟨children, others, inside, otherRead, rfl⟩
  | unfinished first outer inner level isOuter followed insideHypothesis =>
    have properInner := (List.forall_mem_cons.mp properFront).2
    have around {lines : List Text} (balanced : follow? blockMark 0 lines = some 0)
        {below : List Text} {final : Nat}
        (belowFollowed : follow? blockMark level below = some final) :
        follow? blockMark 0 (inner ++ line :: (lines ++ closingLine :: below)) = some final := by
      rw [follow?_append, followed, Option.bind_some, follow?_block opens balanced, belowFollowed]
    rcases follow?_cases level back with ⟨tail, rest, rfl, tailFollowed⟩ | ⟨final, backFollowed⟩
    · have enclosed := around bodyFills.balanced tailFollowed
      have otherEnclosed := around otherFills.balanced tailFollowed
      have properTail := (List.forall_mem_append.mp properBack).1
      rw [List.cons_append, append_around] at read ⊢
      obtain ⟨children, later, inside, restRead, rfl⟩ :=
        (readLines_block_eq_ok_iff _ isOuter enclosed
          (isStatementLine_around properLine bodyFills properInner properTail) _ _).mp read
      obtain ⟨changed, changedInside, alike⟩ := insideHypothesis properInner properTail inside
      refine ⟨_, ?_, .inside depth outer alike (.refl later)⟩
      exact (readLines_block_eq_ok_iff _ isOuter otherEnclosed
        (isStatementLine_around properLine otherFills properInner properTail) _ _).mpr
          ⟨changed, later, changedInside, restRead, rfl⟩
    · have unclosed := around bodyFills.balanced backFollowed
      rw [List.cons_append, readLines_unfinished _ isOuter unclosed] at read
      nomatch read

end

/-! ### The verdict on both -/

/-- A program that can be the body of a block: it passes the scans, its lines are balanced, and
it has a tree with at least one node. -/
structure IsInnerProgram (source : Text) : Prop where
  brackets : hasBalancedBrackets source = true
  clauses : hasLoopClauses source = true
  nested : NestedBalanced blockMark (statementLines source)
  filled : ∃ node others, (readProgram source).outcome = .ok (node :: others)

theorem IsInnerProgram.fillsBody {source : Text} (program : IsInnerProgram source) :
    FillsBody (statementLines source) := by
  have proper : ∀ line ∈ statementLines source, IsStatementLine line :=
    fun _ => isStatementLine_of_mem_statementLines
  refine ⟨proper, (nestedBalanced_iff _).mp program.nested, fun depth => ?_⟩
  obtain ⟨node, others, read⟩ := program.filled
  have deeper := readLines_deepen depth 0 proper
  rw [Nat.zero_add, ← outcome_readProgram, read] at deeper
  exact ⟨_, _, deeper⟩

section

variable (above headerLine below : Text) {source : Text}

/-- A text with a block in it, below some lines and above others. -/
def withBlock (source : Text) : Text :=
  above ++ '\n' :: (inBlock headerLine source ++ '\n' :: below)

theorem hasBalancedBrackets_withBlock (balanced : hasBalancedBrackets source = true) :
    hasBalancedBrackets (withBlock above headerLine below source) =
      hasBalancedBrackets (withBlock above headerLine below []) := by
  have split (inner : Text) : withBlock above headerLine below inner =
      (above ++ '\n' :: (headerLine ++ ['\n'])) ++
        (inner ++ '\n' :: (closingLine ++ '\n' :: below)) := by
    simp [withBlock, inBlock]
  rw [split, split [], hasBalancedBrackets_append_append balanced, List.nil_append]

theorem hasLoopClauses_withBlock (complete : hasLoopClauses source = true) :
    hasLoopClauses (withBlock above headerLine below source) =
      hasLoopClauses (withBlock above headerLine below []) := by
  have nothing : hasLoopClauses [] = true := rfl
  simp only [withBlock, inBlock, hasLoopClauses_append_newline, complete, nothing]

end

/-- Where a text with a loop or a branch in it has a tree, it has one with another body of the
block too, and a search finds the two trees alike. -/
theorem exists_readProgram_of_replaced {above headerLine below body other : Text} {header : Header}
    (oneLine : '\n' ∉ headerLine)
    (isHeader : LineForm.ofLine (normalize headerLine) = .header header)
    (notFunction : header.construct ≠ .function)
    (opens : (normalize headerLine).getLast? = some '{')
    (program : IsInnerProgram body) (otherProgram : IsInnerProgram other) {nodes : List Node}
    (read : (readProgram (withBlock above headerLine below body)).outcome = .ok nodes) :
    ∃ others, (readProgram (withBlock above headerLine below other)).outcome = .ok others ∧
      SearchedAlike nodes others := by
  have written (source : Text) : statementLines (withBlock above headerLine below source) =
      statementLines above ++ normalize headerLine ::
        (statementLines source ++ closingLine :: statementLines below) := by
    rw [withBlock, statementLines_append_newline, statementLines_append_newline,
      statementLines_inBlock oneLine isHeader]
    simp only [List.cons_append, List.append_assoc, List.nil_append]
  rw [outcome_readProgram, written] at read ⊢
  exact exists_readLines_of_replaced (isStatementLine_of_header isHeader) isHeader notFunction
    (blockMark_eq_opens_iff.mpr opens) program.fillsBody otherProgram.fillsBody
    (fun _ => isStatementLine_of_mem_statementLines)
    (fun _ => isStatementLine_of_mem_statementLines) read

/-- The body of a loop or a branch does not influence the verdict. Two texts that differ only in
such a body get the same verdict, whatever stands above and below the block, also where that is
malformed, encloses the block or leaves blocks open. Each of the two bodies has to be a program
by itself, with balanced lines and at least one node. -/
theorem verdict_withBlock_eq {above headerLine below body other : Text} {header : Header}
    (oneLine : '\n' ∉ headerLine)
    (isHeader : LineForm.ofLine (normalize headerLine) = .header header)
    (notFunction : header.construct ≠ .function)
    (opens : (normalize headerLine).getLast? = some '{')
    (program : IsInnerProgram body) (otherProgram : IsInnerProgram other) :
    verdict (withBlock above headerLine below body) =
      verdict (withBlock above headerLine below other) := by
  rw [verdict_eq, verdict_eq (withBlock above headerLine below other),
    hasBalancedBrackets_withBlock above headerLine below program.brackets,
    hasBalancedBrackets_withBlock above headerLine below otherProgram.brackets,
    hasLoopClauses_withBlock above headerLine below program.clauses,
    hasLoopClauses_withBlock above headerLine below otherProgram.clauses]
  cases read : (readProgram (withBlock above headerLine below body)).outcome with
  | ok nodes =>
    obtain ⟨others, otherRead, alike⟩ := exists_readProgram_of_replaced oneLine isHeader
      notFunction opens program otherProgram read
    rw [otherRead]
    simp only [alike.treeVerdict_eq]
  | error failure =>
    cases otherRead : (readProgram (withBlock above headerLine below other)).outcome with
    | error otherFailure => rfl
    | ok others =>
      obtain ⟨nodes, readAgain, -⟩ := exists_readProgram_of_replaced oneLine isHeader
        notFunction opens otherProgram program otherRead
      rw [read] at readAgain
      nomatch readAgain

/-- A body that breaks a rule of the grammar. -/
def misnamedBody : Text := "1x:5".toList

theorem isInnerProgram_misnamedBody : IsInnerProgram misnamedBody where
  brackets := by decide +kernel
  clauses := by decide +kernel
  nested := (nestedBalanced_iff _).mpr (by decide +kernel)
  filled := by
    have written : statementLines misnamedBody = [misnamedBody] := by decide +kernel
    refine ⟨.statement 0 (.declaration ['1', 'x'] ['5']), [], ?_⟩
    rw [readProgram_eq_ok_iff, written]
    exact .statement (by decide) (.nil 0)

theorem isInnerProgram_loopSource : IsInnerProgram loopSource where
  brackets := by decide +kernel
  clauses := by decide +kernel
  nested := nestedBalanced_loopSource
  filled := ⟨_, _, readProgram_loopSource⟩

/-- This body and one that breaks no rule, in a branch that a function encloses. -/
theorem verdict_withBlock_eq_misnamedBody_loopSource :
    let above := "fc f ( a ) int \x7b\n y:1".toList
    let headerLine := " if ( a < 1 )  \x7b".toList
    let below := " return a\n\x7d".toList
    '\n' ∉ headerLine ∧
      LineForm.ofLine (normalize headerLine) = .header (.branch "a < 1".toList) ∧
      (Header.branch "a < 1".toList).construct ≠ .function ∧
      (normalize headerLine).getLast? = some '{' ∧
      IsInnerProgram misnamedBody ∧ IsInnerProgram loopSource ∧
      verdict (withBlock above headerLine below misnamedBody) =
        verdict (withBlock above headerLine below loopSource) ∧
      verdict (withBlock above headerLine below misnamedBody) = .accepted := by
  intro above headerLine below
  have oneLine : '\n' ∉ headerLine := by decide +kernel
  have isHeader : LineForm.ofLine (normalize headerLine) = .header (.branch "a < 1".toList) := by
    decide +kernel
  have notFunction : (Header.branch "a < 1".toList).construct ≠ .function := by decide
  have opens : (normalize headerLine).getLast? = some '{' := by decide +kernel
  have accepted : verdict (withBlock above headerLine below misnamedBody) = .accepted := by
    decide +kernel
  have same : verdict (withBlock above headerLine below misnamedBody) =
      verdict (withBlock above headerLine below loopSource) :=
    verdict_withBlock_eq oneLine isHeader notFunction opens isInnerProgram_misnamedBody
      isInnerProgram_loopSource
  exact ⟨oneLine, isHeader, notFunction, opens, isInnerProgram_misnamedBody,
    isInnerProgram_loopSource, same, accepted⟩

end BlockCheck
