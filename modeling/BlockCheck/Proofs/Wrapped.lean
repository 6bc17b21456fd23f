/-
This file proves that a program means the same inside a block as it does alone, one level
deeper. The lines of a balanced program that stand between a header and a closing line are
the body of that header, line by line, so the program is cut out as it was written. Then it
is read at depth 1 in the place of depth 0, and reading knows the depth only as a label
(`readLines_deepen`): the nodes carry it, and so does what is told of a body that is not
closed.

What is wrong with the program alone is what is wrong with it inside the block. A block that
the program itself leaves open is left open in the body of the header, and so becomes a
failure of that body.
-/

import BlockCheck.Proofs.Outlined

namespace BlockCheck

/-! ### Moving deeper -/

mutual

/-- A node and all nodes below it, each moved deeper by a number of levels. -/
def Node.deepen (levels : Nat) : Node → Node
  | .statement depth content => .statement (depth + levels) content
  | .block depth header children => .block (depth + levels) header (deepenAll levels children)

/-- Some nodes and all nodes below them, each moved deeper by a number of levels. -/
def deepenAll (levels : Nat) : List Node → List Node
  | [] => []
  | node :: rest => node.deepen levels :: deepenAll levels rest

end

/-- What is told of a body that ended too early, the body moved deeper by a number of
levels. -/
def BlockFailure.deepen (levels : Nat) (failure : BlockFailure) : BlockFailure :=
  { failure with depth := failure.depth + levels }

/-- Only what is told of a body mentions a depth. -/
def ReadFailure.deepen (levels : Nat) : ReadFailure → ReadFailure
  | .source cause => .source cause
  | .block failure => .block (failure.deepen levels)

/-- Telling a failure of a body and moving it deeper can be done in either order. -/
theorem ReadFailure.inBody_deepen (depth levels : Nat) (failure : ReadFailure) :
    (failure.deepen levels).inBody (depth + levels + 1) =
      (failure.inBody (depth + 1)).deepen levels := by
  cases failure with
  | source cause => exact congrArg (BlockFailure.mk · cause) (Nat.add_right_comm depth levels 1)
  | block failure => rfl

/-- Reading some lines deeper gives the same tree deeper, or the same failure. For a block the
lines after it decide what is told first, and then its body. -/
theorem readLines_deepen (levels depth : Nat) {available : List Text}
    (proper : ∀ line ∈ available, IsStatementLine line) :
    readLines (depth + levels) available =
      ((readLines depth available).map (deepenAll levels)).mapError
        (ReadFailure.deepen levels) := by
  induction available using segment_induction generalizing depth with
  | nil =>
    rw [readLines_nil, readLines_nil]
    rfl
  | statement line content rest isStatement inductionHypothesis =>
    rw [readLines_statement _ isStatement, readLines_statement _ isStatement,
      inductionHypothesis depth (List.forall_mem_cons.mp proper).2]
    cases readLines depth rest <;> rfl
  | unreadable line rest isUnreadable inductionHypothesis =>
    rw [readLines_unreadable _ isUnreadable, readLines_unreadable _ isUnreadable,
      inductionHypothesis depth (List.forall_mem_cons.mp proper).2]
  | block line header body rest isHeader balanced insideHypothesis laterHypothesis =>
    obtain ⟨-, properBody, -, properRest⟩ := forall_mem_block_iff.mp proper
    have deeperBody := insideHypothesis (depth + 1) properBody
    rw [Nat.add_right_comm] at deeperBody
    rw [readLines_block _ isHeader balanced properBody,
      readLines_block _ isHeader balanced properBody, laterHypothesis depth properRest, deeperBody]
    have sameFailure (inner : ReadFailure) :=
      congrArg (fun told => (.error (.block told) : Except ReadFailure (List Node)))
        (ReadFailure.inBody_deepen depth levels inner)
    cases readLines depth rest with
    | error failure =>
      cases failure with
      | source cause => rfl
      | block failure =>
        cases readLines (depth + 1) body with
        | error inner => exact sameFailure inner
        | ok children => rfl
    | ok others =>
      cases readLines (depth + 1) body with
      | error inner => exact sameFailure inner
      | ok children => rfl
  | unfinished line header body level isHeader followed =>
    rw [readLines_unfinished _ isHeader followed, readLines_unfinished _ isHeader followed]
    rfl

/-! ### A program inside a block -/

/-- The line of a header, the lines of a program, and a closing line. -/
def inBlock (headerLine source : Text) : Text :=
  headerLine ++ '\n' :: (source ++ '\n' :: closingLine)

theorem statementLines_closingLine : statementLines closingLine = [closingLine] := by decide

/-- A line that is a header is a statement line once it is normalized. -/
theorem isStatementLine_of_header {line : Text} {header : Header}
    (isHeader : LineForm.ofLine (normalize line) = .header header) :
    IsStatementLine (normalize line) := by
  refine ⟨fun nothing => ?_, normalize_normalize line⟩
  rw [nothing] at isHeader
  exact absurd isHeader (by simp [LineForm.ofLine, LineForm.ofWords])

theorem statementLines_of_header {line : Text} {header : Header} (oneLine : '\n' ∉ line)
    (isHeader : LineForm.ofLine (normalize line) = .header header) :
    statementLines line = [normalize line] := by
  have notBlank := (isStatementLine_of_header isHeader).1
  rw [statementLines_of_newline_not_mem oneLine]
  simp [keepStatements, notBlank]

theorem statementLines_inBlock {headerLine : Text} {header : Header} (oneLine : '\n' ∉ headerLine)
    (isHeader : LineForm.ofLine (normalize headerLine) = .header header) (source : Text) :
    statementLines (inBlock headerLine source) =
      normalize headerLine :: (statementLines source ++ [closingLine]) := by
  rw [inBlock, statementLines_append_newline, statementLines_append_newline,
    statementLines_of_header oneLine isHeader, statementLines_closingLine, List.singleton_append]

/-- A balanced program inside a block is read as the one block whose children are the tree of
the program, one level deeper. Where the program has no tree, the block has none for the same
reason: a block that is left open by the program is left open in the body at depth 1, and a
failure in a body of the program is the failure of that body one level deeper. -/
theorem readProgram_inBlock {headerLine source : Text} {header : Header}
    (oneLine : '\n' ∉ headerLine)
    (isHeader : LineForm.ofLine (normalize headerLine) = .header header)
    (balanced : NestedBalanced blockMark (statementLines source)) :
    (∀ nodes, (readProgram source).outcome = .ok nodes →
        (readProgram (inBlock headerLine source)).outcome =
          .ok [.block 0 header (deepenAll 1 nodes)]) ∧
      (∀ cause, (readProgram source).outcome = .error (.source cause) →
        (readProgram (inBlock headerLine source)).outcome = .error (.block ⟨1, cause⟩)) ∧
      ∀ depth cause, (readProgram source).outcome = .error (.block ⟨depth, cause⟩) →
        (readProgram (inBlock headerLine source)).outcome = .error (.block ⟨depth + 1, cause⟩) := by
  have proper : ∀ line ∈ statementLines source, IsStatementLine line :=
    fun _ => isStatementLine_of_mem_statementLines
  have deeper := readLines_deepen 1 0 proper
  rw [outcome_readProgram, outcome_readProgram, statementLines_inBlock oneLine isHeader,
    readLines_block 0 isHeader ((nestedBalanced_iff _).mp balanced) proper, readLines_nil, deeper]
  refine ⟨?_, ?_, ?_⟩
  · intro nodes read
    rw [read]
    rfl
  · intro cause failed
    rw [failed]
    rfl
  · intro depth cause failed
    rw [failed]
    rfl

/-- A header with more blanks than it needs. -/
def spacedHeader : Text := "  fc f ( a )  int \x7b ".toList

/-- A loop and a return. -/
def loopSource : Text := "for 0; i<9; 1++ \x7b\n x:1\n\x7d\nreturn a".toList

/-- The tree of the loop and the return. -/
def loopTree : List Node :=
  [.block 0 (.loop ['0'] ['i', '<', '9'] ['1', '+', '+']) [.statement 1 (.declaration ['x'] ['1'])],
    .statement 0 (.returning ['a'])]

theorem nestedBalanced_loopSource : NestedBalanced blockMark (statementLines loopSource) :=
  (nestedBalanced_iff _).mpr (by decide +kernel)

theorem readProgram_loopSource : (readProgram loopSource).outcome = .ok loopTree := by
  have written : statementLines loopSource = "for 0; i<9; 1++ \x7b".toList ::
      (["x:1".toList] ++ closingLine :: ["return a".toList]) := by decide +kernel
  rw [readProgram_eq_ok_iff, written]
  have inside : Outlined 1 ["x:1".toList] [.statement 1 (.declaration ['x'] ['1'])] :=
    .statement (by decide) (.nil 1)
  exact .block (by decide) (by decide) inside (.statement (by decide) (.nil 0))

/-- A branch that is left open although the lines are balanced: its header opens no level. -/
def openSource : Text := "if ( b )\n x:1".toList

/-- The header around the program with a tree, and once and twice around the one without. -/
theorem readProgram_inBlock_spacedHeader :
    let header : Header := .function ['f'] [['a']] ['i', 'n', 't']
    let wrapped := inBlock spacedHeader openSource
    '\n' ∉ spacedHeader ∧ LineForm.ofLine (normalize spacedHeader) = .header header ∧
      (NestedBalanced blockMark (statementLines loopSource) ∧
        (readProgram loopSource).outcome = .ok loopTree ∧
        (readProgram (inBlock spacedHeader loopSource)).outcome =
          .ok [.block 0 header (deepenAll 1 loopTree)]) ∧
      (NestedBalanced blockMark (statementLines openSource) ∧
        (readProgram openSource).outcome = .error (.source ⟨1⟩) ∧
        (readProgram wrapped).outcome = .error (.block ⟨1, ⟨1⟩⟩)) ∧
      (NestedBalanced blockMark (statementLines wrapped) ∧
        (readProgram (inBlock spacedHeader wrapped)).outcome = .error (.block ⟨2, ⟨1⟩⟩)) := by
  have oneLine : '\n' ∉ spacedHeader := by decide +kernel
  have isHeader : LineForm.ofLine (normalize spacedHeader) =
      .header (.function ['f'] [['a']] ['i', 'n', 't']) := by decide +kernel
  have openBalanced : NestedBalanced blockMark (statementLines openSource) :=
    (nestedBalanced_iff _).mpr (by decide +kernel)
  have wrappedBalanced : NestedBalanced blockMark
      (statementLines (inBlock spacedHeader openSource)) :=
    (nestedBalanced_iff _).mpr (by decide +kernel)
  have openFails : (readProgram openSource).outcome = .error (.source ⟨1⟩) := by
    have written : statementLines openSource = ["if ( b )".toList, "x:1".toList] := by
      decide +kernel
    have isBranch : LineForm.ofLine "if ( b )".toList = .header (.branch ['b']) := by decide
    have followed : follow? blockMark 0 ["x:1".toList] = some 0 := by decide
    rw [outcome_readProgram, written, readLines_unfinished 0 isBranch followed]
  have aroundLoop :=
    (readProgram_inBlock oneLine isHeader nestedBalanced_loopSource).1 _ readProgram_loopSource
  have aroundOpen := (readProgram_inBlock oneLine isHeader openBalanced).2.1 _ openFails
  have aroundWrapped := (readProgram_inBlock oneLine isHeader wrappedBalanced).2.2 _ _ aroundOpen
  exact ⟨oneLine, isHeader, ⟨nestedBalanced_loopSource, readProgram_loopSource, aroundLoop⟩,
    ⟨openBalanced, openFails, aroundOpen⟩, ⟨wrappedBalanced, aroundWrapped⟩⟩

end BlockCheck
