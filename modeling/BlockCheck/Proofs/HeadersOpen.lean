/-
This file says when the body of a block can be left open. Two readings of the same lines have
to agree there: a body is cut out by counting the lines that end with an opening bracket
against the closing lines, and it is read again by the headers that are found in it. The
lines that open a level and the headers are not the same lines. A line of code or an
unreadable header may end with the bracket, and a closing line may then close nothing.

They agree as far as it matters when every header opens a level. A block inside a body that
is never closed would keep the count of that body above the level it started at, while the
body was cut out exactly because its count came back (`openBlocks_eq_zero_of_follow?`). So only
a header without the bracket can leave a block open inside a body.
-/

import BlockCheck.Proofs.Outlined

namespace BlockCheck

/-! ### Headers that open a level -/

/-- Whether a line is the header of a block. -/
def isHeaderLine (line : Text) : Bool :=
  match LineForm.ofLine line with
  | .header _ => true
  | _ => false

/-- Every header among some lines ends with an opening bracket. -/
def HeadersOpen (available : List Text) : Prop :=
  ∀ line ∈ available, isHeaderLine line = true → line.getLast? = some '{'

instance (available : List Text) : Decidable (HeadersOpen available) :=
  inferInstanceAs (Decidable (∀ line ∈ available, isHeaderLine line = true →
    line.getLast? = some '{'))

/-- A header in front opens a level. -/
theorem HeadersOpen.blockMark_eq {line : Text} {header : Header} {rest : List Text}
    (opening : HeadersOpen (line :: rest)) (isHeader : LineForm.ofLine line = .header header) :
    blockMark line = .opens := by
  refine blockMark_eq_opens_iff.mpr (opening line List.mem_cons_self ?_)
  rw [isHeaderLine, isHeader]

/-! ### Bodies that come back to their level -/

/-- Lines whose headers open a level and from which following comes back to level zero leave no
block open. The level before them may be any: it counts the lines in front that opened a level
without being headers. -/
theorem openBlocks_eq_zero_of_follow? (depth : Nat) {available : List Text}
    (opening : HeadersOpen available) {level : Nat}
    (followed : follow? blockMark level available = some 0) :
    (segmentLines depth 0 available).openBlocks = 0 := by
  induction available using segment_induction generalizing level with
  | nil => rw [segmentLines_nil]
  | statement line content rest isStatement inductionHypothesis =>
    obtain ⟨next, -, later⟩ := Option.bind_eq_some_iff.mp followed
    rw [segmentLines_statement _ _ isStatement]
    exact inductionHypothesis (List.forall_mem_cons.mp opening).2 later
  | unreadable line rest isUnreadable inductionHypothesis =>
    obtain ⟨next, -, later⟩ := Option.bind_eq_some_iff.mp followed
    rw [segmentLines_unreadable _ _ isUnreadable]
    exact inductionHypothesis (List.forall_mem_cons.mp opening).2 later
  | block line header body rest isHeader balanced insideHypothesis laterHypothesis =>
    rw [follow?_block (opening.blockMark_eq isHeader) balanced] at followed
    obtain ⟨-, -, -, openingRest⟩ := forall_mem_block_iff.mp opening
    rw [segmentLines_block _ _ isHeader balanced]
    exact laterHypothesis openingRest followed
  | unfinished line header body height isHeader bodyFollowed =>
    have raised : follow? blockMark (level + 1) body = some (level + 1 + height) :=
      follow?_add blockMark bodyFollowed (level + 1)
    rw [follow?_cons, opening.blockMark_eq isHeader, NestingMark.step?, Option.bind_some, raised,
      Option.some.injEq] at followed
    omega

/-- Lines that leave no block open have a tree when their headers open a level: then no body
inside leaves one open. -/
theorem exists_readLines_of_openBlocks {available : List Text}
    (proper : ∀ line ∈ available, IsStatementLine line) (opening : HeadersOpen available)
    (depth : Nat) (closed : (segmentLines depth 0 available).openBlocks = 0) :
    ∃ nodes, readLines depth available = .ok nodes := by
  induction available using segment_induction generalizing depth with
  | nil => exact ⟨[], readLines_nil depth⟩
  | statement line content rest isStatement inductionHypothesis =>
    rw [segmentLines_statement _ _ isStatement] at closed
    obtain ⟨nodes, read⟩ := inductionHypothesis (List.forall_mem_cons.mp proper).2
      (List.forall_mem_cons.mp opening).2 depth closed
    rw [readLines_statement _ isStatement, read]
    exact ⟨_, rfl⟩
  | unreadable line rest isUnreadable inductionHypothesis =>
    rw [segmentLines_unreadable _ _ isUnreadable] at closed
    rw [readLines_unreadable _ isUnreadable]
    exact inductionHypothesis (List.forall_mem_cons.mp proper).2
      (List.forall_mem_cons.mp opening).2 depth closed
  | block line header body rest isHeader balanced insideHypothesis laterHypothesis =>
    obtain ⟨-, properBody, -, properRest⟩ := forall_mem_block_iff.mp proper
    obtain ⟨-, openingBody, -, openingRest⟩ := forall_mem_block_iff.mp opening
    rw [segmentLines_block _ _ isHeader balanced] at closed
    have bodyClosed := openBlocks_eq_zero_of_follow? (depth + 1) openingBody balanced
    obtain ⟨children, inside⟩ := insideHypothesis properBody openingBody (depth + 1) bodyClosed
    obtain ⟨others, later⟩ := laterHypothesis properRest openingRest depth closed
    exact ⟨_, (readLines_block_eq_ok_iff _ isHeader balanced properBody rest _).mpr
      ⟨children, others, inside, later, rfl⟩⟩
  | unfinished line header body level isHeader followed =>
    rw [segmentLines_unfinished _ _ isHeader followed] at closed
    simp at closed

/-- A program whose headers open a level and whose lines are balanced leaves no block open and has
a tree. -/
theorem exists_nodes_of_follow? {source : Text} (opening : HeadersOpen (statementLines source))
    (balanced : follow? blockMark 0 (statementLines source) = some 0) :
    (∃ segments, (readSegments 0 source).outcome = .ok segments) ∧
      ∃ nodes, (readProgram source).outcome = .ok nodes := by
  have closed := openBlocks_eq_zero_of_follow? 0 opening balanced
  refine ⟨⟨_, if_pos closed⟩, ?_⟩
  rw [outcome_readProgram]
  exact exists_readLines_of_openBlocks (fun _ => isStatementLine_of_mem_statementLines) opening 0
    closed

/-- Where every header ends with an opening bracket, a program has a tree as soon as the text
itself leaves no block open. Whatever else stands in it, no body inside is ever found open. -/
theorem exists_readProgram_of_headersOpen {source : Text}
    (opening : HeadersOpen (statementLines source)) :
    (∀ segments, (readSegments 0 source).outcome = .ok segments →
        ∃ nodes, (readProgram source).outcome = .ok nodes) ∧
      ∀ failure, (readProgram source).outcome ≠ .error (.block failure) := by
  have proper : ∀ line ∈ statementLines source, IsStatementLine line :=
    fun _ => isStatementLine_of_mem_statementLines
  rw [outcome_readProgram]
  by_cases closed : (segmentLines 0 0 (statementLines source)).openBlocks = 0
  · obtain ⟨nodes, read⟩ := exists_readLines_of_openBlocks proper opening 0 closed
    rw [read]
    exact ⟨fun segments cut => ⟨nodes, rfl⟩, fun failure => by simp⟩
  · refine ⟨fun segments cut => ?_, fun failure => ?_⟩
    · simp [readSegments, Segmentation.outcome, closed] at cut
    · simp [readLines, Segmentation.outcome, closed]

/-- A closing line that closes nothing, above a function with two lines in its body that open a
level and are no headers, so that two of its closing lines are code. -/
def strayClosingSource : Text :=
  ("\x7d\nfc f ( a ) int \x7b\n loop \x7b\n for i \x7b\n if ( b ) \x7b\n  return 1\n \x7d\n" ++
    " \x7d\n \x7d\n\x7d").toList

/-- The closing line and the function. -/
def strayClosingSegments : List Segment :=
  [.statement 0 (.code closingLine),
    .block 0 (.function ['f'] [['a']] ['i', 'n', 't'])
      ["loop \x7b".toList, "for i \x7b".toList, "if ( b ) \x7b".toList, "return 1".toList,
        closingLine, closingLine, closingLine]]

theorem exists_readProgram_of_headersOpen_strayClosing :
    HeadersOpen (statementLines strayClosingSource) ∧
      (readSegments 0 strayClosingSource).outcome = .ok strayClosingSegments ∧
      (∃ nodes, (readProgram strayClosingSource).outcome = .ok nodes) ∧
      ∀ failure, (readProgram strayClosingSource).outcome ≠ .error (.block failure) := by
  have opening : HeadersOpen (statementLines strayClosingSource) := by decide +kernel
  have cut : (readSegments 0 strayClosingSource).outcome = .ok strayClosingSegments := by
    have found : segmentLines 0 0 (statementLines strayClosingSource) =
        ⟨strayClosingSegments, 0⟩ := by decide +kernel
    simp only [readSegments, found]
    rfl
  obtain ⟨succeeds, neverInside⟩ := exists_readProgram_of_headersOpen opening
  exact ⟨opening, cut, succeeds _ cut, neverInside⟩

end BlockCheck
