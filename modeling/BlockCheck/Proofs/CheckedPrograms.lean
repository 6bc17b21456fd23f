/-
This file reads and judges programs with operations that can fault. Lines are read with such
operations, and one count of open blocks is raised and lowered by all blocks of a text, also
by those that follow a block that is never closed. A fault ends the whole run, and who asks
for a verdict is told that something unexpected has happened.

That is never told. A block raises the count before its body and lowers it only where a
closing line is met, and until the block itself is closed the count stays above the floor
that it had before (`captureChecked_eq`), whatever was left open. So segmentation, building
at any depth, and judging come to the same outcomes as without faults, each proved from the
one before it.
-/

import BlockCheck.Judge
import BlockCheck.Proofs.CheckedLines
import BlockCheck.Proofs.Outlined

namespace BlockCheck

/-! ### Blocks -/

/-- What was taken for a block, with the count of all blocks that are open after it. -/
structure CheckedCapture where
  /-- The lines of the body. -/
  body : List Text
  /-- How many blocks are open, inside and outside of this one. -/
  openBlocks : Nat
  /-- The lines after the block. -/
  rest : List Text
  deriving DecidableEq, Repr

/-- Put a line in front of the body. -/
def CheckedCapture.keep (line : Text) (taken : CheckedCapture) : CheckedCapture :=
  { taken with body := line :: taken.body }

/-- Take the body of a block that was opened with `floor` blocks open, until a closing line
brings the count back to that. -/
def captureChecked (floor openBlocks : Nat) : List Text → Except Fault CheckedCapture
  | [] => return ⟨[], openBlocks, []⟩
  | line :: rest =>
    match blockMark line with
    | .closes => do
      let lowered ← lower floor openBlocks
      if lowered = floor then return ⟨[], lowered, rest⟩
      else
        let taken ← captureChecked floor lowered rest
        return taken.keep line
    | .opens => do
      let taken ← captureChecked floor (openBlocks + 1) rest
      return taken.keep line
    | .neutral => do
      let taken ← captureChecked floor openBlocks rest
      return taken.keep line

/-- With more blocks open than the floor, no count is lowered below the floor, and what is
taken is what a block takes that counts its own blocks only. -/
theorem captureChecked_eq (floor inner : Nat) (available : List Text) :
    captureChecked floor (floor + inner + 1) available =
      .ok ⟨(capture inner available).body, floor + (capture inner available).stillOpen,
        (capture inner available).rest⟩ := by
  fun_induction capture inner available with
  | case1 inner => rfl
  | case2 line rest isClosing =>
    have lowered : lower floor (floor + 0 + 1) = .ok floor := lower_eq_ok_iff.mpr ⟨by omega, rfl⟩
    rw [captureChecked, isClosing, lowered]
    exact if_pos rfl
  | case3 line rest outer isClosing inductionHypothesis =>
    have lowered : lower floor (floor + (outer + 1) + 1) = .ok (floor + outer + 1) :=
      lower_eq_ok_iff.mpr ⟨by omega, by omega⟩
    have above : floor + outer + 1 ≠ floor := by omega
    rw [captureChecked, isClosing, lowered]
    show (if floor + outer + 1 = floor then _ else _) = _
    rw [if_neg above, inductionHypothesis]
    rfl
  | case4 inner line rest isOpening inductionHypothesis =>
    have raised : floor + inner + 1 + 1 = floor + (inner + 1) + 1 := by omega
    rw [captureChecked, isOpening, raised, inductionHypothesis]
    rfl
  | case5 inner line rest isNeutral inductionHypothesis =>
    rw [captureChecked, isNeutral, inductionHypothesis]
    rfl

/-- A closing line with nothing open above the floor is at fault. -/
example : captureChecked 1 1 [closingLine] = .error (.nothingAbove 1) := by rfl

/-- Open a block with `opened` blocks open before it, and take its body. -/
def openBlockChecked (opened : Nat) (available : List Text) : Except Fault CheckedCapture := do
  let floor ← lower 0 (opened + 1)
  captureChecked floor (opened + 1) available

theorem openBlockChecked_eq (opened : Nat) (available : List Text) :
    openBlockChecked opened available =
      .ok ⟨(capture 0 available).body, opened + (capture 0 available).stillOpen,
        (capture 0 available).rest⟩ :=
  captureChecked_eq opened 0 available

/-- Cut lines into segments, with `opened` blocks open before them. -/
def segmentLinesChecked (depth opened : Nat) : List Text → Except Fault Segmentation
  | [] => return ⟨[], opened⟩
  | line :: available => do
    match ← LineForm.ofLineChecked line with
    | .statement content =>
      let found ← segmentLinesChecked depth opened available
      return found.add (.statement depth content)
    | .header header =>
      match _ : openBlockChecked opened available with
      | .error fault => throw fault
      | .ok block =>
        let found ← segmentLinesChecked depth block.openBlocks block.rest
        return found.add (.block depth header block.body)
    | .unreadable => segmentLinesChecked depth opened available
termination_by available => available.length
decreasing_by
  · simp
  · rename_i taken
    rw [openBlockChecked_eq, Except.ok.injEq] at taken
    subst taken
    exact length_capture_rest_lt line available
  · simp

/-- The segmentation of statement lines never faults, whatever was left open before. -/
theorem segmentLinesChecked_eq (depth opened : Nat) (available : List Text)
    (proper : ∀ line ∈ available, IsStatementLine line) :
    segmentLinesChecked depth opened available = .ok (segmentLines depth opened available) := by
  fun_induction segmentLines depth opened available with
  | case1 opened =>
    rw [segmentLinesChecked]
    rfl
  | case2 opened line available content isStatement inductionHypothesis =>
    obtain ⟨properLine, properRest⟩ := List.forall_mem_cons.mp proper
    rw [segmentLinesChecked, ofLineChecked_eq properLine, isStatement]
    show (segmentLinesChecked depth opened available >>= _) = _
    rw [inductionHypothesis properRest]
    rfl
  | case3 opened line available header isHeader inductionHypothesis =>
    obtain ⟨properLine, properRest⟩ := List.forall_mem_cons.mp proper
    have properAfter : ∀ later ∈ (capture 0 available).rest, IsStatementLine later :=
      fun later member => properRest later (mem_of_mem_capture_rest member)
    rw [segmentLinesChecked, ofLineChecked_eq properLine, isHeader]
    show (match _ : openBlockChecked opened available with | .error _ => _ | .ok _ => _) = _
    split
    · rename_i fault faulted
      rw [openBlockChecked_eq] at faulted
      simp at faulted
    · rename_i block taken
      rw [openBlockChecked_eq, Except.ok.injEq] at taken
      subst taken
      show (segmentLinesChecked depth (opened + (capture 0 available).stillOpen)
        (capture 0 available).rest >>= _) = _
      rw [inductionHypothesis properAfter]
      rfl
  | case4 opened line available isUnreadable inductionHypothesis =>
    obtain ⟨properLine, properRest⟩ := List.forall_mem_cons.mp proper
    rw [segmentLinesChecked, ofLineChecked_eq properLine, isUnreadable]
    exact inductionHypothesis properRest

/-- The segmentation of the statement lines of a text never faults. -/
theorem segmentLinesChecked_statementLines (depth opened : Nat) (text : Text) :
    segmentLinesChecked depth opened (statementLines text) =
      .ok (segmentLines depth opened (statementLines text)) :=
  segmentLinesChecked_eq depth opened _ fun _ => isStatementLine_of_mem_statementLines

/-- The segmentation of the body of a block never faults. -/
theorem segmentLinesChecked_innerLines (inner depth : Nat) (header : Header) (body : List Text) :
    segmentLinesChecked inner 0 (Segment.block depth header body).innerLines =
      .ok (segmentLines inner 0 (Segment.block depth header body).innerLines) :=
  segmentLinesChecked_statementLines inner 0 (joinLines body)

/-! ### Trees -/

/-- Why a computation ends without a value: for a fault, or with a failure of its own. -/
inductive Halt (Failure : Type) where
  /-- An operation was used outside of its domain. -/
  | fault (cause : Fault)
  /-- The computation failed as it says it can. -/
  | failure (cause : Failure)
  deriving DecidableEq, Repr

/-- Change how a failure is told; a fault stays what it is. -/
def Halt.map {Failure Other : Type} (change : Failure → Other) : Halt Failure → Halt Other
  | .fault cause => .fault cause
  | .failure cause => .failure (change cause)

mutual

/-- The node of a segment. -/
def Segment.buildChecked : Segment → Except (Halt BlockFailure) Node
  | .statement depth content => return .statement depth content
  | .block depth header body =>
    match _ : segmentLinesChecked (depth + 1) 0 (Segment.block depth header body).innerLines with
    | .error fault => throw (.fault fault)
    | .ok found =>
      if found.openBlocks = 0 then do
        let children ← buildAllChecked found.segments
        return .block depth header children
      else throw (.failure ⟨depth + 1, ⟨found.openBlocks⟩⟩)
termination_by segment => 2 * segment.innerLines.length + 1
decreasing_by
  rename_i read _
  rw [segmentLinesChecked_innerLines, Except.ok.injEq] at read
  subst read
  have bound := totalLineCount_innerSegments_le depth header body (depth + 1)
  omega

/-- The nodes of some segments, in order, up to the first that has none. -/
def buildAllChecked : List Segment → Except (Halt BlockFailure) (List Node)
  | [] => return []
  | segment :: rest => do
    let node ← segment.buildChecked
    let nodes ← buildAllChecked rest
    return node :: nodes
termination_by segments => 2 * totalLineCount segments
decreasing_by
  · simp only [totalLineCount, Segment.lineCount]
    omega
  · simp only [totalLineCount, Segment.lineCount]
    omega

end

section

variable {Failure Other Value Next : Type}

/-- An outcome of a computation that cannot fault. -/
def withoutFault (outcome : Except Failure Value) : Except (Halt Failure) Value :=
  outcome.mapError .failure

theorem withoutFault_bind (outcome : Except Failure Value)
    (continuation : Value → Except Failure Next) :
    (withoutFault outcome >>= fun value => withoutFault (continuation value)) =
      withoutFault (outcome.bind continuation) := by
  cases outcome <;> rfl

theorem mapError_withoutFault (change : Failure → Other) (outcome : Except Failure Value) :
    (withoutFault outcome).mapError (Halt.map change) = withoutFault (outcome.mapError change) := by
  cases outcome <;> rfl

end

mutual

/-- The node of a segment is built without fault, at any depth. -/
theorem buildChecked_eq (segment : Segment) :
    segment.buildChecked = withoutFault segment.build.outcome := by
  match segment with
  | .statement depth content =>
    rw [Segment.buildChecked, Segment.build]
    rfl
  | .block depth header body =>
    have bound := totalLineCount_innerSegments_le depth header body (depth + 1)
    have built := buildAllChecked_eq (segmentLines (depth + 1) 0
      (Segment.block depth header body).innerLines).segments
    rw [Segment.buildChecked, Segment.build]
    split
    · rename_i fault faulted
      rw [segmentLinesChecked_innerLines] at faulted
      simp at faulted
    · rename_i found read
      rw [segmentLinesChecked_innerLines, Except.ok.injEq] at read
      subst read
      by_cases closed : (segmentLines (depth + 1) 0
          (Segment.block depth header body).innerLines).openBlocks = 0
      · rw [if_pos closed, if_pos closed, built]
        simp only [Traced.outcome_after, Traced.outcome_bind, Traced.outcome_pure]
        exact withoutFault_bind _ fun children => .ok (Node.block depth header children)
      · rw [if_neg closed, if_neg closed]
        rfl
termination_by 2 * segment.innerLines.length + 1

/-- The nodes of some segments are built without fault. -/
theorem buildAllChecked_eq (segments : List Segment) :
    buildAllChecked segments = withoutFault (buildAll segments).outcome := by
  match segments with
  | [] =>
    rw [buildAllChecked, buildAll]
    rfl
  | segment :: rest =>
    have first := buildChecked_eq segment
    have later := buildAllChecked_eq rest
    rw [buildAllChecked, outcome_buildAll_cons, first, later, ← withoutFault_bind]
    congr 1
    funext node
    exact withoutFault_bind _ fun nodes => .ok (node :: nodes)
termination_by 2 * totalLineCount segments
decreasing_by
  · simp only [totalLineCount, Segment.lineCount]
    omega
  · simp only [totalLineCount, Segment.lineCount]
    omega

end

/-! ### Programs -/

/-- The tree of a program. -/
def readProgramChecked (source : Text) : Except (Halt ReadFailure) (List Node) := do
  let found ← (segmentLinesChecked 0 0 (statementLines source)).mapError .fault
  let segments ← withoutFault (found.outcome.mapError .source)
  (buildAllChecked segments).mapError (Halt.map .block)

/-- A tree is read without fault, or it is found that there is none. -/
theorem readProgramChecked_eq (source : Text) :
    readProgramChecked source = withoutFault (readProgram source).outcome := by
  rw [readProgramChecked, segmentLinesChecked_statementLines, outcome_readProgram, readLines]
  show (withoutFault _ >>= fun segments => _) = _
  cases (segmentLines 0 0 (statementLines source)).outcome with
  | error cause => rfl
  | ok segments =>
    show (buildAllChecked segments).mapError (Halt.map ReadFailure.block) = _
    rw [buildAllChecked_eq, mapError_withoutFault]

/-- Judge a program. The scans of the text and the rules of the grammar cannot fault. -/
def judgeChecked (source : Text) : Except (Halt Rejection) Unit :=
  if !hasBalancedBrackets source then throw (.failure (.structural .unbalancedBrackets))
  else if !hasLoopClauses source then throw (.failure (.structural .incompleteLoopClauses))
  else do
    let nodes ← (readProgramChecked source).mapError (Halt.map Rejection.ofReadFailure)
    withoutFault (judgeNodes nodes).outcome

theorem judgeChecked_eq (source : Text) :
    judgeChecked source = withoutFault (judge source).outcome := by
  unfold judgeChecked judge
  cases hasBalancedBrackets source with
  | false => rfl
  | true =>
    cases hasLoopClauses source with
    | false => rfl
    | true =>
      simp only [Bool.not_true, Bool.false_eq_true, if_false]
      rw [readProgramChecked_eq, mapError_withoutFault, withoutFault_bind, Traced.outcome_bind,
        Traced.outcome_mapFailure]

/-- What is said about a program when faults are caught. -/
inductive GuardedVerdict where
  /-- Judging ended with a verdict. -/
  | reached (verdict : Verdict)
  /-- Judging ended with a fault. -/
  | unexpected
  deriving DecidableEq, Repr

/-- Catch a fault. -/
def GuardedVerdict.ofOutcome : Except (Halt Rejection) Unit → GuardedVerdict
  | .ok () => .reached .accepted
  | .error (.failure reason) => .reached (.rejected reason)
  | .error (.fault _) => .unexpected

/-- The verdict on a program that is judged with operations that can fault. -/
def guardedVerdict (source : Text) : GuardedVerdict := .ofOutcome (judgeChecked source)

theorem guardedVerdict_eq (source : Text) : guardedVerdict source = .reached (verdict source) := by
  rw [guardedVerdict, judgeChecked_eq, verdict]
  cases (judge source).outcome <;> rfl

/-- Nothing faults on the way from a text to its verdict. Every line is read, wherever it comes
from: the words after an index are there, and the offsets of its brackets bound pieces of it.
Every block is taken, whatever was left open before it, so its count never sinks below what it
was before the block. Segments, at any depth, and the tree are those that are found without
faults, and judging comes to the verdict. -/
theorem judging_never_faults (source : Text) :
    (∀ line : Text, LineForm.ofLineChecked line =
        .ok (LineForm.ofWords line (line.splitOn ' ') (line.splitOn ' '))) ∧
      (∀ (line : Text) (opening closing : Nat), findByte? '(' line = some opening →
        findByte? ')' line = some closing → ¬closing < opening →
          BoundPieces line opening closing) ∧
      (∀ (opened : Nat) (available : List Text), openBlockChecked opened available =
        .ok ⟨(capture 0 available).body, opened + (capture 0 available).stillOpen,
          (capture 0 available).rest⟩) ∧
      (∀ (depth opened : Nat) (text : Text),
        segmentLinesChecked depth opened (statementLines text) =
          .ok (segmentLines depth opened (statementLines text))) ∧
      readProgramChecked source = withoutFault (readProgram source).outcome ∧
      guardedVerdict source = .reached (verdict source) := by
  refine ⟨ofLineChecked_eq_ofWords, ?_, openBlockChecked_eq, segmentLinesChecked_statementLines,
    readProgramChecked_eq source, guardedVerdict_eq source⟩
  intro line opening closing opens closes ordered
  exact boundPieces_of_findByte? opens closes ordered

end BlockCheck
