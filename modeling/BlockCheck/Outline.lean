/-
This file builds the tree of a program from its segments. A statement is a node as it is;
the body of a block is read as a text of its own, one level deeper, and the nodes of its
segments are the children.

Building ends because a body has fewer statement lines than the text it was cut from
(`totalLineCount_segmentLines_le`). That holds of every segment, also of one whose body was
not cut from a text: what counts is the number of lines that the body is read as.
-/

import BlockCheck.Reader

namespace BlockCheck

/-! ### Building nodes -/

/-- The body of a block ended while blocks inside it were still open. -/
structure BlockFailure where
  /-- The depth of the body. -/
  depth : Nat
  /-- What was found at the end of the body. -/
  cause : Unterminated
  deriving DecidableEq, Repr

/-- The lines that all segments of a body take are no more than the body is read as. -/
theorem totalLineCount_innerSegments_le (depth : Nat) (header : Header) (body : List Text)
    (inner : Nat) :
    totalLineCount (segmentLines inner 0 (Segment.block depth header body).innerLines).segments ≤
      (Segment.block depth header body).innerLines.length :=
  totalLineCount_segmentLines_le inner 0 _ fun _ => isStatementLine_of_mem_statementLines

mutual

/-- The node of a segment. A depth is a number without a bound. A counter of fixed width shows the
same depths as long as it can hold the depth of the segment plus one level for its own body and one
for every two lines that the body is read as; blocks are never deeper inside each other. -/
def Segment.build : Segment → Traced BlockFailure Node
  | .statement depth content => pure (.statement depth content)
  | .block depth header body =>
    let found := segmentLines (depth + 1) 0 (Segment.block depth header body).innerLines
    .after (found.segments.map .segmentFound) <|
      if found.openBlocks = 0 then
        .after [.blockEntered (depth + 1) found.segments.length] do
          let children ← buildAll found.segments
          return .block depth header children
      else .fail ⟨depth + 1, ⟨found.openBlocks⟩⟩
termination_by segment => 2 * segment.innerLines.length + 1
decreasing_by
  have bound := totalLineCount_innerSegments_le depth header body (depth + 1)
  omega

/-- The nodes of some segments, in order, up to the first failure. -/
def buildAll : List Segment → Traced BlockFailure (List Node)
  | [] => pure []
  | segment :: rest => do
    let node ← segment.build
    let nodes ← buildAll rest
    return node :: nodes
termination_by segments => 2 * totalLineCount segments
decreasing_by
  · simp only [totalLineCount, Segment.lineCount]
    omega
  · simp only [totalLineCount, Segment.lineCount]
    omega

end

/-! ### Programs -/

/-- Why a text has no tree. -/
inductive ReadFailure where
  /-- A block of the text itself is not closed. -/
  | source (cause : Unterminated)
  /-- A block inside a body is not closed. -/
  | block (failure : BlockFailure)
  deriving DecidableEq, Repr

/-- What was found where a text or a body ended too early. -/
def ReadFailure.cause : ReadFailure → Unterminated
  | .source cause => cause
  | .block failure => failure.cause

/-- The message for a text without a tree. -/
def ReadFailure.message : ReadFailure → String
  | .source cause => cause.message
  | .block failure =>
    "in block at depth " ++ toString failure.depth ++ ": " ++ failure.cause.message

/-- The tree of a program. -/
def readProgram (source : Text) : Traced ReadFailure (List Node) := do
  let segments ← (readSegments 0 source).mapFailure .source
  (buildAll segments).mapFailure .block

/-! ### Building again after a failure -/

/-- Whether a segment has a node. -/
def Segment.builds (segment : Segment) : Bool :=
  match segment.build.outcome with
  | .ok _ => true
  | .error _ => false

/-- The segments that are left after building has stopped: those after the first failure. -/
def unbuilt (segments : List Segment) : List Segment := (segments.dropWhile Segment.builds).tail

/-- The outcomes of a number of attempts, each of which goes on where the one before it
stopped. -/
def buildAttempts : Nat → List Segment → List (Except BlockFailure (List Node))
  | 0, _ => []
  | count + 1, segments => (buildAll segments).outcome :: buildAttempts count (unbuilt segments)

/-- The outcomes of a number of attempts at the tree of a program. Where the text itself
cannot be read there is one outcome, whatever the number. -/
def readAttempts (count : Nat) (source : Text) : List (Except ReadFailure (List Node)) :=
  match (readSegments 0 source).outcome with
  | .error cause => [.error (.source cause)]
  | .ok segments => (buildAttempts count segments).map (Except.mapError .block)

end BlockCheck
