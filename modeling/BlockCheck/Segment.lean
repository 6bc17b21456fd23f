/-
This file cuts the lines of a program into segments. A segment is one statement, or the
header of a block together with the lines of its body, which are kept as they are and read
later. Lines that start an unreadable header make no segment.

A body that is never closed still makes a segment; what is wrong then is said by the number
of open blocks that the segmentation ends with. The bodies are smaller than the program by
at least one line for each segment (`totalLineCount_segmentLines_le`), which is why reading
bodies inside bodies ends.
-/

import BlockCheck.Capture
import BlockCheck.LineForm

namespace BlockCheck

/-! ### Segments -/

/-- A piece of a program, found at a nesting depth. -/
inductive Segment where
  /-- One statement. -/
  | statement (depth : Nat) (content : Statement)
  /-- The header of a block and the lines of its body. -/
  | block (depth : Nat) (header : Header) (body : List Text)
  deriving DecidableEq, Repr

/-- The nesting depth at which a segment was found. -/
def Segment.depth : Segment → Nat
  | .statement depth _ => depth
  | .block depth _ _ => depth

/-- A segment as messages show it: its texts, and for a block the number of its lines. -/
def Segment.summary : Segment → String
  | .statement _ content => content.summary
  | .block _ header body => header.summary ++ " (" ++ toString body.length ++ " body lines)"

/-- The statement lines that the body of a segment is read as: its lines are joined and read
again, so an entry may hold several of them or none. -/
def Segment.innerLines : Segment → List Text
  | .statement _ _ => []
  | .block _ _ body => statementLines (joinLines body)

/-- The number of statement lines that a segment takes, its closing line apart. -/
def Segment.lineCount (segment : Segment) : Nat := segment.innerLines.length + 1

/-- The number of statement lines that some segments take, their closing lines apart. -/
def totalLineCount : List Segment → Nat
  | [] => 0
  | segment :: rest => segment.lineCount + totalLineCount rest

/-! ### Segmentations -/

/-- The segments of some lines and the number of blocks that are open at their end. -/
structure Segmentation where
  segments : List Segment
  openBlocks : Nat
  deriving DecidableEq, Repr

/-- Put a segment in front. -/
def Segmentation.add (segment : Segment) (found : Segmentation) : Segmentation :=
  { found with segments := segment :: found.segments }

/-- The rest after a block is shorter than the lines from its header on. -/
theorem length_capture_rest_lt (line : Text) (available : List Text) :
    (capture 0 available).rest.length < (line :: available).length := by
  have bound := length_capture_le 0 available
  simp only [List.length_cons]
  omega

/-- Cut lines into segments, with `opened` blocks open before them. -/
def segmentLines (depth opened : Nat) : List Text → Segmentation
  | [] => ⟨[], opened⟩
  | line :: available =>
    match LineForm.ofLine line with
    | .statement content => (segmentLines depth opened available).add (.statement depth content)
    | .header header =>
      (segmentLines depth (opened + (capture 0 available).stillOpen) (capture 0 available).rest).add
        (.block depth header (capture 0 available).body)
    | .unreadable => segmentLines depth opened available
termination_by available => available.length
decreasing_by
  · simp
  · exact length_capture_rest_lt line available
  · simp

/-- The input ended while blocks were still open. -/
structure Unterminated where
  /-- How many blocks were open. -/
  openBlocks : Nat
  deriving DecidableEq, Repr

/-- The message for an input that ended inside a block. -/
def Unterminated.message (cause : Unterminated) : String :=
  toString cause.openBlocks ++ " block(s) still open at end of input"

/-- The segments, provided that no block is left open. -/
def Segmentation.outcome (found : Segmentation) : Except Unterminated (List Segment) :=
  if found.openBlocks = 0 then .ok found.segments else .error ⟨found.openBlocks⟩

/-! ### Bodies are smaller -/

/-- The body of a segment that was cut from statement lines is read as the same lines. -/
theorem innerLines_of_body (depth : Nat) (header : Header) {body : List Text}
    (proper : ∀ line ∈ body, IsStatementLine line) :
    (Segment.block depth header body).innerLines = body :=
  statementLines_joinLines proper

/-- All segments together take no more lines than there are. -/
theorem totalLineCount_segmentLines_le (depth opened : Nat) (available : List Text)
    (proper : ∀ line ∈ available, IsStatementLine line) :
    totalLineCount (segmentLines depth opened available).segments ≤ available.length := by
  fun_induction segmentLines depth opened available with
  | case1 => simp [totalLineCount]
  | case2 opened line available content isStatement inductionHypothesis =>
    have bound := inductionHypothesis fun later member =>
      proper later (List.mem_cons_of_mem _ member)
    simp only [Segmentation.add, totalLineCount, Segment.lineCount,
      Segment.innerLines, List.length_nil, List.length_cons]
    omega
  | case3 opened line available header isHeader inductionHypothesis =>
    have bound := inductionHypothesis fun later member =>
      proper later (List.mem_cons_of_mem _ (mem_of_mem_capture_rest member))
    have split := length_capture_le 0 available
    have same : (Segment.block depth header (capture 0 available).body).innerLines =
        (capture 0 available).body :=
      innerLines_of_body depth header fun later member =>
        proper later (List.mem_cons_of_mem _ (mem_of_mem_capture_body member))
    simp only [Segmentation.add, totalLineCount, Segment.lineCount, same,
      List.length_cons]
    omega
  | case4 opened line available isUnreadable inductionHypothesis =>
    have bound := inductionHypothesis fun later member =>
      proper later (List.mem_cons_of_mem _ member)
    simp only [List.length_cons]
    omega

end BlockCheck
