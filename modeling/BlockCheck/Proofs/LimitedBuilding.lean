/-
This file bounds the reading of bodies inside bodies by the lines of the text. To build a block its
body is read as a text of its own, and to build a block in there the body of that one is read, while
the reading of the first has not ended. Here that is done with a limit on how many bodies are read
inside each other, by recursion on the limit alone; where one more would be needed, building is too
deep. How many are needed is then a number that can be spoken of (`Nests`): from that limit on,
building with a limit does what building without one does, and below it it is too deep.

What bounds the number are lines. The segments of a text take no more lines than it has, and a
block that is closed takes two more than its body, so each reading inside of another has two lines
less (`length_body_add_two_le`). The entries of a body do not bound it, because an entry that was
not captured from a text may hold many lines.

The same two lines, the header and the closing line of a block, are what each level of a tree costs.
-/

import BlockCheck.Proofs.DepthLabels
import BlockCheck.Proofs.Rereading
import Mathlib.Algebra.GroupWithZero.Nat

namespace BlockCheck

/-! ### The lines of segments -/

/-- The lines that are kept as the body of a segment. -/
def Segment.body : Segment → List Text
  | .statement _ _ => []
  | .block _ _ body => body

section

variable {depth opened : Nat} {text : Text}

/-- The body of a segment that is found in a text is read as the lines that are kept. -/
theorem innerLines_eq_body {segment : Segment}
    (member : segment ∈ (segmentLines depth opened (statementLines text)).segments) :
    segment.innerLines = segment.body := by
  cases segment with
  | statement around content => rfl
  | block around header body =>
    exact innerLines_of_body around header
      (isStatementLine_of_piece (infix_of_mem_segments member))

/-- The lines that the segments of a text take are their first lines and their bodies. -/
theorem totalLineCount_eq_sum {segments : List Segment}
    (sameLines : ∀ segment ∈ segments, segment.innerLines = segment.body) :
    totalLineCount segments = (segments.map fun segment => 1 + segment.body.length).sum := by
  induction segments with
  | nil => rfl
  | cons segment rest inductionHypothesis =>
    obtain ⟨same, sameRest⟩ := List.forall_mem_cons.mp sameLines
    rw [totalLineCount, Segment.lineCount, same, inductionHypothesis sameRest, List.map_cons,
      List.sum_cons, Nat.add_comm 1]

theorem totalLineCount_statementLines_le :
    totalLineCount (segmentLines depth opened (statementLines text)).segments ≤
      (statementLines text).length :=
  totalLineCount_segmentLines_le depth opened _ fun _ => isStatementLine_of_mem_statementLines

/-- A body has fewer lines than the text that it was found in. -/
theorem length_body_lt {segment : Segment}
    (member : segment ∈ (segmentLines depth opened (statementLines text)).segments) :
    segment.body.length < (statementLines text).length := by
  rw [← innerLines_eq_body member]
  exact Nat.lt_of_lt_of_le (Nat.lt_succ_self _)
    (Nat.le_trans (lineCount_le_totalLineCount member) totalLineCount_statementLines_le)

end

/-- Where no block is left open, the body of each block lacks at least two of the lines: its header
and its closing line. -/
theorem length_body_add_two_le {depth around : Nat} {available body : List Text} {header : Header}
    (closed : (segmentLines depth 0 available).openBlocks = 0)
    (member : .block around header body ∈ (segmentLines depth 0 available).segments) :
    body.length + 2 ≤ available.length := by
  induction available using segment_induction with
  | nil =>
    rw [segmentLines_nil] at member
    exact absurd member List.not_mem_nil
  | statement line content rest isStatement inductionHypothesis =>
    rw [segmentLines_statement _ _ isStatement] at closed member
    rcases List.mem_cons.mp member with first | later
    · nomatch first
    · exact Nat.le_succ_of_le (inductionHypothesis closed later)
  | unreadable line rest isUnreadable inductionHypothesis =>
    rw [segmentLines_unreadable _ _ isUnreadable] at closed member
    exact Nat.le_succ_of_le (inductionHypothesis closed member)
  | block line other inside rest isHeader balanced insideHypothesis restHypothesis =>
    rw [segmentLines_block _ _ isHeader balanced] at closed member
    rw [List.length_cons, List.length_append, List.length_cons]
    rcases List.mem_cons.mp member with first | later
    · obtain ⟨-, -, rfl⟩ := Segment.block.inj first
      omega
    · have bound := restHypothesis closed later
      omega
  | unfinished line other inside level isHeader followed insideHypothesis =>
    rw [segmentLines_unfinished _ _ isHeader followed, Nat.zero_add] at closed
    exact absurd closed (Nat.succ_ne_zero level)

/-! ### Building with a limit -/

section

variable {Failure : Type} (read : Nat → List Text → Traced Failure (List Node))

/-- Build a segment, where the body of a block at a depth is read in a given way. -/
def Segment.buildBy : Segment → Traced Failure Node
  | .statement depth content => pure (.statement depth content)
  | .block depth header body => do
    let children ← read depth body
    return .block depth header children

/-- Build some segments, in order, up to the first failure. -/
def buildAllBy : List Segment → Traced Failure (List Node)
  | [] => pure []
  | segment :: rest => do
    let node ← segment.buildBy read
    let nodes ← buildAllBy rest
    return node :: nodes

end

/-- Read the segments of the body of a block at a depth, and enter it. -/
def enterBody (depth : Nat) (body : List Text) : Traced BlockFailure (List Segment) := do
  let segments ←
    (readSegments (depth + 1) (joinLines body)).mapFailure (BlockFailure.mk (depth + 1))
  Traced.record (.blockEntered (depth + 1) segments.length)
  return segments

/-- Why building with a limit gives no nodes. -/
inductive LimitedFailure where
  /-- A body ended while blocks inside it were still open. -/
  | block (failure : BlockFailure)
  /-- More bodies would have to be read inside each other than the limit allows. -/
  | tooDeep
  deriving DecidableEq, Repr

/-- Build the nodes in the body of a block, where no more bodies are read inside each other than the
limit, this one included. -/
def readBodyWithin : Nat → Nat → List Text → Traced LimitedFailure (List Node)
  | 0, _, _ => .fail .tooDeep
  | limit + 1, depth, body => do
    let segments ← (enterBody depth body).mapFailure .block
    buildAllBy (readBodyWithin limit) segments

/-- Build a segment, where no more bodies are read inside each other than the limit. -/
def Segment.buildWithin (segment : Segment) (limit : Nat) : Traced LimitedFailure Node :=
  segment.buildBy (readBodyWithin limit)

section

variable {depth : Nat} {body : List Text}

theorem enterBody_of_ok {segments : List Segment}
    (read : (readSegments (depth + 1) (joinLines body)).outcome = .ok segments) :
    enterBody depth body = ⟨(readSegments (depth + 1) (joinLines body)).events ++
      [.blockEntered (depth + 1) segments.length], .ok segments⟩ := by
  have told := congrArg (Except.mapError (BlockFailure.mk (depth + 1))) read
  rw [enterBody, Traced.bind_of_ok told]
  rfl

theorem enterBody_of_error {cause : Unterminated}
    (read : (readSegments (depth + 1) (joinLines body)).outcome = .error cause) :
    enterBody depth body =
      ⟨(readSegments (depth + 1) (joinLines body)).events, .error ⟨depth + 1, cause⟩⟩ := by
  have told := congrArg (Except.mapError (BlockFailure.mk (depth + 1))) read
  rw [enterBody, Traced.bind_of_error told]
  rfl

/-- A body that is entered holds the segments that its text is read as. -/
theorem read_of_enterBody {segments : List Segment}
    (entered : (enterBody depth body).outcome = .ok segments) :
    (readSegments (depth + 1) (joinLines body)).outcome = .ok segments := by
  cases read : (readSegments (depth + 1) (joinLines body)).outcome with
  | error cause =>
    rw [enterBody_of_error read] at entered
    nomatch entered
  | ok found =>
    rw [enterBody_of_ok read] at entered
    rw [Except.ok.inj entered]

end

/-- Without a limit, a block is built by entering its body and building the segments in it. -/
theorem build_block_eq (depth : Nat) (header : Header) (body : List Text) :
    (Segment.block depth header body).build =
      (enterBody depth body >>= buildAll) >>= fun children =>
        pure (.block depth header children) := by
  rw [Segment.build]
  split
  case isTrue closed =>
    have entered := enterBody_of_ok (if_pos closed)
    rw [Traced.bind_of_ok (congrArg Traced.outcome entered), entered, Traced.after_bind]
    simp only [Traced.after, List.append_assoc]
    rfl
  case isFalse unclosed =>
    rw [enterBody_of_error (if_neg unclosed), Traced.bind_of_error rfl, Traced.bind_of_error rfl,
      Traced.after, Traced.events_fail, List.append_nil]
    rfl

/-! ### How many bodies are read inside each other -/

/-- A computation with a limit needs a number of bodies inside each other. With that limit, or a
higher one, it comes to the same as without a limit, with the same events; with a lower one it is
too deep. -/
structure Nests {Value : Type} (limited : Nat → Traced LimitedFailure Value)
    (unlimited : Traced BlockFailure Value) (count : Nat) : Prop where
  enough : ∀ limit, count ≤ limit → limited limit = unlimited.mapFailure .block
  tooDeep : ∀ limit, limit < count → (limited limit).outcome = .error .tooDeep

section

variable {Value Next : Type} {limited : Nat → Traced LimitedFailure Value}
  {unlimited : Traced BlockFailure Value} {count bound : Nat}

/-- What does not look at the limit needs no body. -/
theorem nests_zero (unlimited : Traced BlockFailure Value) :
    Nests (fun _ => unlimited.mapFailure .block) unlimited 0 :=
  ⟨fun _ _ => rfl, fun _ below => absurd below (Nat.not_lt_zero _)⟩

theorem nests_pure (value : Value) : Nests (fun _ => pure value) (pure value) 0 :=
  nests_zero (pure value)

/-- A body around a computation is one more. -/
theorem Nests.succ (nests : Nests limited unlimited count)
    {around : Nat → Traced LimitedFailure Value} (nothing : (around 0).outcome = .error .tooDeep)
    (more : ∀ limit, around (limit + 1) = limited limit) : Nests around unlimited (count + 1) := by
  constructor
  · intro limit enough
    obtain ⟨inner, rfl⟩ : ∃ inner, limit = inner + 1 :=
      Nat.exists_eq_succ_of_ne_zero (Nat.ne_zero_of_lt enough)
    rw [more, nests.enough inner (Nat.le_of_succ_le_succ enough)]
  · intro limit below
    cases limit with
    | zero => exact nothing
    | succ inner =>
      rw [more, nests.tooDeep inner (Nat.lt_of_succ_lt_succ below)]

/-- Two steps need as many bodies as the one that needs more. The second step needs none where it is
not reached. -/
theorem Nests.bind (nests : Nests limited unlimited count) (within : count ≤ bound)
    {limitedNext : Nat → Value → Traced LimitedFailure Next}
    {unlimitedNext : Value → Traced BlockFailure Next}
    (next : ∀ value, unlimited.outcome = .ok value →
      ∃ more ≤ bound, Nests (fun limit => limitedNext limit value) (unlimitedNext value) more) :
    ∃ total ≤ bound,
      Nests (fun limit => limited limit >>= limitedNext limit) (unlimited >>= unlimitedNext)
        total := by
  cases ended : unlimited.outcome with
  | error failure =>
    refine ⟨count, within, ⟨fun limit enough => ?_, fun limit below => ?_⟩⟩
    · rw [nests.enough limit enough, Traced.bind_of_error ended,
        Traced.bind_of_error (congrArg (Except.mapError LimitedFailure.block) ended)]
      rfl
    · rw [Traced.outcome_bind, nests.tooDeep limit below]
      rfl
  | ok value =>
    obtain ⟨more, moreWithin, nestsNext⟩ := next value ended
    refine ⟨max count more, Nat.max_le.mpr ⟨within, moreWithin⟩,
      ⟨fun limit enough => ?_, fun limit below => ?_⟩⟩
    · rw [nests.enough limit (Nat.le_trans (Nat.le_max_left _ _) enough), Traced.bind_of_ok ended,
        Traced.bind_of_ok (congrArg (Except.mapError LimitedFailure.block) ended),
        nestsNext.enough limit (Nat.le_trans (Nat.le_max_right _ _) enough)]
      rfl
    · rw [Traced.outcome_bind]
      rcases Nat.lt_or_ge limit count with fewer | enough
      · rw [nests.tooDeep limit fewer]
        rfl
      · have fewer : limit < more := by omega
        rw [nests.enough limit enough, Traced.outcome_mapFailure, ended]
        exact nestsNext.tooDeep limit fewer

end

/-! ### Lines bound the number of bodies -/

/-- Segments need as many bodies inside each other as the one that needs the most. -/
theorem exists_nests_buildAll {bound : Nat} {segments : List Segment}
    (each : ∀ segment ∈ segments, ∃ count ≤ bound, Nests segment.buildWithin segment.build count) :
    ∃ count ≤ bound,
      Nests (fun limit => buildAllBy (readBodyWithin limit) segments) (buildAll segments)
        count := by
  induction segments with
  | nil =>
    rw [buildAll]
    exact ⟨0, Nat.zero_le _, nests_pure []⟩
  | cons segment rest inductionHypothesis =>
    obtain ⟨⟨count, within, nests⟩, eachLater⟩ := List.forall_mem_cons.mp each
    obtain ⟨more, moreWithin, nestsLater⟩ := inductionHypothesis eachLater
    rw [buildAll]
    refine nests.bind within fun node _ => ?_
    exact nestsLater.bind moreWithin fun nodes _ =>
      ⟨0, Nat.zero_le _, nests_pure (node :: nodes)⟩

/-- How many bodies a segment needs at most: for a block one, and one more for each two lines of its
body. -/
def Segment.nestingBound (segment : Segment) : Nat :=
  match segment with
  | .statement _ _ => 0
  | .block _ _ _ => segment.innerLines.length / 2 + 1

theorem Segment.two_mul_nestingBound_le (segment : Segment) :
    2 * segment.nestingBound ≤ segment.innerLines.length + 2 := by
  cases segment with
  | statement depth content => exact Nat.zero_le _
  | block depth header body =>
    rw [Segment.nestingBound]
    omega

/-- A segment that is found in a text without open blocks needs one body less than a block with that
text in it. -/
theorem nestingBound_le_of_readSegments {depth : Nat} {text : Text} {segments : List Segment}
    (read : (readSegments depth text).outcome = .ok segments) {segment : Segment}
    (member : segment ∈ segments) : segment.nestingBound ≤ (statementLines text).length / 2 := by
  obtain ⟨closed, rfl⟩ := outcome_eq_ok_iff.mp read
  cases segment with
  | statement around content => exact Nat.zero_le _
  | block around header body =>
    have shorter := length_body_add_two_le closed member
    rw [Segment.nestingBound, innerLines_eq_body member, Segment.body]
    omega

theorem exists_nests_build (segment : Segment) :
    ∃ count ≤ segment.nestingBound, Nests segment.buildWithin segment.build count := by
  induction segment using body_induction with
  | statement depth content =>
    rw [Segment.build]
    exact ⟨0, Nat.le_refl 0, nests_pure _⟩
  | block depth header body inductionHypothesis =>
    have inside : ∀ segments, (enterBody depth body).outcome = .ok segments →
        ∃ count ≤ (statementLines (joinLines body)).length / 2,
          Nests (fun limit => buildAllBy (readBodyWithin limit) segments) (buildAll segments)
            count := by
      intro segments entered
      have read := read_of_enterBody entered
      refine exists_nests_buildAll fun segment member => ?_
      obtain ⟨count, within, nests⟩ := inductionHypothesis segments read segment member
      exact ⟨count, Nat.le_trans within (nestingBound_le_of_readSegments read member), nests⟩
    obtain ⟨count, within, nests⟩ := (nests_zero (enterBody depth body)).bind (Nat.zero_le _) inside
    have around : Nests (fun limit => readBodyWithin limit depth body)
        (enterBody depth body >>= buildAll) (count + 1) :=
      nests.succ rfl fun _ => rfl
    rw [build_block_eq]
    exact around.bind (Nat.succ_le_succ within) fun children _ =>
      ⟨0, Nat.zero_le _, nests_pure _⟩

/-! ### Lines bound the depth of a tree -/

/-- Each level above a node takes a header and a closing line, and the node takes a line. -/
theorem Outlined.two_mul_depth_lt {depth : Nat} {available : List Text} {nodes : List Node}
    (outlined : Outlined depth available nodes) :
    ∀ node ∈ allNodes nodes, 2 * node.depth + 1 ≤ 2 * depth + available.length := by
  induction outlined with
  | nil depth => exact List.forall_mem_nil _
  | @statement depth line content rest nodes isStatement later inductionHypothesis =>
    refine List.forall_mem_cons.mpr ⟨?_, fun node member => ?_⟩
    · rw [Node.depth, List.length_cons]
      omega
    · exact Nat.le_succ_of_le (inductionHypothesis node member)
  | unreadable isUnreadable later inductionHypothesis =>
    exact fun node member => Nat.le_succ_of_le (inductionHypothesis node member)
  | @block depth line header body rest children nodes isHeader balanced inside later
      insideHypothesis laterHypothesis =>
    rw [List.length_cons, List.length_append, List.length_cons]
    refine List.forall_mem_cons.mpr
      ⟨?_, List.forall_mem_append.mpr ⟨fun node member => ?_, fun node member => ?_⟩⟩
    · rw [Node.depth]
      omega
    · have below := insideHypothesis node member
      omega
    · have beside := laterHypothesis node member
      omega

/-! ### Bounds -/

/-- Reading bodies inside bodies ends, and lines bound how deep it goes. The segments that a reader
finds in a text, whether blocks are left open or not, have together no more lines than the text, so
that each body has fewer. To build a segment, whatever its body holds, some number of bodies has to
be read inside each other and no more; it is at most one more than the lines that the body is read
as, and even at most one more than half of them. In the tree of a program a node has two lines
around it for each level of its depth, besides its own. -/
theorem lines_bound_reading :
    (∀ (depth : Nat) (text : Text),
        ((Reader.ofText depth text).found.segments.map fun segment =>
            1 + segment.body.length).sum ≤ (statementLines text).length ∧
          ∀ segment ∈ (Reader.ofText depth text).found.segments,
            segment.body.length < (statementLines text).length) ∧
      (∀ segment : Segment, ∃ count,
        count ≤ segment.innerLines.length + 1 ∧ 2 * count ≤ segment.innerLines.length + 2 ∧
          Nests segment.buildWithin segment.build count) ∧
      ∀ (source : Text) (nodes : List Node), (readProgram source).outcome = .ok nodes →
        ∀ node ∈ allNodes nodes, 2 * node.depth + 1 ≤ (statementLines source).length := by
  refine ⟨fun depth text => ⟨?_, fun segment member => length_body_lt member⟩, fun segment => ?_,
    fun source nodes read node member => ?_⟩
  · show ((segmentLines depth 0 (statementLines text)).segments.map _).sum ≤ _
    rw [← totalLineCount_eq_sum fun segment => innerLines_eq_body]
    exact totalLineCount_statementLines_le
  · obtain ⟨count, within, nests⟩ := exists_nests_build segment
    have bound := segment.two_mul_nestingBound_le
    exact ⟨count, by omega, by omega, nests⟩
  · have bound := (readProgram_eq_ok_iff.mp read).two_mul_depth_lt node member
    rwa [Nat.mul_zero, Nat.zero_add] at bound

/-- The text in the body of a block that fails, whose two lines are one entry there, and the branch
that is found in it. -/
def unclosedText : Text := "if ( b )\n\n x:1".toList

def unclosedBranch : Segment := .block 5 (.branch ['b']) ["x:1".toList]

/-- A text that leaves a block open, a body with more lines than entries, and a node two levels deep
in a program. -/
theorem lines_bound_reading_openBlock :
    (unclosedBranch ∈ (Reader.ofText 5 unclosedText).found.segments ∧
        unclosedBranch.body.length < (statementLines unclosedText).length) ∧
      (openBlock.innerLines.length = 2 ∧
        (openBlock.buildWithin 2).outcome = .error (.block ⟨5, ⟨1⟩⟩)) ∧
      (readProgram nestedSource).outcome = .ok nestedTree ∧
        Node.statement 2 (.declaration ['x'] ['1']) ∈ allNodes nestedTree ∧
        2 * 2 + 1 ≤ (statementLines nestedSource).length := by
  obtain ⟨found, nested, placed⟩ := lines_bound_reading
  have written : statementLines unclosedText = ["if ( b )".toList, "x:1".toList] := by
    decide +kernel
  have isBranch : LineForm.ofLine "if ( b )".toList = .header (.branch ['b']) := by decide
  have isFound : unclosedBranch ∈ (Reader.ofText 5 unclosedText).found.segments := by
    show unclosedBranch ∈ (segmentLines 5 0 (statementLines unclosedText)).segments
    rw [written, segmentLines_unfinished 5 0 isBranch (by rfl)]
    exact List.mem_singleton_self _
  have twoLines : openBlock.innerLines.length = 2 := congrArg List.length written
  obtain ⟨count, -, within, nests⟩ := nested openBlock
  have isDeep : Node.statement 2 (.declaration ['x'] ['1']) ∈ allNodes nestedTree := by
    simp [nestedTree, allNodes, Node.preorder]
  refine ⟨⟨isFound, (found 5 unclosedText).2 _ isFound⟩, ⟨twoLines, ?_⟩, readProgram_nestedSource,
    isDeep, placed nestedSource nestedTree readProgram_nestedSource _ isDeep⟩
  rw [nests.enough 2 (by omega), Traced.outcome_mapFailure, build_openBlock]
  rfl

end BlockCheck
