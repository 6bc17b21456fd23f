/-
This file proves that a depth is a label. Segments carry depths, nodes and failures get theirs from
the segments they come from, and nothing else depends on them. Two runs are compared whose inputs
differ in depths alone: reading a text, building nodes and searching them then come to the same, up
to depths again. A depth is erased by making it zero, and up to depths means after that.

Reading gives its depth to every segment and looks at it nowhere (`map_unlabeled_segments`). A body
is read one level below its block, so that blocks which differ in depth read the same body at two
depths; moving from one to the other is `readLines_deepen`. The search is followed through a forest
and through the same forest with its depths erased (`firstFinding?_unlabeledAll`).

The labels are exact nevertheless. A child stands one level below its parent, and the depth of a
failure is counted from the first segment that fails: each block that is entered on the way to the
body that is not closed adds one (`Segment.FailsAfter`). Depths are natural numbers and there is
always a next one.
-/

import BlockCheck.Proofs.Attempts
import BlockCheck.Proofs.ReadingEvents
import BlockCheck.Proofs.Unsearched

namespace BlockCheck

/-! ### Erasing depths -/

/-- A segment without its depth. -/
def Segment.unlabeled : Segment → Segment
  | .statement _ content => .statement 0 content
  | .block _ header body => .block 0 header body

mutual

/-- A node without its depth and those of all nodes below it. -/
def Node.unlabeled : Node → Node
  | .statement _ content => .statement 0 content
  | .block _ header children => .block 0 header (unlabeledAll children)

/-- Some nodes without the depths of them and of all nodes below them. -/
def unlabeledAll : List Node → List Node
  | [] => []
  | node :: rest => node.unlabeled :: unlabeledAll rest

end

/-- A finding without its depth. -/
def Finding.unlabeled (finding : Finding) : Finding := { finding with depth := 0 }

/-- What reading gives, without depths. -/
def unlabeledReading (outcome : Except Unterminated (List Segment)) :
    Except Unterminated (List Segment) :=
  outcome.map (List.map Segment.unlabeled)

/-- What building gives, without depths: the nodes, or the blocks that were left open. -/
def unlabeledBuilding (outcome : Except BlockFailure (List Node)) :
    Except Unterminated (List Node) :=
  (outcome.mapError BlockFailure.cause).map unlabeledAll

/-! ### Reading at two depths -/

/-- The segments of some lines do not depend on the depth they are found at, and neither do the
blocks that are left open. -/
theorem map_unlabeled_segments (depth other opened : Nat) (available : List Text) :
    (segmentLines depth opened available).segments.map Segment.unlabeled =
        (segmentLines other opened available).segments.map Segment.unlabeled ∧
      (segmentLines depth opened available).openBlocks =
        (segmentLines other opened available).openBlocks := by
  fun_induction segmentLines depth opened available with
  | case1 opened =>
    rw [segmentLines_nil]
    exact ⟨rfl, rfl⟩
  | case2 opened line available content isStatement inductionHypothesis =>
    rw [segmentLines_statement _ _ isStatement]
    exact ⟨congrArg (Segment.statement 0 content :: ·) inductionHypothesis.1, inductionHypothesis.2⟩
  | case3 opened line available header isHeader inductionHypothesis =>
    rw [segmentLines.eq_2 other, isHeader]
    exact ⟨congrArg (Segment.block 0 header (capture 0 available).body :: ·) inductionHypothesis.1,
      inductionHypothesis.2⟩
  | case4 opened line available isUnreadable inductionHypothesis =>
    rwa [segmentLines_unreadable _ _ isUnreadable]

theorem unlabeledReading_readSegments (depth other : Nat) (text : Text) :
    unlabeledReading (readSegments depth text).outcome =
      unlabeledReading (readSegments other text).outcome := by
  obtain ⟨sameSegments, sameCount⟩ := map_unlabeled_segments depth other 0 (statementLines text)
  show Except.map _ (Segmentation.outcome _) = Except.map _ (Segmentation.outcome _)
  rw [Segmentation.outcome, Segmentation.outcome, sameCount]
  split
  · exact congrArg Except.ok sameSegments
  · rfl

/-! ### Building from two lists of segments -/

mutual

theorem Node.unlabeled_deepen (levels : Nat) (node : Node) :
    (node.deepen levels).unlabeled = node.unlabeled := by
  cases node with
  | statement depth content => rfl
  | block depth header children =>
    rw [Node.deepen, Node.unlabeled, Node.unlabeled, unlabeledAll_deepenAll levels children]

theorem unlabeledAll_deepenAll (levels : Nat) (nodes : List Node) :
    unlabeledAll (deepenAll levels nodes) = unlabeledAll nodes := by
  cases nodes with
  | nil => rfl
  | cons node rest =>
    rw [deepenAll, unlabeledAll, unlabeledAll, Node.unlabeled_deepen levels node,
      unlabeledAll_deepenAll levels rest]

end

/-- Without depths, what a block gives is what its body is read as at depth zero. -/
theorem unlabeled_build_block (depth : Nat) (header : Header) (body : List Text) :
    ((Segment.block depth header body).build.outcome.mapError BlockFailure.cause).map
        Node.unlabeled =
      ((readLines 0 (statementLines (joinLines body))).mapError ReadFailure.cause).map
        fun children => .block 0 header (unlabeledAll children) := by
  have proper : ∀ line ∈ statementLines (joinLines body), IsStatementLine line :=
    fun _ => isStatementLine_of_mem_statementLines
  have deeper := readLines_deepen (depth + 1) 0 proper
  rw [Nat.zero_add] at deeper
  rw [outcome_build_block, Segment.innerLines, deeper]
  cases readLines 0 (statementLines (joinLines body)) with
  | error failure => cases failure <;> rfl
  | ok children =>
    exact congrArg (fun below => Except.ok (Node.block 0 header below))
      (unlabeledAll_deepenAll (depth + 1) children)

/-- Segments that are the same up to their depths give nodes that are the same up to depths, or
leave equally many blocks open. -/
theorem unlabeled_build {segment other : Segment} (same : segment.unlabeled = other.unlabeled) :
    (segment.build.outcome.mapError BlockFailure.cause).map Node.unlabeled =
      (other.build.outcome.mapError BlockFailure.cause).map Node.unlabeled := by
  cases segment with
  | statement depth content =>
    cases other with
    | statement otherDepth otherContent =>
      obtain ⟨-, rfl⟩ := Segment.statement.inj same
      rw [Segment.build, Segment.build]
      rfl
    | block otherDepth otherHeader otherBody => nomatch same
  | block depth header body =>
    cases other with
    | statement otherDepth otherContent => nomatch same
    | block otherDepth otherHeader otherBody =>
      obtain ⟨-, rfl, rfl⟩ := Segment.block.inj same
      rw [unlabeled_build_block, unlabeled_build_block]

theorem unlabeledBuilding_buildAll_cons (segment : Segment) (rest : List Segment) :
    unlabeledBuilding (buildAll (segment :: rest)).outcome =
      ((segment.build.outcome.mapError BlockFailure.cause).map Node.unlabeled).bind fun node =>
        (unlabeledBuilding (buildAll rest).outcome).map (node :: ·) := by
  rw [outcome_buildAll_cons]
  cases segment.build.outcome with
  | error failure => rfl
  | ok node => cases (buildAll rest).outcome <;> rfl

theorem unlabeledBuilding_buildAll {segments others : List Segment}
    (same : segments.map Segment.unlabeled = others.map Segment.unlabeled) :
    unlabeledBuilding (buildAll segments).outcome =
      unlabeledBuilding (buildAll others).outcome := by
  induction segments generalizing others with
  | nil => rw [List.map_eq_nil_iff.mp same.symm]
  | cons segment rest inductionHypothesis =>
    cases others with
    | nil => nomatch same
    | cons other others =>
      obtain ⟨sameFirst, sameRest⟩ := List.cons_eq_cons.mp same
      rw [unlabeledBuilding_buildAll_cons, unlabeledBuilding_buildAll_cons,
        unlabeled_build sameFirst, inductionHypothesis sameRest]

/-! ### Searching two forests -/

theorem isEmpty_unlabeledAll (nodes : List Node) :
    (unlabeledAll nodes).isEmpty = nodes.isEmpty := by
  cases nodes <;> rfl

theorem Node.returnsValue_unlabeled (node : Node) :
    node.unlabeled.returnsValue = node.returnsValue := by
  cases node with
  | statement depth content => cases content <;> rfl
  | block depth header children => rfl

theorem any_returnsValue_unlabeledAll (nodes : List Node) :
    (unlabeledAll nodes).any Node.returnsValue = nodes.any Node.returnsValue := by
  induction nodes with
  | nil => rfl
  | cons node rest inductionHypothesis =>
    rw [unlabeledAll, List.any_cons, List.any_cons, Node.returnsValue_unlabeled,
      inductionHypothesis]

/-- No rule looks at a depth. -/
theorem Node.clauses_unlabeled (node : Node) : node.unlabeled.clauses = node.clauses := by
  cases node with
  | statement depth content => rfl
  | block depth header children =>
    exact header.clauses_congr (isEmpty_unlabeledAll children)
      (any_returnsValue_unlabeledAll children)

theorem Node.ownFinding?_unlabeled (node : Node) :
    node.unlabeled.ownFinding? = node.ownFinding?.map Finding.unlabeled := by
  have sameConstruct : node.unlabeled.construct = node.construct := by cases node <;> rfl
  have noDepth : node.unlabeled.depth = 0 := by cases node <;> rfl
  rw [Node.ownFinding?, Node.ownFinding?, Node.clauses_unlabeled, sameConstruct, noDepth,
    Option.map_map]
  rfl

mutual

theorem Node.finding?_unlabeled (node : Node) :
    node.unlabeled.finding? = node.finding?.map Finding.unlabeled := by
  cases node with
  | statement depth content => exact Node.ownFinding?_unlabeled (.statement depth content)
  | block depth header children =>
    have own := Node.ownFinding?_unlabeled (.block depth header children)
    rw [Node.unlabeled] at own ⊢
    rw [Node.finding?, Node.finding?, own, Option.map_or, firstFinding?_unlabeledAll children]
    split <;> rfl

/-- A search finds the same node without depths, and breaking the same rule. -/
theorem firstFinding?_unlabeledAll (nodes : List Node) :
    firstFinding? (unlabeledAll nodes) = (firstFinding? nodes).map Finding.unlabeled := by
  cases nodes with
  | nil => rfl
  | cons node rest =>
    rw [unlabeledAll, firstFinding?, firstFinding?, Node.finding?_unlabeled node,
      firstFinding?_unlabeledAll rest, Option.map_or]

end

/-- What is judged of nodes follows from the finding without its depth. -/
theorem outcome_judgeNodes (nodes : List Node) :
    (judgeNodes nodes).outcome =
      match (firstFinding? nodes).map Finding.unlabeled with
      | none => .ok ()
      | some finding => .error (.grammar finding.violation) := by
  unfold judgeNodes
  rw [Traced.outcome_bind]
  cases firstFinding? nodes <;> rfl

/-! ### The depths of nodes -/

/-- Below each node of a forest its children stand one level deeper. -/
def ChildrenOneDeeper (nodes : List Node) : Prop :=
  ∀ node ∈ allNodes nodes, ∀ child ∈ node.children, child.depth = node.depth + 1

theorem childrenOneDeeper_nil : ChildrenOneDeeper [] := List.forall_mem_nil _

theorem childrenOneDeeper_statement {depth : Nat} {content : Statement} {rest : List Node}
    (later : ChildrenOneDeeper rest) : ChildrenOneDeeper (.statement depth content :: rest) :=
  List.forall_mem_cons.mpr ⟨List.forall_mem_nil _, later⟩

theorem childrenOneDeeper_block {depth : Nat} {header : Header} {children rest : List Node}
    (deeper : ∀ child ∈ children, child.depth = depth + 1) (below : ChildrenOneDeeper children)
    (later : ChildrenOneDeeper rest) : ChildrenOneDeeper (.block depth header children :: rest) :=
  List.forall_mem_cons.mpr ⟨deeper, List.forall_mem_append.mpr ⟨below, later⟩⟩

theorem Outlined.childrenOneDeeper {depth : Nat} {available : List Text} {nodes : List Node}
    (outlined : Outlined depth available nodes) : ChildrenOneDeeper nodes := by
  induction outlined with
  | nil depth => exact childrenOneDeeper_nil
  | statement isStatement later inductionHypothesis =>
    exact childrenOneDeeper_statement inductionHypothesis
  | unreadable isUnreadable later inductionHypothesis => exact inductionHypothesis
  | block isHeader balanced inside later insideHypothesis laterHypothesis =>
    exact childrenOneDeeper_block inside.depth_eq insideHypothesis laterHypothesis

/-- A node that is built from a segment stands at the depth of the segment, and what stands below
it was read from the body of the segment. -/
theorem Segment.HasNode.statement_or_block {segment : Segment} {node : Node}
    (hasNode : segment.HasNode node) :
    (∃ depth content, segment = .statement depth content ∧ node = .statement depth content) ∨
      ∃ depth header body children, segment = .block depth header body ∧
        node = .block depth header children ∧
        Outlined (depth + 1) (statementLines (joinLines body)) children := by
  cases segment with
  | statement depth content =>
    rw [Segment.HasNode, Segment.build, Traced.outcome_pure, Except.ok.injEq] at hasNode
    exact .inl ⟨depth, content, rfl, hasNode.symm⟩
  | block depth header body =>
    rw [Segment.HasNode, outcome_build_block] at hasNode
    obtain ⟨children, read, rfl⟩ := map_eq_ok_iff.mp hasNode
    exact .inr ⟨depth, header, body, children, rfl, rfl,
      outlined_of_readLines (fun _ => isStatementLine_of_mem_statementLines)
        (mapError_eq_ok_iff.mp read)⟩

theorem depths_of_buildAll {segments : List Segment} {nodes : List Node}
    (built : (buildAll segments).outcome = .ok nodes) :
    nodes.map Node.depth = segments.map Segment.depth ∧ ChildrenOneDeeper nodes := by
  induction segments generalizing nodes with
  | nil =>
    rw [outcome_buildAll_nil, Except.ok.injEq] at built
    rw [← built]
    exact ⟨rfl, childrenOneDeeper_nil⟩
  | cons segment rest inductionHypothesis =>
    obtain ⟨node, others, hasNode, later, rfl⟩ := outcome_buildAll_cons_eq_ok_iff.mp built
    obtain ⟨sameDepths, deeper⟩ := inductionHypothesis later
    obtain ⟨depth, content, rfl, rfl⟩ | ⟨depth, header, body, children, rfl, rfl, inside⟩ :=
      Segment.HasNode.statement_or_block hasNode
    · exact ⟨congrArg (depth :: ·) sameDepths, childrenOneDeeper_statement deeper⟩
    · exact ⟨congrArg (depth :: ·) sameDepths,
        childrenOneDeeper_block inside.depth_eq inside.childrenOneDeeper deeper⟩

/-! ### Bodies inside bodies -/

/-- The body of a block is read as a text of its own, one level deeper. -/
theorem outcome_build_block_eq (depth : Nat) (header : Header) (body : List Text) :
    (Segment.block depth header body).build.outcome =
      match (readSegments (depth + 1) (joinLines body)).outcome with
      | .error cause => .error ⟨depth + 1, cause⟩
      | .ok segments => (buildAll segments).outcome.map (.block depth header) := by
  have sameOutcome :
      (segmentLines (depth + 1) 0 (Segment.block depth header body).innerLines).outcome =
        (readSegments (depth + 1) (joinLines body)).outcome := rfl
  rw [outcome_build_block, readLines, sameOutcome]
  cases (readSegments (depth + 1) (joinLines body)).outcome with
  | error cause => rfl
  | ok segments =>
    dsimp only
    cases (buildAll segments).outcome <;> rfl

/-- Every segment is found at the depth of the reading. -/
theorem depth_eq_of_mem_segments (depth opened : Nat) (available : List Text) :
    ∀ segment ∈ (segmentLines depth opened available).segments, segment.depth = depth := by
  fun_induction segmentLines depth opened available with
  | case1 opened => exact List.forall_mem_nil _
  | case2 opened line available content isStatement inductionHypothesis =>
    exact List.forall_mem_cons.mpr ⟨rfl, inductionHypothesis⟩
  | case3 opened line available header isHeader inductionHypothesis =>
    exact List.forall_mem_cons.mpr ⟨rfl, inductionHypothesis⟩
  | case4 opened line available isUnreadable inductionHypothesis => exact inductionHypothesis

theorem depth_eq_of_readSegments {depth : Nat} {text : Text} {segments : List Segment}
    (read : (readSegments depth text).outcome = .ok segments) {segment : Segment}
    (member : segment ∈ segments) : segment.depth = depth :=
  depth_eq_of_mem_segments depth 0 (statementLines text) segment
    (segments_of_readSegments read ▸ member)

theorem lineCount_le_totalLineCount {segment : Segment} {segments : List Segment}
    (member : segment ∈ segments) : segment.lineCount ≤ totalLineCount segments := by
  induction segments with
  | nil => nomatch member
  | cons first rest inductionHypothesis =>
    rw [totalLineCount]
    rcases List.mem_cons.mp member with rfl | later
    · exact Nat.le_add_right _ _
    · exact Nat.le_add_left_of_le (inductionHypothesis later)

/-- Induction over bodies inside bodies. A block may use what holds of the segments that its body
is read as. -/
@[elab_as_elim]
theorem body_induction {motive : Segment → Prop}
    (statement : ∀ depth content, motive (.statement depth content))
    (block : ∀ depth header body,
      (∀ segments, (readSegments (depth + 1) (joinLines body)).outcome = .ok segments →
        ∀ inner ∈ segments, motive inner) → motive (.block depth header body))
    (segment : Segment) : motive segment := by
  cases segment with
  | statement depth content => exact statement depth content
  | block depth header body =>
    refine block depth header body fun segments read inner member => ?_
    have total := totalLineCount_innerSegments_le depth header body (depth + 1)
    rw [Segment.innerLines, segments_of_readSegments read] at total
    have smaller : inner.innerLines.length < (Segment.block depth header body).innerLines.length :=
      Nat.lt_of_lt_of_le (Nat.lt_succ_self _)
        (Nat.le_trans (lineCount_le_totalLineCount member) total)
    exact body_induction statement block inner
termination_by segment.innerLines.length

/-! ### The depths of failures -/

/-- A block has a body that is not closed, after a number of blocks is entered: the block itself,
and then those in which the first segment without a node is a block again. -/
inductive Segment.FailsAfter (cause : Unterminated) : Nat → Segment → Prop where
  /-- The body of the block itself is not closed. -/
  | here {depth : Nat} {header : Header} {body : List Text}
      (unclosed : (readSegments (depth + 1) (joinLines body)).outcome = .error cause) :
      FailsAfter cause 1 (.block depth header body)
  /-- The body is read, and the segments in it have nodes up to one that fails. -/
  | inside {depth : Nat} {header : Header} {body : List Text} {before rest : List Segment}
      {nodes : List Node} {failing : Segment} {entered : Nat}
      (read : (readSegments (depth + 1) (joinLines body)).outcome = .ok (before ++ failing :: rest))
      (haveNodes : List.Forall₂ Segment.HasNode before nodes)
      (fails : FailsAfter cause entered failing) :
      FailsAfter cause (entered + 1) (.block depth header body)

theorem Segment.FailsAfter.one_le {cause : Unterminated} {entered : Nat} {segment : Segment}
    (fails : segment.FailsAfter cause entered) : 1 ≤ entered := by
  cases fails <;> exact Nat.le_add_left 1 _

/-- Building fails where the first segment that has no node fails. -/
theorem outcome_buildAll_eq_error_iff {segments : List Segment} {failure : BlockFailure} :
    (buildAll segments).outcome = .error failure ↔
      ∃ before nodes failing rest, segments = before ++ failing :: rest ∧
        List.Forall₂ Segment.HasNode before nodes ∧ failing.build.outcome = .error failure := by
  constructor
  · intro failed
    induction segments with
    | nil =>
      rw [outcome_buildAll_nil] at failed
      nomatch failed
    | cons segment rest inductionHypothesis =>
      rw [outcome_buildAll_cons, bind_eq_error_iff] at failed
      rcases failed with fails | ⟨node, hasNode, later⟩
      · exact ⟨[], [], segment, rest, rfl, .nil, fails⟩
      · obtain ⟨before, nodes, failing, behind, rfl, haveNodes, fails⟩ :=
          inductionHypothesis (map_eq_error_iff.mp later)
        exact ⟨segment :: before, node :: nodes, failing, behind, rfl, .cons hasNode haveNodes,
          fails⟩
  · rintro ⟨before, nodes, failing, rest, rfl, haveNodes, fails⟩
    induction haveNodes with
    | nil =>
      rw [List.nil_append, outcome_buildAll_cons, fails]
      rfl
    | cons hasNode later inductionHypothesis =>
      rw [List.cons_append, outcome_buildAll_cons, hasNode, inductionHypothesis]
      rfl

/-- The segments of a body stand one level below its block, so that one block less is entered from
there to any body inside of them. -/
theorem depth_add_entered {depth : Nat} {body : List Text} {before rest : List Segment}
    {failing : Segment}
    (read : (readSegments (depth + 1) (joinLines body)).outcome = .ok (before ++ failing :: rest))
    (entered : Nat) : failing.depth + entered = depth + (entered + 1) := by
  have member : failing ∈ before ++ failing :: rest :=
    List.mem_append_right before List.mem_cons_self
  rw [depth_eq_of_readSegments read member, Nat.add_assoc, Nat.add_comm 1]

/-- A body that is not closed is told at its own depth. -/
theorem Segment.FailsAfter.outcome_build {cause : Unterminated} {entered : Nat} {segment : Segment}
    (fails : segment.FailsAfter cause entered) :
    segment.build.outcome = .error ⟨segment.depth + entered, cause⟩ := by
  induction fails with
  | here unclosed =>
    rw [outcome_build_block_eq, unclosed]
    rfl
  | @inside depth header body before rest nodes failing entered read haveNodes fails
      inductionHypothesis =>
    have failed := outcome_buildAll_eq_error_iff.mpr
      ⟨before, nodes, failing, rest, rfl, haveNodes, inductionHypothesis⟩
    rw [outcome_build_block_eq, read]
    dsimp only
    rw [failed, depth_add_entered read]
    rfl

/-- A segment fails exactly where a body inside of it is not closed, and the failure is told at the
depth of that body. -/
theorem Segment.outcome_build_eq_error_iff {segment : Segment} {failure : BlockFailure} :
    segment.build.outcome = .error failure ↔
      ∃ entered, segment.FailsAfter failure.cause entered ∧
        failure.depth = segment.depth + entered := by
  constructor
  · intro failed
    induction segment using body_induction with
    | statement depth content =>
      rw [Segment.build, Traced.outcome_pure] at failed
      nomatch failed
    | block depth header body inductionHypothesis =>
      rw [outcome_build_block_eq] at failed
      cases read : (readSegments (depth + 1) (joinLines body)).outcome with
      | error cause =>
        rw [read] at failed
        obtain rfl := Except.error.inj failed
        exact ⟨1, .here read, rfl⟩
      | ok segments =>
        rw [read] at failed
        obtain ⟨before, nodes, failing, rest, rfl, haveNodes, fails⟩ :=
          outcome_buildAll_eq_error_iff.mp (map_eq_error_iff.mp failed)
        obtain ⟨entered, failsAfter, told⟩ := inductionHypothesis _ read failing
          (List.mem_append_right before List.mem_cons_self) fails
        exact ⟨entered + 1, .inside read haveNodes failsAfter,
          told.trans (depth_add_entered read entered)⟩
  · rintro ⟨entered, failsAfter, told⟩
    rw [failsAfter.outcome_build, ← told]

/-! ### Labels -/

/-- A depth is a label. Segments that are the same up to their depths give, when they are built,
nodes that are the same up to the depths on all levels, or fail both and leave equally many blocks
open. Nodes that are the same up to depths on all levels are judged alike, and the first finding in
them is the same up to its depth. A text that is read at two depths gives the same segments up to
depths, or the same failure.

The labels themselves are exact. Nodes stand at the depths of the segments that they are built from,
and every node below them one level deeper than its parent. Building fails exactly where a first
segment has no node because some block in it, or it itself, has a body that is not closed; the depth
that is told is the depth of that segment and the number of blocks that are entered down to that
body, of which there is at least one. -/
theorem depths_are_labels :
    (∀ segments others : List Segment,
        segments.map Segment.unlabeled = others.map Segment.unlabeled →
          unlabeledBuilding (buildAll segments).outcome =
            unlabeledBuilding (buildAll others).outcome) ∧
      (∀ nodes others : List Node, unlabeledAll nodes = unlabeledAll others →
        (firstFinding? nodes).map Finding.unlabeled =
            (firstFinding? others).map Finding.unlabeled ∧
          (judgeNodes nodes).outcome = (judgeNodes others).outcome) ∧
      (∀ (depth other : Nat) (text : Text),
        unlabeledReading (readSegments depth text).outcome =
          unlabeledReading (readSegments other text).outcome) ∧
      (∀ (segments : List Segment) (nodes : List Node),
        (buildAll segments).outcome = .ok nodes →
          nodes.map Node.depth = segments.map Segment.depth ∧ ChildrenOneDeeper nodes) ∧
      ∀ (segments : List Segment) (failure : BlockFailure),
        (buildAll segments).outcome = .error failure ↔
          ∃ before nodes failing rest entered, segments = before ++ failing :: rest ∧
            List.Forall₂ Segment.HasNode before nodes ∧
            failing.FailsAfter failure.cause entered ∧ 1 ≤ entered ∧
            failure.depth = failing.depth + entered := by
  refine ⟨fun segments others => unlabeledBuilding_buildAll, ?_, unlabeledReading_readSegments,
    fun segments nodes => depths_of_buildAll, ?_⟩
  · intro nodes others same
    have sameFinding : (firstFinding? nodes).map Finding.unlabeled =
        (firstFinding? others).map Finding.unlabeled := by
      rw [← firstFinding?_unlabeledAll, ← firstFinding?_unlabeledAll, same]
    exact ⟨sameFinding, by rw [outcome_judgeNodes, outcome_judgeNodes, sameFinding]⟩
  · intro segments failure
    rw [outcome_buildAll_eq_error_iff]
    constructor
    · rintro ⟨before, nodes, failing, rest, shape, haveNodes, fails⟩
      obtain ⟨entered, failsAfter, told⟩ := Segment.outcome_build_eq_error_iff.mp fails
      exact ⟨before, nodes, failing, rest, entered, shape, haveNodes, failsAfter,
        failsAfter.one_le, told⟩
    · rintro ⟨before, nodes, failing, rest, entered, shape, haveNodes, failsAfter, -, told⟩
      exact ⟨before, nodes, failing, rest, shape, haveNodes,
        Segment.outcome_build_eq_error_iff.mpr ⟨entered, failsAfter, told⟩⟩

/-- A block with one statement in its body. -/
def closedBlock (depth : Nat) : Segment := .block depth (.branch ['a']) ["x:1".toList]

theorem buildAll_closedBlock : (buildAll [closedBlock 4]).outcome =
    .ok [.block 4 (.branch ['a']) [.statement 5 (.declaration ['x'] ['1'])]] := by
  have written : (Segment.block 4 (.branch ['a']) ["x:1".toList]).innerLines = ["x:1".toList] := by
    decide +kernel
  have isDeclaration : LineForm.ofLine "x:1".toList = .statement (.declaration ['x'] ['1']) := by
    decide
  rw [closedBlock, outcome_buildAll_cons, outcome_build_block, written,
    readLines_statement _ isDeclaration, readLines_nil, outcome_buildAll_nil]
  rfl

/-- A block at two depths is built to nodes that are the same up to depths; a block that fails at
depth 4 fails with the same count at depth 0; and a block that fails two levels below its own depth
does so after two blocks are entered. -/
theorem depths_are_labels_openBlock :
    ((buildAll [closedBlock 4]).outcome =
          .ok [.block 4 (.branch ['a']) [.statement 5 (.declaration ['x'] ['1'])]] ∧
        unlabeledBuilding (buildAll [closedBlock 9]).outcome =
          .ok [.block 0 (.branch ['a']) [.statement 0 (.declaration ['x'] ['1'])]]) ∧
      ((buildAll [openBlock]).outcome = .error ⟨5, ⟨1⟩⟩ ∧
        unlabeledBuilding (buildAll [openBlock.unlabeled]).outcome = .error ⟨1⟩) ∧
      ((buildAll [innerOpenBlock]).outcome = .error ⟨2, ⟨1⟩⟩ ∧
        innerOpenBlock.FailsAfter ⟨1⟩ 2) ∧
      (judgeNodes (deepenAll 3 loopTree)).outcome = (judgeNodes loopTree).outcome := by
  have fails {segment : Segment} {failure : BlockFailure}
      (built : segment.build.outcome = .error failure) :
      (buildAll [segment]).outcome = .error failure := by
    rw [outcome_buildAll_cons, built]
    rfl
  have sameBuilding := depths_are_labels.1
  refine ⟨⟨buildAll_closedBlock, ?_⟩, ⟨fails build_openBlock, ?_⟩,
    ⟨fails build_innerOpenBlock, ?_⟩, (depths_are_labels.2.1 _ _ rfl).2⟩
  · rw [sameBuilding [closedBlock 9] [closedBlock 4] rfl, buildAll_closedBlock]
    rfl
  · rw [sameBuilding [openBlock.unlabeled] [openBlock] rfl, fails build_openBlock]
    rfl
  · obtain ⟨before, nodes, failing, rest, entered, shape, -, failsAfter, -, told⟩ :=
      (depths_are_labels.2.2.2.2 _ _).mp (fails build_innerOpenBlock)
    obtain ⟨rfl, rfl, rfl⟩ : before = [] ∧ innerOpenBlock = failing ∧ rest = [] := by
      cases before with
      | nil => simpa using shape
      | cons first others => simp at shape
    obtain rfl : entered = 2 := by
      simpa [innerOpenBlock, Segment.depth, eq_comm] using told
    exact failsAfter

end BlockCheck
