/-
This file proves that the events of reading a program are those of its tree. What is recorded is
neither in the order of the lines nor level by level: all segments of a body are found before any
of their bodies is read. The tree tells the order nevertheless. First come the segments of the
program, one for each of its nodes; then comes one group of events for each block, and the groups
follow each other as the blocks do when each block is listed before those inside it. A group holds
the segments of the body of its block, one for each child, and after them the event that the body
is entered.

A node is found with a segment that says what its line says. For a block the segment still holds
the lines of the body, and these are the lines that the children were read from.
-/

import BlockCheck.Judge
import BlockCheck.Proofs.Flattened
import BlockCheck.Proofs.NestingDepth

namespace BlockCheck

/-! ### Events of the steps of building -/

theorem events_buildAll_nil : (buildAll []).events = [] := by
  rw [buildAll]
  rfl

/-- A segment is built before the segments after it. -/
theorem events_buildAll_cons {segment : Segment} {node : Node}
    (built : segment.build.outcome = .ok node) (rest : List Segment) :
    (buildAll (segment :: rest)).events = segment.build.events ++ (buildAll rest).events := by
  rw [buildAll, Traced.events_bind_of_ok built, Traced.events_bind_pure]

/-- The segments of a body are found, then the body is entered, and then its segments are built. -/
theorem events_build_block (depth : Nat) (header : Header) {body : List Text}
    (proper : ∀ line ∈ body, IsStatementLine line)
    (closed : (segmentLines (depth + 1) 0 body).openBlocks = 0) :
    (Segment.block depth header body).build.events =
      ((segmentLines (depth + 1) 0 body).segments.map .segmentFound ++
          [.blockEntered (depth + 1) (segmentLines (depth + 1) 0 body).segments.length]) ++
        (buildAll (segmentLines (depth + 1) 0 body).segments).events := by
  rw [Segment.build, innerLines_of_body depth header proper, if_pos closed]
  simp only [Traced.events_after, Traced.events_bind_pure, List.append_assoc]

theorem forall_mem_map_segmentFound {property : Event → Prop} {segments : List Segment}
    (told : ∀ segment ∈ segments, property (.segmentFound segment)) :
    ∀ event ∈ segments.map Event.segmentFound, property event := by
  intro event member
  obtain ⟨segment, inside, rfl⟩ := List.mem_map.mp member
  exact told segment inside

/-- What holds of a segment tells a property of its events: it goes down from a block to the
segments that are found in its body, the event that a segment is found has the property where it
holds, and the event that a body is entered has it always. -/
structure TellsEvents (found : Segment → Prop) (property : Event → Prop) : Prop where
  below : ∀ depth header body, found (.block depth header body) →
    ∀ inner ∈ (segmentLines (depth + 1) 0 (Segment.block depth header body).innerLines).segments,
      found inner
  told : ∀ segment, found segment → property (.segmentFound segment)
  entered : ∀ depth segmentCount, property (.blockEntered depth segmentCount)

section

variable {found : Segment → Prop} {property : Event → Prop}

mutual

/-- All events of building a segment have the property, also where building fails. -/
theorem TellsEvents.forall_mem_build (tells : TellsEvents found property) (segment : Segment)
    (isFound : found segment) : ∀ event ∈ segment.build.events, property event := by
  match segment with
  | .statement depth content =>
    rw [Segment.build, Traced.events_pure]
    exact List.forall_mem_nil _
  | .block depth header body =>
    have bound := totalLineCount_innerSegments_le depth header body (depth + 1)
    have areFound := tells.below depth header body isFound
    have later := tells.forall_mem_buildAll _ areFound
    rw [Segment.build, Traced.events_after]
    refine List.forall_mem_append.mpr
      ⟨forall_mem_map_segmentFound fun inner member => tells.told inner (areFound inner member), ?_⟩
    split
    · rw [Traced.events_after, Traced.events_bind_pure]
      exact List.forall_mem_append.mpr ⟨List.forall_mem_singleton.mpr (tells.entered _ _), later⟩
    · exact List.forall_mem_nil _
termination_by 2 * segment.innerLines.length + 1

theorem TellsEvents.forall_mem_buildAll (tells : TellsEvents found property)
    (segments : List Segment) (areFound : ∀ segment ∈ segments, found segment) :
    ∀ event ∈ (buildAll segments).events, property event := by
  match segments with
  | [] =>
    rw [events_buildAll_nil]
    exact List.forall_mem_nil _
  | segment :: rest =>
    obtain ⟨isFound, othersFound⟩ := List.forall_mem_cons.mp areFound
    have first := tells.forall_mem_build segment isFound
    have later := tells.forall_mem_buildAll rest othersFound
    rw [buildAll]
    refine Traced.forall_mem_events_bind first fun node => ?_
    rwa [Traced.events_bind_pure]
termination_by 2 * totalLineCount segments
decreasing_by
  · simp only [totalLineCount, Segment.lineCount]
    omega
  · simp only [totalLineCount, Segment.lineCount]
    omega

end

/-- What holds of the segments of a program, and goes down to the segments in their bodies, tells
all events of reading it. -/
theorem TellsEvents.forall_mem_readProgram (tells : TellsEvents found property) {source : Text}
    (outer : ∀ segment ∈ (segmentLines 0 0 (statementLines source)).segments, found segment) :
    ∀ event ∈ (readProgram source).events, property event := by
  have outerTold : ∀ event ∈ (readSegments 0 source).events, property event :=
    forall_mem_map_segmentFound fun segment member => tells.told segment (outer segment member)
  rw [readProgram]
  cases read : (readSegments 0 source).outcome with
  | error cause =>
    rw [Traced.events_bind_of_error (congrArg (Except.mapError ReadFailure.source) read),
      Traced.events_mapFailure]
    exact outerTold
  | ok segments =>
    rw [Traced.events_bind_of_ok (congrArg (Except.mapError ReadFailure.source) read),
      Traced.events_mapFailure, Traced.events_mapFailure]
    rw [segments_of_readSegments read] at outer
    exact List.forall_mem_append.mpr ⟨outerTold, tells.forall_mem_buildAll segments outer⟩

end

/-- Lines that are read as a tree leave no block open, and the nodes are built from their
segments. -/
theorem readLines_eq_ok_iff_buildAll {depth : Nat} {available : List Text} {nodes : List Node} :
    readLines depth available = .ok nodes ↔ (segmentLines depth 0 available).openBlocks = 0 ∧
      (buildAll (segmentLines depth 0 available).segments).outcome = .ok nodes := by
  rw [readLines, Segmentation.outcome]
  by_cases closed : (segmentLines depth 0 available).openBlocks = 0
  · rw [if_pos closed]
    exact ⟨fun read => ⟨closed, mapError_eq_ok_iff.mp read⟩,
      fun built => mapError_eq_ok_iff.mpr built.2⟩
  · rw [if_neg closed]
    simp [closed]

/-! ### Nodes and their events -/

/-- An event tells that a segment was found: that is the first word of its message. -/
def Event.isFound (event : Event) : Bool := "lexed ".toList.isPrefixOf event.message.toList

/-- An event tells that a body was entered. -/
def Event.isEntered (event : Event) : Bool := event.message == "parsing block"

/-- An event of reading a program. -/
def Event.isReading (event : Event) : Bool := event.isFound || event.isEntered

/-- How a node is shown when it is found: what it is, the text that names it, and for a block the
number of the lines that its children are read from. -/
inductive Node.IsShownAs : Node → String → Prop where
  | declaration (depth : Nat) (name value : Text) :
      IsShownAs (.statement depth (.declaration name value))
        ("variable declaration '" ++ String.ofList name ++ "'")
  | returning (depth : Nat) (value : Text) :
      IsShownAs (.statement depth (.returning value)) ("return '" ++ String.ofList value ++ "'")
  | code (depth : Nat) (text : Text) :
      IsShownAs (.statement depth (.code text)) ("code line '" ++ String.ofList text ++ "'")
  | function {depth : Nat} {body : List Text} {children : List Node} (name : Text)
      (parameters : List Text) (returnType : Text) (read : Outlined (depth + 1) body children) :
      IsShownAs (.block depth (.function name parameters returnType) children)
        ("function '" ++ String.ofList name ++ "' (" ++ toString body.length ++ " body lines)")
  | loop {depth : Nat} {body : List Text} {children : List Node}
      (initializer condition increment : Text) (read : Outlined (depth + 1) body children) :
      IsShownAs (.block depth (.loop initializer condition increment) children)
        ("for loop (" ++ toString body.length ++ " body lines)")
  | branch {depth : Nat} {body : List Text} {children : List Node} (condition : Text)
      (read : Outlined (depth + 1) body children) :
      IsShownAs (.block depth (.branch condition) children)
        ("if '" ++ String.ofList condition ++ "' (" ++ toString body.length ++ " body lines)")

/-- An event tells that a node was found: the message shows the node, and the one field is the depth
of the node. -/
structure Node.IsFoundBy (node : Node) (event : Event) : Prop where
  message : ∃ shown, node.IsShownAs shown ∧ event.message = "lexed " ++ shown
  fields : event.fields = [("depth", .number node.depth)]

/-- An event tells that the body of a block was entered: the fields are the depth of the body and
the number of the children. -/
structure Node.IsEnteredWith (block : Node) (event : Event) : Prop where
  message : event.message = "parsing block"
  fields : event.fields =
    [("depth", .number (block.depth + 1)), ("tokens", .number block.children.length)]

/-- The events of a block: its children are found, in order, and then its body is entered. -/
def Node.IsEnteredBy (block : Node) (group : List Event) : Prop :=
  ∃ found entered, List.Forall₂ Node.IsFoundBy block.children found ∧
    block.IsEnteredWith entered ∧ group = found ++ [entered]

theorem isFoundBy_statement (depth : Nat) (content : Statement) :
    (Node.statement depth content).IsFoundBy (.segmentFound (.statement depth content)) := by
  refine ⟨⟨content.summary, ?_, rfl⟩, rfl⟩
  cases content with
  | declaration name value => exact .declaration depth name value
  | returning value => exact .returning depth value
  | code text => exact .code depth text

theorem isFoundBy_block {depth : Nat} {body : List Text} {children : List Node} (header : Header)
    (read : Outlined (depth + 1) body children) :
    (Node.block depth header children).IsFoundBy (.segmentFound (.block depth header body)) := by
  have lines (shown : String) : shown ++ "' (" = shown ++ "'" ++ " (" := by
    rw [String.append_assoc]
    rfl
  refine ⟨⟨header.summary ++ " (" ++ toString body.length ++ " body lines)", ?_, rfl⟩, rfl⟩
  cases header with
  | function name parameters returnType =>
    rw [Header.summary, ← lines]
    exact .function name parameters returnType read
  | loop initializer condition increment =>
    exact .loop initializer condition increment read
  | branch condition =>
    rw [Header.summary, ← lines]
    exact .branch condition read

theorem isEnteredWith_block (depth : Nat) (header : Header) (children : List Node) :
    (Node.block depth header children).IsEnteredWith
      (.blockEntered (depth + 1) children.length) :=
  ⟨rfl, rfl⟩

theorem isFound_of_message {event : Event} {shown : String}
    (told : event.message = "lexed " ++ shown) : event.isFound = true := by
  rw [Event.isFound, told, String.toList_append, List.isPrefixOf_iff_prefix]
  exact List.prefix_append _ _

theorem isEntered_of_message {event : Event} (told : event.message = "parsing block") :
    event.isEntered = true :=
  beq_iff_eq.mpr told

theorem Node.IsFoundBy.isFound {node : Node} {event : Event} (found : node.IsFoundBy event) :
    event.isFound = true := by
  obtain ⟨shown, -, told⟩ := found.message
  exact isFound_of_message told

theorem Node.IsFoundBy.isEntered {node : Node} {event : Event} (found : node.IsFoundBy event) :
    event.isEntered = false := by
  have isFound := found.isFound
  rw [Event.isEntered, beq_eq_false_iff_ne]
  intro entered
  rw [Event.isFound, entered] at isFound
  exact absurd isFound (by decide)

theorem Node.IsEnteredWith.isFound {block : Node} {event : Event}
    (entered : block.IsEnteredWith event) : event.isFound = false := by
  rw [Event.isFound, entered.message]
  decide

/-- All blocks of a tree, each before those inside it. -/
def allBlocks (nodes : List Node) : List Node := (allNodes nodes).filter Node.isBlock

/-- The nodes of a tree in the order in which they are found: those of the program, and then the
children of one block after the other. -/
def findingOrder (nodes : List Node) : List Node := nodes ++ (allBlocks nodes).flatMap Node.children

theorem allBlocks_block (depth : Nat) (header : Header) (children rest : List Node) :
    allBlocks (.block depth header children :: rest) =
      .block depth header children :: (allBlocks children ++ allBlocks rest) := by
  simp only [allBlocks, allNodes, Node.preorder, List.cons_append, List.filter_append,
    List.filter_cons_of_pos (p := Node.isBlock) (a := .block depth header children) rfl]

/-- Every node is found once. The later nodes of a program are found before the children of its
first block are, so the two orders differ already there. -/
theorem findingOrder_perm_allNodes : (nodes : List Node) →
    (findingOrder nodes).Perm (allNodes nodes)
  | [] => .refl _
  | .statement depth content :: rest => (findingOrder_perm_allNodes rest).cons _
  | .block depth header children :: rest => by
    have below := findingOrder_perm_allNodes children
    have later := findingOrder_perm_allNodes rest
    unfold findingOrder at below later ⊢
    rw [allBlocks_block, List.flatMap_cons, List.flatMap_append, Node.children, allNodes,
      Node.preorder, List.cons_append, List.cons_append]
    refine .cons _ ?_
    calc
      (rest ++ (children ++ ((allBlocks children).flatMap Node.children ++
          (allBlocks rest).flatMap Node.children))).Perm
          ((children ++ (allBlocks children).flatMap Node.children) ++
            (rest ++ (allBlocks rest).flatMap Node.children)) := by
        rw [← List.append_assoc children]
        exact List.perm_append_comm_assoc _ _ _
      List.Perm _ (allNodes children ++ allNodes rest) := below.append later

/-! ### The correspondence -/

/-- The events of building the segments of some lines that are read as a tree come in groups, one
for each block; and the segments are those by which the nodes are found. -/
theorem Outlined.events {depth : Nat} {available : List Text} {nodes : List Node}
    (outlined : Outlined depth available nodes)
    (proper : ∀ line ∈ available, IsStatementLine line) :
    List.Forall₂ Node.IsFoundBy nodes
        ((segmentLines depth 0 available).segments.map .segmentFound) ∧
      ∃ groups, (buildAll (segmentLines depth 0 available).segments).events = groups.flatten ∧
        List.Forall₂ Node.IsEnteredBy (allBlocks nodes) groups := by
  induction outlined with
  | nil depth =>
    rw [segmentLines_nil]
    exact ⟨.nil, [], events_buildAll_nil, .nil⟩
  | @statement depth line content rest nodes isStatement later inductionHypothesis =>
    obtain ⟨found, groups, events, entered⟩ :=
      inductionHypothesis (List.forall_mem_cons.mp proper).2
    have built :
        (Segment.statement depth content).build.outcome = .ok (.statement depth content) := by
      rw [Segment.build, Traced.outcome_pure]
    rw [segmentLines_statement _ _ isStatement]
    refine ⟨.cons (isFoundBy_statement depth content) found, groups, ?_, entered⟩
    show (buildAll (.statement depth content :: _)).events = _
    rw [events_buildAll_cons built, events, Segment.build, Traced.events_pure, List.nil_append]
  | unreadable isUnreadable later inductionHypothesis =>
    rw [segmentLines_unreadable _ _ isUnreadable]
    exact inductionHypothesis (List.forall_mem_cons.mp proper).2
  | @block depth line header body rest children nodes isHeader balanced inside later
      insideHypothesis laterHypothesis =>
    obtain ⟨-, properBody, -, properRest⟩ := forall_mem_block_iff.mp proper
    obtain ⟨foundBelow, groupsBelow, eventsBelow, enteredBelow⟩ := insideHypothesis properBody
    obtain ⟨found, groups, events, entered⟩ := laterHypothesis properRest
    obtain ⟨closed, builtBelow⟩ :=
      readLines_eq_ok_iff_buildAll.mp (readLines_of_outlined inside properBody)
    have count : children.length = (segmentLines (depth + 1) 0 body).segments.length := by
      rw [foundBelow.length_eq, List.length_map]
    have built : (Segment.block depth header body).build.outcome =
        .ok (.block depth header children) := by
      rw [outcome_build_block, innerLines_of_body depth header properBody,
        readLines_of_outlined inside properBody]
      rfl
    rw [segmentLines_block _ _ isHeader balanced, allBlocks_block]
    refine ⟨.cons (isFoundBy_block header inside) found, _ :: (groupsBelow ++ groups), ?_,
      .cons ⟨_, _, foundBelow, isEnteredWith_block depth header children, rfl⟩
        (List.rel_append enteredBelow entered)⟩
    show (buildAll (.block depth header body :: _)).events = _
    rw [events_buildAll_cons built, events_build_block depth header properBody closed, eventsBelow,
      events, ← count, List.flatten_cons, List.flatten_append, List.append_assoc]

/-- The nodes that some lines are read as are found at the depth of the lines. -/
theorem Outlined.depth_eq {depth : Nat} {available : List Text} {nodes : List Node}
    (outlined : Outlined depth available nodes) : ∀ node ∈ nodes, node.depth = depth := by
  induction outlined with
  | nil depth => simp
  | statement isStatement later inductionHypothesis =>
    exact List.forall_mem_cons.mpr ⟨rfl, inductionHypothesis⟩
  | unreadable isUnreadable later inductionHypothesis => exact inductionHypothesis
  | block isHeader balanced inside later insideHypothesis laterHypothesis =>
    exact List.forall_mem_cons.mpr ⟨rfl, laterHypothesis⟩

/-! ### Traces -/

section

variable {nodes blocks : List Node} {found : List Event} {groups : List (List Event)}

theorem isFound_of_mem (nodesFound : List.Forall₂ Node.IsFoundBy nodes found) :
    ∀ event ∈ found, event.isFound = true := by
  induction nodesFound with
  | nil => simp
  | cons isFound later inductionHypothesis =>
    exact List.forall_mem_cons.mpr ⟨isFound.isFound, inductionHypothesis⟩

/-- The fields that are shown are the depths of the nodes that are found. -/
theorem map_fields_found (nodesFound : List.Forall₂ Node.IsFoundBy nodes found) :
    found.map Event.fields = nodes.map fun node => [("depth", .number node.depth)] := by
  induction nodesFound with
  | nil => rfl
  | cons isFound later inductionHypothesis =>
    rw [List.map_cons, List.map_cons, isFound.fields, inductionHypothesis]

theorem filter_isFound (nodesFound : List.Forall₂ Node.IsFoundBy nodes found) :
    found.filter Event.isFound = found :=
  List.filter_eq_self.mpr (isFound_of_mem nodesFound)

theorem filter_isEntered (nodesFound : List.Forall₂ Node.IsFoundBy nodes found) :
    found.filter Event.isEntered = [] := by
  induction nodesFound with
  | nil => rfl
  | cons isFound later inductionHypothesis =>
    rw [List.filter_cons_of_neg (by simp [isFound.isEntered]), inductionHypothesis]

theorem isReading_in_groups (entered : List.Forall₂ Node.IsEnteredBy blocks groups) :
    ∀ event ∈ groups.flatten, event.isReading = true := by
  induction entered with
  | nil => simp
  | cons isEntered later inductionHypothesis =>
    obtain ⟨found, last, childrenFound, enters, rfl⟩ := isEntered
    rw [List.flatten_cons, List.forall_mem_append, List.forall_mem_append,
      List.forall_mem_singleton]
    refine ⟨⟨fun event member => ?_, ?_⟩, inductionHypothesis⟩
    · rw [Event.isReading, isFound_of_mem childrenFound event member, Bool.true_or]
    · rw [Event.isReading, isEntered_of_message enters.message, Bool.or_true]

/-- What is found in the groups of some blocks are the children of the blocks. -/
theorem found_in_groups (entered : List.Forall₂ Node.IsEnteredBy blocks groups) :
    List.Forall₂ Node.IsFoundBy (blocks.flatMap Node.children)
      (groups.flatten.filter Event.isFound) := by
  induction entered with
  | nil => exact .nil
  | cons isEntered later inductionHypothesis =>
    obtain ⟨found, last, childrenFound, enters, rfl⟩ := isEntered
    rw [List.flatMap_cons, List.flatten_cons, List.filter_append, List.filter_append,
      filter_isFound childrenFound, List.filter_cons_of_neg (by simp [enters.isFound]),
      List.filter_nil, List.append_nil]
    exact List.rel_append childrenFound inductionHypothesis

/-- The bodies that are entered in the groups of some blocks are those of the blocks. -/
theorem entered_in_groups (entered : List.Forall₂ Node.IsEnteredBy blocks groups) :
    (groups.flatten.filter Event.isEntered).map Event.fields = blocks.map fun block =>
      [("depth", .number (block.depth + 1)), ("tokens", .number block.children.length)] := by
  induction entered with
  | nil => rfl
  | cons isEntered later inductionHypothesis =>
    obtain ⟨found, last, childrenFound, enters, rfl⟩ := isEntered
    rw [List.flatten_cons, List.filter_append, List.filter_append, filter_isEntered childrenFound,
      List.nil_append, List.filter_cons_of_pos (isEntered_of_message enters.message),
      List.filter_nil, List.singleton_append, List.map_cons, List.map_cons, enters.fields,
      inductionHypothesis]

end

/-- The events of reading a program mirror its tree. -/
structure MirrorsTree (nodes : List Node) (trace : List Event) : Prop where
  /-- Segments are found and bodies are entered, and nothing else happens. -/
  reading : ∀ event ∈ trace, event.isReading = true
  /-- As many segments are found as there are nodes. -/
  count : trace.countP Event.isFound = (allNodes nodes).length
  /-- The depths of the segments are those of the nodes, in another order. -/
  depths : ((trace.filter Event.isFound).map Event.fields).Perm
    ((allNodes nodes).map fun node => [("depth", .number node.depth)])
  /-- The nodes of the program are found first. -/
  roots : List.Forall₂ Node.IsFoundBy nodes (trace.take nodes.length)
  /-- They are found at depth zero. -/
  rootDepths : ∀ event ∈ trace.take nodes.length, event.fields = [("depth", .number 0)]
  /-- The body of each block is entered, that of a block before those inside it, and the fields are
  the depth of the body and the number of the children. -/
  entered : (trace.filter Event.isEntered).map Event.fields = (allBlocks nodes).map fun block =>
    [("depth", .number (block.depth + 1)), ("tokens", .number block.children.length)]
  /-- Directly before a body is entered, the children of its block are found. -/
  groups : ∃ groups, trace.drop nodes.length = groups.flatten ∧
    List.Forall₂ Node.IsEnteredBy (allBlocks nodes) groups

theorem mirrorsTree_of_groups {nodes : List Node} {found : List Event} {groups : List (List Event)}
    (nodesFound : List.Forall₂ Node.IsFoundBy nodes found)
    (entered : List.Forall₂ Node.IsEnteredBy (allBlocks nodes) groups)
    (atZero : ∀ node ∈ nodes, node.depth = 0) : MirrorsTree nodes (found ++ groups.flatten) := by
  have allFound : List.Forall₂ Node.IsFoundBy (findingOrder nodes)
      ((found ++ groups.flatten).filter Event.isFound) := by
    rw [List.filter_append, filter_isFound nodesFound]
    exact List.rel_append nodesFound (found_in_groups entered)
  have everyNode := findingOrder_perm_allNodes nodes
  have front : (found ++ groups.flatten).take nodes.length = found := by
    rw [nodesFound.length_eq, List.take_left]
  refine ⟨?_, ?_, ?_, ?_, ?_, ?_, groups, ?_, entered⟩
  · exact List.forall_mem_append.mpr ⟨fun event member => by
      simp [Event.isReading, isFound_of_mem nodesFound event member], isReading_in_groups entered⟩
  · rw [List.countP_eq_length_filter, ← allFound.length_eq, everyNode.length_eq]
  · rw [map_fields_found allFound]
    exact everyNode.map _
  · rwa [front]
  · rw [front]
    intro event member
    have told := List.mem_map_of_mem member (f := Event.fields)
    rw [map_fields_found nodesFound] at told
    obtain ⟨node, nodeMember, same⟩ := List.mem_map.mp told
    rw [← same, atZero node nodeMember]
  · rw [List.filter_append, filter_isEntered nodesFound, List.nil_append, entered_in_groups entered]
  · rw [nodesFound.length_eq, List.drop_left]

/-! ### Programs -/

/-- A program that passes the scans is read, and its tree is judged. -/
theorem judge_of_scans {source : Text} (balanced : hasBalancedBrackets source = true)
    (complete : hasLoopClauses source = true) :
    judge source = (readProgram source).mapFailure Rejection.ofReadFailure >>= judgeNodes := by
  rw [judge, balanced, complete]
  rfl

/-- Judging a tree tells that it was built, and then what is found in it. -/
theorem events_judgeNodes (nodes : List Node) :
    (judgeNodes nodes).events =
      .programBuilt nodes.length :: ((firstFinding? nodes).map .ruleBroken).toList := by
  unfold judgeNodes
  rw [Traced.events_bind_of_ok (Traced.outcome_record _)]
  cases firstFinding? nodes with
  | none => rfl
  | some finding => rfl

/-- All events of a program that has a tree: those of reading it come before those of judging it. -/
theorem judgeEvents_of_tree {source : Text} {nodes : List Node}
    (balanced : hasBalancedBrackets source = true) (complete : hasLoopClauses source = true)
    (read : (readProgram source).outcome = .ok nodes) :
    judgeEvents source = (readProgram source).events ++ .programBuilt nodes.length ::
      (((firstFinding? nodes).map .ruleBroken).toList ++ [.judged (verdict source)]) := by
  have built : ((readProgram source).mapFailure Rejection.ofReadFailure).outcome = .ok nodes :=
    mapError_eq_ok_iff.mpr read
  rw [judgeEvents, judge_of_scans balanced complete, Traced.events_bind_of_ok built,
    Traced.events_mapFailure, events_judgeNodes, List.append_assoc, List.cons_append]

/-- The events of reading a program that has a tree: its segments are found, and then they are
built. -/
theorem events_readProgram {source : Text} {nodes : List Node}
    (read : (readProgram source).outcome = .ok nodes) :
    (readProgram source).events =
      (segmentLines 0 0 (statementLines source)).segments.map .segmentFound ++
        (buildAll (segmentLines 0 0 (statementLines source)).segments).events := by
  rw [outcome_readProgram, readLines_eq_ok_iff_buildAll] at read
  have succeeded : ((readSegments 0 source).mapFailure ReadFailure.source).outcome =
      .ok (segmentLines 0 0 (statementLines source)).segments := by
    rw [Traced.outcome_mapFailure, readSegments, mapError_eq_ok_iff, Segmentation.outcome,
      if_pos read.1]
  rw [readProgram, Traced.events_bind_of_ok succeeded]
  rfl

/-- An event tells that a tree was built: the one field is the number of its nodes that stand in no
other one. -/
structure Event.TellsBuilt (event : Event) (nodes : List Node) : Prop where
  message : event.message = "parsed program"
  fields : event.fields = [("statements", .number nodes.length)]

/-- What is recorded of a program that passes the scans and has a tree, until the tree is built,
mirrors the tree. -/
theorem judgeEvents_mirror_tree {source : Text} {nodes : List Node}
    (balanced : hasBalancedBrackets source = true) (complete : hasLoopClauses source = true)
    (read : (readProgram source).outcome = .ok nodes) :
    ∃ trace built later, judgeEvents source = trace ++ built :: later ∧ built.TellsBuilt nodes ∧
      MirrorsTree nodes trace := by
  have outlined := readProgram_eq_ok_iff.mp read
  obtain ⟨found, groups, events, entered⟩ :=
    outlined.events fun _ => isStatementLine_of_mem_statementLines
  refine ⟨_, _, _, judgeEvents_of_tree balanced complete read, ⟨rfl, rfl⟩, ?_⟩
  rw [events_readProgram read, events]
  exact mirrorsTree_of_groups found entered outlined.depth_eq

/-- The body of the function is entered before those of the loop and the empty branch in it, and six
nodes are found at the depths of the tree. -/
theorem judgeEvents_mirror_tree_nestedSource :
    hasBalancedBrackets nestedSource = true ∧ hasLoopClauses nestedSource = true ∧
      (readProgram nestedSource).outcome = .ok nestedTree ∧
      ∃ trace built later, judgeEvents nestedSource = trace ++ built :: later ∧
        built.message = "parsed program" ∧ built.fields = [("statements", .number 2)] ∧
        MirrorsTree nestedTree trace ∧
        ((trace.filter Event.isFound).map Event.fields).Perm
          ([0, 1, 2, 1, 1, 0].map fun depth => [("depth", .number depth)]) ∧
        (trace.filter Event.isEntered).map Event.fields =
          [[("depth", .number 1), ("tokens", .number 3)],
            [("depth", .number 2), ("tokens", .number 1)],
            [("depth", .number 2), ("tokens", .number 0)]] := by
  have balanced : hasBalancedBrackets nestedSource = true := by decide +kernel
  have complete : hasLoopClauses nestedSource = true := by decide +kernel
  obtain ⟨trace, built, later, told, tells, mirrors⟩ :=
    judgeEvents_mirror_tree balanced complete readProgram_nestedSource
  exact ⟨balanced, complete, readProgram_nestedSource, trace, built, later, told, tells.message,
    tells.fields, mirrors, mirrors.depths, mirrors.entered⟩

end BlockCheck
