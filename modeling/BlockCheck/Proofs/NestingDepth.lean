/-
This file proves that the depth of a node is the nesting level of its line. Depths are given out
while bodies are cut out, joined and read again, and the level of a line is counted over the whole
text; in a balanced text in which exactly the headers open a level the two agree for every node
(`Outlined.standAt`). So do two notions of what belongs together: the parent of a node is the block
whose header is the innermost one that is still open at the line of the node.

A node is told by its place among all nodes of the tree, a block before its children, and the nodes
stand in the order of their lines. The node of a line therefore has as many nodes before it as there
are earlier lines with a node, and that is how the parents in the tree are compared with the open
headers in the text.
-/

import BlockCheck.Proofs.Flattened
import BlockCheck.Proofs.HeadersOpen

namespace BlockCheck

/-! ### Blocks that are open at a line -/

/-- After the lines in front, the block whose header comes after the earlier ones is still open: no
closing line since then has closed it. -/
def IsOpenAfter (front earlier : List Text) : Prop :=
  ∃ header between, front = earlier ++ header :: between ∧ blockMark header = .opens ∧
    StaysAbove blockMark between

/-- Of all blocks that are open after the lines in front, the one whose header comes after the
earlier lines was opened last. -/
structure IsInnermostAfter (front earlier : List Text) : Prop where
  isOpen : IsOpenAfter front earlier
  latest : ∀ other, IsOpenAfter front other → other.length ≤ earlier.length

/-- Lines that are balanced neither leave a block open nor close one that was open before them: a
header among them would be closed again by the end of them. -/
theorem isOpenAfter_append_iff {more : List Text} (balanced : follow? blockMark 0 more = some 0)
    {front earlier : List Text} :
    IsOpenAfter (front ++ more) earlier ↔ IsOpenAfter front earlier := by
  constructor
  · rintro ⟨header, between, shape, opens, above⟩
    obtain ⟨height, followed⟩ := (exists_follow?_iff blockMark).mpr above
    have notInside (inner : List Text) : more ≠ inner ++ header :: between := by
      rintro rfl
      rw [follow?_append] at balanced
      obtain ⟨level, -, later⟩ := Option.bind_eq_some_iff.mp balanced
      have raised := follow?_add blockMark followed (level + 1)
      rw [follow?_cons, opens, NestingMark.step?, Option.bind_some, raised,
        Option.some.injEq] at later
      omega
    rcases List.append_eq_append_iff.mp shape with ⟨inner, -, inside⟩ | ⟨tail, rfl, after⟩
    · exact absurd inside (notInside inner)
    · cases tail with
      | nil => exact absurd after.symm (notInside [])
      | cons first rest =>
        obtain ⟨rfl, rfl⟩ := List.cons_eq_cons.mp after
        refine ⟨header, rest, rfl, opens, fun shorter isFront => ?_⟩
        exact above shorter (isFront.trans (List.prefix_append rest more))
  · rintro ⟨header, between, rfl, opens, above⟩
    obtain ⟨height, followed⟩ := (exists_follow?_iff blockMark).mpr above
    refine ⟨header, between ++ more, by simp, opens, (exists_follow?_iff blockMark).mp ⟨height, ?_⟩⟩
    rw [follow?_append, followed, Option.bind_some]
    exact follow?_add blockMark balanced height

/-- After a line that opens a level, its own block is the innermost one. -/
theorem isInnermostAfter_concat {line : Text} (opens : blockMark line = .opens)
    (front : List Text) : IsInnermostAfter (front ++ [line]) front where
  isOpen := ⟨line, [], rfl, opens, (exists_follow?_iff blockMark).mp ⟨0, rfl⟩⟩
  latest := by
    rintro other ⟨header, between, shape, -, -⟩
    have lengths := congrArg List.length shape
    simp only [List.length_append, List.length_cons, List.length_nil] at lengths
    omega

/-! ### Lines with a node -/

/-- A line that has a node of its own, where no closing line is a node: it is neither a closing line
nor unreadable. -/
def hasNode (line : Text) : Bool := line != closingLine && isReadable line

/-- Those of some lines that have a node, in order, each with all lines before it. The first
argument holds the lines before them all. -/
def nodeLines (before : List Text) : List Text → List (List Text × Text)
  | [] => []
  | line :: rest =>
    if hasNode line then (before, line) :: nodeLines (before ++ [line]) rest
    else nodeLines (before ++ [line]) rest

theorem nodeLines_append (before first second : List Text) :
    nodeLines before (first ++ second) =
      nodeLines before first ++ nodeLines (before ++ first) second := by
  induction first generalizing before with
  | nil => simp [nodeLines]
  | cons line rest inductionHypothesis =>
    simp only [List.cons_append, nodeLines, inductionHypothesis, List.append_assoc, List.nil_append]
    split <;> simp

theorem length_nodeLines (before available : List Text) :
    (nodeLines before available).length = available.countP hasNode := by
  induction available generalizing before with
  | nil => rfl
  | cons line rest inductionHypothesis =>
    rw [nodeLines, List.countP_cons]
    split <;> simp [*]

theorem hasNode_of_mem_nodeLines {before available front : List Text} {line : Text}
    (member : (front, line) ∈ nodeLines before available) : hasNode line = true := by
  induction available generalizing before with
  | nil => simp [nodeLines] at member
  | cons first rest inductionHypothesis =>
    rw [nodeLines] at member
    split at member
    · rcases List.mem_cons.mp member with same | later
      · rw [(Prod.mk.inj same).2]
        assumption
      · exact inductionHypothesis later
    · exact inductionHypothesis member

theorem hasNode_closingLine : hasNode closingLine = false := by decide

/-- A line that closes nothing has a node when it is readable. -/
theorem hasNode_of_blockMark_ne_closes {line : Text} (mark : blockMark line ≠ .closes) :
    hasNode line = isReadable line := by
  have different : line ≠ closingLine := fun same => mark (blockMark_eq_closes_iff.mpr same)
  simp [hasNode, different]

/-- A line of code is the line itself. -/
theorem eq_of_ofWords_eq_code {line text : Text} {allWords remaining : List Text}
    (isCode : LineForm.ofWords line allWords remaining = .statement (.code text)) :
    text = line := by
  induction remaining with
  | nil => simpa [LineForm.ofWords, eq_comm] using isCode
  | cons word following inductionHypothesis =>
    have notHeader (found : Option Header) :
        LineForm.ofHeader? found ≠ .statement (.code text) := by
      cases found <;> simp [LineForm.ofHeader?]
    rw [LineForm.ofWords] at isCode
    split at isCode
    · simp at isCode
    split at isCode
    · exact absurd isCode (notHeader _)
    split at isCode
    · exact absurd isCode (notHeader _)
    split at isCode
    · exact absurd isCode (notHeader _)
    split at isCode
    · simp at isCode
    · exact inductionHypothesis isCode

/-! ### Nodes with their parents -/

mutual

/-- A node and all nodes below it, a block before its children, each with the place of its parent
among all nodes. Given are the parent and the place of the node itself. -/
def Node.placed (parent : Option Nat) (place : Nat) : Node → List (Node × Option Nat)
  | .statement depth content => [(.statement depth content, parent)]
  | .block depth header children =>
    (.block depth header children, parent) :: placedNodes (some place) (place + 1) children

/-- Some nodes with the same parent and all nodes below them. -/
def placedNodes (parent : Option Nat) (place : Nat) : List Node → List (Node × Option Nat)
  | [] => []
  | node :: rest =>
    node.placed parent place ++ placedNodes parent (place + node.preorder.length) rest

end

mutual

theorem Node.map_fst_placed (parent : Option Nat) (place : Nat) (node : Node) :
    (node.placed parent place).map Prod.fst = node.preorder := by
  cases node with
  | statement depth content => rfl
  | block depth header children =>
    rw [Node.placed, Node.preorder, List.map_cons, map_fst_placedNodes]

/-- The placed nodes are all nodes. -/
theorem map_fst_placedNodes (parent : Option Nat) (place : Nat) (nodes : List Node) :
    (placedNodes parent place nodes).map Prod.fst = allNodes nodes := by
  cases nodes with
  | nil => rfl
  | cons node rest =>
    rw [placedNodes, allNodes, List.map_append, Node.map_fst_placed, map_fst_placedNodes]

end

/-- What a node is by itself, its depth and its children left aside. -/
def Node.form : Node → LineForm
  | .statement _ content => .statement content
  | .block _ header _ => .header header

/-- The place of the parent that a node has whose line comes after the lines in front: that of the
innermost open header, or none where no block is open. -/
def IsParentAfter (front : List Text) : Option Nat → Prop
  | none => ∀ earlier, ¬ IsOpenAfter front earlier
  | some place => ∃ earlier, IsInnermostAfter front earlier ∧ earlier.countP hasNode = place

/-- What is known of the lines before some nodes: following them ends at the depth of the nodes, and
the parent of the nodes is the innermost block that they leave open. -/
structure LeadsTo (depth : Nat) (parent : Option Nat) (before : List Text) : Prop where
  level : follow? blockMark 0 before = some depth
  parent : IsParentAfter before parent

theorem leadsTo_nil : LeadsTo 0 none [] where
  level := rfl
  parent := by
    rintro earlier ⟨header, between, shape, -, -⟩
    simp at shape

/-- Balanced lines lead to where the lines before them led. -/
theorem LeadsTo.append {depth : Nat} {parent : Option Nat} {before : List Text}
    (leads : LeadsTo depth parent before) {more : List Text}
    (balanced : follow? blockMark 0 more = some 0) : LeadsTo depth parent (before ++ more) where
  level := by
    rw [follow?_append, leads.level, Option.bind_some]
    exact follow?_add blockMark balanced depth
  parent := by
    have sameOpen (earlier : List Text) :
        IsOpenAfter (before ++ more) earlier ↔ IsOpenAfter before earlier :=
      isOpenAfter_append_iff balanced
    cases parent with
    | none => exact fun earlier isOpen => leads.parent earlier ((sameOpen earlier).mp isOpen)
    | some place =>
      obtain ⟨earlier, innermost, count⟩ := leads.parent
      refine ⟨earlier, ⟨(sameOpen earlier).mpr innermost.isOpen, fun other isOpen => ?_⟩, count⟩
      exact innermost.latest other ((sameOpen other).mp isOpen)

/-- A header leads to the nodes in its block. -/
theorem LeadsTo.header {depth : Nat} {parent : Option Nat} {before : List Text}
    (leads : LeadsTo depth parent before) {line : Text} (opens : blockMark line = .opens) :
    LeadsTo (depth + 1) (some (before.countP hasNode)) (before ++ [line]) where
  level := by
    rw [follow?_append, leads.level, Option.bind_some, follow?_singleton, opens]
    rfl
  parent := ⟨before, isInnermostAfter_concat opens before, rfl⟩

/-- A placed node belongs to a line and the lines before it: it is what the line says, its depth is
the level of the line, and its parent is the innermost block that is open there. -/
structure StandsAt (found : Node × Option Nat) (written : List Text × Text) : Prop where
  form : LineForm.ofLine written.2 = found.1.form
  depth : found.1.depth = openings blockMark written.1 - closings blockMark written.1
  parent : IsParentAfter written.1 found.2

/-! ### The correspondence -/

/-- Exactly the headers among some lines end with an opening bracket. -/
def OnlyHeadersOpen (available : List Text) : Prop :=
  ∀ line ∈ available, line.getLast? = some '{' ↔ isHeaderLine line = true

instance (available : List Text) : Decidable (OnlyHeadersOpen available) :=
  inferInstanceAs (Decidable (∀ line ∈ available, line.getLast? = some '{' ↔
    isHeaderLine line = true))

theorem OnlyHeadersOpen.headersOpen {available : List Text}
    (onlyHeaders : OnlyHeadersOpen available) : HeadersOpen available :=
  fun line member => (onlyHeaders line member).mpr

/-- Where balanced lines do not start with a header, the first line is balanced by itself, so are
the lines after it, and it has a node when it is readable. -/
theorem OnlyHeadersOpen.of_not_header {line : Text} {rest : List Text}
    (onlyHeaders : OnlyHeadersOpen (line :: rest)) (noHeader : isHeaderLine line = false)
    (balanced : follow? blockMark 0 (line :: rest) = some 0) :
    follow? blockMark 0 [line] = some 0 ∧ follow? blockMark 0 rest = some 0 ∧
      hasNode line = isReadable line := by
  have notOpens : blockMark line ≠ .opens := fun opens => by
    have isHeader := (onlyHeaders line List.mem_cons_self).mp (blockMark_eq_opens_iff.mp opens)
    rw [noHeader] at isHeader
    nomatch isHeader
  have notCloses : blockMark line ≠ .closes := fun closes => by
    rw [follow?_cons, closes] at balanced
    nomatch balanced
  have neutral : blockMark line = .neutral := by
    cases mark : blockMark line with
    | opens => exact absurd mark notOpens
    | closes => exact absurd mark notCloses
    | neutral => rfl
  rw [follow?_cons, neutral] at balanced
  rw [follow?_singleton, neutral]
  exact ⟨rfl, balanced, hasNode_of_blockMark_ne_closes notCloses⟩

/-- Node by node and line by line, the tree of balanced lines in which exactly the headers open a
level stands where its lines do, whatever lines lead to it. A body has as many nodes as lines that
have one, so that the count goes on behind a block where its lines end. -/
theorem Outlined.standAt {depth : Nat} {available : List Text} {nodes : List Node}
    (outlined : Outlined depth available nodes) (onlyHeaders : OnlyHeadersOpen available)
    (balanced : follow? blockMark 0 available = some 0) {parent : Option Nat} {before : List Text}
    (leads : LeadsTo depth parent before) :
    List.Forall₂ StandsAt (placedNodes parent (before.countP hasNode) nodes)
      (nodeLines before available) := by
  induction outlined generalizing before parent with
  | nil depth => exact .nil
  | @statement depth line content rest nodes isStatement later inductionHypothesis =>
    have noHeader : isHeaderLine line = false := by rw [isHeaderLine, isStatement]
    obtain ⟨lineBalanced, restBalanced, isNode⟩ := onlyHeaders.of_not_header noHeader balanced
    rw [isReadable_of_statement isStatement] at isNode
    have others := inductionHypothesis (List.forall_mem_cons.mp onlyHeaders).2 restBalanced
      (leads.append lineBalanced)
    rw [List.countP_append, List.countP_singleton, if_pos isNode] at others
    rw [nodeLines, if_pos isNode, placedNodes]
    exact .cons ⟨isStatement, level_of_follow? _ leads.level, leads.parent⟩ others
  | @unreadable depth line rest nodes isUnreadable later inductionHypothesis =>
    have noHeader : isHeaderLine line = false := by rw [isHeaderLine, isUnreadable]
    obtain ⟨lineBalanced, restBalanced, noNode⟩ := onlyHeaders.of_not_header noHeader balanced
    have others := inductionHypothesis (List.forall_mem_cons.mp onlyHeaders).2 restBalanced
      (leads.append lineBalanced)
    have unreadable : isReadable line = false := by simp [isReadable, isUnreadable]
    rw [List.countP_append, List.countP_singleton, noNode, unreadable] at others
    rw [nodeLines, noNode, unreadable]
    exact others
  | @block depth line header body rest children nodes isHeader bodyBalanced inside later
      insideHypothesis laterHypothesis =>
    have opens : blockMark line = .opens := onlyHeaders.headersOpen.blockMark_eq isHeader
    have isNode : hasNode line = true := by
      rw [hasNode_of_blockMark_ne_closes (by rw [opens]; decide), isReadable_of_header isHeader]
    obtain ⟨-, onlyBody, -, onlyRest⟩ := forall_mem_block_iff.mp onlyHeaders
    rw [follow?_block opens bodyBalanced] at balanced
    have blockBalanced : follow? blockMark 0 (line :: (body ++ [closingLine])) = some 0 :=
      follow?_block opens bodyBalanced 0 []
    have below := insideHypothesis onlyBody bodyBalanced (leads.header opens)
    have others := laterHypothesis onlyRest balanced (leads.append blockBalanced)
    have bodyCount : (allNodes children).length = body.countP hasNode := by
      rw [← length_nodeLines (before ++ [line]), ← below.length_eq, ← map_fst_placedNodes,
        List.length_map]
    have headerCount : (before ++ [line]).countP hasNode = before.countP hasNode + 1 := by
      rw [List.countP_append, List.countP_singleton, if_pos isNode]
    have blockCount : (before ++ line :: (body ++ [closingLine])).countP hasNode =
        before.countP hasNode + (Node.block depth header children).preorder.length := by
      simp only [List.countP_append, List.countP_cons, List.countP_nil, isNode, hasNode_closingLine,
        Node.preorder, List.length_cons, bodyCount, if_true, Bool.false_eq_true, if_false]
    rw [headerCount] at below
    rw [blockCount] at others
    have split : nodeLines before (line :: (body ++ closingLine :: rest)) =
        (before, line) :: (nodeLines (before ++ [line]) body ++
          nodeLines (before ++ line :: (body ++ [closingLine])) rest) := by
      rw [nodeLines, if_pos isNode, nodeLines_append, nodeLines.eq_def _ (closingLine :: rest)]
      simp [hasNode_closingLine]
    rw [split, placedNodes, Node.placed, List.cons_append]
    exact .cons ⟨isHeader, level_of_follow? _ leads.level, leads.parent⟩
      (List.rel_append below others)

/-! ### Programs -/

section

variable {parent : Option Nat} {place : Nat} {nodes : List Node} {before available : List Text}
variable (standing : List.Forall₂ StandsAt (placedNodes parent place nodes)
  (nodeLines before available))

include standing

/-- What is read off a node and off the line that it stands at is read off the whole tree and off
all lines with a node. -/
theorem map_allNodes_of_standAt {Value : Type} {ofNode : Node → Value}
    {ofWritten : List Text × Text → Value}
    (same : ∀ found written, StandsAt found written → ofNode found.1 = ofWritten written) :
    (allNodes nodes).map ofNode = (nodeLines before available).map ofWritten := by
  have alike := List.rel_map (P := (· = ·)) (fun {found} {written} => same found written) standing
  rw [List.forall₂_eq_eq_eq] at alike
  rw [← alike, ← map_fst_placedNodes parent place, List.map_map]
  rfl

/-- A tree whose nodes are what their lines say has no node for a closing line. -/
theorem closing_not_mem_of_standAt (depth : Nat) :
    Node.statement depth (.code closingLine) ∉ allNodes nodes := by
  intro member
  have forms : (allNodes nodes).map Node.form =
      (nodeLines before available).map fun (_, line) => LineForm.ofLine line :=
    map_allNodes_of_standAt standing fun found written stands => stands.form.symm
  have isForm := List.mem_map_of_mem member (f := Node.form)
  rw [forms] at isForm
  obtain ⟨⟨front, line⟩, lineMember, isCode⟩ := List.mem_map.mp isForm
  have isClosing : closingLine = line := eq_of_ofWords_eq_code isCode
  have isNode := hasNode_of_mem_nodeLines lineMember
  rw [← isClosing, hasNode_closingLine] at isNode
  nomatch isNode

end

/-- In a balanced text in which exactly the headers open a level, tree depth is nesting. The program
has a tree, no closing line is a node, the depths of the nodes are the levels of their lines, and
the parent of each node is the innermost block that is open at its line. -/
theorem nodes_standAt_nodeLines {source : Text}
    (balanced : NestedBalanced blockMark (statementLines source))
    (onlyHeaders : OnlyHeadersOpen (statementLines source)) :
    ∃ nodes, (readProgram source).outcome = .ok nodes ∧
      (∀ depth, Node.statement depth (.code closingLine) ∉ allNodes nodes) ∧
      (allNodes nodes).map Node.depth = (nodeLines [] (statementLines source)).map
        (fun (front, _) => openings blockMark front - closings blockMark front) ∧
      List.Forall₂ StandsAt (placedNodes none 0 nodes) (nodeLines [] (statementLines source)) := by
  have followed := (nestedBalanced_iff blockMark).mp balanced
  obtain ⟨-, nodes, read⟩ := exists_nodes_of_follow? onlyHeaders.headersOpen followed
  have standing := (readProgram_eq_ok_iff.mp read).standAt onlyHeaders followed leadsTo_nil
  refine ⟨nodes, read, closing_not_mem_of_standAt standing, ?_, standing⟩
  exact map_allNodes_of_standAt standing fun found written stands => stands.depth

/-- A function with a loop and an empty branch in its body, between the two a header that is
unreadable and opens nothing, and a declaration after it. -/
def nestedSource : Text :=
  ("fc f ( a ) int \x7b\n for 0; i<9; 1++ \x7b\n  x:1\n \x7d\n if a\n if ( a > 1 ) \x7b\n \x7d\n" ++
    " return a\n\x7d\ny:2").toList

/-- The tree of the function and the declaration. -/
def nestedTree : List Node :=
  [.block 0 (.function ['f'] [['a']] ['i', 'n', 't'])
      [.block 1 (.loop ['0'] "i<9".toList "1++".toList) [.statement 2 (.declaration ['x'] ['1'])],
        .block 1 (.branch "a > 1".toList) [], .statement 1 (.returning ['a'])],
    .statement 0 (.declaration ['y'] ['2'])]

theorem readProgram_nestedSource : (readProgram nestedSource).outcome = .ok nestedTree := by
  have written : statementLines nestedSource = "fc f ( a ) int \x7b".toList ::
      (("for 0; i<9; 1++ \x7b".toList :: (["x:1".toList] ++ closingLine :: "if a".toList ::
        "if ( a > 1 ) \x7b".toList :: ([] ++ closingLine :: ["return a".toList]))) ++
        closingLine :: ["y:2".toList]) := by decide +kernel
  rw [readProgram_eq_ok_iff, written]
  have loopBody : Outlined 2 ["x:1".toList] [.statement 2 (.declaration ['x'] ['1'])] :=
    .statement (by decide) (.nil 2)
  have afterLoop : Outlined 1 ("if a".toList :: "if ( a > 1 ) \x7b".toList ::
      ([] ++ closingLine :: ["return a".toList]))
      [.block 1 (.branch "a > 1".toList) [], .statement 1 (.returning ['a'])] :=
    .unreadable (by decide) (.block (by decide) (by decide) (.nil 2)
      (.statement (by decide) (.nil 1)))
  exact .block (by decide) (by decide) (.block (by decide) (by decide) loopBody afterLoop)
    (.statement (by decide) (.nil 0))

theorem nodes_standAt_nodeLines_nestedSource :
    NestedBalanced blockMark (statementLines nestedSource) ∧
      OnlyHeadersOpen (statementLines nestedSource) ∧
      (readProgram nestedSource).outcome = .ok nestedTree ∧
      (∀ depth, Node.statement depth (.code closingLine) ∉ allNodes nestedTree) ∧
      [0, 1, 2, 1, 1, 0] = (nodeLines [] (statementLines nestedSource)).map
        (fun (front, _) => openings blockMark front - closings blockMark front) ∧
      (placedNodes none 0 nestedTree).map Prod.snd = [none, some 0, some 1, some 0, some 0, none] ∧
      List.Forall₂ StandsAt (placedNodes none 0 nestedTree)
        (nodeLines [] (statementLines nestedSource)) := by
  have balanced : NestedBalanced blockMark (statementLines nestedSource) :=
    (nestedBalanced_iff _).mpr (by decide +kernel)
  have onlyHeaders : OnlyHeadersOpen (statementLines nestedSource) := by decide +kernel
  obtain ⟨nodes, read, noClosing, depths, standing⟩ := nodes_standAt_nodeLines balanced onlyHeaders
  have same : nodes = nestedTree := Except.ok.inj (read.symm.trans readProgram_nestedSource)
  subst same
  exact ⟨balanced, onlyHeaders, read, noClosing, depths, rfl, standing⟩

end BlockCheck
