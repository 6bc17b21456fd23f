/-
This file proves that a tree keeps the lines it was read from. Flattening a tree lists its
nodes in the order in which they stand in the text, with a mark after the children of each
block. For a program that is read, the entries of that list and the lines of the program
correspond one to one, the unreadable lines left out: a node is what its line says by
itself, and the mark after a block stands for a closing line. The depth of a node, of which
its line says nothing, is the number of blocks that are open where it stands.

A closing line need not close a block. In the body of a header that was unreadable it is a
line of code, and the correspondence says which of the two it is.
-/

import BlockCheck.Proofs.Outlined
import Mathlib.Data.List.Forall2

namespace BlockCheck

/-! ### Flattening -/

/-- An entry of a flattened tree. -/
inductive Entry where
  /-- A statement. -/
  | statement (depth : Nat) (content : Statement)
  /-- The header of a block, whose children follow. -/
  | header (depth : Nat) (content : Header)
  /-- The end of the children of a block. -/
  | closing

mutual

/-- The entries of a node: the node without its children, and for a block the entries of the
children and a mark after them. -/
def Node.entries : Node → List Entry
  | .statement depth content => [.statement depth content]
  | .block depth header children => .header depth header :: (allEntries children ++ [.closing])

/-- The entries of some nodes, in order. -/
def allEntries : List Node → List Entry
  | [] => []
  | node :: rest => node.entries ++ allEntries rest

end

mutual

/-- A node and all nodes below it, a block before its children. -/
def Node.preorder : Node → List Node
  | .statement depth content => [.statement depth content]
  | .block depth header children => .block depth header children :: allNodes children

/-- Some nodes and all nodes below them. -/
def allNodes : List Node → List Node
  | [] => []
  | node :: rest => node.preorder ++ allNodes rest

end

/-- A node that has a body. -/
def Node.isBlock : Node → Bool
  | .statement _ _ => false
  | .block _ _ _ => true

/-- An entry stands for a line that says the same by itself; the end of a block stands for a
closing line. -/
def Entry.StandsFor : Entry → Text → Prop
  | .statement _ content, line => LineForm.ofLine line = .statement content
  | .header _ content, line => LineForm.ofLine line = .header content
  | .closing, line => line = closingLine

/-- The depth of each entry is the number of blocks that are open before it, and every end
of a block closes one. -/
inductive Leveled : Nat → List Entry → Prop where
  | nil (level : Nat) : Leveled level []
  | statement {level : Nat} {rest : List Entry} (content : Statement)
      (later : Leveled level rest) : Leveled level (.statement level content :: rest)
  | header {level : Nat} {rest : List Entry} (content : Header)
      (later : Leveled (level + 1) rest) : Leveled level (.header level content :: rest)
  | closing {level : Nat} {rest : List Entry} (later : Leveled level rest) :
      Leveled (level + 1) (.closing :: rest)

/-- A line that is a statement or a header. -/
def isReadable (line : Text) : Bool := LineForm.ofLine line != .unreadable

theorem isReadable_of_statement {line : Text} {content : Statement}
    (isStatement : LineForm.ofLine line = .statement content) : isReadable line = true := by
  simp [isReadable, isStatement]

theorem isReadable_of_header {line : Text} {content : Header}
    (isHeader : LineForm.ofLine line = .header content) : isReadable line = true := by
  simp [isReadable, isHeader]

theorem isReadable_closingLine : isReadable closingLine = true := by decide

/-! ### Counting entries -/

mutual

theorem Node.length_entries (node : Node) :
    node.entries.length = node.preorder.length + node.preorder.countP Node.isBlock := by
  cases node with
  | statement depth content => rfl
  | block depth header children =>
    have below := length_allEntries children
    simp only [Node.entries, Node.preorder, List.length_cons, List.length_append, List.length_nil,
      List.countP_cons, Node.isBlock, if_true, below]
    omega

/-- A flattened tree has one entry for each node and one more for each block. -/
theorem length_allEntries (nodes : List Node) :
    (allEntries nodes).length = (allNodes nodes).length + (allNodes nodes).countP Node.isBlock := by
  cases nodes with
  | nil => rfl
  | cons node rest =>
    have first := Node.length_entries node
    have others := length_allEntries rest
    simp only [allEntries, allNodes, List.length_append, List.countP_append, first, others]
    omega

end

/-! ### The correspondence -/

/-- Entry by entry, a tree is what the readable lines that it outlines say. -/
theorem Outlined.standsFor {depth : Nat} {available : List Text} {nodes : List Node}
    (outlined : Outlined depth available nodes) :
    List.Forall₂ Entry.StandsFor (allEntries nodes) (available.filter isReadable) := by
  induction outlined with
  | nil depth => exact .nil
  | statement isStatement later inductionHypothesis =>
    rw [List.filter_cons_of_pos (isReadable_of_statement isStatement)]
    exact .cons isStatement inductionHypothesis
  | unreadable isUnreadable later inductionHypothesis =>
    rw [List.filter_cons_of_neg (by simp [isReadable, isUnreadable])]
    exact inductionHypothesis
  | block isHeader balanced inside later insideHypothesis laterHypothesis =>
    rw [List.filter_cons_of_pos (isReadable_of_header isHeader), List.filter_append,
      List.filter_cons_of_pos isReadable_closingLine]
    simp only [allEntries, Node.entries, List.cons_append, List.append_assoc, List.nil_append]
    exact .cons isHeader (List.rel_append insideHypothesis (.cons rfl laterHypothesis))

/-- Entries that come after a tree do not disturb its levels, nor does the tree theirs. -/
theorem Outlined.leveled_append {depth : Nat} {available : List Text} {nodes : List Node}
    (outlined : Outlined depth available nodes) {after : List Entry}
    (leveled : Leveled depth after) : Leveled depth (allEntries nodes ++ after) := by
  induction outlined generalizing after with
  | nil depth => exact leveled
  | statement isStatement later inductionHypothesis =>
    exact .statement _ (inductionHypothesis leveled)
  | unreadable isUnreadable later inductionHypothesis => exact inductionHypothesis leveled
  | block isHeader balanced inside later insideHypothesis laterHypothesis =>
    simp only [allEntries, Node.entries, List.cons_append, List.append_assoc, List.nil_append]
    exact .header _ (insideHypothesis (.closing (laterHypothesis leveled)))

/-- No line of a program that is read is lost, doubled or moved. The entries of its tree
stand, one by one and in order, for its readable lines; the depths of the nodes are the
levels at which they stand; and the nodes, the ends of blocks and the unreadable lines are
as many as there are lines. -/
theorem allEntries_standFor_statementLines {source : Text} {nodes : List Node}
    (succeeded : (readProgram source).outcome = .ok nodes) :
    List.Forall₂ Entry.StandsFor (allEntries nodes) ((statementLines source).filter isReadable) ∧
      Leveled 0 (allEntries nodes) ∧
      (allNodes nodes).length + (allNodes nodes).countP Node.isBlock +
          (statementLines source).countP (fun line => !isReadable line) =
        (statementLines source).length := by
  have outlined := readProgram_eq_ok_iff.mp succeeded
  have standing := outlined.standsFor
  have leveled := outlined.leveled_append (.nil 0)
  rw [List.append_nil] at leveled
  refine ⟨standing, leveled, ?_⟩
  have sameLength := standing.length_eq
  rw [length_allEntries, ← List.countP_eq_length_filter] at sameLength
  have split : (statementLines source).length = (statementLines source).countP isReadable +
      (statementLines source).countP fun line => !isReadable line := by
    simpa using List.length_eq_countP_add_countP isReadable (l := statementLines source)
  omega

/-- A function with an unreadable header in its body. -/
def unreadableSource : Text := "fc f ( a ) int \x7b\n if b \x7b\n  x:1\n \x7d\n\x7d".toList

/-- The tree of the function: the closing line that looks as if it belonged to the unreadable
header is a line of code. -/
def unreadableTree : List Node :=
  [.block 0 (.function ['f'] [['a']] ['i', 'n', 't'])
    [.statement 1 (.declaration ['x'] ['1']), .statement 1 (.code closingLine)]]

theorem allEntries_standFor_statementLines_of_unreadable :
    (readProgram unreadableSource).outcome = .ok unreadableTree ∧
      List.Forall₂ Entry.StandsFor (allEntries unreadableTree)
        ((statementLines unreadableSource).filter isReadable) ∧
      Leveled 0 (allEntries unreadableTree) ∧
      (allNodes unreadableTree).length + (allNodes unreadableTree).countP Node.isBlock +
          (statementLines unreadableSource).countP (fun line => !isReadable line) =
        (statementLines unreadableSource).length := by
  have succeeded : (readProgram unreadableSource).outcome = .ok unreadableTree := by
    have written : statementLines unreadableSource = ["fc f ( a ) int \x7b".toList,
        "if b \x7b".toList, "x:1".toList, closingLine, closingLine] := by decide +kernel
    rw [readProgram_eq_ok_iff, written]
    have inside : Outlined 1 ["if b \x7b".toList, "x:1".toList, closingLine]
        [.statement 1 (.declaration ['x'] ['1']), .statement 1 (.code closingLine)] :=
      .unreadable (by decide) (.statement (by decide) (.statement (by decide) (.nil 1)))
    exact .block (by decide) (by decide) inside (.nil 0)
  exact ⟨succeeded, allEntries_standFor_statementLines succeeded⟩

end BlockCheck
