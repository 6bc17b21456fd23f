/-
This file holds the tree of a program. A node is one statement, or a header with the nodes
of its body. The tree of a program is a list of nodes, its statements in order.
-/

import BlockCheck.Statement

namespace BlockCheck

/-- A node of the tree of a program, found at a nesting depth. -/
inductive Node where
  /-- One statement. -/
  | statement (depth : Nat) (content : Statement)
  /-- The header of a block and the nodes of its body. -/
  | block (depth : Nat) (header : Header) (children : List Node)
  deriving Repr, BEq

/-- The nesting depth at which a node was found. -/
def Node.depth : Node → Nat
  | .statement depth _ => depth
  | .block depth _ _ => depth

/-- The construct that a node is. -/
def Node.construct : Node → Construct
  | .statement _ content => content.construct
  | .block _ header _ => header.construct

/-- The nodes of the body of a block; a statement has none. -/
def Node.children : Node → List Node
  | .statement _ _ => []
  | .block _ _ children => children

end BlockCheck
