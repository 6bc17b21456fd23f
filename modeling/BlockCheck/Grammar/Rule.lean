/-
This file holds the grammar rules and searches a program for the first node that breaks
one. The rule of a construct is a list of clauses, each with the violation that it
guards against; the first clause that does not hold decides.

The search goes through the nodes in order and looks at a node before its children. Only
the bodies of functions are searched: of a loop or a branch the header is checked, and of
a branch also that its body is not empty.
-/

import BlockCheck.Grammar.Operand
import BlockCheck.Grammar.Violation
import BlockCheck.Node

namespace BlockCheck

/-! ### Rules -/

/-- A condition on a construct and the violation that it guards against. -/
structure Clause where
  holds : Bool
  violation : Violation

/-- The types that a function may return. -/
def returnTypes : List Text :=
  [['i', 'n', 't'], ['f', 'l', 'o', 'a', 't'], ['s', 't', 'r', 'i', 'n', 'g']]

/-- A node that returns a value that is not blank. -/
def Node.returnsValue : Node → Bool
  | .statement _ (.returning value) => !isBlankText value
  | _ => false

/-- The rule of a statement. Only a declaration has one. -/
def Statement.clauses : Statement → List Clause
  | .declaration name value =>
    [⟨isIdentifier name, .invalidVariableName⟩, ⟨!isBlankText value, .emptyVariableValue⟩]
  | .returning _ => []
  | .code _ => []

/-- The rule of a header, which also looks at the nodes directly below it. A return inside an
inner block does not count for a function. -/
def Header.clauses : Header → List Node → List Clause
  | .function name parameters returnType, children =>
    [⟨isIdentifier name, .invalidFunctionName⟩, ⟨!parameters.isEmpty, .missingParameters⟩,
      ⟨parameters.all isIdentifier, .invalidParameter⟩,
      ⟨returnTypes.contains returnType, .unsupportedReturnType⟩,
      ⟨children.any Node.returnsValue, .missingReturn⟩]
  | .loop initializer condition increment, _ =>
    [⟨!isBlankText initializer && !isBlankText condition && !isBlankText increment,
        .incompleteLoopClauses⟩,
      ⟨mentionsOperand initializer, .invalidLoopInitializer⟩,
      ⟨mentionsOperand condition, .invalidLoopCondition⟩,
      ⟨isIncrement (trim increment), .invalidLoopIncrement⟩]
  | .branch condition, children =>
    [⟨!isBlankText condition, .emptyBranchCondition⟩, ⟨!children.isEmpty, .emptyBranchBody⟩,
      ⟨isComparison condition, .invalidBranchCondition⟩]

/-- The rule of a node. -/
def Node.clauses : Node → List Clause
  | .statement _ content => content.clauses
  | .block _ header children => header.clauses children

/-- The violation of the first clause that does not hold. -/
def firstBroken? (clauses : List Clause) : Option Violation :=
  (clauses.find? fun clause => !clause.holds).map Clause.violation

/-! ### Findings -/

/-- A node that breaks its rule, and how. -/
structure Finding where
  depth : Nat
  construct : Construct
  violation : Violation
  deriving DecidableEq, Repr

/-- What is wrong with a node itself, its children left aside. -/
def Node.ownFinding? (node : Node) : Option Finding :=
  (firstBroken? node.clauses).map fun violation => ⟨node.depth, node.construct, violation⟩

mutual

/-- The first finding in a node: its own, or the first one in the body of a function. -/
def Node.finding? : Node → Option Finding
  | .statement depth content => (Node.statement depth content).ownFinding?
  | .block depth header children =>
    (Node.block depth header children).ownFinding?.or
      (if header.construct = .function then firstFinding? children else none)

/-- The first finding in some nodes, in order. -/
def firstFinding? : List Node → Option Finding
  | [] => none
  | node :: rest => node.finding?.or (firstFinding? rest)

end

end BlockCheck
