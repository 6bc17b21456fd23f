/-
This file proves that the search for a finding is a search through a list. The search follows the
tree, and at every node it has to decide whether to look at the node, below it or after it. The
walk of a program lists the nodes that are looked at, in the order in which that happens: each
node of the program, and directly after a function the walk of its body. What is found is what the
first node of the walk that breaks its rule breaks, and nothing is found when all of them keep
their rules.

The rules are said here as conditions on a node, in the order in which they count. What a node
breaks is the first of them that does not hold.
-/

import BlockCheck.Grammar.Rule
import Mathlib.Data.List.Forall2

namespace BlockCheck

/-! ### The rules as conditions -/

/-- A condition that a rule puts on a node, and the violation that tells that it does not hold. -/
structure Condition where
  holds : Prop
  violation : Violation

/-- The conditions on a statement. A declaration gives some value to an identifier. -/
def Statement.conditions : Statement → List Condition
  | .declaration name value =>
    [⟨isIdentifier name = true, .invalidVariableName⟩,
      ⟨¬isBlankText value = true, .emptyVariableValue⟩]
  | .returning _ => []
  | .code _ => []

/-- The conditions on a header and the nodes directly below it, in the order in which they
count. -/
def Header.conditions : Header → List Node → List Condition
  | .function name parameters returnType, children =>
    [⟨isIdentifier name = true, .invalidFunctionName⟩,
      ⟨parameters ≠ [], .missingParameters⟩,
      ⟨∀ parameter ∈ parameters, isIdentifier parameter = true, .invalidParameter⟩,
      ⟨returnType = "int".toList ∨ returnType = "float".toList ∨ returnType = "string".toList,
        .unsupportedReturnType⟩,
      ⟨∃ depth value, .statement depth (.returning value) ∈ children ∧ ¬isBlankText value = true,
        .missingReturn⟩]
  | .loop initializer condition increment, _ =>
    [⟨∀ clause ∈ [initializer, condition, increment], ¬isBlankText clause = true,
        .incompleteLoopClauses⟩,
      ⟨mentionsOperand initializer = true, .invalidLoopInitializer⟩,
      ⟨mentionsOperand condition = true, .invalidLoopCondition⟩,
      ⟨isIncrement (trim increment) = true, .invalidLoopIncrement⟩]
  | .branch condition, children =>
    [⟨¬isBlankText condition = true, .emptyBranchCondition⟩,
      ⟨children ≠ [], .emptyBranchBody⟩,
      ⟨isComparison condition = true, .invalidBranchCondition⟩]

/-- The conditions on a node. -/
def Node.conditions : Node → List Condition
  | .statement _ content => content.conditions
  | .block _ header children => header.conditions children

/-- A node keeps its rule when all conditions on it hold. -/
def Node.KeepsRule (node : Node) : Prop := ∀ condition ∈ node.conditions, condition.holds

/-- Some conditions are broken, and the first one that does not hold tells how. -/
inductive FirstBroken : List Condition → Violation → Prop where
  | here {condition : Condition} (broken : ¬condition.holds) (rest : List Condition) :
      FirstBroken (condition :: rest) condition.violation
  | later {condition : Condition} {rest : List Condition} {violation : Violation}
      (holds : condition.holds) (below : FirstBroken rest violation) :
      FirstBroken (condition :: rest) violation

/-- A node breaks its rule. -/
def Node.Breaks (node : Node) (violation : Violation) : Prop :=
  FirstBroken node.conditions violation

/-! ### Clauses decide conditions -/

/-- A clause stands for a condition: it holds exactly when the condition does, and it guards
against the same violation. -/
structure Clause.Decides (clause : Clause) (condition : Condition) : Prop where
  holds : clause.holds = true ↔ condition.holds
  violation : clause.violation = condition.violation

theorem Statement.clauses_decide (content : Statement) :
    List.Forall₂ Clause.Decides content.clauses content.conditions := by
  cases content with
  | declaration name value =>
    exact .cons ⟨Iff.rfl, rfl⟩ (.cons ⟨by simp, rfl⟩ .nil)
  | returning value => exact .nil
  | code text => exact .nil

theorem any_returnsValue_iff {children : List Node} :
    children.any Node.returnsValue = true ↔
      ∃ depth value,
        .statement depth (.returning value) ∈ children ∧ ¬isBlankText value = true := by
  rw [List.any_eq_true]
  constructor
  · rintro ⟨node, member, returns⟩
    unfold Node.returnsValue at returns
    split at returns
    case h_1 depth value => exact ⟨depth, value, member, by simpa using returns⟩
    case h_2 => nomatch returns
  · rintro ⟨depth, value, member, notBlank⟩
    exact ⟨_, member, by simpa [Node.returnsValue] using notBlank⟩

theorem Header.clauses_decide (header : Header) (children : List Node) :
    List.Forall₂ Clause.Decides (header.clauses children) (header.conditions children) := by
  cases header with
  | function name parameters returnType =>
    have typeKnown : returnTypes.contains returnType = true ↔ returnType = "int".toList ∨
        returnType = "float".toList ∨ returnType = "string".toList := by
      simp [returnTypes]
    exact .cons ⟨Iff.rfl, rfl⟩ (.cons ⟨by simp, rfl⟩ (.cons ⟨List.all_eq_true, rfl⟩
      (.cons ⟨typeKnown, rfl⟩ (.cons ⟨any_returnsValue_iff, rfl⟩ .nil))))
  | loop initializer condition increment =>
    exact .cons ⟨by simp [and_assoc], rfl⟩ (.cons ⟨Iff.rfl, rfl⟩ (.cons ⟨Iff.rfl, rfl⟩
      (.cons ⟨Iff.rfl, rfl⟩ .nil)))
  | branch condition =>
    exact .cons ⟨by simp, rfl⟩ (.cons ⟨by simp, rfl⟩ (.cons ⟨Iff.rfl, rfl⟩ .nil))

theorem Node.clauses_decide (node : Node) :
    List.Forall₂ Clause.Decides node.clauses node.conditions := by
  cases node with
  | statement depth content => exact content.clauses_decide
  | block depth header children => exact header.clauses_decide children

/-- The first clause that does not hold tells the first condition that is broken. -/
theorem firstBroken?_eq_some_iff {clauses : List Clause} {conditions : List Condition}
    (decided : List.Forall₂ Clause.Decides clauses conditions) {violation : Violation} :
    firstBroken? clauses = some violation ↔ FirstBroken conditions violation := by
  induction decided with
  | nil =>
    constructor
    · intro found
      nomatch found
    · intro broken
      nomatch broken
  | @cons clause condition rest others decides decided inductionHypothesis =>
    unfold firstBroken? at inductionHypothesis ⊢
    cases isTrue : clause.holds with
    | true =>
      have holds : condition.holds := decides.holds.mp isTrue
      rw [List.find?_cons_of_neg (by simp [isTrue]), inductionHypothesis]
      constructor
      · exact .later holds
      · intro broken
        cases broken with
        | here broken => exact absurd holds broken
        | later holds below => exact below
    | false =>
      have broken : ¬condition.holds := fun holds => by simp [decides.holds.mpr holds] at isTrue
      rw [List.find?_cons_of_pos (by simp [isTrue]), Option.map_some, Option.some.injEq,
        decides.violation]
      constructor
      · rintro rfl
        exact .here broken _
      · intro first
        cases first with
        | here => rfl
        | later holds => exact absurd holds broken

theorem firstBroken?_eq_none_iff {clauses : List Clause} {conditions : List Condition}
    (decided : List.Forall₂ Clause.Decides clauses conditions) :
    firstBroken? clauses = none ↔ ∀ condition ∈ conditions, condition.holds := by
  unfold firstBroken?
  rw [Option.map_eq_none_iff, List.find?_eq_none]
  induction decided with
  | nil => simp
  | cons decides decided inductionHypothesis =>
    rw [List.forall_mem_cons, List.forall_mem_cons, inductionHypothesis]
    simp [decides.holds]

theorem Node.ownFinding?_eq_none_iff {node : Node} :
    node.ownFinding? = none ↔ node.KeepsRule := by
  rw [Node.ownFinding?, Option.map_eq_none_iff, firstBroken?_eq_none_iff node.clauses_decide]
  rfl

/-- What is found in a node by itself tells where the node is and what it is, and what it
breaks. -/
theorem Node.ownFinding?_eq_some_iff {node : Node} {finding : Finding} :
    node.ownFinding? = some finding ↔ node.Breaks finding.violation ∧
      finding.depth = node.depth ∧ finding.construct = node.construct := by
  obtain ⟨depth, construct, violation⟩ := finding
  simp only [Node.ownFinding?, Option.map_eq_some_iff, Finding.mk.injEq,
    firstBroken?_eq_some_iff node.clauses_decide]
  constructor
  · rintro ⟨broken, breaks, rfl, rfl, rfl⟩
    exact ⟨breaks, rfl, rfl⟩
  · rintro ⟨breaks, rfl, rfl⟩
    exact ⟨violation, breaks, rfl, rfl, rfl⟩

/-! ### The walk -/

mutual

/-- The walk of a node: the node, and for a function the walk of its body. -/
def Node.walk : Node → List Node
  | .statement depth content => [.statement depth content]
  | .block depth (.function name parameters returnType) children =>
    .block depth (.function name parameters returnType) children :: walkAll children
  | .block depth (.loop initializer condition increment) children =>
    [.block depth (.loop initializer condition increment) children]
  | .block depth (.branch condition) children => [.block depth (.branch condition) children]

/-- The walks of some nodes, one after the other. -/
def walkAll : List Node → List Node
  | [] => []
  | node :: rest => node.walk ++ walkAll rest

end

mutual

theorem Node.finding?_eq_findSome? (node : Node) :
    node.finding? = node.walk.findSome? Node.ownFinding? := by
  match node with
  | .statement depth content =>
    rw [Node.finding?, Node.walk, List.findSome?_singleton]
  | .block depth (.function name parameters returnType) children =>
    rw [Node.finding?, Node.walk, List.findSome?_cons, ← firstFinding?_eq_findSome? children]
    cases Node.ownFinding? _ <;> rfl
  | .block depth (.loop initializer condition increment) children =>
    rw [Node.finding?, Node.walk, List.findSome?_singleton]
    exact Option.or_none
  | .block depth (.branch condition) children =>
    rw [Node.finding?, Node.walk, List.findSome?_singleton]
    exact Option.or_none

/-- The search finds what the first node of the walk with a finding of its own has. -/
theorem firstFinding?_eq_findSome? (nodes : List Node) :
    firstFinding? nodes = (walkAll nodes).findSome? Node.ownFinding? := by
  match nodes with
  | [] => rfl
  | node :: rest =>
    rw [firstFinding?, walkAll, List.findSome?_append, Node.finding?_eq_findSome? node,
      firstFinding?_eq_findSome? rest]

end

/-- A node is the first one of the walk that breaks its rule. -/
def IsFirstToBreak (nodes : List Node) (node : Node) (violation : Violation) : Prop :=
  ∃ before after, walkAll nodes = before ++ node :: after ∧
    (∀ earlier ∈ before, earlier.KeepsRule) ∧ node.Breaks violation

theorem firstFinding?_eq_none_iff {nodes : List Node} :
    firstFinding? nodes = none ↔ ∀ node ∈ walkAll nodes, node.KeepsRule := by
  simp only [firstFinding?_eq_findSome?, List.findSome?_eq_none_iff, Node.ownFinding?_eq_none_iff]

theorem firstFinding?_eq_some_iff {nodes : List Node} {finding : Finding} :
    firstFinding? nodes = some finding ↔ ∃ node, IsFirstToBreak nodes node finding.violation ∧
      finding.depth = node.depth ∧ finding.construct = node.construct := by
  rw [firstFinding?_eq_findSome?, List.findSome?_eq_some_iff]
  constructor
  · rintro ⟨before, node, after, split, found, earlier⟩
    obtain ⟨breaks, sameDepth, sameConstruct⟩ := Node.ownFinding?_eq_some_iff.mp found
    refine ⟨node, ⟨before, after, split, fun other member => ?_, breaks⟩, sameDepth, sameConstruct⟩
    exact Node.ownFinding?_eq_none_iff.mp (earlier other member)
  · rintro ⟨node, ⟨before, after, split, earlier, breaks⟩, sameDepth, sameConstruct⟩
    refine ⟨before, node, after, split, ?_, fun other member => ?_⟩
    · exact Node.ownFinding?_eq_some_iff.mpr ⟨breaks, sameDepth, sameConstruct⟩
    · exact Node.ownFinding?_eq_none_iff.mpr (earlier other member)

/-- The search of any tree is a search of its walk. Nothing is found exactly when every node of the
walk keeps its rule; and a finding is where the first node is that does not, and what that node
breaks first. -/
theorem search_follows_walk (nodes : List Node) :
    (firstFinding? nodes = none ↔ ∀ node ∈ walkAll nodes, node.KeepsRule) ∧
      ∀ finding, firstFinding? nodes = some finding ↔
        ∃ node, IsFirstToBreak nodes node finding.violation ∧
          finding.depth = node.depth ∧ finding.construct = node.construct :=
  ⟨firstFinding?_eq_none_iff, fun _ => firstFinding?_eq_some_iff⟩

/-- The body of a function is walked before what comes after the function, and the body of a loop
is not walked. -/
example :
    (walkAll [.block 0 (.function [] [] [])
        [.block 1 (.function [] [] []) [.statement 2 (.code [])], .statement 1 (.code [])],
      .block 0 (.loop [] [] []) [.statement 1 (.code [])]]).map Node.depth = [0, 1, 2, 1, 0] := by
  rfl

end BlockCheck
