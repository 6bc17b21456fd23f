/-
This file takes a verdict apart. Four things decide it, one after the other: the brackets,
the loop clauses, whether the program has a tree, and the first finding in the tree
(`verdict_eq`). Each verdict that a program can get is then a statement about these four.
-/

import BlockCheck.Judge
import BlockCheck.Proofs.Outlined

namespace BlockCheck

/-- The verdict on a program whose tree is known: its first finding decides. -/
def treeVerdict (nodes : List Node) : Verdict :=
  match firstFinding? nodes with
  | none => .accepted
  | some finding => .rejected (.grammar finding.violation)

theorem ofOutcome_judgeNodes (nodes : List Node) :
    Verdict.ofOutcome (judgeNodes nodes).outcome = treeVerdict nodes := by
  unfold judgeNodes treeVerdict
  rw [Traced.outcome_bind]
  cases firstFinding? nodes <;> rfl

/-- What decides a verdict, in the order in which it is looked at. -/
theorem verdict_eq (source : Text) :
    verdict source =
      if hasBalancedBrackets source = false then .rejected (.structural .unbalancedBrackets)
      else if hasLoopClauses source = false then .rejected (.structural .incompleteLoopClauses)
      else match (readProgram source).outcome with
        | .error _ => .rejected (.structural .unterminatedBlock)
        | .ok nodes => treeVerdict nodes := by
  unfold verdict judge
  cases hasBalancedBrackets source with
  | false => rfl
  | true =>
    cases hasLoopClauses source with
    | false => rfl
    | true =>
      simp only [Bool.not_true, Bool.false_eq_true, if_false, reduceCtorEq]
      rw [Traced.outcome_bind, Traced.outcome_mapFailure]
      cases (readProgram source).outcome with
      | error failure => rfl
      | ok nodes => exact ofOutcome_judgeNodes nodes

/-- A program that passes the scans and has a tree gets the verdict on the tree. -/
theorem verdict_of_tree {source : Text} {nodes : List Node}
    (balanced : hasBalancedBrackets source = true) (complete : hasLoopClauses source = true)
    (read : (readProgram source).outcome = .ok nodes) : verdict source = treeVerdict nodes := by
  rw [verdict_eq, balanced, complete, read]
  simp

/-- A program that is not rejected for its structure passes the scans and has a tree. -/
theorem exists_tree_of_verdict {source : Text}
    (sound : ∀ fault, verdict source ≠ .rejected (.structural fault)) :
    hasBalancedBrackets source = true ∧ hasLoopClauses source = true ∧
      ∃ nodes, (readProgram source).outcome = .ok nodes ∧ verdict source = treeVerdict nodes := by
  have parts := verdict_eq source
  cases balanced : hasBalancedBrackets source with
  | false =>
    rw [balanced] at parts
    exact absurd parts (sound _)
  | true =>
    cases complete : hasLoopClauses source with
    | false =>
      rw [balanced, complete] at parts
      exact absurd parts (sound _)
    | true =>
      cases read : (readProgram source).outcome with
      | error failure =>
        rw [balanced, complete, read] at parts
        exact absurd parts (sound _)
      | ok nodes => exact ⟨rfl, rfl, nodes, rfl, verdict_of_tree balanced complete read⟩

theorem treeVerdict_eq_accepted_iff {nodes : List Node} :
    treeVerdict nodes = .accepted ↔ firstFinding? nodes = none := by
  unfold treeVerdict
  cases firstFinding? nodes <;> simp

theorem treeVerdict_eq_grammar_iff {nodes : List Node} {violation : Violation} :
    treeVerdict nodes = .rejected (.grammar violation) ↔
      ∃ finding, firstFinding? nodes = some finding ∧ finding.violation = violation := by
  unfold treeVerdict
  cases firstFinding? nodes <;> simp

end BlockCheck
