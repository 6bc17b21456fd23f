/-
This file judges a program. The text is checked for its brackets and its loop clauses, then
its tree is built, and then the tree is searched for a broken rule; the first of these
that fails rejects the program. All that happens on the way is recorded, and the verdict
is the last event.
-/

import BlockCheck.Brackets
import BlockCheck.Outline

namespace BlockCheck

/-- A text without a tree is rejected for the block that is not closed, wherever it is. -/
def Rejection.ofReadFailure (_ : ReadFailure) : Rejection := .structural .unterminatedBlock

/-- Judge the tree of a program. -/
def judgeNodes (nodes : List Node) : Traced Rejection Unit := do
  Traced.record (.programBuilt nodes.length)
  match firstFinding? nodes with
  | none => return ()
  | some finding =>
    Traced.record (.ruleBroken finding)
    Traced.fail (.grammar finding.violation)

/-- Judge a program, up to the verdict. -/
def judge (source : Text) : Traced Rejection Unit :=
  if !hasBalancedBrackets source then .fail (.structural .unbalancedBrackets)
  else if !hasLoopClauses source then .fail (.structural .incompleteLoopClauses)
  else do
    let nodes ← (readProgram source).mapFailure Rejection.ofReadFailure
    judgeNodes nodes

/-- The verdict on a program. -/
def verdict (source : Text) : Verdict := .ofOutcome (judge source).outcome

/-- All events of a program that is judged, the verdict last. -/
def judgeEvents (source : Text) : List Event := (judge source).events ++ [.judged (verdict source)]

end BlockCheck
