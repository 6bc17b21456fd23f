/-
This file names what can be said about a program in the end: that it is accepted, or why
it is rejected. A program is rejected for the structure of its text or for the first rule
of the grammar that it breaks, and the message says which of the two it is.
-/

import BlockCheck.Grammar.Violation

namespace BlockCheck

/-- What is wrong with a program before its grammar is looked at. -/
inductive StructuralFault where
  /-- The brackets of the text are not balanced. -/
  | unbalancedBrackets
  /-- A loop header has too few clause separators. -/
  | incompleteLoopClauses
  /-- A block is not closed. -/
  | unterminatedBlock
  deriving DecidableEq, Repr

/-- The message for a structural fault. -/
def StructuralFault.message : StructuralFault → String
  | .unbalancedBrackets => "braces or parentheses are not balanced"
  | .incompleteLoopClauses => "every for loop needs three clauses separated by ';'"
  | .unterminatedBlock => "a block is never closed by a '\x7d' line"

/-- Why a program is rejected. -/
inductive Rejection where
  /-- The text has a structural fault. -/
  | structural (fault : StructuralFault)
  /-- The first rule of the grammar that is broken. -/
  | grammar (violation : Violation)
  deriving DecidableEq, Repr

/-- The message for a rejection. -/
def Rejection.message : Rejection → String
  | .structural fault => "Structural error: " ++ fault.message
  | .grammar violation => "Syntax error: " ++ violation.message

/-- What is said about a program. -/
inductive Verdict where
  /-- Nothing is wrong with the program. -/
  | accepted
  /-- The program is wrong, for the reason that was found first. -/
  | rejected (reason : Rejection)
  deriving DecidableEq, Repr

/-- Whether a verdict is in favour of the program. -/
def Verdict.isAccepted : Verdict → Bool
  | .accepted => true
  | .rejected _ => false

/-- The message of a verdict against the program. -/
def Verdict.message? : Verdict → Option String
  | .accepted => none
  | .rejected reason => some reason.message

/-- The verdict that the outcome of judging stands for. -/
def Verdict.ofOutcome : Except Rejection Unit → Verdict
  | .ok () => .accepted
  | .error reason => .rejected reason

end BlockCheck
