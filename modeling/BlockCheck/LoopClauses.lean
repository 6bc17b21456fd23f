/-
This file checks the headers of loops in a text before anything is read from it. A line
whose first word is the keyword of loops needs two separators, because its header has
three clauses. The separators may stand anywhere on the line.
-/

import BlockCheck.Text.Lines

namespace BlockCheck

/-- The keyword that starts a loop. -/
def loopKeyword : Text := ['f', 'o', 'r']

/-- The character between two clauses of a loop. -/
def clauseSeparator : Char := ';'

/-- A line has its loop clauses when it starts no loop or has two clause separators. -/
def lineHasLoopClauses (line : Text) : Bool :=
  firstWord line != loopKeyword || decide (2 ≤ line.count clauseSeparator)

/-- A text has its loop clauses when each of its lines has. -/
def hasLoopClauses (text : Text) : Bool := (lines text).all lineHasLoopClauses

end BlockCheck
