/-
This file checks the brackets of a whole text before anything is read from it. Round and
curly brackets are counted apart, so that `( { ) }` is balanced: only the levels of each
kind have to fit, not the order of the two kinds.
-/

import BlockCheck.Nesting
import BlockCheck.Text

namespace BlockCheck

/-- What a character does to the level of round brackets. -/
def roundMark (c : Char) : NestingMark :=
  if c = '(' then .opens else if c = ')' then .closes else .neutral

/-- What a character does to the level of curly brackets. -/
def curlyMark (c : Char) : NestingMark :=
  if c = '{' then .opens else if c = '}' then .closes else .neutral

/-- A text has balanced brackets when each of the two kinds is balanced by itself. -/
def hasBalancedBrackets (text : Text) : Bool :=
  isBalanced roundMark text && isBalanced curlyMark text

end BlockCheck
