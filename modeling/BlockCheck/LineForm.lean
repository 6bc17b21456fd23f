/-
This file says what a single line is. The words of the line are read from the left, and
the first word that is a keyword or holds a colon decides; where no word does, the whole
line is a line of code. The deciding word need not be the first one.

A line that starts a header but lacks the marks that bound its parts is unreadable: it
stands for nothing and opens no block. The marks of a function are searched in the whole
line, those of a loop after its keyword and before the next curly bracket, and those of a
branch word by word in the whole line.
-/

import BlockCheck.LoopClauses
import BlockCheck.Statement

namespace BlockCheck

/-! ### Keywords -/

/-- The keyword that starts a function. -/
def functionKeyword : Text := ['f', 'c']

/-- The keyword that starts a branch. -/
def branchKeyword : Text := ['i', 'f']

/-- The keyword that starts a return. -/
def returnKeyword : Text := ['r', 'e', 't', 'u', 'r', 'n']

/-! ### Headers -/

/-- The parameters between the round brackets of a function: the trimmed pieces between
commas, and none where the brackets hold blanks only. An empty piece is kept. -/
def splitParameters (inner : Text) : List Text :=
  if isBlankText inner then [] else (inner.splitOn ',').map trim

/-- The header of a function, from the whole line and the words after the keyword. The first
opening bracket has to stand before the first closing one. The next word is the name, cut
off at a bracket that is glued to it, and the word after the closing bracket is the type. -/
def functionHeader? (line : Text) (following : List Text) : Option Header := do
  let (before, afterOpening) ← cutAt? '(' line
  guard (')' ∉ before)
  let (inner, afterClosing) ← cutAt? ')' afterOpening
  return .function ((following.headD []).takeWhile (· != '(')) (splitParameters inner)
    (firstWord afterClosing)

/-- Either of the curly brackets. -/
def isCurly (c : Char) : Bool := c == '{' || c == '}'

/-- The header of a loop, from the words after the keyword. Its clauses end at the first
opening curly bracket; the third one also holds every further separator and loses the curly
brackets at its end. -/
def loopHeader? (following : List Text) : Option Header := do
  let (initializer, later) ← cutAt? clauseSeparator ((joinWords following).takeWhile (· != '{'))
  let (condition, increment) ← cutAt? clauseSeparator later
  return .loop (trim initializer) (trim condition) (trim (dropEnd isCurly (trim increment)))

/-- The header of a branch, from all words of the line. The condition is the words strictly
between the first word with an opening bracket and the first word with a closing one, and
empty where the two words leave none. -/
def branchHeader? (allWords : List Text) : Option Header := do
  let opening ← allWords.findIdx? fun word => word.contains '('
  let closing ← allWords.findIdx? fun word => word.contains ')'
  return .branch (joinWords ((allWords.take closing).drop (opening + 1)))

/-! ### Lines -/

/-- What a line is. -/
inductive LineForm where
  /-- The line is a statement. -/
  | statement (content : Statement)
  /-- The line is the header of a block. -/
  | header (content : Header)
  /-- The line starts a header whose parts cannot be found. -/
  | unreadable
  deriving DecidableEq, Repr

/-- A header that was found, or an unreadable line. -/
def LineForm.ofHeader? : Option Header → LineForm
  | some content => .header content
  | none => .unreadable

/-- Read the words of a line that are left until one decides. -/
def LineForm.ofWords (line : Text) (allWords : List Text) : List Text → LineForm
  | [] => .statement (.code line)
  | word :: following =>
    if word = returnKeyword then .statement (.returning (joinWords following))
    else if word = functionKeyword then .ofHeader? (functionHeader? line following)
    else if word = loopKeyword then .ofHeader? (loopHeader? following)
    else if word = branchKeyword then .ofHeader? (branchHeader? allWords)
    else
      match cutAt? ':' word with
      | some (name, value) => .statement (.declaration name value)
      | none => LineForm.ofWords line allWords following

/-- What a line is, decided by the leftmost of its words that is a keyword or holds a
colon. -/
def LineForm.ofLine (line : Text) : LineForm := LineForm.ofWords line (words line) (words line)

end BlockCheck
