/-
This file holds the tests on texts that the grammar rules are made of: identifiers,
numbers, increments and comparisons. All of them know the letters and digits of ASCII
alone, while the blanks around the operands of a comparison are those of `isBlank`.
-/

import BlockCheck.Text.Blank

namespace BlockCheck

/-! ### Identifiers and numbers -/

/-- A character that may start an identifier: a letter or an underscore. -/
def startsIdentifier (c : Char) : Bool := c.isAlpha || c == '_'

/-- A character that may stand inside an identifier: a letter, a digit or an underscore. -/
def continuesIdentifier (c : Char) : Bool := c.isAlphanum || c == '_'

/-- An identifier is a start character followed by inner characters. -/
def isIdentifier : Text → Bool
  | [] => false
  | first :: rest => startsIdentifier first && rest.all continuesIdentifier

/-- A text of one or more digits. -/
def isDigits (text : Text) : Bool := !text.isEmpty && text.all Char.isDigit

/-- A number is digits, possibly followed by a point and more digits. -/
def isNumber (text : Text) : Bool :=
  match cutAt? '.' text with
  | none => isDigits text
  | some (whole, fraction) => isDigits whole && isDigits fraction

/-- An operand is an identifier or a number. -/
def isOperand (text : Text) : Bool := isIdentifier text || isNumber text

/-- A text mentions an operand when an identifier or a number stands somewhere in it. One
character decides this: a letter, a digit or an underscore is an operand by itself, and every
operand starts with one of them. -/
def mentionsOperand (text : Text) : Bool := text.any continuesIdentifier

/-- An increment is digits followed by two plus signs. -/
def isIncrement (text : Text) : Bool :=
  match ['+', '+'].isSuffixOf? text with
  | some count => isDigits count
  | none => false

/-! ### Comparisons -/

/-- The ways to compare two operands. -/
inductive Comparison where
  | equal
  | unequal
  | atMost
  | atLeast
  | less
  | greater
  deriving DecidableEq, Repr

/-- The operator that is written for a comparison. -/
def Comparison.operator : Comparison → Text
  | .equal => ['=', '=']
  | .unequal => ['!', '=']
  | .atMost => ['<', '=']
  | .atLeast => ['>', '=']
  | .less => ['<']
  | .greater => ['>']

/-- All comparisons, those with the longer operators first. -/
def Comparison.all : List Comparison := [.equal, .unequal, .atMost, .atLeast, .less, .greater]

/-- A text is a given comparison when the first occurrence of the operator stands between
two operands, with blanks around them or not. -/
def Comparison.isWrittenIn (comparison : Comparison) (text : Text) : Bool :=
  match cutAtText? comparison.operator text with
  | some (left, right) => isOperand (trim left) && isOperand (trim right)
  | none => false

/-- A text is a comparison when it is one of them. -/
def isComparison (text : Text) : Bool :=
  Comparison.all.any fun comparison => comparison.isWrittenIn text

end BlockCheck
