/-
This file holds what a single line of a program can say. A line is a statement, or it is
the header of a block that the following lines fill. The six constructs of the language
are the three kinds of statement and the three kinds of header.
-/

import BlockCheck.Text

namespace BlockCheck

/-- A statement takes one line and has no body. -/
inductive Statement where
  /-- A variable is given a value: `name:value`. -/
  | declaration (name value : Text)
  /-- A value is returned, possibly none: `return value`. -/
  | returning (value : Text)
  /-- A line of which nothing more is known. -/
  | code (text : Text)
  deriving DecidableEq, Repr

/-- A header opens a block whose body is the lines after it. -/
inductive Header where
  /-- A function is declared: `fc name ( parameters ) type`. -/
  | function (name : Text) (parameters : List Text) (returnType : Text)
  /-- A loop with its three clauses: `for initializer; condition; increment`. -/
  | loop (initializer condition increment : Text)
  /-- A branch with its condition: `if ( condition )`. -/
  | branch (condition : Text)
  deriving DecidableEq, Repr

/-- The constructs of the language. -/
inductive Construct where
  | declaration
  | function
  | loop
  | branch
  | returning
  | code
  deriving DecidableEq, Repr

/-- The name by which messages call a construct. -/
def Construct.name : Construct → String
  | .declaration => "variable declaration"
  | .function => "function declaration"
  | .loop => "for loop"
  | .branch => "if statement"
  | .returning => "return statement"
  | .code => "code line"

/-- The construct that a statement is. -/
def Statement.construct : Statement → Construct
  | .declaration _ _ => .declaration
  | .returning _ => .returning
  | .code _ => .code

/-- The construct that a header opens. -/
def Header.construct : Header → Construct
  | .function _ _ _ => .function
  | .loop _ _ _ => .loop
  | .branch _ => .branch

/-- A statement with the texts that name it, in quotes, as messages show it. -/
def Statement.summary : Statement → String
  | .declaration name _ => "variable declaration '" ++ String.ofList name ++ "'"
  | .returning value => "return '" ++ String.ofList value ++ "'"
  | .code text => "code line '" ++ String.ofList text ++ "'"

/-- A header with the texts that name it, in quotes, as messages show it. -/
def Header.summary : Header → String
  | .function name _ _ => "function '" ++ String.ofList name ++ "'"
  | .loop _ _ _ => "for loop"
  | .branch condition => "if '" ++ String.ofList condition ++ "'"

end BlockCheck
