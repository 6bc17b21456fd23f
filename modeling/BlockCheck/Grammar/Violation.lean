/-
This file names the ways in which a construct can break the grammar and gives each its
message. A message names the rule and not the place.
-/

namespace BlockCheck

/-- A rule of the grammar that a construct breaks. -/
inductive Violation where
  /-- A declaration whose name is no identifier. -/
  | invalidVariableName
  /-- A declaration with a blank value. -/
  | emptyVariableValue
  /-- A function whose name is no identifier. -/
  | invalidFunctionName
  /-- A function without parameters. -/
  | missingParameters
  /-- A function with a parameter that is no identifier. -/
  | invalidParameter
  /-- A function with a type that is not one of the known types. -/
  | unsupportedReturnType
  /-- A function whose body has no return with a value. -/
  | missingReturn
  /-- A loop with a blank clause. -/
  | incompleteLoopClauses
  /-- A loop whose initializer mentions no operand. -/
  | invalidLoopInitializer
  /-- A loop whose condition mentions no operand. -/
  | invalidLoopCondition
  /-- A loop whose third clause is no increment. -/
  | invalidLoopIncrement
  /-- A branch with a blank condition. -/
  | emptyBranchCondition
  /-- A branch with an empty body. -/
  | emptyBranchBody
  /-- A branch whose condition is no comparison. -/
  | invalidBranchCondition
  deriving DecidableEq, Repr

/-- The message for a broken rule. -/
def Violation.message : Violation → String
  | .invalidVariableName => "variable name must be an identifier"
  | .emptyVariableValue => "variable value must not be empty"
  | .invalidFunctionName => "function name must be an identifier"
  | .missingParameters => "function must declare at least one parameter"
  | .invalidParameter => "function parameters must be identifiers"
  | .unsupportedReturnType => "function return type must be int, float or string"
  | .missingReturn => "function body must contain a non-empty return statement"
  | .incompleteLoopClauses => "for loop needs an initializer, a condition and an increment"
  | .invalidLoopInitializer => "for loop initializer must be an identifier or a number"
  | .invalidLoopCondition => "for loop condition must reference an identifier or a number"
  | .invalidLoopIncrement => "for loop increment must have the form <number>++"
  | .emptyBranchCondition => "if statement needs a condition"
  | .emptyBranchBody => "if statement body must not be empty"
  | .invalidBranchCondition => "if condition must compare two operands with ==, !=, <=, >=, < or >"

end BlockCheck
