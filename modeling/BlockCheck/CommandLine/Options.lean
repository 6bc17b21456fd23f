/-
This file names what a run of the command line can be asked for, and where the program to check
comes from.
-/

namespace BlockCheck.CommandLine

/-- What the arguments ask for. -/
structure Options where
  /-- Report the verdict as a JSON object. -/
  json : Bool
  /-- Report without colours. -/
  plain : Bool
  /-- How often more detail was asked for. It decides what is logged. -/
  verbosity : Nat
  /-- The name that was given. -/
  name : Option String
  deriving DecidableEq, Repr

/-- Where the program to check comes from. -/
inductive Origin where
  | standardInput
  | file (name : String)
  deriving DecidableEq, Repr

/-- The program comes from the file that is named; without a name, or where the name is a
dash, it comes from standard input. -/
def Options.origin (options : Options) : Origin :=
  match options.name with
  | some name => if name = "-" then .standardInput else .file name
  | none => .standardInput

end BlockCheck.CommandLine
