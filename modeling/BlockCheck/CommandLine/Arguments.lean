/-
This file reads the arguments of the command line. Arguments are read from the left, and
the first one that ends the reading decides, be it a request for help, a request for the
version or a misuse; what stands after it is not looked at.

A flag may stand anywhere. Only the flag for verbosity may be repeated, and flags of one
letter may share a dash. A single dash is no flag but a name, and after two dashes every
argument is a name. At most one name may be given.
-/

import BlockCheck.CommandLine.Options
import BlockCheck.Text

namespace BlockCheck.CommandLine

/-- The options before any argument is taken. -/
def Options.initial : Options := ⟨false, false, 0, none⟩

/-- Why no program is checked. -/
inductive Stop where
  /-- Help was asked for. -/
  | help
  /-- The version was asked for. -/
  | version
  /-- The arguments make no sense. -/
  | misuse
  deriving DecidableEq, Repr

/-- The flags. -/
inductive Flag where
  | json
  | plain
  | verbose
  | help
  | version
  deriving DecidableEq, Repr

/-- The flag of a full name, without its two dashes. -/
def Flag.ofName? (name : Text) : Option Flag :=
  if name = "json".toList then some .json
  else if name = "no-color".toList then some .plain
  else if name = "verbose".toList then some .verbose
  else if name = "help".toList then some .help
  else if name = "version".toList then some .version
  else none

/-- The flag of a letter. -/
def Flag.ofLetter? (letter : Char) : Option Flag :=
  if letter = 'v' then some .verbose
  else if letter = 'h' then some .help
  else if letter = 'V' then some .version
  else none

/-- Take a flag. -/
def Options.takeFlag (options : Options) : Flag → Except Stop Options
  | .json => if options.json then .error .misuse else .ok { options with json := true }
  | .plain => if options.plain then .error .misuse else .ok { options with plain := true }
  | .verbose => .ok { options with verbosity := options.verbosity + 1 }
  | .help => .error .help
  | .version => .error .version

/-- Take a flag that may be unknown. -/
def Options.takeFlag? (options : Options) : Option Flag → Except Stop Options
  | some flag => options.takeFlag flag
  | none => .error .misuse

/-- Take a name. It must not be empty, and there is only one. -/
def Options.takeName (options : Options) (name : String) : Except Stop Options :=
  if name = "" ∨ options.name.isSome then .error .misuse
  else .ok { options with name := some name }

/-- Take the arguments from the left. -/
def Options.take (options : Options) : List String → Except Stop Options
  | [] => .ok options
  | argument :: rest =>
    match argument.toList with
    | ['-', '-'] => rest.foldlM Options.takeName options
    | '-' :: '-' :: name => do
      let taken ← options.takeFlag? (Flag.ofName? name)
      taken.take rest
    | '-' :: letter :: letters => do
      let taken ← (letter :: letters).foldlM
        (fun current each => current.takeFlag? (Flag.ofLetter? each)) options
      taken.take rest
    | _ => do
      let taken ← options.takeName argument
      taken.take rest

/-- The options that some arguments ask for. -/
def Options.ofArguments (arguments : List String) : Except Stop Options :=
  Options.initial.take arguments

end BlockCheck.CommandLine
