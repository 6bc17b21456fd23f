/-
This file runs the command line. The verdict is reported as a JSON object or as a line, and the
line is plain or in the colour of the verdict: green for a program that is accepted and red for
one that is not, both in bold. The exit code tells the verdict as well, and a code of its own says
that there is none.

Arguments, JSON, colours and the log are the work of other libraries. What is used of them is one
record, `Libraries`, and everything here is said for any such record. How much is logged depends on
the environment and on how much detail is asked for. All of it goes to the stream for errors and
none to the one for the report.
-/

import BlockCheck.CommandLine.Options
import BlockCheck.Judge

namespace BlockCheck.CommandLine

/-! ### Outcomes -/

/-- The streams that a run writes to. -/
inductive Stream where
  | output
  | errors
  deriving DecidableEq, Repr

/-- What a run of the command line leaves behind. -/
structure Outcome where
  /-- The exit code. -/
  exitCode : UInt8
  /-- What is written, in order, each text with its stream. -/
  writes : List (Stream × String)
  deriving DecidableEq, Repr

/-- All that is written to a stream. -/
def Outcome.written (outcome : Outcome) (stream : Stream) : String :=
  String.join ((outcome.writes.filter fun write => write.1 == stream).map Prod.snd)

/-- What is written to standard output. -/
def Outcome.output (outcome : Outcome) : String := outcome.written .output

/-- What is written to standard error. -/
def Outcome.errors (outcome : Outcome) : String := outcome.written .errors

/-- The exit code for a program that is accepted. -/
def acceptedCode : UInt8 := 0

/-- The exit code for a program that is rejected. -/
def rejectedCode : UInt8 := 1

/-- The exit code where there is no verdict. -/
def failedCode : UInt8 := 2

/-- The exit code that tells a verdict. -/
def verdictCode (verdict : Verdict) : UInt8 :=
  if verdict.isAccepted then acceptedCode else rejectedCode

/-- The outcome of a run that fails. -/
def Outcome.failed (logged : List (Stream × String)) (description : String) : Outcome :=
  ⟨failedCode, logged ++ [(.errors, "Error: " ++ description ++ "\n")]⟩

/-! ### Libraries -/

/-- A colour that a line is shown in. -/
inductive Colour where
  | green
  | red
  deriving DecidableEq, Repr

/-- A value without parts in a JSON object. -/
inductive Scalar where
  | null
  | bool (value : Bool)
  | string (text : String)
  deriving DecidableEq, Repr

/-- A filter says which events are logged. -/
abbrev LogFilter := Event → Bool

/-- What the command line uses of other libraries. -/
structure Libraries where
  /-- Read the arguments: the options that they ask for, or the outcome of a run that ends with
  the arguments. -/
  parse : List String → Except Outcome Options
  /-- Write a JSON object with some members, or tell why that fails. -/
  writeObject : List (String × Scalar) → Except String String
  /-- Show a line in bold and in a colour, given the variable that may forbid colours. -/
  paint : Option String → Colour → String → String
  /-- The filter that the variables of the environment ask for, if they ask for one. -/
  environmentFilter? : (String → Option String) → Option LogFilter
  /-- The filter for all events up to a level. -/
  levelFilter : String → LogFilter
  /-- What is logged of an event at a time. The variables of the environment may forbid colours in
  it. -/
  logLine : (String → Option String) → String → Event → String

/-- What a run finds around it, the program to check apart. -/
structure Environment where
  /-- The values of the variables that are set. -/
  value? : String → Option String
  /-- The time at which each event is logged, as it is shown. -/
  timeOf : Nat → String

/-! ### Reports -/

/-- The line that tells a verdict. -/
def verdictLine (verdict : Verdict) : String :=
  match verdict.message?, verdict.isAccepted with
  | _, true => "Syntax is correct."
  | some message, false => message
  | none, false => "Syntax error."

/-- The members of the JSON object that tells a verdict. -/
def verdictMembers (verdict : Verdict) : List (String × Scalar) :=
  [("valid", .bool verdict.isAccepted), ("message", verdict.message?.elim .null .string)]

/-- The level up to which events are logged where the environment asks for no filter. -/
def defaultLevel : Nat → String
  | 0 => "warn"
  | 1 => "debug"
  | _ => "trace"

namespace Libraries

variable (libraries : Libraries) (environment : Environment)

/-- The report of a verdict that the options ask for. The flag for JSON goes before the one
for colours. -/
def report (options : Options) (verdict : Verdict) : Except String String :=
  let noColour := environment.value? "NO_COLOR"
  if options.json then libraries.writeObject (verdictMembers verdict)
  else if options.plain then .ok (verdictLine verdict)
  else if verdict.isAccepted then .ok (libraries.paint noColour .green (verdictLine verdict))
  else .ok (libraries.paint noColour .red (verdictLine verdict))

/-- The filter for what is logged. What the environment asks for goes before the options. -/
def logFilter (options : Options) : LogFilter :=
  (libraries.environmentFilter? environment.value?).getD
    (libraries.levelFilter (defaultLevel options.verbosity))

/-- What is logged of some events. -/
def log (options : Options) (events : List Event) : List (Stream × String) :=
  (events.filter (libraries.logFilter environment options)).mapIdx fun index event =>
    (.errors, libraries.logLine environment.value? (environment.timeOf index) event)

end Libraries

/-! ### Runs -/

/-- Why the program to check could not be read. -/
inductive InputFailure where
  /-- The system refused, with a description and its number. -/
  | system (description : String) (code : Nat)
  /-- What was read is no text. -/
  | notText
  deriving DecidableEq, Repr

/-- The description of a failure to read. -/
def InputFailure.message : InputFailure → String
  | .system description code => description ++ " (os error " ++ toString code ++ ")"
  | .notText => "stream did not contain valid UTF-8"

/-- How messages call the place that a program comes from. -/
def Origin.label : Origin → String
  | .standardInput => "stdin"
  | .file name => "'" ++ name ++ "'"

/-- The text in some bytes. -/
def decode (bytes : ByteArray) : Except InputFailure Text :=
  match String.fromUTF8? bytes with
  | some text => .ok text.toList
  | none => .error .notText

namespace Libraries

variable (libraries : Libraries) (environment : Environment)

/-- The outcome for options and a program: the events of judging it are logged, and then the
verdict is reported. -/
def outcomeOf (options : Options) (source : Text) : Outcome :=
  let logged := libraries.log environment options (judgeEvents source)
  match libraries.report environment options (verdict source) with
  | .ok told => ⟨verdictCode (verdict source), logged ++ [(.output, told ++ "\n")]⟩
  | .error description => .failed logged description

/-- The outcome for options and the bytes that were read from where they say. -/
def outcome (options : Options) (input : Except InputFailure ByteArray) : Outcome :=
  match input.bind decode with
  | .ok source => libraries.outcomeOf environment options source
  | .error failure =>
    .failed [] ("failed to read " ++ options.origin.label ++ ": " ++ failure.message)

/-- A run with some arguments in a system that reads the bytes of an origin. -/
def run {System : Type → Type} [Monad System]
    (read : Origin → System (Except InputFailure ByteArray)) (arguments : List String) :
    System Outcome := do
  match libraries.parse arguments with
  | .error outcome => return outcome
  | .ok options => return libraries.outcome environment options (← read options.origin)

end Libraries

end BlockCheck.CommandLine
