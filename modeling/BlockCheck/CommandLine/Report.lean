/-
This file holds stand-ins for the libraries of the command line, so that it can be run. They do
what is documented of the libraries as far as reports need it: arguments are read from the left, a
JSON object is written with a line for each member, and a colour is a code for the terminal.

Of the log they know less. They understand no filter that the environment asks for, and a line of
the log is only what the event shows.
-/

import BlockCheck.CommandLine.Arguments
import BlockCheck.CommandLine.Run

namespace BlockCheck.CommandLine

/-! ### Arguments -/

/-- How the command is used. The stand-in for reading arguments shows this much and no more. -/
def usageText : String := "Usage: codebug [OPTIONS] [FILE]\n"

/-- The outcome where no program is checked. -/
def Stop.outcome : Stop → Outcome
  | .help => ⟨acceptedCode, [(.output, usageText)]⟩
  | .version => ⟨acceptedCode, [(.output, "codebug 0.1.0\n")]⟩
  | .misuse => ⟨failedCode, [(.errors, usageText)]⟩

/-! ### JSON -/

/-- The characters that are written with a backslash, each with the letter after it. -/
def escapedLetters : List (Char × Char) :=
  [('"', '"'), ('\\', '\\'), ('\x08', 'b'), ('\x0c', 'f'), ('\n', 'n'), ('\r', 'r'), ('\t', 't')]

/-- A character inside a JSON string. A control character that has no letter is written by its
number. -/
def escapeJson (c : Char) : Text :=
  match escapedLetters.lookup c with
  | some letter => ['\\', letter]
  | none =>
    if c.toNat < 0x20 then
      ['\\', 'u', '0', '0', Nat.digitChar (c.toNat / 16), Nat.digitChar (c.toNat % 16)]
    else [c]

/-- A text as a JSON string. -/
def quoteJson (text : String) : Text := '"' :: (text.toList.flatMap escapeJson ++ ['"'])

/-- A value without parts as JSON. -/
def writeScalar : Scalar → Text
  | .null => "null".toList
  | .bool true => "true".toList
  | .bool false => "false".toList
  | .string text => quoteJson text

/-- A member of a JSON object, two columns in. -/
def writeMember (member : String × Scalar) : Text :=
  ' ' :: ' ' :: (quoteJson member.1 ++ ':' :: ' ' :: writeScalar member.2)

/-- Members of a JSON object on lines of their own. -/
def writeMembers : List (String × Scalar) → Text
  | [] => []
  | [member] => writeMember member
  | member :: rest => writeMember member ++ ',' :: '\n' :: writeMembers rest

/-- A JSON object. -/
def writeObject (members : List (String × Scalar)) : Text :=
  if members.isEmpty then ['{', '}'] else '{' :: '\n' :: (writeMembers members ++ ['\n', '}'])

/-! ### Colours -/

/-- The number of a colour among those of the terminal. -/
def Colour.number : Colour → String
  | .green => "10"
  | .red => "9"

/-- A line in bold and in a colour. A variable that is set to some text forbids the colour. -/
def paint (noColour : Option String) (colour : Colour) (line : String) : String :=
  let code := if noColour.getD "" = "" then "38;5;" ++ colour.number else ""
  "\x1b[" ++ code ++ "m\x1b[1m" ++ line ++ "\x1b[0m"

/-! ### The log -/

/-- A level as the log shows it. -/
def shownLevel : EventLevel → String
  | .trace => "TRACE"
  | .debug => "DEBUG"

/-- The events up to a level. -/
def levelFilter (level : String) (event : Event) : Bool :=
  match event.level with
  | .trace => level == "trace"
  | .debug => level == "debug" || level == "trace"

/-- The value of a field as the log shows it. -/
def shownValue : FieldValue → String
  | .number value => toString value
  | .text value => value

/-- What is logged of an event. There are no colours in it that could be forbidden. -/
def logLine (_ : String → Option String) (time : String) (event : Event) : String :=
  let fields := event.fields.map fun (name, value) => " " ++ name ++ "=" ++ shownValue value
  time ++ " " ++ shownLevel event.level ++ " " ++ event.message ++ String.join fields ++ "\n"

/-! ### Runs -/

/-- The stand-ins. -/
def standIns : Libraries where
  parse arguments := (Options.ofArguments arguments).mapError Stop.outcome
  writeObject members := .ok (String.ofList (writeObject members))
  paint := paint
  environmentFilter? _ := none
  levelFilter := levelFilter
  logLine := logLine

/-- An environment without variables and without a clock. -/
def Environment.bare : Environment := ⟨fun _ => none, fun _ => ""⟩

/-- The outcome for options and the bytes that were read, with the stand-ins. -/
def Options.outcome (options : Options) (input : Except InputFailure ByteArray) : Outcome :=
  standIns.outcome .bare options input

end BlockCheck.CommandLine
