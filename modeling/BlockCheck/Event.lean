/-
This file names the events that are recorded while a program is read and judged, and says
how each is shown: its level, its message and its fields.
-/

import BlockCheck.Grammar.Rule
import BlockCheck.Segment
import BlockCheck.Verdict

namespace BlockCheck

/-! ### Events -/

/-- Something that happened while a program was read or judged. -/
inductive Event where
  /-- A segment was found. -/
  | segmentFound (segment : Segment)
  /-- A body was cut into segments, whose nodes are built next. -/
  | blockEntered (depth segmentCount : Nat)
  /-- The tree of the program was built. -/
  | programBuilt (nodeCount : Nat)
  /-- A node breaks the grammar. -/
  | ruleBroken (finding : Finding)
  /-- The program has been judged. -/
  | judged (verdict : Verdict)
  deriving DecidableEq, Repr

/-- How much detail an event is. -/
inductive EventLevel where
  | trace
  | debug
  deriving DecidableEq, Repr

/-- The value of a field of an event. -/
inductive FieldValue where
  | number (value : Nat)
  | text (value : String)
  deriving DecidableEq, Repr

/-- The level of an event. Reading is traced; what concerns the whole program is for
debugging. -/
def Event.level : Event → EventLevel
  | .segmentFound _ => .trace
  | .blockEntered _ _ => .trace
  | .programBuilt _ => .debug
  | .ruleBroken _ => .debug
  | .judged _ => .debug

/-- The message of an event. -/
def Event.message : Event → String
  | .segmentFound segment => "lexed " ++ segment.summary
  | .blockEntered _ _ => "parsing block"
  | .programBuilt _ => "parsed program"
  | .ruleBroken _ => "grammar violation"
  | .judged .accepted => "program is valid"
  | .judged (.rejected _) => "program is invalid"

/-- The fields of an event, each with its name. -/
def Event.fields : Event → List (String × FieldValue)
  | .segmentFound segment => [("depth", .number segment.depth)]
  | .blockEntered depth segmentCount =>
    [("depth", .number depth), ("tokens", .number segmentCount)]
  | .programBuilt nodeCount => [("statements", .number nodeCount)]
  | .ruleBroken finding =>
    [("depth", .number finding.depth), ("kind", .text finding.construct.name),
      ("violation", .text finding.violation.message)]
  | .judged .accepted => []
  | .judged (.rejected reason) => [("error", .text reason.message)]

end BlockCheck
