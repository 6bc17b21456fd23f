/-
This file reads a text into segments at a depth. A reader remembers the lines that it has
not read yet and the blocks that were left open. One reading takes all lines, so a second
reading of the same reader finds nothing new: it gives no segments, or it fails again with
the blocks that the first one left open.
-/

import BlockCheck.Traced

namespace BlockCheck

/-! ### One text -/

/-- Read a text into segments at a depth and record each segment that is found, also where
the last one is not closed. -/
def readSegments (depth : Nat) (text : Text) : Traced Unterminated (List Segment) :=
  let found := segmentLines depth 0 (statementLines text)
  ⟨found.segments.map .segmentFound, found.outcome⟩

/-! ### Readers -/

/-- A reader of segments between two readings. -/
structure Reader where
  /-- The statement lines that are not read yet. -/
  pending : List Text
  /-- The depth of the segments. -/
  depth : Nat
  /-- The blocks that were open when the lines ran out. -/
  openBlocks : Nat
  deriving DecidableEq, Repr

/-- A reader at the start of a text. -/
def Reader.ofText (depth : Nat) (text : Text) : Reader := ⟨statementLines text, depth, 0⟩

/-- What a reader finds in the lines that are pending. -/
def Reader.found (reader : Reader) : Segmentation :=
  segmentLines reader.depth reader.openBlocks reader.pending

/-- The reader after it has read all its lines. -/
def Reader.next (reader : Reader) : Reader :=
  { reader with pending := [], openBlocks := reader.found.openBlocks }

/-- The outcomes of a number of readings, one after the other. -/
def Reader.outcomes : Nat → Reader → List (Except Unterminated (List Segment))
  | 0, _ => []
  | count + 1, reader => reader.found.outcome :: Reader.outcomes count reader.next

/-- The first reading of a text by a reader is the reading of the text. -/
theorem Reader.outcome_found_ofText (depth : Nat) (text : Text) :
    (Reader.ofText depth text).found.outcome = (readSegments depth text).outcome := rfl

end BlockCheck
