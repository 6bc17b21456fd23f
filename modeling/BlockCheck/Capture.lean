/-
This file takes the body of a block from the lines after its header. Inside a body only
two kinds of line count: a line that ends with an opening curly bracket opens an inner
block, whatever else it says, and a line that is exactly a closing curly bracket closes
the innermost block. The line that closes the block itself is taken but not kept.

Where the lines run out first, all of them are the body and the blocks that are still
open are counted. `capture_split` and `capture_rest_of_stillOpen` say how the body and the
rest make up the lines.
-/

import BlockCheck.Nesting
import BlockCheck.Text

namespace BlockCheck

/-- The line that closes a block. -/
def closingLine : Text := ['}']

/-- What a line does to the nesting of blocks. -/
def blockMark (line : Text) : NestingMark :=
  if line = closingLine then .closes
  else if line.getLast? = some '{' then .opens
  else .neutral

/-- What was taken for a block. -/
structure Capture where
  /-- The lines of the body. -/
  body : List Text
  /-- How many blocks are still open, the block itself included. -/
  stillOpen : Nat
  /-- The lines after the block. -/
  rest : List Text
  deriving DecidableEq, Repr

/-- Put a line in front of the body. -/
def Capture.keep (line : Text) (captured : Capture) : Capture :=
  { captured with body := line :: captured.body }

/-- Take the body of a block in which `inner` more blocks are open. -/
def capture (inner : Nat) : List Text → Capture
  | [] => ⟨[], inner + 1, []⟩
  | line :: rest =>
    match blockMark line, inner with
    | .closes, 0 => ⟨[], 0, rest⟩
    | .closes, outer + 1 => (capture outer rest).keep line
    | .opens, _ => (capture (inner + 1) rest).keep line
    | .neutral, _ => (capture inner rest).keep line

/-! ### The lines of a body and the lines after it -/

/-- Where the lines run out, all of them are the body. -/
theorem capture_rest_of_stillOpen {inner : Nat} {available : List Text}
    (unfinished : (capture inner available).stillOpen ≠ 0) :
    available = (capture inner available).body ∧ (capture inner available).rest = [] := by
  fun_induction capture inner available with
  | case1 => simp
  | case2 => simp at unfinished
  | case3 line rest outer isClosing inductionHypothesis
  | case4 inner line rest isOpening inductionHypothesis
  | case5 inner line rest isNeutral inductionHypothesis =>
    obtain ⟨whole, nothing⟩ := inductionHypothesis unfinished
    exact ⟨congrArg (line :: ·) whole, nothing⟩

/-- Where the block is closed, its body, its closing line and the rest are the lines. -/
theorem capture_split {inner : Nat} {available : List Text}
    (finished : (capture inner available).stillOpen = 0) :
    available =
      (capture inner available).body ++ closingLine :: (capture inner available).rest := by
  fun_induction capture inner available with
  | case1 => simp at finished
  | case2 line rest isClosing =>
    have closes : line = closingLine := by
      unfold blockMark at isClosing
      split at isClosing
      · assumption
      · split at isClosing <;> simp at isClosing
    simp [closes]
  | case3 line rest outer isClosing inductionHypothesis
  | case4 inner line rest isOpening inductionHypothesis
  | case5 inner line rest isNeutral inductionHypothesis =>
    exact congrArg (line :: ·) (inductionHypothesis finished)

/-- The body and the rest together are no longer than the lines. -/
theorem length_capture_le (inner : Nat) (available : List Text) :
    (capture inner available).body.length + (capture inner available).rest.length ≤
      available.length := by
  by_cases finished : (capture inner available).stillOpen = 0
  · have whole := congrArg List.length (capture_split finished)
    simp only [List.length_append, List.length_cons] at whole
    omega
  · obtain ⟨whole, nothing⟩ := capture_rest_of_stillOpen finished
    rw [nothing, ← whole]
    simp

/-- A line of the body is one of the lines. -/
theorem mem_of_mem_capture_body {inner : Nat} {available : List Text} {line : Text}
    (member : line ∈ (capture inner available).body) : line ∈ available := by
  by_cases finished : (capture inner available).stillOpen = 0
  · rw [capture_split finished]
    exact List.mem_append_left _ member
  · rw [(capture_rest_of_stillOpen finished).1]
    exact member

/-- A line after the block is one of the lines. -/
theorem mem_of_mem_capture_rest {inner : Nat} {available : List Text} {line : Text}
    (member : line ∈ (capture inner available).rest) : line ∈ available := by
  by_cases finished : (capture inner available).stillOpen = 0
  · rw [capture_split finished]
    exact List.mem_append_right _ (List.mem_cons_of_mem _ member)
  · rw [(capture_rest_of_stillOpen finished).2] at member
    simp at member

end BlockCheck
