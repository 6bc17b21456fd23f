/-
This file follows a reader line by line. Its state holds the lines that are left, one count of open
blocks, the block whose body is being taken, and the segments of the reading so far; each step
takes one line, or gives up a block at the end of the lines. The count outlives a reading, so the
states of all readings of one reader are considered together.

What a step does is written out once (`ReaderStep`). Two things are kept by every step. The first
is about the count alone (`ReaderState.IsSound`): between two segments no block is open as long as
lines are left, and inside a block the count is above the floor, which is zero. The second ties the
states to `segmentLines` (`ReaderState.completion`): what is still to come, put behind what was
found, is the segmentation of all lines. From the first comes when blocks are left open; from both
comes what each of several readings gives.
-/

import BlockCheck.Proofs.Captured
import BlockCheck.Reader
import Mathlib.Logic.Function.Iterate

namespace BlockCheck

/-! ### States and steps -/

/-- A block whose body is being taken. -/
structure OpenBlock where
  header : Header
  /-- How many blocks were open before this one. -/
  floor : Nat
  /-- The lines of the body so far. -/
  body : List Text

/-- Put a line at the end of the body. -/
def OpenBlock.keep (line : Text) (block : OpenBlock) : OpenBlock :=
  { block with body := block.body ++ [line] }

/-- The segment of a block with the body that was taken. -/
def OpenBlock.segment (depth : Nat) (block : OpenBlock) : Segment :=
  .block depth block.header block.body

/-- A reader in the middle of a reading. -/
structure ReaderState where
  /-- The statement lines that are left. -/
  pending : List Text
  /-- How many blocks are open. -/
  openBlocks : Nat
  /-- The block whose body is being taken, if any. -/
  block? : Option OpenBlock
  /-- What this reading has found. -/
  segments : List Segment

/-- A reader at the start of a reading. -/
def ReaderState.ofReader (reader : Reader) : ReaderState :=
  ⟨reader.pending, reader.openBlocks, none, []⟩

/-- A reading is over when no line is left and no body is being taken. -/
def ReaderState.IsOver (state : ReaderState) : Prop := state.pending = [] ∧ state.block? = none

/-- What a reading that is over gives. -/
def ReaderState.outcome (state : ReaderState) : Except Unterminated (List Segment) :=
  Segmentation.outcome ⟨state.segments, state.openBlocks⟩

/-- One step of a reading at a depth. -/
inductive ReaderStep (depth : Nat) : ReaderState → ReaderState → Prop where
  /-- A statement is a segment. -/
  | statement {line : Text} {rest : List Text} {opened : Nat} {segments : List Segment}
      {content : Statement} (isStatement : LineForm.ofLine line = .statement content) :
      ReaderStep depth ⟨line :: rest, opened, none, segments⟩
        ⟨rest, opened, none, segments ++ [.statement depth content]⟩
  /-- An unreadable line is passed over. -/
  | unreadable {line : Text} {rest : List Text} {opened : Nat} {segments : List Segment}
      (isUnreadable : LineForm.ofLine line = .unreadable) :
      ReaderStep depth ⟨line :: rest, opened, none, segments⟩ ⟨rest, opened, none, segments⟩
  /-- A header raises the count, and one less is the floor of its block. -/
  | header {line : Text} {rest : List Text} {opened : Nat} {segments : List Segment}
      {header : Header} (isHeader : LineForm.ofLine line = .header header) :
      ReaderStep depth ⟨line :: rest, opened, none, segments⟩
        ⟨rest, opened + 1, some ⟨header, opened + 1 - 1, []⟩, segments⟩
  /-- A line that opens an inner block raises the count. -/
  | keepOpening {line : Text} {rest : List Text} {opened : Nat} {block : OpenBlock}
      {segments : List Segment} (isOpening : blockMark line = .opens) :
      ReaderStep depth ⟨line :: rest, opened, some block, segments⟩
        ⟨rest, opened + 1, some (block.keep line), segments⟩
  /-- Any other line that closes nothing is kept as it is. -/
  | keepNeutral {line : Text} {rest : List Text} {opened : Nat} {block : OpenBlock}
      {segments : List Segment} (isNeutral : blockMark line = .neutral) :
      ReaderStep depth ⟨line :: rest, opened, some block, segments⟩
        ⟨rest, opened, some (block.keep line), segments⟩
  /-- A closing line lowers the count, and is kept where that does not reach the floor. -/
  | keepClosing {line : Text} {rest : List Text} {opened : Nat} {block : OpenBlock}
      {segments : List Segment} (isClosing : blockMark line = .closes)
      (above : opened - 1 ≠ block.floor) :
      ReaderStep depth ⟨line :: rest, opened, some block, segments⟩
        ⟨rest, opened - 1, some (block.keep line), segments⟩
  /-- A closing line that takes the count to the floor ends the block. -/
  | close {line : Text} {rest : List Text} {opened : Nat} {block : OpenBlock}
      {segments : List Segment} (isClosing : blockMark line = .closes)
      (atFloor : opened - 1 = block.floor) :
      ReaderStep depth ⟨line :: rest, opened, some block, segments⟩
        ⟨rest, opened - 1, none, segments ++ [block.segment depth]⟩
  /-- Where the lines run out the block is a segment all the same, and the count stays. -/
  | runOut {opened : Nat} {block : OpenBlock} {segments : List Segment} :
      ReaderStep depth ⟨[], opened, some block, segments⟩
        ⟨[], opened, none, segments ++ [block.segment depth]⟩

/-- The states of a reader of a text, each with the number of readings that were over before. -/
inductive Reached (depth : Nat) (text : Text) : Nat → ReaderState → Prop where
  | start : Reached depth text 0 (.ofReader (.ofText depth text))
  | step {turn : Nat} {state next : ReaderState} (reached : Reached depth text turn state)
      (steps : ReaderStep depth state next) : Reached depth text turn next
  /-- The next reading starts with the lines and the count that are there, and without segments. -/
  | again {turn : Nat} {state : ReaderState} (reached : Reached depth text turn state)
      (ended : state.IsOver) : Reached depth text (turn + 1) { state with segments := [] }

/-! ### The count of open blocks -/

/-- What holds of the count in every state. -/
structure ReaderState.IsSound (state : ReaderState) : Prop where
  /-- Between two segments no block is open, unless no line is left. -/
  between : state.block? = none → state.pending ≠ [] → state.openBlocks = 0
  /-- Inside a block the floor is zero and the count is above it. -/
  inside : ∀ block ∈ state.block?, block.floor = 0 ∧ 0 < state.openBlocks

theorem ReaderStep.isSound {depth : Nat} {state next : ReaderState}
    (steps : ReaderStep depth state next) (sound : state.IsSound) : next.IsSound := by
  obtain ⟨between, inside⟩ := sound
  cases steps with
  | statement isStatement => exact ⟨fun _ _ => between rfl (List.cons_ne_nil _ _), by simp⟩
  | unreadable isUnreadable => exact ⟨fun _ _ => between rfl (List.cons_ne_nil _ _), by simp⟩
  | header isHeader =>
    have noneOpen := between rfl (List.cons_ne_nil _ _)
    refine ⟨nofun, ?_⟩
    rintro block ⟨⟩
    exact ⟨by simpa using noneOpen, Nat.succ_pos _⟩
  | @keepOpening line rest opened block =>
    obtain ⟨atZero, positive⟩ := inside block rfl
    refine ⟨nofun, ?_⟩
    rintro kept ⟨⟩
    exact ⟨atZero, Nat.succ_pos _⟩
  | @keepNeutral line rest opened block =>
    refine ⟨nofun, ?_⟩
    rintro kept ⟨⟩
    exact inside block rfl
  | @keepClosing line rest opened block segments isClosing above =>
    obtain ⟨atZero, positive⟩ := inside block rfl
    refine ⟨nofun, ?_⟩
    rintro kept ⟨⟩
    exact ⟨atZero, by simp only; omega⟩
  | @close line rest opened block segments isClosing atFloor =>
    obtain ⟨atZero, positive⟩ := inside block rfl
    exact ⟨fun _ _ => atFloor.trans atZero, by simp⟩
  | runOut => exact ⟨fun _ more => absurd rfl more, by simp⟩

/-- Every state of every reading is sound. -/
theorem Reached.isSound {depth turn : Nat} {text : Text} {state : ReaderState}
    (reached : Reached depth text turn state) : state.IsSound := by
  induction reached with
  | start => exact ⟨fun _ _ => rfl, by simp [ReaderState.ofReader]⟩
  | step reached steps inductionHypothesis => exact steps.isSound inductionHypothesis
  | again reached ended inductionHypothesis =>
    exact ⟨inductionHypothesis.between, inductionHypothesis.inside⟩

/-! ### What is still to come -/

/-- Put segments that were found before in front. -/
def Segmentation.behind (before : List Segment) (found : Segmentation) : Segmentation :=
  { found with segments := before ++ found.segments }

/-- The segmentation that a reading comes to from a state: what it has found, the block whose body
is being taken with the rest of that body, and the segments of the lines after it. -/
def ReaderState.completion (depth : Nat) (state : ReaderState) : Segmentation :=
  match state.block? with
  | none => (segmentLines depth state.openBlocks state.pending).behind state.segments
  | some block =>
    let taken := capture (state.openBlocks - 1) state.pending
    ((segmentLines depth taken.stillOpen taken.rest).add
      (.block depth block.header (block.body ++ taken.body))).behind state.segments

theorem Segmentation.behind_add (before : List Segment) (segment : Segment) (found : Segmentation) :
    (found.add segment).behind before = found.behind (before ++ [segment]) := by
  simp [Segmentation.behind, Segmentation.add]

/-- A line that is captured for a block is kept for it. -/
theorem ReaderState.completion_keep {depth opened next : Nat} {line : Text}
    (step : (blockMark line).step? (opened - 1) = some (next - 1)) (rest : List Text)
    (block : OpenBlock) (segments : List Segment) :
    completion depth ⟨line :: rest, opened, some block, segments⟩ =
      completion depth ⟨rest, next, some (block.keep line), segments⟩ := by
  simp only [completion, capture_cons step, Capture.keep, OpenBlock.keep, List.append_assoc,
    List.singleton_append]

/-- A step takes nothing from what a reading comes to and adds nothing to it. -/
theorem ReaderStep.completion_eq {depth : Nat} {state next : ReaderState}
    (steps : ReaderStep depth state next) (sound : state.IsSound) :
    next.completion depth = state.completion depth := by
  obtain ⟨between, inside⟩ := sound
  symm
  cases steps with
  | statement isStatement =>
    simp only [ReaderState.completion, segmentLines_statement _ _ isStatement,
      Segmentation.behind_add]
  | unreadable isUnreadable =>
    simp only [ReaderState.completion, segmentLines_unreadable _ _ isUnreadable]
  | @header line rest opened segments header isHeader =>
    have noneOpen : opened = 0 := between rfl (List.cons_ne_nil _ _)
    simp only [ReaderState.completion, noneOpen, segmentLines, isHeader, Nat.zero_add,
      Nat.sub_self, List.nil_append]
  | @keepOpening line rest opened block segments isOpening =>
    have positive := (inside block rfl).2
    refine ReaderState.completion_keep ?_ rest block segments
    rw [isOpening, NestingMark.step?]
    congr 1
    simp only at positive
    omega
  | keepNeutral isNeutral =>
    refine ReaderState.completion_keep ?_ _ _ _
    rw [isNeutral, NestingMark.step?]
  | @keepClosing line rest opened block segments isClosing above =>
    obtain ⟨outer, outside⟩ : ∃ outer, opened - 1 = outer + 1 :=
      Nat.exists_eq_succ_of_ne_zero ((inside block rfl).1 ▸ above)
    refine ReaderState.completion_keep ?_ rest block segments
    rw [isClosing, outside]
    rfl
  | @close line rest opened block segments isClosing atFloor =>
    have last : opened - 1 = 0 := atFloor.trans (inside block rfl).1
    simp only [ReaderState.completion, last, capture, isClosing, List.append_nil,
      Segmentation.behind_add]
    rfl
  | @runOut opened block segments =>
    have positive := (inside block rfl).2
    simp only at positive
    simp only [ReaderState.completion, capture_nil, segmentLines_nil, List.append_nil,
      Segmentation.behind_add, Nat.sub_add_cancel positive]
    rfl

/-- What a reading that is over has come to. -/
theorem ReaderState.IsOver.completion_eq {state : ReaderState} (ended : state.IsOver)
    (depth : Nat) : state.completion depth = ⟨state.segments, state.openBlocks⟩ := by
  obtain ⟨pending, opened, block?, segments⟩ := state
  obtain ⟨rfl, rfl⟩ := ended
  simp [completion, segmentLines_nil, Segmentation.behind]

/-- In every state, a reading comes to what the reader finds in this reading. -/
theorem Reached.completion_eq {depth turn : Nat} {text : Text} {state : ReaderState}
    (reached : Reached depth text turn state) :
    state.completion depth = (Reader.next^[turn] (.ofText depth text)).found := by
  induction reached with
  | start => rfl
  | step reached steps inductionHypothesis =>
    rw [steps.completion_eq reached.isSound, inductionHypothesis]
  | @again turn state reached ended inductionHypothesis =>
    rw [ended.completion_eq] at inductionHypothesis
    have sameCount := congrArg Segmentation.openBlocks inductionHypothesis
    have nextOver : ReaderState.IsOver { state with segments := [] } := ended
    rw [nextOver.completion_eq, Function.iterate_succ_apply', Reader.found, Reader.next,
      segmentLines_nil, ← sameCount]

/-- The outcomes of a number of readings are those of the reader as each reading finds it. -/
theorem Reader.getElem?_outcomes {turn count : Nat} (early : turn < count) (reader : Reader) :
    (Reader.outcomes count reader)[turn]? = some (Reader.next^[turn] reader).found.outcome := by
  induction count generalizing turn reader with
  | zero => exact absurd early (Nat.not_lt_zero turn)
  | succ count inductionHypothesis =>
    cases turn with
    | zero => rfl
    | succ turn =>
      rw [Reader.outcomes, List.getElem?_cons_succ, Function.iterate_succ_apply]
      exact inductionHypothesis (Nat.lt_of_succ_lt_succ early) reader.next

/-! ### The ends of readings -/

/-- A reading that is not over goes on. -/
theorem ReaderState.exists_step {state : ReaderState} (going : ¬ state.IsOver) (depth : Nat) :
    ∃ next, ReaderStep depth state next := by
  obtain ⟨pending, opened, block?, segments⟩ := state
  cases block? with
  | none =>
    cases pending with
    | nil => exact absurd ⟨rfl, rfl⟩ going
    | cons line rest =>
      cases form : LineForm.ofLine line with
      | statement content => exact ⟨_, .statement form⟩
      | header header => exact ⟨_, .header form⟩
      | unreadable => exact ⟨_, .unreadable form⟩
  | some block =>
    cases pending with
    | nil => exact ⟨_, .runOut⟩
    | cons line rest =>
      cases isMark : blockMark line with
      | opens => exact ⟨_, .keepOpening isMark⟩
      | neutral => exact ⟨_, .keepNeutral isMark⟩
      | closes =>
        by_cases atFloor : opened - 1 = block.floor
        · exact ⟨_, .close isMark atFloor⟩
        · exact ⟨_, .keepClosing isMark atFloor⟩

/-- The steps that a reading can still take: one for each line, and one to give up a block. -/
def ReaderState.size (state : ReaderState) : Nat :=
  2 * state.pending.length + if state.block?.isSome then 1 else 0

theorem ReaderStep.size_lt {depth : Nat} {state next : ReaderState}
    (steps : ReaderStep depth state next) : next.size < state.size := by
  cases steps <;> simp only [ReaderState.size, List.length_cons, Option.isSome_none,
    Option.isSome_some, Bool.false_eq_true, if_true, if_false] <;> omega

/-- From every state a reading comes to its end. -/
theorem Reached.exists_over {depth turn : Nat} {text : Text} {state : ReaderState}
    (reached : Reached depth text turn state) :
    ∃ final, Reached depth text turn final ∧ final.IsOver := by
  by_cases isOver : state.IsOver
  · exact ⟨state, reached, isOver⟩
  · obtain ⟨next, steps⟩ := ReaderState.exists_step isOver depth
    exact (reached.step steps).exists_over
termination_by state.size
decreasing_by exact steps.size_lt

/-- Every reading comes to its end. -/
theorem exists_reached_over (depth : Nat) (text : Text) (turn : Nat) :
    ∃ final, Reached depth text turn final ∧ final.IsOver := by
  induction turn with
  | zero => exact Reached.start.exists_over
  | succ turn inductionHypothesis =>
    obtain ⟨final, reached, isOver⟩ := inductionHypothesis
    exact (reached.again isOver).exists_over

theorem ReaderState.IsOver.not_step {state next : ReaderState} (ended : state.IsOver)
    (depth : Nat) : ¬ ReaderStep depth state next := by
  obtain ⟨pending, opened, block?, segments⟩ := state
  obtain ⟨rfl, rfl⟩ := ended
  exact nofun

/-- A reading after the first one is over as soon as it starts. -/
theorem Reached.isOver_of_ne_zero {depth turn : Nat} {text : Text} {state : ReaderState}
    (reached : Reached depth text turn state) (later : turn ≠ 0) : state.IsOver := by
  induction reached with
  | start => exact absurd rfl later
  | step reached steps inductionHypothesis =>
    exact absurd steps ((inductionHypothesis later).not_step depth)
  | again reached ended => exact ended

/-- The lines have run out inside a block. -/
def ReaderState.HasRunOut (state : ReaderState) : Prop :=
  state.pending = [] ∧ ∃ block, state.block? = some block

/-- Outside of blocks the count is not zero only where the lines of the first reading have run out
inside a block, with this count. No later reading takes a body. -/
theorem Reached.exists_hasRunOut {depth turn : Nat} {text : Text} {state : ReaderState}
    (reached : Reached depth text turn state) (outside : state.block? = none)
    (raised : state.openBlocks ≠ 0) :
    ∃ ranOut, Reached depth text 0 ranOut ∧ ranOut.HasRunOut ∧
      ranOut.openBlocks = state.openBlocks := by
  induction reached with
  | start => exact absurd rfl raised
  | again reached ended inductionHypothesis => exact inductionHypothesis ended.2 raised
  | @step turn state next reached steps inductionHypothesis =>
    cases steps with
    | statement isStatement => exact inductionHypothesis rfl raised
    | unreadable isUnreadable => exact inductionHypothesis rfl raised
    | close isClosing atFloor =>
      exact absurd (atFloor.trans (reached.isSound.inside _ rfl).1) raised
    | @runOut opened block segments =>
      have first : turn = 0 := by
        by_contra later
        nomatch (reached.isOver_of_ne_zero later).2
      exact ⟨⟨[], opened, some block, segments⟩, first ▸ reached, ⟨rfl, block, rfl⟩, rfl⟩
    | header isHeader => nomatch outside
    | keepOpening isOpening => nomatch outside
    | keepNeutral isNeutral => nomatch outside
    | keepClosing isClosing above => nomatch outside

/-! ### Readings one after the other -/

/-- A reader without lines gives the same at every reading. -/
theorem Reader.outcomes_of_exhausted (count depth opened : Nat) :
    Reader.outcomes count ⟨[], depth, opened⟩ =
      List.replicate count (Segmentation.outcome ⟨[], opened⟩) := by
  have found : Reader.found ⟨[], depth, opened⟩ = ⟨[], opened⟩ := segmentLines_nil depth opened
  induction count with
  | zero => rfl
  | succ count inductionHypothesis =>
    rw [Reader.outcomes, Reader.next, found, inductionHypothesis, List.replicate_succ]

/-- After a reading that succeeds, all readings succeed with no segments. -/
theorem Reader.outcomes_of_ok {depth : Nat} {text : Text} {segments : List Segment}
    (succeeds : (readSegments depth text).outcome = .ok segments) (count : Nat) :
    Reader.outcomes (count + 1) (.ofText depth text) =
      .ok segments :: List.replicate count (.ok []) := by
  have closed : (Reader.ofText depth text).found.openBlocks = 0 := by
    by_contra opened
    rw [← Reader.outcome_found_ofText, Segmentation.outcome, if_neg opened] at succeeds
    nomatch succeeds
  rw [Reader.outcomes, Reader.outcome_found_ofText, succeeds, Reader.next, closed,
    Reader.outcomes_of_exhausted]
  rfl

/-- After a reading that fails, all readings fail with the same count. -/
theorem Reader.outcomes_of_error {depth : Nat} {text : Text} {cause : Unterminated}
    (fails : (readSegments depth text).outcome = .error cause) (count : Nat) :
    Reader.outcomes count (.ofText depth text) = List.replicate count (.error cause) := by
  cases count with
  | zero => rfl
  | succ count =>
    have leftOpen : Segmentation.outcome ⟨[], (Reader.ofText depth text).found.openBlocks⟩ =
        .error cause := by
      rw [← Reader.outcome_found_ofText, Segmentation.outcome] at fails
      rw [Segmentation.outcome]
      split at fails
      · nomatch fails
      · rename_i opened
        rw [if_neg opened, ← Except.error.inj fails]
    rw [Reader.outcomes, Reader.outcome_found_ofText, fails, Reader.next,
      Reader.outcomes_of_exhausted, leftOpen, List.replicate_succ]

/-- The states of one reader over any number of readings of its text. In every state, no block is
open between two segments as long as lines are left, so none is when a header is read, and inside
a block the floor is zero and the count above it. Every reading comes to its end, and then no line
is left, its outcome is the one that `Reader.outcomes` tells, and the count is not zero exactly
where the lines of the first reading have run out inside a block with that count. So after a reading
that succeeds all others find nothing, and after one that fails all others fail alike. -/
theorem readings_follow_first (depth : Nat) (text : Text) :
    (∀ turn state, Reached depth text turn state → state.IsSound) ∧
      (∀ turn, ∃ final, Reached depth text turn final ∧ final.IsOver) ∧
      (∀ turn final, Reached depth text turn final → final.IsOver →
        final.pending = [] ∧
          (∀ count, turn < count →
            (Reader.outcomes count (.ofText depth text))[turn]? = some final.outcome) ∧
          (final.openBlocks ≠ 0 ↔ ∃ ranOut, Reached depth text 0 ranOut ∧ ranOut.HasRunOut ∧
            ranOut.openBlocks = final.openBlocks)) ∧
      (∀ segments, (readSegments depth text).outcome = .ok segments → ∀ count,
        Reader.outcomes (count + 1) (.ofText depth text) =
          .ok segments :: List.replicate count (.ok [])) ∧
      ∀ cause, (readSegments depth text).outcome = .error cause → ∀ count,
        Reader.outcomes count (.ofText depth text) = List.replicate count (.error cause) := by
  refine ⟨fun _ _ => Reached.isSound, exists_reached_over depth text, ?_,
    fun _ => Reader.outcomes_of_ok, fun _ => Reader.outcomes_of_error⟩
  intro turn final reached isOver
  have cameTo := reached.completion_eq
  rw [isOver.completion_eq] at cameTo
  refine ⟨isOver.1, fun count early => ?_, fun raised => ?_, ?_⟩
  · rw [Reader.getElem?_outcomes early, ← cameTo]
    rfl
  · exact reached.exists_hasRunOut isOver.2 raised
  · rintro ⟨ranOut, reachedFirst, ⟨-, block, inBlock⟩, sameCount⟩
    have positive := (reachedFirst.isSound.inside block inBlock).2
    omega

/-- A statement and a branch that nothing closes, with a line in it that opens a block more. -/
def leftOpenText : Text := "x:1\n\nif ( a ) \x7b\r\n  for \x7b\n".toList

theorem readSegments_leftOpenText : (readSegments 3 leftOpenText).outcome = .error ⟨2⟩ := by
  have written : statementLines leftOpenText =
      ["x:1".toList, "if ( a ) \x7b".toList, "for \x7b".toList] := by decide +kernel
  have isStatement : LineForm.ofLine "x:1".toList = .statement (.declaration ['x'] ['1']) := by
    decide
  have isBranch : LineForm.ofLine "if ( a ) \x7b".toList = .header (.branch ['a']) := by decide
  have followed : follow? blockMark 0 ["for \x7b".toList] = some 1 := by decide
  rw [readSegments, written, segmentLines_statement _ _ isStatement,
    segmentLines_unfinished _ _ isBranch followed]
  rfl

/-- Three readings fail alike; and the first of them has run out of lines with two blocks open. -/
theorem readings_follow_first_leftOpenText :
    (readSegments 3 leftOpenText).outcome = .error ⟨2⟩ ∧
      Reader.outcomes 3 (.ofText 3 leftOpenText) = [.error ⟨2⟩, .error ⟨2⟩, .error ⟨2⟩] ∧
      ∃ ranOut, Reached 3 leftOpenText 0 ranOut ∧ ranOut.HasRunOut ∧ ranOut.openBlocks = 2 := by
  obtain ⟨-, ends, atEnd, -, afterError⟩ := readings_follow_first 3 leftOpenText
  have outcomes := afterError ⟨2⟩ readSegments_leftOpenText 3
  refine ⟨readSegments_leftOpenText, outcomes, ?_⟩
  obtain ⟨final, reached, isOver⟩ := ends 2
  obtain ⟨-, told, raised⟩ := atEnd 2 final reached isOver
  have leftOpen : final.openBlocks = 2 := by
    have last := told 3 (by omega)
    rw [outcomes, ReaderState.outcome, Segmentation.outcome] at last
    split at last
    · simp at last
    · simpa using last.symm
  exact leftOpen ▸ raised.mp (by omega)

end BlockCheck
