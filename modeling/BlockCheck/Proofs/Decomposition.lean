/-
This file proves that cutting a text into segments is taking apart its statement lines, and
that there is only one way to do so.

A decomposition is said without the segmentation: its pieces are single statements, single
unreadable lines, and whole blocks with a balanced body and the closing line after it, and
one block that is never closed may stand at the end. The pieces form a prefix code. No
piece can be continued to another one, because a balanced body followed by a closing line
determines where the body ends (`Piece.eq_of_append_eq`). So every list of lines has at most
one decomposition, the shapes of lines give it one, and the outcome of a reading is read
off it.
-/

import BlockCheck.Proofs.Captured
import BlockCheck.Reader

namespace BlockCheck

/-! ### Lines that open and close blocks -/

/-- The number of lines that open a block: they end with an opening curly bracket. -/
def openingCount (available : List Text) : Nat :=
  available.countP fun line => line.getLast? == some '{'

/-- The number of lines that close a block: they are a closing curly bracket. -/
def closingCount (available : List Text) : Nat := available.countP (· == closingLine)

/-- No front of some lines closes more blocks than it opens. -/
def NeverCloses (available : List Text) : Prop :=
  ∀ front, front <+: available → closingCount front ≤ openingCount front

/-- No front of some lines closes more blocks than it opens, and all together close as many. -/
structure IsNested (available : List Text) : Prop where
  neverCloses : NeverCloses available
  level : openingCount available = closingCount available

theorem openings_blockMark (available : List Text) :
    openings blockMark available = openingCount available := by
  refine List.countP_congr fun line _ => ?_
  rw [beq_iff_eq, beq_iff_eq, blockMark_eq_opens_iff]

theorem closings_blockMark (available : List Text) :
    closings blockMark available = closingCount available := by
  refine List.countP_congr fun line _ => ?_
  rw [beq_iff_eq, beq_iff_eq, blockMark_eq_closes_iff]

theorem neverCloses_iff {available : List Text} :
    NeverCloses available ↔ ∃ level, follow? blockMark 0 available = some level := by
  simp only [exists_follow?_iff, StaysAbove, openings_blockMark, closings_blockMark, NeverCloses]

theorem isNested_iff {available : List Text} :
    IsNested available ↔ follow? blockMark 0 available = some 0 := by
  rw [← nestedBalanced_iff]
  constructor
  · rintro ⟨above, level⟩
    refine ⟨(exists_follow?_iff _).mp (neverCloses_iff.mp above), ?_⟩
    rwa [openings_blockMark, closings_blockMark]
  · rintro ⟨above, level⟩
    rw [openings_blockMark, closings_blockMark] at level
    exact ⟨neverCloses_iff.mpr ((exists_follow?_iff _).mpr above), level⟩

/-! ### Pieces -/

/-- Consecutive lines that stand for one thing. -/
inductive Piece where
  /-- A line that is a statement. -/
  | statement (line : Text) (content : Statement)
  /-- A line that starts a header whose parts cannot be found. -/
  | unreadable (line : Text)
  /-- The line of a header, the lines of its body, and a closing line. -/
  | block (line : Text) (header : Header) (body : List Text)

/-- The lines of a piece. -/
def Piece.lines : Piece → List Text
  | .statement line _ => [line]
  | .unreadable line => [line]
  | .block line _ body => line :: (body ++ [closingLine])

/-- The first line of a piece is what the piece says it is, and the body of a block is
balanced. -/
def Piece.IsProper : Piece → Prop
  | .statement line content => LineForm.ofLine line = .statement content
  | .unreadable line => LineForm.ofLine line = .unreadable
  | .block line header body =>
    LineForm.ofLine line = .header header ∧ IsNested body

/-- The segment that a piece makes. -/
def Piece.segment? (depth : Nat) : Piece → Option Segment
  | .statement _ content => some (.statement depth content)
  | .unreadable _ => none
  | .block _ header body => some (.block depth header body)

/-- The line of a header and all lines after it, where none of them closes the block. -/
structure Unfinished where
  line : Text
  header : Header
  body : List Text

/-- The lines of a block that is not closed. -/
def Unfinished.lines (unfinished : Unfinished) : List Text := unfinished.line :: unfinished.body

/-- No front of the body closes more blocks than it opens, so none closes the block itself. -/
def Unfinished.IsProper (unfinished : Unfinished) : Prop :=
  LineForm.ofLine unfinished.line = .header unfinished.header ∧
    NeverCloses unfinished.body

/-- The blocks that are open at the end: the block itself and those that the body opens and
does not close. -/
def Unfinished.openBlocks (unfinished : Unfinished) : Nat :=
  1 + (openingCount unfinished.body - closingCount unfinished.body)

/-! ### Decompositions -/

/-- Pieces in order, and possibly a block at the end that is not closed. -/
structure Decomposition where
  pieces : List Piece
  unfinished : Option Unfinished

/-- All lines of a decomposition. -/
def Decomposition.lines (cut : Decomposition) : List Text :=
  cut.pieces.flatMap Piece.lines ++ cut.unfinished.elim [] Unfinished.lines

/-- A decomposition of some lines: they are its lines, and each part of it is proper. -/
structure Decomposition.Cuts (cut : Decomposition) (available : List Text) : Prop where
  lines_eq : cut.lines = available
  pieces_proper : ∀ piece ∈ cut.pieces, piece.IsProper
  unfinished_proper : ∀ unfinished ∈ cut.unfinished, unfinished.IsProper

/-- What a decomposition says about reading: the segments of its pieces, or the blocks that
are open at its end. -/
def Decomposition.outcome (depth : Nat) (cut : Decomposition) :
    Except Unterminated (List Segment) :=
  match cut.unfinished with
  | none => .ok (cut.pieces.filterMap (Piece.segment? depth))
  | some unfinished => .error ⟨unfinished.openBlocks⟩

/-- Put a piece in front. -/
def Decomposition.add (piece : Piece) (cut : Decomposition) : Decomposition :=
  { cut with pieces := piece :: cut.pieces }

theorem Decomposition.lines_add (piece : Piece) (cut : Decomposition) :
    (cut.add piece).lines = piece.lines ++ cut.lines := by
  simp [Decomposition.add, Decomposition.lines]

theorem Decomposition.Cuts.add {cut : Decomposition} {available : List Text}
    (cuts : cut.Cuts available) {piece : Piece} (proper : piece.IsProper) :
    (cut.add piece).Cuts (piece.lines ++ available) where
  lines_eq := by rw [Decomposition.lines_add, cuts.lines_eq]
  pieces_proper := List.forall_mem_cons.mpr ⟨proper, cuts.pieces_proper⟩
  unfinished_proper := cuts.unfinished_proper

theorem Decomposition.outcome_add {depth : Nat} {piece : Piece} {segment : Segment}
    (makes : piece.segment? depth = some segment) (cut : Decomposition) :
    (cut.add piece).outcome depth = (cut.outcome depth).map (segment :: ·) := by
  obtain ⟨pieces, unfinished⟩ := cut
  cases unfinished with
  | none => simp [Decomposition.outcome, Decomposition.add, makes, Except.map]
  | some last => rfl

/-! ### There is at most one decomposition -/

/-- Where a balanced body ends is determined: two of them with a closing line in front of the
rest are the same body with the same rest. -/
theorem nested_append_inj {first second front back : List Text}
    (firstNested : IsNested first) (secondNested : IsNested second)
    (same : first ++ closingLine :: front = second ++ closingLine :: back) :
    first = second ∧ front = back := by
  have captured := capture_balanced (isNested_iff.mp firstNested) front
  rw [same, capture_balanced (isNested_iff.mp secondNested) back] at captured
  simp only [Capture.mk.injEq, true_and] at captured
  exact ⟨captured.1.symm, captured.2.symm⟩

/-- A body with a closing line in front of the rest is not one that stays above its level. -/
theorem nested_append_not_neverCloses {body : List Text} (nested : IsNested body)
    (rest : List Text) : ¬ NeverCloses (body ++ closingLine :: rest) := by
  intro above
  obtain ⟨level, followed⟩ := neverCloses_iff.mp above
  have captured := capture_balanced (isNested_iff.mp nested) rest
  rw [capture_unfinished followed] at captured
  simp at captured

/-- The pieces are a prefix code: the lines determine the piece that they start with. Pieces of
different kinds already disagree about what the first line is. -/
theorem Piece.eq_of_append_eq {first second : Piece} (firstProper : first.IsProper)
    (secondProper : second.IsProper) {front back : List Text}
    (same : first.lines ++ front = second.lines ++ back) : first = second ∧ front = back := by
  cases first <;> cases second <;>
    simp only [Piece.IsProper, Piece.lines, List.cons_append, List.nil_append, List.append_assoc,
      List.cons.injEq] at firstProper secondProper same <;>
    obtain ⟨rfl, same⟩ := same
  case statement.statement =>
    rw [firstProper, LineForm.statement.injEq] at secondProper
    exact ⟨by rw [secondProper], same⟩
  case unreadable.unreadable => exact ⟨rfl, same⟩
  case block.block =>
    obtain ⟨isHeader, firstNested⟩ := firstProper
    obtain ⟨isOtherHeader, secondNested⟩ := secondProper
    rw [isHeader, LineForm.header.injEq] at isOtherHeader
    obtain ⟨sameBody, sameRest⟩ := nested_append_inj firstNested secondNested same
    exact ⟨by rw [isOtherHeader, sameBody], sameRest⟩
  all_goals simp_all

/-- A block that is never closed starts with no piece. -/
theorem Piece.append_ne_unfinished {piece : Piece} {unfinished : Unfinished}
    (proper : piece.IsProper) (unfinishedProper : unfinished.IsProper) (rest : List Text) :
    piece.lines ++ rest ≠ unfinished.lines := by
  intro same
  obtain ⟨line, header, body⟩ := unfinished
  obtain ⟨isHeader, above⟩ := unfinishedProper
  cases piece <;>
    simp only [Piece.IsProper, Piece.lines, Unfinished.lines, List.cons_append, List.nil_append,
      List.append_assoc, List.cons.injEq] at proper same <;>
    obtain ⟨rfl, rfl⟩ := same
  case block => exact nested_append_not_neverCloses proper.2 rest above
  all_goals simp_all

/-- The lines of a block that is never closed determine it. -/
theorem Unfinished.eq_of_lines_eq {first second : Unfinished} (firstProper : first.IsProper)
    (secondProper : second.IsProper) (same : first.lines = second.lines) : first = second := by
  obtain ⟨line, header, body⟩ := first
  obtain ⟨otherLine, otherHeader, otherBody⟩ := second
  simp only [Unfinished.lines, List.cons.injEq] at same
  obtain ⟨rfl, rfl⟩ := same
  have isHeader := firstProper.1
  have isOtherHeader := secondProper.1
  simp only at isHeader isOtherHeader
  rw [isHeader, LineForm.header.injEq] at isOtherHeader
  rw [isOtherHeader]

section

variable {pieces : List Piece} {piece : Piece} {unfinished other : Option Unfinished}
variable {available : List Text}

theorem Decomposition.Cuts.of_cons (cuts : Cuts ⟨piece :: pieces, unfinished⟩ available) :
    piece.IsProper ∧
      ∃ rest, available = piece.lines ++ rest ∧ Cuts ⟨pieces, unfinished⟩ rest := by
  obtain ⟨proper, others⟩ := List.forall_mem_cons.mp cuts.pieces_proper
  refine ⟨proper, _, ?_, rfl, others, cuts.unfinished_proper⟩
  rw [← cuts.lines_eq]
  exact Decomposition.lines_add piece ⟨pieces, unfinished⟩

theorem Decomposition.Cuts.lines_of_nil (cuts : Cuts ⟨[], unfinished⟩ available) :
    available = unfinished.elim [] Unfinished.lines :=
  cuts.lines_eq.symm

/-- A decomposition without pieces and one that starts with a piece are of different lines. -/
theorem Decomposition.Cuts.not_of_nil_of_cons (nilCuts : Cuts ⟨[], unfinished⟩ available) :
    ¬ Cuts ⟨piece :: pieces, other⟩ available := by
  intro consCuts
  obtain ⟨proper, rest, rfl, -⟩ := consCuts.of_cons
  have same := nilCuts.lines_of_nil
  cases unfinished with
  | none => cases piece <;> simp [Piece.lines] at same
  | some this =>
    exact Piece.append_ne_unfinished proper (nilCuts.unfinished_proper this rfl) rest same

end

/-- Two decompositions of the same lines are the same. -/
theorem Decomposition.Cuts.unique {first second : Decomposition} {available : List Text}
    (firstCuts : first.Cuts available) (secondCuts : second.Cuts available) : first = second := by
  obtain ⟨pieces, unfinished⟩ := first
  obtain ⟨otherPieces, otherUnfinished⟩ := second
  induction pieces generalizing otherPieces available with
  | nil =>
    cases otherPieces with
    | cons other others => exact absurd secondCuts firstCuts.not_of_nil_of_cons
    | nil =>
      have same := firstCuts.lines_of_nil.symm.trans secondCuts.lines_of_nil
      cases unfinished <;> cases otherUnfinished <;>
        simp only [Option.elim_none, Option.elim_some, Unfinished.lines, reduceCtorEq] at same
      case none.none => rfl
      case some.some this other =>
        rw [Unfinished.eq_of_lines_eq (firstCuts.unfinished_proper this rfl)
          (secondCuts.unfinished_proper other rfl) same]
  | cons piece rest inductionHypothesis =>
    cases otherPieces with
    | nil => exact absurd firstCuts secondCuts.not_of_nil_of_cons
    | cons other others =>
      obtain ⟨proper, lines, rfl, restCuts⟩ := firstCuts.of_cons
      obtain ⟨otherProper, otherLines, same, otherCuts⟩ := secondCuts.of_cons
      obtain ⟨rfl, rfl⟩ := Piece.eq_of_append_eq proper otherProper same
      have sameRest := inductionHypothesis restCuts others otherCuts
      simp only [Decomposition.mk.injEq] at sameRest
      rw [sameRest.1, sameRest.2]

/-! ### Every list of lines has a decomposition, and reading follows it -/

/-- The segmentation of lines is read off a decomposition of them. -/
theorem exists_cuts (depth : Nat) (available : List Text) :
    ∃ cut : Decomposition, cut.Cuts available ∧
      (segmentLines depth 0 available).outcome = cut.outcome depth := by
  induction available using segment_induction with
  | nil =>
    refine ⟨⟨[], none⟩, ⟨rfl, by simp, by simp⟩, ?_⟩
    rw [segmentLines_nil]
    rfl
  | statement line content rest isStatement inductionHypothesis =>
    obtain ⟨cut, cuts, outcome⟩ := inductionHypothesis
    have proper : (Piece.statement line content).IsProper := isStatement
    refine ⟨_, cuts.add proper, ?_⟩
    rw [segmentLines_statement _ _ isStatement, outcome_add, outcome,
      Decomposition.outcome_add rfl]
  | unreadable line rest isUnreadable inductionHypothesis =>
    obtain ⟨cut, cuts, outcome⟩ := inductionHypothesis
    have proper : (Piece.unreadable line).IsProper := isUnreadable
    refine ⟨_, cuts.add proper, ?_⟩
    rw [segmentLines_unreadable _ _ isUnreadable, outcome]
    rfl
  | block line header body rest isHeader balanced bodyHypothesis inductionHypothesis =>
    obtain ⟨cut, cuts, outcome⟩ := inductionHypothesis
    have proper : (Piece.block line header body).IsProper :=
      ⟨isHeader, isNested_iff.mpr balanced⟩
    refine ⟨cut.add (.block line header body), ?_, ?_⟩
    · simpa [Piece.lines] using cuts.add proper
    · rw [segmentLines_block _ _ isHeader balanced, outcome_add, outcome,
        Decomposition.outcome_add rfl]
  | unfinished line header body level isHeader followed =>
    refine ⟨⟨[], some ⟨line, header, body⟩⟩, ⟨rfl, by simp, ?_⟩, ?_⟩
    · rintro last ⟨⟩
      exact ⟨isHeader, neverCloses_iff.mpr ⟨level, followed⟩⟩
    · rw [segmentLines_unfinished _ _ isHeader followed]
      simp only [Segmentation.outcome, Decomposition.outcome, Unfinished.openBlocks,
        ← openings_blockMark, ← closings_blockMark, ← level_of_follow? _ followed]
      rw [if_neg (by omega), Nat.zero_add, Nat.add_comm]

/-- The statement lines of a text have exactly one decomposition, and what a reading of the
text gives is what the decomposition says: one segment for each statement and each block, or
the number of blocks that are open at the end of the last one. -/
theorem readSegments_outcome_eq_decomposition (depth : Nat) (text : Text) :
    ∃ cut : Decomposition,
      (∀ other : Decomposition, other.Cuts (statementLines text) ↔ other = cut) ∧
        (readSegments depth text).outcome = cut.outcome depth := by
  obtain ⟨cut, cuts, outcome⟩ := exists_cuts depth (statementLines text)
  refine ⟨cut, fun other => ⟨fun otherCuts => otherCuts.unique cuts, ?_⟩, outcome⟩
  rintro rfl
  exact cuts

end BlockCheck
