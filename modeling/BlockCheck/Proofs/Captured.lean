/-
This file says exactly what is captured for a block and how that determines the
segmentation of lines. Lines that can be followed are captured as they are
(`capture_append`), so a body that returns to its own level for the first time at a closing
line is captured whole, and lines that never close the block are captured to their end.
There is no third case (`follow?_cases`).

From this come the five shapes that lines can have when they are cut into segments. Each
has its equation for `segmentLines`, and `segment_induction` is the induction over the
shapes: it goes to the lines after a block and also to the lines inside of it, because the
body is read again later.
-/

import BlockCheck.Proofs.Levels
import BlockCheck.Segment

namespace BlockCheck

/-! ### The marks of lines -/

theorem blockMark_eq_closes_iff {line : Text} : blockMark line = .closes ↔ line = closingLine := by
  unfold blockMark
  split
  · simp [*]
  · split <;> simp [*]

theorem blockMark_eq_opens_iff {line : Text} :
    blockMark line = .opens ↔ line.getLast? = some '{' := by
  unfold blockMark
  split
  · rename_i isClosing
    simp [isClosing, closingLine]
  · split <;> simp [*]

@[simp] theorem blockMark_closingLine : blockMark closingLine = .closes := rfl

theorem isStatementLine_closingLine : IsStatementLine closingLine := by
  constructor <;> decide

/-- What holds of all lines of a block and of all lines after it. -/
theorem forall_mem_block_iff {property : Text → Prop} {line : Text} {body rest : List Text} :
    (∀ each ∈ line :: (body ++ closingLine :: rest), property each) ↔
      property line ∧ (∀ inner ∈ body, property inner) ∧ property closingLine ∧
        ∀ later ∈ rest, property later := by
  simp only [List.forall_mem_cons, List.forall_mem_append]

/-- A block leaves the level as it is when its header opens a level and its body is balanced. -/
theorem follow?_block {line : Text} (opens : blockMark line = .opens) {body : List Text}
    (balanced : follow? blockMark 0 body = some 0) (level : Nat) (rest : List Text) :
    follow? blockMark level (line :: (body ++ closingLine :: rest)) =
      follow? blockMark level rest := by
  have raised : follow? blockMark (level + 1) body = some (level + 1) :=
    follow?_add blockMark balanced (level + 1)
  rw [follow?_cons, opens, NestingMark.step?, Option.bind_some, follow?_append, raised,
    Option.bind_some, follow?_cons, blockMark_closingLine, NestingMark.step?, Option.bind_some]

/-! ### What is captured -/

theorem capture_nil (inner : Nat) : capture inner [] = ⟨[], inner + 1, []⟩ := rfl

/-- A line that can be followed is captured, and the capture goes on at the next level. -/
theorem capture_cons {inner next : Nat} {line : Text}
    (step : (blockMark line).step? inner = some next) (rest : List Text) :
    capture inner (line :: rest) = (capture next rest).keep line := by
  cases isMark : blockMark line with
  | opens =>
    rw [isMark, NestingMark.step?, Option.some.injEq] at step
    simp only [capture, isMark, step]
  | neutral =>
    rw [isMark, NestingMark.step?, Option.some.injEq] at step
    simp only [capture, isMark, step]
  | closes =>
    cases inner with
    | zero => simp [isMark, NestingMark.step?] at step
    | succ outer =>
      rw [isMark, NestingMark.step?, Option.some.injEq] at step
      simp only [capture, isMark, step]

/-- Lines that can be followed are captured as they are, and the capture goes on at the level
that they end at. -/
theorem capture_append {inner level : Nat} {front : List Text}
    (followed : follow? blockMark inner front = some level) (back : List Text) :
    capture inner (front ++ back) =
      { capture level back with body := front ++ (capture level back).body } := by
  induction front generalizing inner with
  | nil =>
    rw [follow?_nil, Option.some.injEq] at followed
    rw [followed]
    rfl
  | cons line rest inductionHypothesis =>
    rw [follow?_cons] at followed
    obtain ⟨next, step, later⟩ := Option.bind_eq_some_iff.mp followed
    rw [List.cons_append, capture_cons step, inductionHypothesis later]
    rfl

/-- A body that is balanced is captured up to the closing line after it. -/
theorem capture_balanced {body : List Text} (balanced : follow? blockMark 0 body = some 0)
    (rest : List Text) : capture 0 (body ++ closingLine :: rest) = ⟨body, 0, rest⟩ := by
  rw [capture_append balanced]
  simp [capture]

/-- Lines that never close the block are captured to their end. -/
theorem capture_unfinished {body : List Text} {level : Nat}
    (followed : follow? blockMark 0 body = some level) :
    capture 0 body = ⟨body, level + 1, []⟩ := by
  have whole := capture_append followed []
  rw [List.append_nil, capture_nil] at whole
  simpa using whole

/-- From any level, lines either come to a closing line that takes them below the level they
started at, or can be followed to their end. Only a closing line at level zero cannot be
followed. -/
theorem follow?_cases (inner : Nat) (available : List Text) :
    (∃ body rest, available = body ++ closingLine :: rest ∧
        follow? blockMark inner body = some 0) ∨
      ∃ level, follow? blockMark inner available = some level := by
  induction available generalizing inner with
  | nil => exact Or.inr ⟨inner, rfl⟩
  | cons line rest inductionHypothesis =>
    cases step : (blockMark line).step? inner with
    | none =>
      have atZero : inner = 0 ∧ line = closingLine := by
        cases isMark : blockMark line with
        | opens => simp [isMark, NestingMark.step?] at step
        | neutral => simp [isMark, NestingMark.step?] at step
        | closes =>
          cases inner with
          | zero => exact ⟨rfl, blockMark_eq_closes_iff.mp isMark⟩
          | succ outer => simp [isMark, NestingMark.step?] at step
      obtain ⟨rfl, rfl⟩ := atZero
      exact Or.inl ⟨[], rest, rfl, rfl⟩
    | some next =>
      rcases inductionHypothesis next with ⟨body, after, rfl, followed⟩ | ⟨level, followed⟩
      · refine Or.inl ⟨line :: body, after, rfl, ?_⟩
        rw [follow?_cons, step]
        exact followed
      · refine Or.inr ⟨level, ?_⟩
        rw [follow?_cons, step]
        exact followed

/-! ### The shapes of lines -/

/-- The segments are given exactly where no block is left open. -/
theorem outcome_eq_ok_iff {found : Segmentation} {segments : List Segment} :
    found.outcome = .ok segments ↔ found.openBlocks = 0 ∧ found.segments = segments := by
  unfold Segmentation.outcome
  by_cases closed : found.openBlocks = 0
  · simp [closed]
  · simp [closed]

/-- A segment in front changes the segments of an outcome and nothing else. -/
theorem outcome_add (segment : Segment) (found : Segmentation) :
    (found.add segment).outcome = found.outcome.map (segment :: ·) := by
  unfold Segmentation.outcome Segmentation.add
  by_cases closed : found.openBlocks = 0
  · simp [closed, Except.map]
  · simp [closed, Except.map]

section

variable {line : Text} {content : Statement} {header : Header} (depth opened : Nat)

theorem segmentLines_nil : segmentLines depth opened [] = ⟨[], opened⟩ := by
  rw [segmentLines]

theorem segmentLines_statement (isStatement : LineForm.ofLine line = .statement content)
    (rest : List Text) :
    segmentLines depth opened (line :: rest) =
      (segmentLines depth opened rest).add (.statement depth content) := by
  rw [segmentLines, isStatement]

theorem segmentLines_unreadable (isUnreadable : LineForm.ofLine line = .unreadable)
    (rest : List Text) :
    segmentLines depth opened (line :: rest) = segmentLines depth opened rest := by
  rw [segmentLines, isUnreadable]

theorem segmentLines_block (isHeader : LineForm.ofLine line = .header header)
    {body : List Text} (balanced : follow? blockMark 0 body = some 0) (rest : List Text) :
    segmentLines depth opened (line :: (body ++ closingLine :: rest)) =
      (segmentLines depth opened rest).add (.block depth header body) := by
  rw [segmentLines, isHeader]
  simp only [capture_balanced balanced, Nat.add_zero]

theorem segmentLines_unfinished (isHeader : LineForm.ofLine line = .header header)
    {body : List Text} {level : Nat} (followed : follow? blockMark 0 body = some level) :
    segmentLines depth opened (line :: body) =
      ⟨[.block depth header body], opened + (level + 1)⟩ := by
  rw [segmentLines, isHeader]
  simp only [capture_unfinished followed, segmentLines_nil]
  rfl

end

/-- Induction over the shapes of lines. Lines are empty, or they start with a statement, with
an unreadable line, with a block that is closed, or with one that is not. It also goes to the
lines after a header that nothing closes, for statements about lines that more lines follow. -/
@[elab_as_elim]
theorem segment_induction {motive : List Text → Prop} (nil : motive [])
    (statement : ∀ line content rest, LineForm.ofLine line = .statement content →
      motive rest → motive (line :: rest))
    (unreadable : ∀ line rest, LineForm.ofLine line = .unreadable →
      motive rest → motive (line :: rest))
    (block : ∀ line header body rest, LineForm.ofLine line = .header header →
      follow? blockMark 0 body = some 0 → motive body → motive rest →
        motive (line :: (body ++ closingLine :: rest)))
    (unfinished : ∀ line header body level, LineForm.ofLine line = .header header →
      follow? blockMark 0 body = some level → motive body → motive (line :: body))
    (available : List Text) : motive available := by
  induction count : available.length using Nat.strongRecOn generalizing available with
  | ind length inductionHypothesis =>
    have shorter (other : List Text) (less : other.length < available.length) : motive other :=
      inductionHypothesis other.length (count ▸ less) other rfl
    cases available with
    | nil => exact nil
    | cons line available =>
      cases form : LineForm.ofLine line with
      | statement content =>
        exact statement line content available form (shorter available (by simp))
      | unreadable => exact unreadable line available form (shorter available (by simp))
      | header header =>
        rcases follow?_cases 0 available with ⟨body, rest, rfl, balanced⟩ | ⟨level, followed⟩
        · have length : (line :: (body ++ closingLine :: rest)).length =
              body.length + rest.length + 2 := by
            rw [List.length_cons, List.length_append, List.length_cons]
            omega
          have bodyShorter : motive body := shorter body (by omega)
          have restShorter : motive rest := shorter rest (by omega)
          exact block line header body rest form balanced bodyShorter restShorter
        · exact unfinished line header available level form followed (shorter available (by simp))

end BlockCheck
