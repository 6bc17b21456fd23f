/-
This file says when some lines are read as a tree, as a relation that mentions neither the
segmentation nor the way bodies are read again. The lines of a statement are followed by
those of its later siblings; the lines of a block are its header, the lines that its
children are read from one level deeper, and a closing line.

Reading succeeds with a tree exactly when the relation holds of it
(`readLines_eq_ok_iff`). The bodies that are joined and read again are the reason why the
lines have to be statement lines: only those survive that unchanged. What is true of every
tree that is read is then proved by induction over the relation, with one case for each
shape of lines.
-/

import BlockCheck.Proofs.Captured
import BlockCheck.Outline

namespace BlockCheck

/-! ### Steps of reading -/

theorem map_eq_ok_iff {Failure Value Other : Type} {change : Value → Other}
    {outcome : Except Failure Value} {result : Other} :
    outcome.map change = .ok result ↔ ∃ value, outcome = .ok value ∧ change value = result := by
  cases outcome <;> simp [Except.map]

theorem bind_eq_ok_iff {Failure Value Next : Type} {outcome : Except Failure Value}
    {continuation : Value → Except Failure Next} {result : Next} :
    outcome.bind continuation = .ok result ↔
      ∃ value, outcome = .ok value ∧ continuation value = .ok result := by
  cases outcome <;> simp [Except.bind]

theorem map_eq_error_iff {Failure Value Other : Type} {change : Value → Other}
    {outcome : Except Failure Value} {failure : Failure} :
    outcome.map change = .error failure ↔ outcome = .error failure := by
  cases outcome <;> simp [Except.map]

theorem bind_eq_error_iff {Failure Value Next : Type} {outcome : Except Failure Value}
    {continuation : Value → Except Failure Next} {failure : Failure} :
    outcome.bind continuation = .error failure ↔
      outcome = .error failure ∨
        ∃ value, outcome = .ok value ∧ continuation value = .error failure := by
  cases outcome <;> simp [Except.bind]

theorem mapError_eq_ok_iff {Failure Other Value : Type} {change : Failure → Other}
    {outcome : Except Failure Value} {value : Value} :
    outcome.mapError change = .ok value ↔ outcome = .ok value := by
  cases outcome with
  | error failure =>
    constructor
    · intro same
      nomatch same
    · intro same
      nomatch same
  | ok other =>
    show Except.ok other = Except.ok value ↔ Except.ok other = Except.ok value
    rw [Except.ok.injEq, Except.ok.injEq]

/-- A failure to read a body, told by the block that the body belongs to. -/
def ReadFailure.inBody (depth : Nat) : ReadFailure → BlockFailure
  | .source cause => ⟨depth, cause⟩
  | .block failure => failure

/-- The outcome of reading some lines at a depth. -/
def readLines (depth : Nat) (available : List Text) : Except ReadFailure (List Node) :=
  match (segmentLines depth 0 available).outcome with
  | .error cause => .error (.source cause)
  | .ok segments => (buildAll segments).outcome.mapError .block

/-- The tree of a program is read from its statement lines. -/
theorem outcome_readProgram (source : Text) :
    (readProgram source).outcome = readLines 0 (statementLines source) := by
  unfold readProgram readLines
  rw [Traced.outcome_bind]
  simp only [Traced.outcome_mapFailure, readSegments]
  cases (segmentLines 0 0 (statementLines source)).outcome <;> rfl

/-- Reading that succeeds gives all segments that are found. -/
theorem segments_of_readSegments {depth : Nat} {text : Text} {segments : List Segment}
    (read : (readSegments depth text).outcome = .ok segments) :
    (segmentLines depth 0 (statementLines text)).segments = segments :=
  (outcome_eq_ok_iff.mp read).2

theorem outcome_buildAll_nil : (buildAll []).outcome = .ok [] := by
  rw [buildAll]
  rfl

theorem outcome_buildAll_cons (segment : Segment) (rest : List Segment) :
    (buildAll (segment :: rest)).outcome =
      segment.build.outcome.bind fun node => (buildAll rest).outcome.map (node :: ·) := by
  rw [buildAll]
  simp only [Traced.outcome_bind, Traced.outcome_pure]
  rfl

/-- A block is built from the lines that its body is read as. -/
theorem outcome_build_block (depth : Nat) (header : Header) (body : List Text) :
    (Segment.block depth header body).build.outcome =
      ((readLines (depth + 1) (Segment.block depth header body).innerLines).mapError
        (ReadFailure.inBody (depth + 1))).map (Node.block depth header) := by
  rw [Segment.build, Traced.outcome_after, readLines, Segmentation.outcome]
  split
  · dsimp only
    rw [Traced.outcome_after, Traced.outcome_bind]
    cases (buildAll _).outcome <;> rfl
  · rfl

/-- Building succeeds with a list of nodes when each segment has its node. -/
theorem outcome_buildAll_cons_eq_ok_iff {segment : Segment} {rest : List Segment}
    {nodes : List Node} :
    (buildAll (segment :: rest)).outcome = .ok nodes ↔
      ∃ node others, segment.build.outcome = .ok node ∧ (buildAll rest).outcome = .ok others ∧
        node :: others = nodes := by
  simp only [outcome_buildAll_cons, bind_eq_ok_iff, map_eq_ok_iff, exists_and_left]

/-! ### Reading by the shape of the lines -/

section

variable {line : Text} {content : Statement} {header : Header} (depth : Nat)

theorem readLines_nil : readLines depth [] = .ok [] := by
  have built : ((buildAll []).outcome.mapError ReadFailure.block) = .ok [] :=
    mapError_eq_ok_iff.mpr outcome_buildAll_nil
  rw [readLines, segmentLines_nil]
  exact built

theorem readLines_statement (isStatement : LineForm.ofLine line = .statement content)
    (rest : List Text) :
    readLines depth (line :: rest) =
      (readLines depth rest).map (.statement depth content :: ·) := by
  unfold readLines
  rw [segmentLines_statement _ _ isStatement, outcome_add]
  cases (segmentLines depth 0 rest).outcome with
  | error cause => rfl
  | ok segments =>
    simp only [Except.map, outcome_buildAll_cons, Segment.build, Traced.outcome_pure]
    cases (buildAll segments).outcome <;> rfl

theorem readLines_unreadable (isUnreadable : LineForm.ofLine line = .unreadable)
    (rest : List Text) : readLines depth (line :: rest) = readLines depth rest := by
  rw [readLines, readLines, segmentLines_unreadable _ _ isUnreadable]

/-- What is told of a block and the lines after it. A block that is left open after it comes
first, because all lines are cut into segments before a body is read; then comes what is
wrong in the body, and then what is wrong in later bodies. -/
theorem readLines_block (isHeader : LineForm.ofLine line = .header header)
    {body : List Text} (balanced : follow? blockMark 0 body = some 0)
    (proper : ∀ inner ∈ body, IsStatementLine inner) (rest : List Text) :
    readLines depth (line :: (body ++ closingLine :: rest)) =
      match readLines depth rest with
      | .error (.source cause) => .error (.source cause)
      | later =>
        ((readLines (depth + 1) body).mapError fun failure =>
            .block (failure.inBody (depth + 1))).bind
          fun children => later.map (.block depth header children :: ·) := by
  rw [readLines, segmentLines_block _ _ isHeader balanced, outcome_add, readLines.eq_1 depth rest]
  cases (segmentLines depth 0 rest).outcome with
  | error cause => rfl
  | ok segments =>
    simp only [Except.map, outcome_buildAll_cons, outcome_build_block,
      innerLines_of_body depth header proper]
    cases readLines (depth + 1) body with
    | error failure => cases (buildAll segments).outcome <;> rfl
    | ok children => cases (buildAll segments).outcome <;> rfl

/-- A block in front is read when its body is, one level deeper, and when the lines after it
are. -/
theorem readLines_block_eq_ok_iff (isHeader : LineForm.ofLine line = .header header)
    {body : List Text} (balanced : follow? blockMark 0 body = some 0)
    (proper : ∀ inner ∈ body, IsStatementLine inner) (rest : List Text) (nodes : List Node) :
    readLines depth (line :: (body ++ closingLine :: rest)) = .ok nodes ↔
      ∃ children others, readLines (depth + 1) body = .ok children ∧
        readLines depth rest = .ok others ∧ .block depth header children :: others = nodes := by
  rw [readLines_block depth isHeader balanced proper]
  cases readLines depth rest with
  | error failure =>
    cases failure <;> simp [bind_eq_ok_iff, map_eq_ok_iff]
  | ok others =>
    simp only [bind_eq_ok_iff, mapError_eq_ok_iff, map_eq_ok_iff, exists_and_left]

theorem readLines_unfinished (isHeader : LineForm.ofLine line = .header header)
    {body : List Text} {level : Nat} (followed : follow? blockMark 0 body = some level) :
    readLines depth (line :: body) = .error (.source ⟨level + 1⟩) := by
  rw [readLines, segmentLines_unfinished _ _ isHeader followed]
  simp [Segmentation.outcome]

end

/-! ### The relation -/

/-- Some lines are read as a tree at a depth. -/
inductive Outlined : Nat → List Text → List Node → Prop where
  | nil (depth : Nat) : Outlined depth [] []
  | statement {depth : Nat} {line : Text} {content : Statement} {rest : List Text}
      {nodes : List Node} (isStatement : LineForm.ofLine line = .statement content)
      (later : Outlined depth rest nodes) :
      Outlined depth (line :: rest) (.statement depth content :: nodes)
  | unreadable {depth : Nat} {line : Text} {rest : List Text} {nodes : List Node}
      (isUnreadable : LineForm.ofLine line = .unreadable) (later : Outlined depth rest nodes) :
      Outlined depth (line :: rest) nodes
  | block {depth : Nat} {line : Text} {header : Header} {body rest : List Text}
      {children nodes : List Node} (isHeader : LineForm.ofLine line = .header header)
      (balanced : follow? blockMark 0 body = some 0)
      (inside : Outlined (depth + 1) body children) (later : Outlined depth rest nodes) :
      Outlined depth (line :: (body ++ closingLine :: rest))
        (.block depth header children :: nodes)

theorem Outlined.append {depth : Nat} {front back : List Text} {nodes others : List Node}
    (first : Outlined depth front nodes) (second : Outlined depth back others) :
    Outlined depth (front ++ back) (nodes ++ others) := by
  induction first with
  | nil => exact second
  | statement isStatement later inductionHypothesis =>
    exact .statement isStatement (inductionHypothesis second)
  | unreadable isUnreadable later inductionHypothesis =>
    exact .unreadable isUnreadable (inductionHypothesis second)
  | block isHeader balanced inside later insideHypothesis laterHypothesis =>
    simp only [List.cons_append, List.append_assoc]
    exact .block isHeader balanced inside (laterHypothesis second)

theorem readLines_of_outlined {depth : Nat} {available : List Text} {nodes : List Node}
    (outlined : Outlined depth available nodes)
    (proper : ∀ line ∈ available, IsStatementLine line) :
    readLines depth available = .ok nodes := by
  induction outlined with
  | nil depth => exact readLines_nil depth
  | statement isStatement later inductionHypothesis =>
    rw [readLines_statement _ isStatement,
      inductionHypothesis fun line member => proper line (List.mem_cons_of_mem _ member)]
    rfl
  | unreadable isUnreadable later inductionHypothesis =>
    rw [readLines_unreadable _ isUnreadable]
    exact inductionHypothesis fun line member => proper line (List.mem_cons_of_mem _ member)
  | block isHeader balanced inside later insideHypothesis laterHypothesis =>
    obtain ⟨-, properBody, -, properRest⟩ := forall_mem_block_iff.mp proper
    rw [readLines_block_eq_ok_iff _ isHeader balanced properBody]
    exact ⟨_, _, insideHypothesis properBody, laterHypothesis properRest, rfl⟩

theorem outlined_of_readLines {depth : Nat} {available : List Text} {nodes : List Node}
    (proper : ∀ line ∈ available, IsStatementLine line)
    (succeeded : readLines depth available = .ok nodes) : Outlined depth available nodes := by
  induction available using segment_induction generalizing depth nodes with
  | nil =>
    rw [readLines_nil, Except.ok.injEq] at succeeded
    rw [← succeeded]
    exact .nil depth
  | statement line content rest isStatement inductionHypothesis =>
    rw [readLines_statement _ isStatement, map_eq_ok_iff] at succeeded
    obtain ⟨others, later, rfl⟩ := succeeded
    refine .statement isStatement (inductionHypothesis (fun line member => ?_) later)
    exact proper line (List.mem_cons_of_mem _ member)
  | unreadable line rest isUnreadable inductionHypothesis =>
    rw [readLines_unreadable _ isUnreadable] at succeeded
    refine .unreadable isUnreadable (inductionHypothesis (fun line member => ?_) succeeded)
    exact proper line (List.mem_cons_of_mem _ member)
  | block line header body rest isHeader balanced insideHypothesis laterHypothesis =>
    obtain ⟨-, properBody, -, properRest⟩ := forall_mem_block_iff.mp proper
    rw [readLines_block_eq_ok_iff _ isHeader balanced properBody] at succeeded
    obtain ⟨children, others, inside, later, rfl⟩ := succeeded
    exact .block isHeader balanced (insideHypothesis properBody inside)
      (laterHypothesis properRest later)
  | unfinished line header body level isHeader followed =>
    rw [readLines_unfinished _ isHeader followed] at succeeded
    simp at succeeded

/-- Reading statement lines succeeds with a tree exactly when they are outlined by it. -/
theorem readLines_eq_ok_iff {depth : Nat} {available : List Text} {nodes : List Node}
    (proper : ∀ line ∈ available, IsStatementLine line) :
    readLines depth available = .ok nodes ↔ Outlined depth available nodes :=
  ⟨outlined_of_readLines proper, fun outlined => readLines_of_outlined outlined proper⟩

/-- A program has a tree exactly when its statement lines are outlined by it. -/
theorem readProgram_eq_ok_iff {source : Text} {nodes : List Node} :
    (readProgram source).outcome = .ok nodes ↔ Outlined 0 (statementLines source) nodes := by
  rw [outcome_readProgram]
  exact readLines_eq_ok_iff fun _ => isStatementLine_of_mem_statementLines

end BlockCheck
