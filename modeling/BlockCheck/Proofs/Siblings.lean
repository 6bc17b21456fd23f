/-
This file proves that programs compose. Where the first of two texts leaves no block open,
the text of both, one on top of the other, is read as the two texts apart: its segments are
those of the first followed by those of the second, and so are its nodes. Nothing of the
first program can reach into the second. The verdict on both is then the verdict on the
first program that is found wrong.
-/

import BlockCheck.Proofs.Scans
import BlockCheck.Proofs.Verdicts

namespace BlockCheck

/-! ### Reading one after the other -/

/-- Lines that leave no block open are cut into segments apart from the lines after them. -/
theorem segmentLines_append (depth : Nat) {front : List Text} (back : List Text)
    (closed : (segmentLines depth 0 front).openBlocks = 0) :
    segmentLines depth 0 (front ++ back) =
      ⟨(segmentLines depth 0 front).segments ++ (segmentLines depth 0 back).segments,
        (segmentLines depth 0 back).openBlocks⟩ := by
  induction front using segment_induction with
  | nil => rw [segmentLines_nil, List.nil_append, List.nil_append]
  | statement line content rest isStatement inductionHypothesis =>
    rw [segmentLines_statement _ _ isStatement] at closed ⊢
    rw [List.cons_append, segmentLines_statement _ _ isStatement, inductionHypothesis closed]
    rfl
  | unreadable line rest isUnreadable inductionHypothesis =>
    rw [segmentLines_unreadable _ _ isUnreadable] at closed ⊢
    rw [List.cons_append, segmentLines_unreadable _ _ isUnreadable, inductionHypothesis closed]
  | block line header body rest isHeader balanced insideHypothesis laterHypothesis =>
    rw [segmentLines_block _ _ isHeader balanced] at closed ⊢
    rw [List.cons_append, List.append_assoc, List.cons_append,
      segmentLines_block _ _ isHeader balanced, laterHypothesis closed]
    rfl
  | unfinished line header body level isHeader followed =>
    rw [segmentLines_unfinished _ _ isHeader followed] at closed
    simp at closed

theorem outcome_segmentLines_append (depth : Nat) {front : List Text} (back : List Text)
    {segments : List Segment} (succeeded : (segmentLines depth 0 front).outcome = .ok segments) :
    (segmentLines depth 0 (front ++ back)).outcome =
      (segmentLines depth 0 back).outcome.map (segments ++ ·) := by
  obtain ⟨closed, found⟩ := outcome_eq_ok_iff.mp succeeded
  rw [segmentLines_append depth back closed, found, Segmentation.outcome, Segmentation.outcome]
  split <;> rfl

/-- A text whose blocks are all closed is read apart from the text below it. -/
theorem readSegments_append_newline (depth : Nat) {front : Text} (back : Text)
    {segments : List Segment} (succeeded : (readSegments depth front).outcome = .ok segments) :
    (readSegments depth (front ++ '\n' :: back)).outcome =
      (readSegments depth back).outcome.map (segments ++ ·) := by
  simp only [readSegments] at succeeded ⊢
  rw [statementLines_append_newline, outcome_segmentLines_append depth _ succeeded]

theorem outcome_buildAll_append {front : List Segment} (back : List Segment) {nodes : List Node}
    (succeeded : (buildAll front).outcome = .ok nodes) :
    (buildAll (front ++ back)).outcome = (buildAll back).outcome.map (nodes ++ ·) := by
  induction front generalizing nodes with
  | nil =>
    rw [outcome_buildAll_nil, Except.ok.injEq] at succeeded
    rw [← succeeded, List.nil_append]
    cases (buildAll back).outcome <;> rfl
  | cons segment rest inductionHypothesis =>
    obtain ⟨node, others, built, restBuilt, rfl⟩ := outcome_buildAll_cons_eq_ok_iff.mp succeeded
    rw [List.cons_append, outcome_buildAll_cons, built, inductionHypothesis restBuilt]
    cases (buildAll back).outcome <;> rfl

/-- The tree of a text is the same below a program that has a tree, after the nodes of that
program. -/
theorem readProgram_append_newline {front : Text} (back : Text) {nodes : List Node}
    (succeeded : (readProgram front).outcome = .ok nodes) :
    (readProgram (front ++ '\n' :: back)).outcome =
      (readProgram back).outcome.map (nodes ++ ·) := by
  rw [outcome_readProgram, readLines] at succeeded
  rw [outcome_readProgram, outcome_readProgram, statementLines_append_newline, readLines, readLines]
  cases found : (segmentLines 0 0 (statementLines front)).outcome with
  | error cause => simp [found] at succeeded
  | ok segments =>
    rw [found] at succeeded
    have built := mapError_eq_ok_iff.mp succeeded
    rw [outcome_segmentLines_append 0 _ found]
    cases (segmentLines 0 0 (statementLines back)).outcome with
    | error cause => rfl
    | ok others =>
      simp only [Except.map, outcome_buildAll_append others built]
      cases (buildAll others).outcome <;> rfl

/-! ### Judging one after the other -/

theorem firstFinding?_append (front back : List Node) :
    firstFinding? (front ++ back) = (firstFinding? front).or (firstFinding? back) := by
  induction front with
  | nil => simp [firstFinding?]
  | cons node rest inductionHypothesis =>
    simp only [List.cons_append, firstFinding?, inductionHypothesis, Option.or_assoc]

theorem treeVerdict_append_of_none {front : List Node} (fine : firstFinding? front = none)
    (back : List Node) : treeVerdict (front ++ back) = treeVerdict back := by
  rw [treeVerdict, firstFinding?_append, fine, Option.none_or, treeVerdict]

theorem treeVerdict_append_of_some {front : List Node} {finding : Finding}
    (broken : firstFinding? front = some finding) (back : List Node) :
    treeVerdict (front ++ back) = .rejected (.grammar finding.violation) := by
  rw [treeVerdict, firstFinding?_append, broken, Option.some_or]

/-- Two programs, one on top of the other. The first one is read as it is read alone, and so
is the second, whatever it is. Below a program that is accepted, every text gets the verdict
that it gets alone; and a broken rule in the first program is reported before anything that
the second one, if it has a tree, breaks. -/
theorem siblings_compose (front back : Text) :
    (∀ segments, (readSegments 0 front).outcome = .ok segments →
        (readSegments 0 (front ++ '\n' :: back)).outcome =
          (readSegments 0 back).outcome.map (segments ++ ·)) ∧
      (verdict front = .accepted → verdict (front ++ '\n' :: back) = verdict back) ∧
      ∀ violation, verdict front = .rejected (.grammar violation) →
        hasBalancedBrackets back = true → hasLoopClauses back = true →
        (∃ nodes, (readProgram back).outcome = .ok nodes) →
          verdict (front ++ '\n' :: back) = .rejected (.grammar violation) := by
  refine ⟨fun segments => readSegments_append_newline 0 back, ?_, ?_⟩
  · intro accepted
    have sound : ∀ fault, verdict front ≠ .rejected (.structural fault) := by simp [accepted]
    obtain ⟨balanced, complete, nodes, read, same⟩ := exists_tree_of_verdict sound
    have fine := treeVerdict_eq_accepted_iff.mp (same.symm.trans accepted)
    rw [verdict_eq, verdict_eq back, hasBalancedBrackets_append_newline balanced,
      hasLoopClauses_append_newline, complete, Bool.true_and, readProgram_append_newline back read]
    cases (readProgram back).outcome with
    | error failure => rfl
    | ok others => simp only [Except.map, treeVerdict_append_of_none fine]
  · rintro violation rejected backBalanced backComplete ⟨others, backRead⟩
    have sound : ∀ fault, verdict front ≠ .rejected (.structural fault) := by simp [rejected]
    obtain ⟨balanced, complete, nodes, read, same⟩ := exists_tree_of_verdict sound
    obtain ⟨finding, broken, rfl⟩ := treeVerdict_eq_grammar_iff.mp (same.symm.trans rejected)
    rw [← treeVerdict_append_of_some broken others]
    apply verdict_of_tree
    · rw [hasBalancedBrackets_append_newline balanced, backBalanced]
    · rw [hasLoopClauses_append_newline, complete, backComplete, Bool.and_self]
    · rw [readProgram_append_newline back read, backRead]
      rfl

/-- A function that returns its parameter. -/
def identitySource : Text := "fc f ( a ) int \x7b\n return a\n\x7d".toList

/-- A declaration of a name that is no identifier. -/
def misnamedSource : Text := "1x:5".toList

/-- The function stands above the bad declaration and below it. -/
theorem siblings_compose_identity_misnamed :
    let segments : List Segment :=
      [.block 0 (.function ['f'] [['a']] ['i', 'n', 't']) ["return a".toList]]
    (readSegments 0 identitySource).outcome = .ok segments ∧
      (readSegments 0 (identitySource ++ '\n' :: misnamedSource)).outcome =
        (readSegments 0 misnamedSource).outcome.map (segments ++ ·) ∧
      verdict identitySource = .accepted ∧
      verdict (identitySource ++ '\n' :: misnamedSource) = verdict misnamedSource ∧
      verdict misnamedSource = .rejected (.grammar .invalidVariableName) ∧
      hasBalancedBrackets identitySource = true ∧ hasLoopClauses identitySource = true ∧
      (∃ nodes, (readProgram identitySource).outcome = .ok nodes) ∧
      verdict (misnamedSource ++ '\n' :: identitySource) =
        .rejected (.grammar .invalidVariableName) := by
  have cut : segmentLines 0 0 (statementLines identitySource) =
      ⟨[.block 0 (.function ['f'] [['a']] ['i', 'n', 't']) ["return a".toList]], 0⟩ := by
    decide +kernel
  have segmented : (readSegments 0 identitySource).outcome = .ok
      [.block 0 (.function ['f'] [['a']] ['i', 'n', 't']) ["return a".toList]] := by
    simp only [readSegments, cut]
    rfl
  have accepted : verdict identitySource = .accepted := by decide +kernel
  have rejected : verdict misnamedSource = .rejected (.grammar .invalidVariableName) := by
    decide +kernel
  have balanced : hasBalancedBrackets identitySource = true := by decide +kernel
  have complete : hasLoopClauses identitySource = true := by decide +kernel
  have sound : ∀ fault, verdict identitySource ≠ .rejected (.structural fault) := by
    simp [accepted]
  obtain ⟨-, -, nodes, read, -⟩ := exists_tree_of_verdict sound
  obtain ⟨lexing, accepting, -⟩ := siblings_compose identitySource misnamedSource
  obtain ⟨-, -, rejecting⟩ := siblings_compose misnamedSource identitySource
  exact ⟨segmented, lexing _ segmented, accepted, accepting accepted, rejected, balanced, complete,
    ⟨nodes, read⟩, rejecting _ rejected balanced complete ⟨nodes, read⟩⟩

end BlockCheck
