/-
This file says how building goes on after failures. An attempt takes segments off the front one at
a time and builds each. It ends at the first segment that has no node; the nodes in hand are lost,
and that segment is taken as well, so the next attempt starts right behind it. Here attempts are
run in this way, segment by segment, and each of them tells what is left; that they have the
outcomes of `buildAttempts` is the first thing proved.

What a segment does when it is built alone then tells all attempts, however many there are. There
is one for each segment that fails by itself, with its failure; after these there is one that gives
a node for each segment behind the last failure; all further ones find nothing left. The induction
is over the failures (`failing_induction`): either all segments have nodes, or a first one has none
and the statement holds of the segments behind it.
-/

import BlockCheck.Proofs.Outlined
import Mathlib.Data.List.Forall2

namespace BlockCheck

/-! ### Attempts, segment by segment -/

/-- What an attempt gives, and the segments that it has not taken. -/
structure Attempt where
  outcome : Except BlockFailure (List Node)
  pending : List Segment

/-- An attempt with some nodes in hand. -/
def attemptFrom (built : List Node) : List Segment → Attempt
  | [] => ⟨.ok built, []⟩
  | segment :: pending =>
    match segment.build.outcome with
    | .ok node => attemptFrom (built ++ [node]) pending
    | .error failure => ⟨.error failure, pending⟩

/-- A number of attempts, each at the segments that the one before it has not taken. -/
def attempts : Nat → List Segment → List Attempt
  | 0, _ => []
  | count + 1, segments =>
    attemptFrom [] segments :: attempts count (attemptFrom [] segments).pending

/-- The first segment is taken from those that are left, whether it has a node or not. -/
theorem unbuilt_cons (segment : Segment) (rest : List Segment) :
    unbuilt (segment :: rest) =
      match segment.build.outcome with
      | .ok _ => unbuilt rest
      | .error _ => rest := by
  unfold unbuilt
  rw [List.dropWhile_cons, Segment.builds]
  cases segment.build.outcome <;> rfl

/-- An attempt gives what building all segments gives, and leaves those behind the first
failure. -/
theorem attemptFrom_eq (built : List Node) (segments : List Segment) :
    attemptFrom built segments =
      ⟨(buildAll segments).outcome.map (built ++ ·), unbuilt segments⟩ := by
  induction segments generalizing built with
  | nil =>
    rw [outcome_buildAll_nil, attemptFrom, unbuilt]
    simp [Except.map]
  | cons segment rest inductionHypothesis =>
    rw [attemptFrom, outcome_buildAll_cons, unbuilt_cons]
    cases segment.build.outcome with
    | error failure => rfl
    | ok node =>
      show attemptFrom (built ++ [node]) rest =
        ⟨((buildAll rest).outcome.map (node :: ·)).map (built ++ ·), unbuilt rest⟩
      rw [inductionHypothesis]
      cases (buildAll rest).outcome <;> simp [Except.map]

/-- The attempts have the outcomes that building again and again has. -/
theorem map_outcome_attempts (count : Nat) (segments : List Segment) :
    (attempts count segments).map Attempt.outcome = buildAttempts count segments := by
  induction count generalizing segments with
  | zero => rfl
  | succ count inductionHypothesis =>
    have first : attemptFrom [] segments = ⟨(buildAll segments).outcome, unbuilt segments⟩ := by
      rw [attemptFrom_eq]
      cases (buildAll segments).outcome <;> rfl
    rw [attempts, buildAttempts, first, List.map_cons, inductionHypothesis]

/-! ### Segments that fail -/

/-- A node is what a segment gives when it is built alone. -/
def Segment.HasNode (segment : Segment) (node : Node) : Prop := segment.build.outcome = .ok node

/-- The failure of a segment that has no node. -/
def Segment.failure? (segment : Segment) : Option BlockFailure :=
  match segment.build.outcome with
  | .ok _ => none
  | .error failure => some failure

theorem Segment.HasNode.failure?_eq {segment : Segment} {node : Node}
    (hasNode : segment.HasNode node) : segment.failure? = none := by
  rw [Segment.failure?, hasNode]

theorem Segment.failure?_eq_some {segment : Segment} {failure : BlockFailure}
    (fails : segment.build.outcome = .error failure) : segment.failure? = some failure := by
  rw [Segment.failure?, fails]

/-- A segment that fails when it is built alone: its position among some segments, and its
failure. -/
structure FailedAt where
  position : Nat
  failure : BlockFailure
  deriving DecidableEq, Repr

/-- Those of some segments that fail, in order, where the first segment has the position
`start`. -/
def failuresFrom (start : Nat) (segments : List Segment) : List FailedAt :=
  (segments.zipIdx start).filterMap fun (segment, position) =>
    segment.failure?.map fun failure => ⟨position, failure⟩

/-- The position behind the last failure, or `start` where there is none. -/
def behindLast (start : Nat) (failed : List FailedAt) : Nat :=
  (failed.getLast?.map fun last => last.position + 1).getD start

theorem failuresFrom_append (start : Nat) (front back : List Segment) :
    failuresFrom start (front ++ back) =
      failuresFrom start front ++ failuresFrom (start + front.length) back := by
  rw [failuresFrom, List.zipIdx_append, List.filterMap_append]
  rfl

theorem failuresFrom_of_haveNodes (start : Nat) {segments : List Segment} {nodes : List Node}
    (haveNodes : List.Forall₂ Segment.HasNode segments nodes) :
    failuresFrom start segments = [] := by
  induction haveNodes generalizing start with
  | nil => rfl
  | cons hasNode later inductionHypothesis =>
    rw [failuresFrom, List.zipIdx_cons, List.filterMap_cons]
    simp only [hasNode.failure?_eq, Option.map_none]
    exact inductionHypothesis (start + 1)

theorem failuresFrom_cons_of_error (start : Nat) {segment : Segment} {failure : BlockFailure}
    (fails : segment.build.outcome = .error failure) (rest : List Segment) :
    failuresFrom start (segment :: rest) = ⟨start, failure⟩ :: failuresFrom (start + 1) rest := by
  rw [failuresFrom, List.zipIdx_cons, List.filterMap_cons]
  simp only [Segment.failure?_eq_some fails, Option.map_some]
  rfl

theorem behindLast_cons (start : Nat) (first : FailedAt) (others : List FailedAt) :
    behindLast start (first :: others) = behindLast (first.position + 1) others := by
  rw [behindLast, behindLast, List.getLast?_cons]
  cases others.getLast? <;> rfl

/-- Induction over the failures of some segments. All segments have nodes, or the segments behind
the first one that has none are left. The segments with nodes are collected until one has
none. -/
@[elab_as_elim]
theorem failing_induction {motive : List Segment → Prop}
    (complete : ∀ segments nodes, List.Forall₂ Segment.HasNode segments nodes → motive segments)
    (stopped : ∀ before nodes failing failure rest, List.Forall₂ Segment.HasNode before nodes →
      failing.build.outcome = .error failure → motive rest → motive (before ++ failing :: rest))
    (segments : List Segment) : motive segments := by
  suffices collected : ∀ before nodes, List.Forall₂ Segment.HasNode before nodes →
      motive (before ++ segments) from collected [] [] .nil
  induction segments with
  | nil =>
    intro before nodes haveNodes
    rw [List.append_nil]
    exact complete before nodes haveNodes
  | cons segment rest inductionHypothesis =>
    intro before nodes haveNodes
    cases built : segment.build.outcome with
    | error failure =>
      exact stopped before nodes segment failure rest haveNodes built
        (inductionHypothesis [] [] .nil)
    | ok node =>
      have longer : List.Forall₂ Segment.HasNode (before ++ [segment]) (nodes ++ [node]) :=
        List.rel_append haveNodes (.cons built .nil)
      have further := inductionHypothesis _ _ longer
      rwa [List.append_assoc] at further

/-! ### What attempts come to -/

/-- An attempt that gives some nodes and leaves nothing. -/
def complete (nodes : List Node) : Attempt := ⟨.ok nodes, []⟩

theorem attemptFrom_of_haveNodes {segments : List Segment} {nodes : List Node}
    (haveNodes : List.Forall₂ Segment.HasNode segments nodes) (built : List Node) :
    attemptFrom built segments = complete (built ++ nodes) := by
  induction haveNodes generalizing built with
  | nil => rw [attemptFrom, List.append_nil, complete]
  | @cons segment node segments nodes hasNode later inductionHypothesis =>
    rw [attemptFrom, hasNode, List.append_cons]
    exact inductionHypothesis (built ++ [node])

/-- The first failure is the outcome, whatever was built before it. -/
theorem attemptFrom_of_error {before : List Segment} {nodes : List Node} {failing : Segment}
    {failure : BlockFailure} (haveNodes : List.Forall₂ Segment.HasNode before nodes)
    (fails : failing.build.outcome = .error failure) (rest : List Segment) (built : List Node) :
    attemptFrom built (before ++ failing :: rest) = ⟨.error failure, rest⟩ := by
  induction haveNodes generalizing built with
  | nil => rw [List.nil_append, attemptFrom, fails]
  | @cons segment node segments nodes hasNode later inductionHypothesis =>
    rw [List.cons_append, attemptFrom, hasNode]
    exact inductionHypothesis (built ++ [node])

/-- Where nothing is left there is nothing to build. -/
theorem attempts_nil (count : Nat) : attempts count [] = List.replicate count (complete []) := by
  induction count with
  | zero => rfl
  | succ count inductionHypothesis =>
    rw [attempts, attemptFrom, inductionHypothesis, List.replicate_succ]
    rfl

/-- An attempt that stops at a failure among all segments and leaves those behind it. -/
def stopAt (all : List Segment) (failed : FailedAt) : Attempt :=
  ⟨.error failed.failure, all.drop (failed.position + 1)⟩

/-- The attempts at the last segments of a list: one for each failure, one that builds what stands
behind the failures, and others that have nothing left. -/
theorem attempts_eq {all segments : List Segment} {start : Nat} (left : all.drop start = segments) :
    ∃ nodes,
      List.Forall₂ Segment.HasNode (all.drop (behindLast start (failuresFrom start segments)))
        nodes ∧
      ∀ count enough, count ≤ enough → attempts count segments =
        ((failuresFrom start segments).map (stopAt all) ++
          complete nodes :: List.replicate enough (complete [])).take count := by
  induction segments using failing_induction generalizing start with
  | complete segments nodes haveNodes =>
    rw [failuresFrom_of_haveNodes start haveNodes]
    refine ⟨nodes, left ▸ haveNodes, fun count enough bound => ?_⟩
    cases count with
    | zero => rfl
    | succ count =>
      rw [attempts, attemptFrom_of_haveNodes haveNodes, List.nil_append, complete, attempts_nil,
        List.map_nil, List.nil_append, List.take_succ_cons, List.take_replicate,
        Nat.min_eq_left (Nat.le_of_succ_le bound)]
  | stopped before nodes failing failure rest haveNodes fails inductionHypothesis =>
    have behind : all.drop (start + before.length + 1) = rest := by
      rw [Nat.add_assoc, ← List.drop_drop, left, List.drop_append]
      simp
    obtain ⟨later, laterHave, laterAttempts⟩ := inductionHypothesis behind
    rw [failuresFrom_append, failuresFrom_of_haveNodes start haveNodes, List.nil_append,
      failuresFrom_cons_of_error _ fails, behindLast_cons]
    refine ⟨later, laterHave, fun count enough bound => ?_⟩
    cases count with
    | zero => rfl
    | succ count =>
      rw [attempts, attemptFrom_of_error haveNodes fails, List.map_cons, List.cons_append,
        List.take_succ_cons, stopAt, behind, laterAttempts count enough (Nat.le_of_succ_le bound)]

/-- Behind a segment that fails the attempts are those at the segments behind it, whatever stood
before it. One attempt is spent on each failure. -/
theorem drop_attempts_append (before : List Segment) {failing : Segment} {failure : BlockFailure}
    (fails : failing.build.outcome = .error failure) (rest : List Segment) (start count : Nat) :
    (attempts ((failuresFrom start before).length + 1 + count) (before ++ failing :: rest)).drop
        ((failuresFrom start before).length + 1) = attempts count rest := by
  induction before using failing_induction generalizing start with
  | complete segments nodes haveNodes =>
    rw [failuresFrom_of_haveNodes start haveNodes, List.length_nil, Nat.zero_add, Nat.add_comm 1,
      attempts, attemptFrom_of_error haveNodes fails]
    rfl
  | stopped earlier nodes stopping cause between haveNodes stops inductionHypothesis =>
    have further := inductionHypothesis (start + earlier.length + 1)
    rw [failuresFrom_append, failuresFrom_of_haveNodes start haveNodes, List.nil_append,
      failuresFrom_cons_of_error _ stops, List.length_cons, List.append_assoc, List.cons_append]
    rw [Nat.add_right_comm _ 1 count] at further ⊢
    rw [attempts, attemptFrom_of_error haveNodes stops, List.drop_succ_cons,
      Nat.add_right_comm _ 1 count]
    exact further

/-- Building goes on behind each failure. Whatever the segments and their bodies are, the attempts
at them are the first ones of this list: for each segment that fails when it is built alone, in
order, an attempt that gives its failure and leaves the segments behind it; then an attempt that
gives the nodes of the segments behind the last failure, one for each of them, which is the node
that it has when it is built alone, and leaves nothing; then attempts that give no nodes. What is
attempted behind a failure does not depend on what stood before it. -/
theorem attempts_go_on_behind_failures (segments : List Segment) :
    (∀ count, buildAttempts count segments = (attempts count segments).map Attempt.outcome) ∧
      (∃ nodes,
        List.Forall₂ Segment.HasNode (segments.drop (behindLast 0 (failuresFrom 0 segments)))
          nodes ∧
        ∀ count, attempts count segments =
          ((failuresFrom 0 segments).map (stopAt segments) ++
            complete nodes :: List.replicate count (complete [])).take count) ∧
      ∀ before failing failure, failing.build.outcome = .error failure → ∀ count,
        (attempts ((failuresFrom 0 before).length + 1 + count)
            (before ++ failing :: segments)).drop ((failuresFrom 0 before).length + 1) =
          attempts count segments := by
  refine ⟨fun count => (map_outcome_attempts count segments).symm, ?_, ?_⟩
  · obtain ⟨nodes, haveNodes, told⟩ := attempts_eq (List.drop_zero : segments.drop 0 = segments)
    exact ⟨nodes, haveNodes, fun count => told count count (Nat.le_refl count)⟩
  · intro before failing failure fails count
    exact drop_attempts_append before fails segments 0 count

/-- A block whose body is one entry of three lines, with a block in it that nothing closes. -/
def openBlock : Segment := .block 4 (.branch ['a']) ["if ( b )\n\n x:1".toList]

/-- A block with a block in it that is closed, but whose body opens a block that is not. -/
def innerOpenBlock : Segment :=
  .block 0 (.branch ['a']) ["if ( b )".toList, "if ( c )".toList, "\x7d".toList]

theorem build_openBlock : openBlock.build.outcome = .error ⟨5, ⟨1⟩⟩ := by
  have written : (Segment.block 4 (.branch ['a']) ["if ( b )\n\n x:1".toList]).innerLines =
      ["if ( b )".toList, "x:1".toList] := by decide +kernel
  have isBranch : LineForm.ofLine "if ( b )".toList = .header (.branch ['b']) := by decide
  have followed : follow? blockMark 0 ["x:1".toList] = some 0 := by decide
  rw [openBlock, outcome_build_block, written, readLines_unfinished 5 isBranch followed]
  rfl

theorem build_innerOpenBlock : innerOpenBlock.build.outcome = .error ⟨2, ⟨1⟩⟩ := by
  have written : (Segment.block 0 (.branch ['a'])
      ["if ( b )".toList, "if ( c )".toList, "\x7d".toList]).innerLines =
        "if ( b )".toList :: (["if ( c )".toList] ++ closingLine :: []) := by decide +kernel
  have isBranch : LineForm.ofLine "if ( b )".toList = .header (.branch ['b']) := by decide
  have isInner : LineForm.ofLine "if ( c )".toList = .header (.branch ['c']) := by decide
  have balanced : follow? blockMark 0 ["if ( c )".toList] = some 0 := by decide
  have proper : ∀ line ∈ ["if ( c )".toList], IsStatementLine line := by
    simp only [List.mem_singleton, forall_eq]
    exact ⟨by decide, by decide +kernel⟩
  rw [innerOpenBlock, outcome_build_block, written, readLines_block 1 isBranch balanced proper,
    readLines_nil, readLines_unfinished 2 isInner rfl]
  rfl

/-- Two blocks that fail at different depths, with a statement before, between and behind them. -/
def unevenSegments : List Segment :=
  [.statement 0 (.code ['x']), openBlock, .statement 7 (.returning ['y']), innerOpenBlock,
    .statement 1 (.code ['z'])]

theorem failuresFrom_unevenSegments :
    failuresFrom 0 unevenSegments = [⟨1, ⟨5, ⟨1⟩⟩⟩, ⟨3, ⟨2, ⟨1⟩⟩⟩] := by
  have hasNode (depth : Nat) (content : Statement) :
      (Segment.statement depth content).failure? = none := by
    rw [Segment.failure?, Segment.build, Traced.outcome_pure]
  simp [failuresFrom, unevenSegments, hasNode, Segment.failure?_eq_some build_openBlock,
    Segment.failure?_eq_some build_innerOpenBlock]

/-- Four attempts give the two failures, the last node and nothing, and behind the first failure
they are those at the other segments. -/
theorem attempts_go_on_behind_failures_unevenSegments :
    openBlock.build.outcome = .error ⟨5, ⟨1⟩⟩ ∧
      buildAttempts 4 unevenSegments =
        [.error ⟨5, ⟨1⟩⟩, .error ⟨2, ⟨1⟩⟩, .ok [.statement 1 (.code ['z'])], .ok []] ∧
      (attempts 4 unevenSegments).drop 1 = attempts 3 (unevenSegments.drop 2) := by
  obtain ⟨sameOutcomes, ⟨nodes, haveNodes, told⟩, -⟩ :=
    attempts_go_on_behind_failures unevenSegments
  rw [failuresFrom_unevenSegments] at haveNodes told
  have lastNode : nodes = [.statement 1 (.code ['z'])] := by
    obtain ⟨node, others, hasNode, rest, rfl⟩ := List.forall₂_cons_left_iff.mp haveNodes
    rw [Segment.HasNode, Segment.build, Traced.outcome_pure, Except.ok.injEq] at hasNode
    rw [List.forall₂_nil_left_iff.mp rest, ← hasNode]
  have goesOn := (attempts_go_on_behind_failures (unevenSegments.drop 2)).2.2
    [.statement 0 (.code ['x'])] openBlock ⟨5, ⟨1⟩⟩ build_openBlock 3
  refine ⟨build_openBlock, ?_, ?_⟩
  · rw [sameOutcomes 4, told 4, lastNode]
    rfl
  · have noneBefore : failuresFrom 0 [.statement 0 (.code ['x'])] = [] :=
      failuresFrom_of_haveNodes 0 (.cons (by rw [Segment.HasNode, Segment.build]; rfl) .nil)
    rw [noneBefore] at goesOn
    exact goesOn

end BlockCheck
