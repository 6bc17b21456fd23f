/-
This file proves that what is recorded of a program agrees with its verdict. The verdict is the last
event and no other event tells one. Before it stand the events of reading, as far as reading came;
then, where there is a tree, the event that it was built; and then, where the tree breaks a rule,
the one event that tells where and how. There are no more shapes than these (`record_of_verdict`),
and which of them it is can be told from the verdict.

The finding that is recorded is that of the first node of the walk that breaks its rule, however
deep in nested functions that node is. It is recorded once and not again by the functions around
it.
-/

import BlockCheck.Proofs.FlatSearch
import BlockCheck.Proofs.ReadingEvents
import BlockCheck.Proofs.Verdicts

namespace BlockCheck

/-! ### Reading records nothing else -/

/-- Reading a program records events of reading only, also where it fails. -/
theorem isReading_readProgram (source : Text) :
    ∀ event ∈ (readProgram source).events, event.isReading = true := by
  have tells : TellsEvents (fun _ => True) fun event => event.isReading = true :=
    ⟨fun _ _ _ _ _ _ => trivial,
      fun _ _ => by rw [Event.isReading, isFound_of_message rfl, Bool.true_or],
      fun _ _ => by rw [Event.isReading, isEntered_of_message rfl, Bool.or_true]⟩
  exact tells.forall_mem_readProgram fun _ _ => trivial

/-- The messages of the events that tell how judging a program went on. -/
def judgingMessages : List String :=
  ["parsed program", "grammar violation", "program is valid", "program is invalid"]

/-- No event of reading has a message of judging, whatever the segment is that it tells of. -/
theorem message_of_isReading {event : Event} (reading : event.isReading = true) :
    event.message ∉ judgingMessages := by
  have apart : ∀ message ∈ judgingMessages,
      ("lexed ".toList.isPrefixOf message.toList || message == "parsing block") = false := by
    decide
  intro member
  rw [Event.isReading, Event.isFound, Event.isEntered, apart _ member] at reading
  exact absurd reading Bool.false_ne_true

/-- Events of reading in front of others add no message of judging. -/
theorem count_message_append {trace : List Event}
    (reading : ∀ event ∈ trace, event.isReading = true) {message : String}
    (judging : message ∈ judgingMessages) (later : List Event) :
    ((trace ++ later).map Event.message).count message =
      (later.map Event.message).count message := by
  have absent : message ∉ trace.map Event.message := by
    intro member
    obtain ⟨event, eventMember, rfl⟩ := List.mem_map.mp member
    exact message_of_isReading (reading event eventMember) judging
  rw [List.map_append, List.count_append, List.count_eq_zero.mpr absent, Nat.zero_add]

/-! ### The shapes of a record -/

/-- A program passes the scans that come before reading it. -/
def PassesScans (source : Text) : Prop :=
  hasBalancedBrackets source = true ∧ hasLoopClauses source = true

/-- What is recorded of a program, and the verdict on it. -/
inductive IsRecordOf (source : Text) : List Event → Verdict → Prop where
  /-- A program that does not pass the scans is not read. -/
  | unscanned (fault : StructuralFault) (fails : ¬PassesScans source) :
      IsRecordOf source [.judged (.rejected (.structural fault))] (.rejected (.structural fault))
  /-- A program without a tree is read up to the block that is not closed. -/
  | unread {trace : List Event} {failure : ReadFailure} (passes : PassesScans source)
      (failed : (readProgram source).outcome = .error failure)
      (reading : ∀ event ∈ trace, event.isReading = true) :
      IsRecordOf source (trace ++ [.judged (.rejected (.structural .unterminatedBlock))])
        (.rejected (.structural .unterminatedBlock))
  /-- In the tree of a program that is accepted, all nodes of the walk keep their rules. -/
  | accepted {trace : List Event} {nodes : List Node} (passes : PassesScans source)
      (read : (readProgram source).outcome = .ok nodes)
      (reading : ∀ event ∈ trace, event.isReading = true)
      (keeping : ∀ node ∈ walkAll nodes, node.KeepsRule) :
      IsRecordOf source (trace ++ [.programBuilt nodes.length, .judged .accepted]) .accepted
  /-- A tree that breaks a rule is rejected for the first node of the walk that does. -/
  | broken {trace : List Event} {nodes : List Node} {node : Node} {violation : Violation}
      (passes : PassesScans source) (read : (readProgram source).outcome = .ok nodes)
      (reading : ∀ event ∈ trace, event.isReading = true)
      (first : IsFirstToBreak nodes node violation) :
      IsRecordOf source (trace ++ [.programBuilt nodes.length,
          .ruleBroken ⟨node.depth, node.construct, violation⟩,
          .judged (.rejected (.grammar violation))])
        (.rejected (.grammar violation))

/-- The record of a program that passes the scans and has a tree. -/
theorem record_of_tree {source : Text} {nodes : List Node} (passes : PassesScans source)
    (read : (readProgram source).outcome = .ok nodes) :
    IsRecordOf source (judgeEvents source) (verdict source) := by
  have reading := isReading_readProgram source
  rw [judgeEvents_of_tree passes.1 passes.2 read, verdict_of_tree passes.1 passes.2 read,
    treeVerdict]
  cases found : firstFinding? nodes with
  | none => exact .accepted passes read reading (firstFinding?_eq_none_iff.mp found)
  | some finding =>
    obtain ⟨depth, construct, violation⟩ := finding
    obtain ⟨node, first, rfl, rfl⟩ := firstFinding?_eq_some_iff.mp found
    exact .broken passes read reading first

/-- The record of a program that passes the scans and has no tree. -/
theorem record_of_failure {source : Text} {failure : ReadFailure} (passes : PassesScans source)
    (failed : (readProgram source).outcome = .error failure) :
    IsRecordOf source (judgeEvents source) (verdict source) := by
  have rejected : ((readProgram source).mapFailure Rejection.ofReadFailure).outcome =
      .error (.structural .unterminatedBlock) := by
    rw [Traced.outcome_mapFailure, failed]
    rfl
  rw [judgeEvents, verdict, judge_of_scans passes.1 passes.2, Traced.events_bind_of_error rejected,
    Traced.outcome_bind, rejected]
  exact .unread passes failed (isReading_readProgram source)

/-- A program that does not pass the scans is rejected at once. -/
theorem exists_judge_eq_fail {source : Text} (fails : ¬PassesScans source) :
    ∃ fault, judge source = .fail (.structural fault) := by
  rw [PassesScans, not_and_or, Bool.not_eq_true, Bool.not_eq_true] at fails
  rcases fails with unbalanced | incomplete
  · exact ⟨.unbalancedBrackets, by rw [judge, unbalanced]; rfl⟩
  · cases balanced : hasBalancedBrackets source with
    | false => exact ⟨.unbalancedBrackets, by rw [judge, balanced]; rfl⟩
    | true => exact ⟨.incompleteLoopClauses, by rw [judge, balanced, incomplete]; rfl⟩

/-- What is recorded of a program has one of four shapes, with the verdict that belongs to it. -/
theorem record_of_verdict (source : Text) :
    IsRecordOf source (judgeEvents source) (verdict source) := by
  by_cases passes : PassesScans source
  · cases read : (readProgram source).outcome with
    | ok nodes => exact record_of_tree passes read
    | error failure => exact record_of_failure passes read
  · obtain ⟨fault, failed⟩ := exists_judge_eq_fail passes
    rw [judgeEvents, verdict, failed]
    exact .unscanned fault passes

/-! ### Records and verdicts -/

/-- An event tells a verdict: one message says that the program is accepted, and another one, with
the message of the verdict in a field, that it is not. -/
structure Event.TellsVerdict (event : Event) (verdict : Verdict) : Prop where
  valid : event.message = "program is valid" ↔ verdict.isAccepted = true
  invalid : ∀ reason, verdict.message? = some reason →
    event.message = "program is invalid" ∧ event.fields = [("error", .text reason)]

theorem tellsVerdict_judged (verdict : Verdict) : (Event.judged verdict).TellsVerdict verdict := by
  cases verdict with
  | accepted => exact ⟨by simp [Event.message, Verdict.isAccepted], by simp [Verdict.message?]⟩
  | rejected reason =>
    refine ⟨by simp [Event.message, Verdict.isAccepted], fun message told => ?_⟩
    rw [Verdict.message?, Option.some.injEq] at told
    exact ⟨rfl, by rw [Event.fields, told]⟩

/-- What a node is, in words. -/
def Node.kind : Node → String
  | .statement _ (.declaration _ _) => "variable declaration"
  | .statement _ (.returning _) => "return statement"
  | .statement _ (.code _) => "code line"
  | .block _ (.function _ _ _) _ => "function declaration"
  | .block _ (.loop _ _ _) _ => "for loop"
  | .block _ (.branch _) _ => "if statement"

theorem name_construct (node : Node) : node.construct.name = node.kind := by
  cases node with
  | statement depth content => cases content <;> rfl
  | block depth header children => cases header <;> rfl

/-- An event tells that a node breaks its rule: where the node is, what it is, and how it does. -/
structure Event.TellsViolation (event : Event) (node : Node) (violation : Violation) : Prop where
  message : event.message = "grammar violation"
  fields : event.fields = [("depth", .number node.depth), ("kind", .text node.kind),
    ("violation", .text violation.message)]

theorem tellsViolation_ruleBroken (node : Node) (violation : Violation) :
    (Event.ruleBroken ⟨node.depth, node.construct, violation⟩).TellsViolation node violation := by
  refine ⟨rfl, ?_⟩
  rw [Event.fields, name_construct]

/-- The verdict names a rule that is broken. -/
def Verdict.NamesViolation (verdict : Verdict) : Prop :=
  ∃ violation, verdict = .rejected (.grammar violation)

/-- A record of a program agrees with a verdict on it. -/
structure AgreesWith (source : Text) (events : List Event) (verdict : Verdict) : Prop where
  /-- The last event tells the verdict, and no other event tells one. -/
  outcome : ∃ earlier last, events = earlier ++ [last] ∧ last.TellsVerdict verdict ∧
    (earlier.map Event.message).count "program is valid" = 0 ∧
    (earlier.map Event.message).count "program is invalid" = 0
  /-- Of a program that does not pass the scans nothing else is recorded. -/
  unscanned : ¬PassesScans source → events.length = 1
  /-- Of a program without a tree neither a tree nor a violation is recorded. -/
  unread : ∀ failure, (readProgram source).outcome = .error failure →
    (events.map Event.message).count "parsed program" = 0 ∧
      (events.map Event.message).count "grammar violation" = 0
  /-- A tree is recorded once. -/
  built : ∀ nodes, PassesScans source → (readProgram source).outcome = .ok nodes →
    (events.map Event.message).count "parsed program" = 1
  /-- Where the verdict names a violation, it is recorded once, between the tree and the outcome:
  that of the first node of the walk that breaks its rule. -/
  violated : verdict.NamesViolation →
    (events.map Event.message).count "grammar violation" = 1 ∧
      ∃ nodes node violation, (readProgram source).outcome = .ok nodes ∧
        IsFirstToBreak nodes node violation ∧
        verdict.message? = some ("Syntax error: " ++ violation.message) ∧
        ∃ trace built broken last, events = trace ++ [built, broken, last] ∧
          built.message = "parsed program" ∧ broken.TellsViolation node violation ∧
          last.message = "program is invalid"
  /-- Otherwise no violation is recorded. -/
  unviolated : ¬verdict.NamesViolation → (events.map Event.message).count "grammar violation" = 0

theorem IsRecordOf.agreesWith {source : Text} {events : List Event} {verdict : Verdict}
    (record : IsRecordOf source events verdict) : AgreesWith source events verdict := by
  cases record with
  | unscanned fault fails =>
    exact {
      outcome := ⟨[], _, rfl, tellsVerdict_judged _, rfl, rfl⟩
      unscanned := fun _ => rfl
      unread := fun _ _ => ⟨rfl, rfl⟩
      built := fun _ passes => absurd passes fails
      violated := fun ⟨_, named⟩ => nomatch named
      unviolated := fun _ => rfl }
  | @unread trace failure passes failed reading =>
    have count {message : String} (judging : message ∈ judgingMessages) (later : List Event) :=
      count_message_append reading judging later
    exact {
      outcome := ⟨trace, _, rfl, tellsVerdict_judged _, by simpa using count (by decide) [],
        by simpa using count (by decide) []⟩
      unscanned := fun fails => absurd passes fails
      unread := fun _ _ => ⟨count (by decide) _, count (by decide) _⟩
      built := fun _ _ read => nomatch failed.symm.trans read
      violated := fun ⟨_, named⟩ => nomatch named
      unviolated := fun _ => count (by decide) _ }
  | @accepted trace nodes passes read reading keeping =>
    have count {message : String} (judging : message ∈ judgingMessages) (later : List Event) :=
      count_message_append reading judging later
    exact {
      outcome := ⟨trace ++ [.programBuilt nodes.length], _, by simp, tellsVerdict_judged _,
        count (by decide) _, count (by decide) _⟩
      unscanned := fun fails => absurd passes fails
      unread := fun _ failed => nomatch failed.symm.trans read
      built := fun _ _ _ => count (by decide) _
      violated := fun ⟨_, named⟩ => nomatch named
      unviolated := fun _ => count (by decide) _ }
  | @broken trace nodes node violation passes read reading first =>
    have count {message : String} (judging : message ∈ judgingMessages) (later : List Event) :=
      count_message_append reading judging later
    exact {
      outcome := ⟨trace ++ [.programBuilt nodes.length, .ruleBroken ⟨node.depth, node.construct,
        violation⟩], _, by simp, tellsVerdict_judged _, count (by decide) _, count (by decide) _⟩
      unscanned := fun fails => absurd passes fails
      unread := fun _ failed => nomatch failed.symm.trans read
      built := fun _ _ _ => count (by decide) _
      violated := fun _ => ⟨count (by decide) _, nodes, node, violation, read, first, rfl, trace,
        _, _, _, rfl, rfl, tellsViolation_ruleBroken node violation, rfl⟩
      unviolated := fun unnamed => absurd ⟨violation, rfl⟩ unnamed }

/-- What is recorded of any program agrees with the verdict on it. -/
theorem judgeEvents_agree_with_verdict (source : Text) :
    AgreesWith source (judgeEvents source) (verdict source) :=
  (record_of_verdict source).agreesWith

/-- A function in a function, with a variable that is no identifier in the inner one. -/
def innerFunctionSource : Text :=
  "fc f ( a ) int \x7b\n fc g ( b ) int \x7b\n  1x:2\n  return b\n \x7d\n return a\n\x7d".toList

/-- The violation in the inner function is recorded once and not for the outer one again, with the
depth of the variable. -/
theorem judgeEvents_agree_with_verdict_innerFunction :
    verdict innerFunctionSource = .rejected (.grammar .invalidVariableName) ∧
      ((judgeEvents innerFunctionSource).map Event.message).count "grammar violation" = 1 ∧
      ∃ trace built broken last,
        judgeEvents innerFunctionSource = trace ++ [built, broken, last] ∧
          built.message = "parsed program" ∧ broken.message = "grammar violation" ∧
          broken.fields = [("depth", .number 2), ("kind", .text "variable declaration"),
            ("violation", .text "variable name must be an identifier")] ∧
          last.message = "program is invalid" ∧ last.fields =
            [("error", .text "Syntax error: variable name must be an identifier")] := by
  have isRejected : verdict innerFunctionSource = .rejected (.grammar .invalidVariableName) := by
    decide +kernel
  have found : (readProgram innerFunctionSource).outcome.toOption.bind firstFinding? =
      some ⟨2, .declaration, .invalidVariableName⟩ := by
    decide +kernel
  have agrees := judgeEvents_agree_with_verdict innerFunctionSource
  obtain ⟨once, nodes, node, violation, read, first, -, trace, built, broken, last, events, isBuilt,
    isBroken, isLast⟩ := agrees.violated ⟨_, isRejected⟩
  obtain ⟨earlier, outcome, sameEvents, told, -⟩ := agrees.outcome
  have isFirst : firstFinding? nodes = some ⟨node.depth, node.construct, violation⟩ :=
    firstFinding?_eq_some_iff.mpr ⟨node, first, rfl, rfl⟩
  rw [read] at found
  obtain ⟨atDepth, isDeclaration, rfl⟩ :=
    Finding.mk.inj (Option.some.inj (isFirst.symm.trans found))
  have sameLast : outcome = last := by
    have ends := congrArg List.getLast? (sameEvents.symm.trans events)
    simpa using ends
  refine ⟨isRejected, once, trace, built, broken, last, events, isBuilt, isBroken.message, ?_,
    isLast, ?_⟩
  · rw [isBroken.fields, atDepth, ← name_construct, isDeclaration]
    rfl
  · rw [← sameLast]
    exact (told.invalid _ (congrArg Verdict.message? isRejected)).2

end BlockCheck
