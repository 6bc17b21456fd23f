/-
This file says what the scan for loop clauses is worth to the reading of loops. The scan counts the
separators on the whole of a line that starts with the keyword. Reading looks for them only before
the first opening curly bracket, because a loop header ends there. The two differ on a line where
the bracket comes before the second separator, and on no other line: such a line passes the scan and
is unreadable, so that it stands for nothing in the tree. Every other line that starts with the
keyword is a loop of the tree once the scan has passed.

What a line is in the tree is said with the entries of the tree, which correspond to the readable
lines one by one (`Outlined.standsFor`). The entries around the one of a line are those of the lines
above and below it.
-/

import BlockCheck.Proofs.Flattened
import BlockCheck.Proofs.Scans
import BlockCheck.Proofs.Verdicts

namespace BlockCheck

/-! ### Headers of loops -/

/-- A text can be cut twice at a mark that occurs twice in it. -/
theorem exists_cutAt?_cutAt? {mark : Char} {text : Text} (twice : 2 ≤ text.count mark) :
    ∃ first later second rest, cutAt? mark text = some (first, later) ∧
      cutAt? mark later = some (second, rest) := by
  cases isCut : cutAt? mark text with
  | none =>
    have absent := List.count_eq_zero.mpr (cutAt?_eq_none_iff.mp isCut)
    omega
  | some parts =>
    obtain ⟨first, later⟩ := parts
    obtain ⟨rfl, firstAbsent⟩ := cutAt?_eq_some_iff.mp isCut
    rw [List.count_append, List.count_cons_self, List.count_eq_zero.mpr firstAbsent] at twice
    cases isCutAgain : cutAt? mark later with
    | none =>
      have absent := List.count_eq_zero.mpr (cutAt?_eq_none_iff.mp isCutAgain)
      omega
    | some others => exact ⟨first, later, others.1, others.2, rfl, isCutAgain⟩

/-- A text that can be cut twice at a mark holds it twice. -/
theorem two_le_count_of_cutAt? {mark : Char} {text first later second rest : Text}
    (isCut : cutAt? mark text = some (first, later))
    (isCutAgain : cutAt? mark later = some (second, rest)) : 2 ≤ text.count mark := by
  rw [(cutAt?_eq_some_iff.mp isCut).1, (cutAt?_eq_some_iff.mp isCutAgain).1]
  simp only [List.count_append, List.count_cons_self]
  omega

/-- The header of a loop is found exactly where two separators stand before the first opening curly
bracket. -/
theorem loopHeader?_cases (following : List Text) :
    (2 ≤ ((joinWords following).takeWhile (· != '{')).count clauseSeparator ∧
        ∃ initializer condition increment,
          loopHeader? following = some (.loop initializer condition increment)) ∨
      (((joinWords following).takeWhile (· != '{')).count clauseSeparator < 2 ∧
        loopHeader? following = none) := by
  by_cases twice : 2 ≤ ((joinWords following).takeWhile (· != '{')).count clauseSeparator
  · obtain ⟨first, later, second, rest, isCut, isCutAgain⟩ := exists_cutAt?_cutAt? twice
    refine Or.inl ⟨twice, trim first, trim second, trim (dropEnd isCurly (trim rest)), ?_⟩
    simp [loopHeader?, isCut, isCutAgain]
  · refine Or.inr ⟨by omega, ?_⟩
    cases isCut : cutAt? clauseSeparator ((joinWords following).takeWhile (· != '{')) with
    | none => simp [loopHeader?, isCut]
    | some parts =>
      cases isCutAgain : cutAt? clauseSeparator parts.2 with
      | none => simp [loopHeader?, isCut, isCutAgain]
      | some others => exact absurd (two_le_count_of_cutAt? isCut isCutAgain) twice

/-! ### Lines that start with the keyword -/

/-- An opening curly bracket with fewer than two separators before it on its line. -/
def HasEarlyBrace (line : Text) : Prop :=
  ∃ before after, line = before ++ '{' :: after ∧ before.count clauseSeparator < 2

/-- A line with two separators has both of them before its first opening curly bracket, unless the
bracket comes too early. The early bracket need not be the first one, but no more separators
stand before the first one than before any other. -/
theorem hasEarlyBrace_iff {line : Text} (twice : 2 ≤ line.count clauseSeparator) :
    HasEarlyBrace line ↔ (line.takeWhile (· != '{')).count clauseSeparator < 2 := by
  have keeps {before : Text} (absent : '{' ∉ before) : ∀ c ∈ before, (c != '{') = true :=
    fun c member => bne_iff_ne.mpr fun same => absent (same ▸ member)
  constructor
  · rintro ⟨before, after, rfl, few⟩
    have onlyBefore : ((before ++ '{' :: after).takeWhile (· != '{')).Sublist before := by
      rw [List.takeWhile_append]
      split
      · simp
      · exact List.takeWhile_sublist _
    exact Nat.lt_of_le_of_lt (onlyBefore.count_le clauseSeparator) few
  · intro few
    cases isCut : cutAt? '{' line with
    | none =>
      rw [← List.append_nil line,
        List.takeWhile_append_of_pos (keeps (cutAt?_eq_none_iff.mp isCut)), List.takeWhile_nil,
        List.append_nil] at few
      omega
    | some parts =>
      obtain ⟨shape, absent⟩ := cutAt?_eq_some_iff.mp isCut
      refine ⟨parts.1, parts.2, shape, ?_⟩
      rw [shape, List.takeWhile_append_of_pos (keeps absent)] at few
      simpa using few

/-- What follows the keyword on a normalized line. -/
theorem exists_following_of_firstWord {line : Text} (proper : IsStatementLine line)
    (startsLoop : firstWord line = loopKeyword) :
    ∃ following, words line = loopKeyword :: following ∧
      (line.takeWhile (· != '{')).count clauseSeparator =
        ((joinWords following).takeWhile (· != '{')).count clauseSeparator := by
  rw [firstWord] at startsLoop
  cases found : words line with
  | nil =>
    rw [found] at startsLoop
    simp [loopKeyword] at startsLoop
  | cons word following =>
    rw [found, List.headD_cons] at startsLoop
    refine ⟨following, by rw [startsLoop], ?_⟩
    have written : line = joinWords (loopKeyword :: following) := by
      rw [← startsLoop, ← found]
      exact proper.2.symm
    have noBrace : ∀ c ∈ loopKeyword, (c != '{') = true := by simp [loopKeyword]
    rw [written]
    cases following with
    | nil => decide
    | cons next others =>
      rw [joinWords_cons_cons, List.takeWhile_append_of_pos noBrace]
      rfl

/-- A line that starts with the keyword and passes the scan is a loop, unless an opening curly
bracket comes too early on it; then it is unreadable. -/
theorem ofLine_of_firstWord_eq_loopKeyword {line : Text} (proper : IsStatementLine line)
    (startsLoop : firstWord line = loopKeyword) (complete : lineHasLoopClauses line = true) :
    (¬ HasEarlyBrace line ∧ ∃ initializer condition increment,
        LineForm.ofLine line = .header (.loop initializer condition increment)) ∨
      (HasEarlyBrace line ∧ LineForm.ofLine line = .unreadable) := by
  have twice : 2 ≤ line.count clauseSeparator := by
    simpa [lineHasLoopClauses, startsLoop] using complete
  obtain ⟨following, found, sameCount⟩ := exists_following_of_firstWord proper startsLoop
  have read : LineForm.ofLine line = .ofHeader? (loopHeader? following) := by
    rw [LineForm.ofLine, found]
    rfl
  rw [hasEarlyBrace_iff twice, sameCount, read, Nat.not_lt]
  rcases loopHeader?_cases following with ⟨enough, initializer, condition, increment, isLoop⟩ |
    ⟨few, nothing⟩
  · exact Or.inl ⟨enough, initializer, condition, increment, by rw [isLoop]; rfl⟩
  · exact Or.inr ⟨few, by rw [nothing]; rfl⟩

/-! ### Programs -/

/-- The entry of a readable line, between those of the lines above it and those of the lines below
it. -/
theorem exists_entries_around {nodes : List Node} {front back : List Text} {line : Text}
    (standing : List.Forall₂ Entry.StandsFor (allEntries nodes)
      ((front ++ line :: back).filter isReadable)) (readable : isReadable line = true) :
    ∃ above entry below, allEntries nodes = above ++ entry :: below ∧ entry.StandsFor line ∧
      List.Forall₂ Entry.StandsFor above (front.filter isReadable) ∧
      List.Forall₂ Entry.StandsFor below (back.filter isReadable) := by
  rw [List.filter_append, List.filter_cons_of_pos readable] at standing
  have above := List.forall₂_take_append _ _ _ standing
  have rest := List.forall₂_drop_append _ _ _ standing
  obtain ⟨entry, below, isEntry, isBelow, split⟩ := List.forall₂_cons_right_iff.mp rest
  refine ⟨_, entry, below, ?_, isEntry, above, isBelow⟩
  rw [← split, List.take_append_drop]

/-- A line that is unreadable has no entry: those of the lines above it and of the lines below it
are all. -/
theorem exists_entries_apart {nodes : List Node} {front back : List Text} {line : Text}
    (standing : List.Forall₂ Entry.StandsFor (allEntries nodes)
      ((front ++ line :: back).filter isReadable)) (unreadable : isReadable line = false) :
    ∃ above below, allEntries nodes = above ++ below ∧
      List.Forall₂ Entry.StandsFor above (front.filter isReadable) ∧
      List.Forall₂ Entry.StandsFor below (back.filter isReadable) := by
  rw [List.filter_append, List.filter_cons_of_neg (by simp [unreadable])] at standing
  exact ⟨_, _, (List.take_append_drop _ _).symm, List.forall₂_take_append _ _ _ standing,
    List.forall₂_drop_append _ _ _ standing⟩

/-- Only the header of a loop stands for a line that is one. -/
theorem Entry.eq_header_of_standsFor {entry : Entry} {line : Text} {header : Header}
    (stands : entry.StandsFor line) (isHeader : LineForm.ofLine line = .header header) :
    ∃ depth, entry = .header depth header := by
  cases entry with
  | statement depth content =>
    rw [Entry.StandsFor, isHeader] at stands
    nomatch stands
  | header depth content =>
    rw [Entry.StandsFor, isHeader, LineForm.header.injEq] at stands
    exact ⟨depth, by rw [stands]⟩
  | closing =>
    have isCode : LineForm.ofLine closingLine = .statement (.code closingLine) := by decide
    rw [Entry.StandsFor] at stands
    rw [stands, isCode] at isHeader
    nomatch isHeader

/-- In a program that passes the scan for loop clauses and has a tree, a line that starts with the
keyword is exactly one loop of the tree, at any level, unless an opening curly bracket stands before
its second separator. A line on which it does stands for nothing. -/
theorem loop_of_firstWord_unless_hasEarlyBrace {source : Text} {nodes : List Node}
    (complete : hasLoopClauses source = true) (succeeded : (readProgram source).outcome = .ok nodes)
    {front back : List Text} {line : Text} (split : statementLines source = front ++ line :: back)
    (startsLoop : firstWord line = loopKeyword) :
    (¬ HasEarlyBrace line →
        ∃ above depth initializer condition increment below,
          allEntries nodes =
            above ++ .header depth (.loop initializer condition increment) :: below ∧
          LineForm.ofLine line = .header (.loop initializer condition increment) ∧
          List.Forall₂ Entry.StandsFor above (front.filter isReadable) ∧
          List.Forall₂ Entry.StandsFor below (back.filter isReadable)) ∧
      (HasEarlyBrace line →
        LineForm.ofLine line = .unreadable ∧
          ∃ above below, allEntries nodes = above ++ below ∧
            List.Forall₂ Entry.StandsFor above (front.filter isReadable) ∧
            List.Forall₂ Entry.StandsFor below (back.filter isReadable)) := by
  have standing := (readProgram_eq_ok_iff.mp succeeded).standsFor
  rw [split] at standing
  have member : line ∈ statementLines source := by
    rw [split]
    exact List.mem_append_right _ List.mem_cons_self
  rw [hasLoopClauses_eq_all] at complete
  have proper := isStatementLine_of_mem_statementLines member
  rcases ofLine_of_firstWord_eq_loopKeyword proper startsLoop
      (List.all_eq_true.mp complete line member)
    with ⟨notEarly, initializer, condition, increment, isLoop⟩ | ⟨early, isUnreadable⟩
  · refine ⟨fun _ => ?_, fun early => absurd early notEarly⟩
    obtain ⟨above, entry, below, entries, isEntry, isAbove, isBelow⟩ :=
      exists_entries_around standing (isReadable_of_header isLoop)
    obtain ⟨depth, rfl⟩ := Entry.eq_header_of_standsFor isEntry isLoop
    exact ⟨above, depth, initializer, condition, increment, below, entries, isLoop, isAbove,
      isBelow⟩
  · refine ⟨fun notEarly => absurd early notEarly, fun _ => ⟨isUnreadable, ?_⟩⟩
    exact exists_entries_apart standing (by simp [isReadable, isUnreadable])

/-- A function with a loop in its body, and in the loop a line that starts with the keyword and has
its opening bracket right after it. -/
def nestedLoopSource : Text :=
  ("fc f ( a ) int \x7b\n for 0; i<9; 1++ \x7b\n  for \x7b 0; i<9; 1++\n \x7d\n" ++
    " return a\n\x7d").toList

/-- The lines of the two that start with the keyword. -/
def completeLoopLine : Text := "for 0; i<9; 1++ \x7b".toList

def earlyBraceLine : Text := "for \x7b 0; i<9; 1++".toList

/-- The tree of the function: its loop is empty. -/
def nestedLoopTree : List Node :=
  [.block 0 (.function ['f'] [['a']] ['i', 'n', 't'])
    [.block 1 (.loop ['0'] "i<9".toList "1++".toList) [], .statement 1 (.returning ['a'])]]

theorem statementLines_nestedLoopSource : statementLines nestedLoopSource =
    "fc f ( a ) int \x7b".toList :: ((completeLoopLine :: ([earlyBraceLine] ++ closingLine ::
      ["return a".toList])) ++ closingLine :: []) := by decide +kernel

theorem readProgram_nestedLoopSource :
    (readProgram nestedLoopSource).outcome = .ok nestedLoopTree := by
  rw [readProgram_eq_ok_iff, statementLines_nestedLoopSource]
  have loopBody : Outlined 2 [earlyBraceLine] [] := .unreadable (by decide) (.nil 2)
  have functionBody : Outlined 1 (completeLoopLine :: ([earlyBraceLine] ++ closingLine ::
      ["return a".toList])) [.block 1 (.loop ['0'] "i<9".toList "1++".toList) [],
        .statement 1 (.returning ['a'])] :=
    .block (by decide) (by decide) loopBody (.statement (by decide) (.nil 1))
  exact .block (by decide) (by decide) functionBody (.nil 0)

theorem hasEarlyBrace_earlyBraceLine : HasEarlyBrace earlyBraceLine :=
  ⟨"for ".toList, " 0; i<9; 1++".toList, by decide, by decide⟩

theorem not_hasEarlyBrace_completeLoopLine : ¬ HasEarlyBrace completeLoopLine := by
  rw [hasEarlyBrace_iff (by decide)]
  decide

/-- Of the two lines the first is the one loop, between the entry above it and the three below it,
and the second is nothing. -/
theorem loop_of_firstWord_nestedLoopSource :
    hasLoopClauses nestedLoopSource = true ∧
      (readProgram nestedLoopSource).outcome = .ok nestedLoopTree ∧
      firstWord completeLoopLine = loopKeyword ∧ firstWord earlyBraceLine = loopKeyword ∧
      (∃ above depth initializer condition increment below, allEntries nestedLoopTree =
          above ++ .header depth (.loop initializer condition increment) :: below ∧
        above.length = 1 ∧ below.length = 3) ∧
      LineForm.ofLine earlyBraceLine = .unreadable ∧
      ∃ above below, allEntries nestedLoopTree = above ++ below ∧ above.length = 2 ∧
        below.length = 3 := by
  have complete : hasLoopClauses nestedLoopSource = true := by decide +kernel
  have startsFirst : firstWord completeLoopLine = loopKeyword := by decide
  have startsSecond : firstWord earlyBraceLine = loopKeyword := by decide
  have first : statementLines nestedLoopSource = ["fc f ( a ) int \x7b".toList] ++
      completeLoopLine :: [earlyBraceLine, closingLine, "return a".toList, closingLine] :=
    statementLines_nestedLoopSource
  have second : statementLines nestedLoopSource =
      ["fc f ( a ) int \x7b".toList, completeLoopLine] ++
        earlyBraceLine :: [closingLine, "return a".toList, closingLine] :=
    statementLines_nestedLoopSource
  obtain ⟨above, depth, initializer, condition, increment, below, entries, -, isAbove, isBelow⟩ :=
    (loop_of_firstWord_unless_hasEarlyBrace complete readProgram_nestedLoopSource first
      startsFirst).1 not_hasEarlyBrace_completeLoopLine
  obtain ⟨isUnreadable, front, back, apart, isFront, isBack⟩ :=
    (loop_of_firstWord_unless_hasEarlyBrace complete readProgram_nestedLoopSource second
      startsSecond).2 hasEarlyBrace_earlyBraceLine
  refine ⟨complete, readProgram_nestedLoopSource, startsFirst, startsSecond,
    ⟨above, depth, initializer, condition, increment, below, entries, ?_, ?_⟩, isUnreadable,
    front, back, apart, ?_, ?_⟩
  · exact isAbove.length_eq.trans (by decide)
  · exact isBelow.length_eq.trans (by decide)
  · exact isFront.length_eq.trans (by decide)
  · exact isBack.length_eq.trans (by decide)

/-! ### A loop that is lost -/

/-- The header of a loop with its bracket right after the keyword, and a closing line. -/
def lostLoopSource : Text := "for \x7b 0; i<9; 1++\n\x7d".toList

/-- The scan does not keep every loop. A program whose first line starts with the keyword passes
both scans and is accepted although no loop is in its tree. -/
theorem lostLoopSource_accepted_without_loop :
    earlyBraceLine ∈ statementLines lostLoopSource ∧ firstWord earlyBraceLine = loopKeyword ∧
      hasBalancedBrackets lostLoopSource = true ∧ hasLoopClauses lostLoopSource = true ∧
      ∃ nodes, (readProgram lostLoopSource).outcome = .ok nodes ∧
        (∀ depth initializer condition increment,
          Entry.header depth (.loop initializer condition increment) ∉ allEntries nodes) ∧
        verdict lostLoopSource = .accepted := by
  have written : statementLines lostLoopSource = [earlyBraceLine, closingLine] := by decide +kernel
  have balanced : hasBalancedBrackets lostLoopSource = true := by decide +kernel
  have complete : hasLoopClauses lostLoopSource = true := by decide +kernel
  have read : (readProgram lostLoopSource).outcome = .ok [.statement 0 (.code closingLine)] := by
    rw [readProgram_eq_ok_iff, written]
    exact .unreadable (by decide) (.statement (by decide) (.nil 0))
  refine ⟨written ▸ List.mem_cons_self, by decide, balanced, complete, _, read, ?_, ?_⟩
  · intro depth initializer condition increment
    simp [allEntries, Node.entries]
  · rw [verdict_of_tree balanced complete read, treeVerdict_eq_accepted_iff]
    rfl

end BlockCheck
