/-
This file proves that reading a body again loses nothing. A body is kept as lines; to be read it is
joined into a text and that text is split, normalized and freed of blank lines again. For the body
of a block that was found in a text each of these steps gives back what it was given
(`IsReadBack`), so the body is read as the very lines that were captured. By induction over the
blocks around it, these are lines of the text itself that stand next to each other there, however
deep the block is.

A body that was not found in a text may hold anything. What it is read as are its statement lines,
and putting these in its place changes nothing that can be observed when the segment is built, nor
when building is tried again after it has failed.
-/

import BlockCheck.Proofs.ReadingEvents
import BlockCheck.Proofs.Spacing

namespace BlockCheck

/-! ### Splitting joined lines -/

theorem lines_cons {c : Char} (notNewline : c ≠ '\n') (notReturn : c ≠ '\r') (rest : Text) :
    lines (c :: rest) = prependToFirst [c] (lines rest) := by
  rw [lines]
  · exact notNewline
  · exact fun _ isReturn _ => notReturn isReturn

/-- A line without line breaks ends where a line feed comes. -/
theorem lines_append_newline {line : Text} (noNewline : '\n' ∉ line) (noReturn : '\r' ∉ line)
    (rest : Text) : lines (line ++ '\n' :: rest) = line :: lines rest := by
  induction line with
  | nil => rw [List.nil_append, lines]
  | cons c others inductionHypothesis =>
    obtain ⟨notNewline, noLaterNewline⟩ := List.ne_and_not_mem_of_not_mem_cons noNewline
    obtain ⟨notReturn, noLaterReturn⟩ := List.ne_and_not_mem_of_not_mem_cons noReturn
    rw [List.cons_append, lines_cons notNewline.symm notReturn.symm,
      inductionHypothesis noLaterNewline noLaterReturn]
    rfl

/-- A text without line breaks is one line, unless it is empty. -/
theorem lines_eq_singleton {line : Text} (nonempty : line ≠ []) (noNewline : '\n' ∉ line)
    (noReturn : '\r' ∉ line) : lines line = [line] := by
  induction line with
  | nil => exact absurd rfl nonempty
  | cons c others inductionHypothesis =>
    obtain ⟨notNewline, noLaterNewline⟩ := List.ne_and_not_mem_of_not_mem_cons noNewline
    obtain ⟨notReturn, noLaterReturn⟩ := List.ne_and_not_mem_of_not_mem_cons noReturn
    rw [lines_cons notNewline.symm notReturn.symm]
    cases others with
    | nil => rfl
    | cons next later =>
      rw [inductionHypothesis (List.cons_ne_nil _ _) noLaterNewline noLaterReturn]
      rfl

/-- Lines that are not empty and hold no line break are found again when they are joined. -/
theorem lines_joinLines {texts : List Text}
    (proper : ∀ line ∈ texts, line ≠ [] ∧ '\n' ∉ line ∧ '\r' ∉ line) :
    lines (joinLines texts) = texts := by
  induction texts with
  | nil => rfl
  | cons line rest inductionHypothesis =>
    obtain ⟨⟨nonempty, noNewline, noReturn⟩, properRest⟩ := List.forall_mem_cons.mp proper
    cases rest with
    | nil => simpa [joinLines] using lines_eq_singleton nonempty noNewline noReturn
    | cons next others =>
      have joined : joinLines (line :: next :: others) =
          line ++ '\n' :: joinLines (next :: others) := by
        simp [joinLines, List.intercalate_cons_cons]
      rw [joined, lines_append_newline noNewline noReturn, inductionHypothesis properRest]

/-! ### Bodies that are read back -/

/-- Lines that are found again, as they are and in their order, when they are joined and read. -/
structure IsReadBack (body : List Text) : Prop where
  /-- No line is blank. -/
  notBlank : ∀ line ∈ body, isBlankText line = false
  /-- No line holds a line break. -/
  noBreak : ∀ line ∈ body, '\n' ∉ line ∧ '\r' ∉ line
  /-- Every line is normalized. -/
  normalized : ∀ line ∈ body, normalize line = line
  /-- Splitting the joined lines gives the lines. -/
  split : lines (joinLines body) = body
  /-- Normalizing them again changes nothing. -/
  normalizedAgain : (lines (joinLines body)).map normalize = body
  /-- A reader of the joined lines has exactly the lines before it. -/
  pending : ∀ depth, Reader.ofText depth (joinLines body) = ⟨body, depth, 0⟩

/-- The only blank in a statement line is the space. -/
theorem not_mem_of_isStatementLine {line : Text} (proper : IsStatementLine line) {c : Char}
    (blank : isBlank c = true) (notSpace : c ≠ ' ') : c ∉ line := by
  intro member
  rw [← proper.2] at member
  exact notSpace (eq_space_of_mem_joinWords (fun _ wordMember => (of_mem_words wordMember).2)
    member blank)

theorem isReadBack_of_isStatementLine {body : List Text}
    (proper : ∀ line ∈ body, IsStatementLine line) : IsReadBack body := by
  have noBreak : ∀ line ∈ body, '\n' ∉ line ∧ '\r' ∉ line := fun line member =>
    ⟨newline_not_mem_of_isStatementLine (proper line member),
      not_mem_of_isStatementLine (proper line member) isBlank_carriageReturn (by decide)⟩
  have split : lines (joinLines body) = body :=
    lines_joinLines fun line member => ⟨(proper line member).1, noBreak line member⟩
  have sameLines : body.map normalize = body :=
    (List.map_congr_left fun line member => (proper line member).2).trans (List.map_id' body)
  refine ⟨?_, noBreak, fun line member => (proper line member).2, split, ?_, ?_⟩
  · intro line member
    obtain ⟨nonempty, normal⟩ := proper line member
    rw [← Bool.not_eq_true, ← words_eq_nil_iff, ← normalize_eq_nil_iff, normal]
    exact nonempty
  · rw [split, sameLines]
  · intro depth
    rw [Reader.ofText, statementLines_joinLines proper]

/-! ### Bodies that are captured -/

/-- A segment that is found in a text: it is cut from the lines of the text, or from what the body
of such a segment is read as, whether that body is closed or not. -/
inductive IsCutFrom (depth : Nat) (text : Text) : Segment → Prop where
  | outer {segment : Segment}
      (member : segment ∈ (segmentLines depth 0 (statementLines text)).segments) :
      IsCutFrom depth text segment
  | inner {around : Nat} {header : Header} {body : List Text} {segment : Segment}
      (outside : IsCutFrom depth text (.block around header body))
      (member : segment ∈
        (segmentLines (around + 1) 0 (statementLines (joinLines body))).segments) :
      IsCutFrom depth text segment

/-- The body and the rest are pieces of the lines. -/
theorem capture_prefix_suffix (inner : Nat) (available : List Text) :
    (capture inner available).body <+: available ∧
      (capture inner available).rest <:+ available := by
  by_cases finished : (capture inner available).stillOpen = 0
  · have split := capture_split finished
    refine ⟨⟨_, split.symm⟩, ⟨(capture inner available).body ++ [closingLine], ?_⟩⟩
    rw [List.append_assoc, List.singleton_append]
    exact split.symm
  · obtain ⟨whole, nothing⟩ := capture_rest_of_stillOpen finished
    rw [nothing, ← whole]
    exact ⟨List.prefix_refl _, List.nil_suffix⟩

/-- The body of a segment that is cut from some lines is a piece of these lines. -/
theorem infix_of_mem_segments {depth opened around : Nat} {available body : List Text}
    {header : Header}
    (member : .block around header body ∈ (segmentLines depth opened available).segments) :
    body <:+: available := by
  fun_induction segmentLines depth opened available with
  | case1 opened => exact absurd member List.not_mem_nil
  | case2 opened line available content isStatement inductionHypothesis =>
    rcases List.mem_cons.mp member with first | later
    · exact Segment.noConfusion first
    · exact List.infix_cons (inductionHypothesis later)
  | case3 opened line available header isHeader inductionHypothesis =>
    obtain ⟨isPrefix, isSuffix⟩ := capture_prefix_suffix 0 available
    rcases List.mem_cons.mp member with first | later
    · obtain ⟨-, -, rfl⟩ := Segment.block.inj first
      exact List.infix_cons isPrefix.isInfix
    · exact List.infix_cons ((inductionHypothesis later).trans isSuffix.isInfix)
  | case4 opened line available isUnreadable inductionHypothesis =>
    exact List.infix_cons (inductionHypothesis member)

theorem isStatementLine_of_piece {text : Text} {body : List Text}
    (piece : body <:+: statementLines text) : ∀ line ∈ body, IsStatementLine line :=
  fun _ member => isStatementLine_of_mem_statementLines (piece.subset member)

/-- The body of a segment that is found in a text, at any level, is a piece of the lines of the
text. The body outside is read as itself, so that a piece of what it is read as is a piece of
it. -/
theorem IsCutFrom.infix_body {depth : Nat} {text : Text} {segment : Segment}
    (cut : IsCutFrom depth text segment) {around : Nat} {header : Header} {body : List Text}
    (shape : segment = .block around header body) : body <:+: statementLines text := by
  induction cut generalizing around header body with
  | outer member =>
    subst shape
    exact infix_of_mem_segments member
  | inner outside member inductionHypothesis =>
    subst shape
    have outerPiece := inductionHypothesis rfl
    rw [statementLines_joinLines (isStatementLine_of_piece outerPiece)] at member
    exact (infix_of_mem_segments member).trans outerPiece

/-- What is recorded as found when a program is read was cut from it. -/
theorem isCutFrom_of_segmentFound {source : Text} {segment : Segment}
    (recorded : .segmentFound segment ∈ (readProgram source).events) :
    IsCutFrom 0 source segment := by
  have tells : TellsEvents (IsCutFrom 0 source) fun event =>
      ∀ found, event = .segmentFound found → IsCutFrom 0 source found := by
    refine ⟨fun depth header body outside inner => .inner outside, ?_, ?_⟩
    · rintro found cut _ ⟨⟩
      exact cut
    · rintro depth segmentCount _ ⟨⟩
  exact tells.forall_mem_readProgram (fun _ => .outer) _ recorded segment rfl

/-! ### Bodies that are given -/

/-- A segment with the statement lines that its body is read as in the place of its body. -/
def Segment.tidied : Segment → Segment
  | .statement depth content => .statement depth content
  | .block depth header body => .block depth header (statementLines (joinLines body))

/-- A tidied body is read as the same lines. -/
theorem Segment.innerLines_tidied (segment : Segment) :
    segment.tidied.innerLines = segment.innerLines := by
  cases segment with
  | statement depth content => rfl
  | block depth header body =>
    exact statementLines_joinLines fun _ => isStatementLine_of_mem_statementLines

theorem Segment.build_tidied (segment : Segment) : segment.tidied.build = segment.build := by
  cases segment with
  | statement depth content => rfl
  | block depth header body =>
    have sameLines := Segment.innerLines_tidied (.block depth header body)
    rw [Segment.tidied] at sameLines ⊢
    rw [Segment.build, Segment.build, sameLines]

theorem buildAll_map_tidied (segments : List Segment) :
    buildAll (segments.map Segment.tidied) = buildAll segments := by
  induction segments with
  | nil => rfl
  | cons segment rest inductionHypothesis =>
    rw [List.map_cons, buildAll, buildAll, Segment.build_tidied, inductionHypothesis]

theorem unbuilt_map_tidied (segments : List Segment) :
    unbuilt (segments.map Segment.tidied) = (unbuilt segments).map Segment.tidied := by
  have sameBuilds : Segment.builds ∘ Segment.tidied = Segment.builds := by
    funext segment
    rw [Function.comp_apply, Segment.builds, Segment.build_tidied, Segment.builds]
  rw [unbuilt, unbuilt, List.dropWhile_map, sameBuilds, List.map_tail]

theorem buildAttempts_map_tidied (count : Nat) (segments : List Segment) :
    buildAttempts count (segments.map Segment.tidied) = buildAttempts count segments := by
  induction count generalizing segments with
  | zero => rfl
  | succ count inductionHypothesis =>
    rw [buildAttempts, buildAttempts, buildAll_map_tidied, unbuilt_map_tidied, inductionHypothesis]

/-! ### Reading again -/

/-- Reading a body again loses nothing. The body of every segment that is found in a text, at any
level, is a piece of the lines of the text, and it is read back as it is; among these segments are
all that are recorded when a program is read. A body that is given, whatever it holds, can be
replaced by the statement lines that it is read as: the segment is built in the same way, with the
same events. Segments that are the same after this has been done to their bodies cannot be told
apart by building them, and neither by attempts that go on behind failures. -/
theorem bodies_are_read_as_captured :
    (∀ depth text around header body, IsCutFrom depth text (.block around header body) →
        IsReadBack body ∧ body <:+: statementLines text) ∧
      (∀ source segment, .segmentFound segment ∈ (readProgram source).events →
        IsCutFrom 0 source segment) ∧
      (∀ depth header given, (Segment.block depth header given).build =
        (Segment.block depth header (statementLines (joinLines given))).build) ∧
      ∀ segments others : List Segment,
        segments.map Segment.tidied = others.map Segment.tidied →
          buildAll segments = buildAll others ∧
            ∀ count, buildAttempts count segments = buildAttempts count others := by
  refine ⟨?_, fun source segment => isCutFrom_of_segmentFound, ?_, ?_⟩
  · intro depth text around header body cut
    have piece := cut.infix_body rfl
    exact ⟨isReadBack_of_isStatementLine (isStatementLine_of_piece piece), piece⟩
  · intro depth header given
    exact (Segment.build_tidied (.block depth header given)).symm
  · intro segments others same
    refine ⟨?_, fun count => ?_⟩
    · rw [← buildAll_map_tidied, same, buildAll_map_tidied]
    · rw [← buildAttempts_map_tidied, same, buildAttempts_map_tidied]

/-- The body of the function in the nested source. -/
def nestedBody : List Text :=
  "for 0; i<9; 1++ \x7b".toList :: (["x:1".toList] ++ closingLine :: ["if a".toList,
    "if ( a > 1 ) \x7b".toList, closingLine, "return a".toList])

/-- A block whose body has an entry with a carriage return at its end, an empty entry, and an entry
of two lines with blanks that are no spaces. -/
def raggedBlock : Segment :=
  .block 3 (.branch ['a']) ["\tx:1\r".toList, [], "\u00a0\na\u2003 b\t".toList]

/-- The same block with what its body is read as. -/
def plainBlock : Segment := .block 3 (.branch ['a']) ["x:1".toList, "a b".toList]

/-- The body of a function and that of a loop inside of it are captured as they stand in the source;
and a body with entries of all kinds is built like the lines that it is read as. -/
theorem bodies_are_read_as_captured_nestedSource :
    let function : Header := .function ['f'] [['a']] ['i', 'n', 't']
    let loop : Header := .loop ['0'] "i<9".toList "1++".toList
    (.segmentFound (.block 0 function nestedBody) ∈ (readProgram nestedSource).events ∧
        IsCutFrom 0 nestedSource (.block 0 function nestedBody) ∧ IsReadBack nestedBody) ∧
      (IsCutFrom 0 nestedSource (.block 1 loop ["x:1".toList]) ∧
        IsReadBack ["x:1".toList] ∧ ["x:1".toList] <:+: statementLines nestedSource) ∧
      [raggedBlock].map Segment.tidied = [plainBlock].map Segment.tidied ∧
        buildAll [raggedBlock] = buildAll [plainBlock] ∧ raggedBlock.build = plainBlock.build := by
  intro function loop
  obtain ⟨readBack, recordedCut, sameBuild, sameAll⟩ := bodies_are_read_as_captured
  have written : statementLines nestedSource = "fc f ( a ) int \x7b".toList ::
      (nestedBody ++ closingLine :: ["y:2".toList]) := by decide +kernel
  have isFunction : LineForm.ofLine "fc f ( a ) int \x7b".toList = .header function := by decide
  have isLoop : LineForm.ofLine "for 0; i<9; 1++ \x7b".toList = .header loop := by decide
  have outer : .block 0 function nestedBody ∈
      (segmentLines 0 0 (statementLines nestedSource)).segments := by
    rw [written, segmentLines_block 0 0 isFunction (by decide)]
    exact List.mem_cons_self
  have recorded : .segmentFound (.block 0 function nestedBody) ∈
      (readProgram nestedSource).events := by
    rw [events_readProgram readProgram_nestedSource]
    exact List.mem_append_left _ (List.mem_map_of_mem outer)
  have outerCut := recordedCut nestedSource _ recorded
  have innerCut : IsCutFrom 0 nestedSource (.block 1 loop ["x:1".toList]) := by
    refine .inner outerCut ?_
    rw [statementLines_joinLines (isStatementLine_of_piece (outerCut.infix_body rfl)), nestedBody,
      segmentLines_block 1 0 isLoop (by decide)]
    exact List.mem_cons_self
  have sameTidied : [raggedBlock].map Segment.tidied = [plainBlock].map Segment.tidied := by
    decide +kernel
  have plain : statementLines (joinLines ["\tx:1\r".toList, [], "\u00a0\na\u2003 b\t".toList]) =
      ["x:1".toList, "a b".toList] := by decide +kernel
  refine ⟨⟨recorded, outerCut, (readBack _ _ _ _ _ outerCut).1⟩,
    ⟨innerCut, readBack _ _ _ _ _ innerCut⟩, sameTidied, (sameAll _ _ sameTidied).1, ?_⟩
  rw [raggedBlock, sameBuild, plain, plainBlock]

end BlockCheck
