/-
This file proves that spacing does not matter to the headers of functions and loops. A header is
given by its parts, each with padding on either side, and its line puts the keyword and the marks
between them. Whatever the padding is, empty or not, the parts are read back from the line.

In the line of a function a mark without padding is glued to what stands next to it, so the words
of the line need not be the parts. The name is cut off the word that it is glued into, the
parameters are the pieces between commas, and the type is the first word after the closing
bracket; padding is needed only where two words would become one, behind the keyword, and where
the curly bracket would become a part of the type. The clauses of a loop are bounded by their
marks alone and may say anything that is not one of these marks.
-/

import BlockCheck.Proofs.Canonical
import BlockCheck.Proofs.TextPatterns
import BlockCheck.Proofs.Wrapped
import Mathlib.Data.List.TakeWhile

namespace BlockCheck

/-! ### Padding -/

/-- Blanks within one line, possibly none. -/
structure Padding where
  text : Text
  blank : isBlankText text = true
  oneLine : '\n' ∉ text

/-- No blanks at all. -/
def Padding.none : Padding := ⟨[], by decide, by decide⟩

/-- A text with padding on either side. -/
structure PaddedText where
  before : Padding
  content : Text
  after : Padding

/-- A padded text as it is written. -/
def PaddedText.written (padded : PaddedText) : Text :=
  padded.before.text ++ (padded.content ++ padded.after.text)

theorem Padding.not_mem (padding : Padding) {c : Char} (notBlank : isBlank c = false) :
    c ∉ padding.text := fun member => by
  simp [List.all_eq_true.mp padding.blank c member] at notBlank

namespace PaddedText

variable (padded : PaddedText)

/-- A character that no padding holds is in a padded text only where it is in its content. -/
theorem not_mem_written {c : Char} (notPadding : ∀ padding : Padding, c ∉ padding.text)
    (absent : c ∉ padded.content) : c ∉ padded.written := by
  simp [written, notPadding, absent]

theorem words_written : words padded.written = words padded.content := by
  rw [written, words_blank_append padded.before.blank, words_append_of_blank padded.after.blank]

theorem normalize_written : normalize padded.written = normalize padded.content :=
  normalize_eq_normalize_iff.mpr padded.words_written

end PaddedText

/-! ### Words at the front of a text -/

/-- A text that does not start with a blank starts with its first word. -/
theorem firstWord_cons {c : Char} (notBlank : isBlank c = false) (rest : Text) :
    firstWord (c :: rest) = (c :: rest).takeWhile fun each => !isBlank each := by
  have whole := List.takeWhile_append_dropWhile (p := fun each => !isBlank each) (l := c :: rest)
  have isWord : IsWord ((c :: rest).takeWhile fun each => !isBlank each) := by
    refine ⟨by simp [notBlank], fun each member => ?_⟩
    simpa using List.mem_takeWhile_imp member
  have ends := List.head?_dropWhile_not (fun each => !isBlank each) (c :: rest)
  cases later : (c :: rest).dropWhile fun each => !isBlank each with
  | nil =>
    rw [later, List.append_nil] at whole
    rw [whole] at isWord ⊢
    rw [firstWord, words_eq_singleton isWord.1 isWord.2, List.headD_cons]
  | cons mark after =>
    rw [later] at whole ends
    have markBlank : isBlank mark = true := by simpa using ends
    generalize (c :: rest).takeWhile (fun each => !isBlank each) = word at whole isWord ⊢
    rw [← whole, firstWord, words_append_blank markBlank, words_eq_singleton isWord.1 isWord.2,
      List.singleton_append, List.headD_cons]

theorem IsWord.normalize_eq {word : Text} (isWord : IsWord word) : normalize word = word := by
  rw [normalize, words_eq_singleton isWord.1 isWord.2, joinWords_singleton]

theorem isWord_of_isIdentifier {text : Text} (isName : isIdentifier text = true) : IsWord text :=
  have ⟨nonempty, continues⟩ := continuesIdentifier_of_isIdentifier isName
  ⟨nonempty, fun c member => isBlank_of_continuesIdentifier (continues c member)⟩

theorem not_mem_of_isIdentifier {text : Text} (isName : isIdentifier text = true) {c : Char}
    (stops : continuesIdentifier c = false) : c ∉ text := fun member => by
  simp [(continuesIdentifier_of_isIdentifier isName).2 c member] at stops

/-- An identifier in front of an opening bracket is cut off the first word at the bracket, whether
the bracket is glued to it or not. -/
theorem takeWhile_firstWord {name : Text} (isName : isIdentifier name = true) (padding : Padding)
    (later : Text) :
    (firstWord (name ++ (padding.text ++ '(' :: later))).takeWhile (· != '(') = name := by
  obtain ⟨c, others, rfl⟩ := List.exists_cons_of_ne_nil (isWord_of_isIdentifier isName).1
  have kept : ∀ each ∈ c :: others, (each != '(' && !isBlank each) = true := fun each member => by
    have notBracket : each ≠ '(' := fun same =>
      not_mem_of_isIdentifier isName (show continuesIdentifier '(' = false by decide)
        (same ▸ member)
    simp [notBracket, (isWord_of_isIdentifier isName).2 each member]
  have dropped : (padding.text ++ '(' :: later).takeWhile
      (fun each => each != '(' && !isBlank each) = [] := by
    cases shape : padding.text with
    | nil => simp
    | cons first rest =>
      have firstBlank : isBlank first = true :=
        List.all_eq_true.mp padding.blank first (shape ▸ List.mem_cons_self)
      simp [firstBlank]
  rw [List.cons_append, firstWord_cons ((isWord_of_isIdentifier isName).2 c List.mem_cons_self),
    List.takeWhile_takeWhile, ← List.cons_append]
  simp only [Bool.decide_and, Bool.decide_eq_true]
  rw [List.takeWhile_append_of_pos kept, dropped, List.append_nil]

/-! ### Lines that are headers -/

/-- A line is read as a header: it is one statement line, this line is the header, and whatever
lines follow it, the first segment is the header with the body that is captured from them. -/
structure ReadsAsHeader (line : Text) (header : Header) : Prop where
  oneLine : statementLines line = [normalize line]
  form : LineForm.ofLine (normalize line) = .header header
  segments : ∀ (depth opened : Nat) (following : Text),
    segmentLines depth opened (statementLines (line ++ '\n' :: following)) =
      (segmentLines depth (opened + (capture 0 (statementLines following)).stillOpen)
        (capture 0 (statementLines following)).rest).add
          (.block depth header (capture 0 (statementLines following)).body)

theorem readsAsHeader_of_ofLine {line : Text} {header : Header} (oneLine : '\n' ∉ line)
    (isHeader : LineForm.ofLine (normalize line) = .header header) : ReadsAsHeader line header where
  oneLine := statementLines_of_header oneLine isHeader
  form := isHeader
  segments depth opened following := by
    rw [statementLines_append_newline, statementLines_of_header oneLine isHeader,
      List.singleton_append, segmentLines, isHeader]

/-- The keyword of a header is the first word of its line when padding follows it. -/
theorem words_keyword {keyword : Text} (isWord : IsWord keyword) (indent : Padding)
    {padding : Padding} (apart : padding.text ≠ []) (later : Text) :
    words (indent.text ++ (keyword ++ (padding.text ++ later))) = keyword :: words later := by
  rw [words_blank_append indent.blank, words_append_blanks isWord apart padding.blank]

/-! ### Functions -/

/-- The header of a function with padding wherever it may stand. -/
structure SpacedFunction where
  indent : Padding
  /-- The name, between the keyword and the opening bracket. -/
  name : PaddedText
  /-- The parameters, between the brackets and the commas. -/
  parameters : List PaddedText
  /-- The type, between the closing bracket and the curly bracket. -/
  returnType : PaddedText
  trailing : Padding

namespace SpacedFunction

/-- The parts of a function are identifiers, it has a parameter, and padding separates the name
from the keyword and the type from the curly bracket. -/
structure IsProper (written : SpacedFunction) : Prop where
  name : isIdentifier written.name.content = true
  parameters : ∀ parameter ∈ written.parameters, isIdentifier parameter.content = true
  returnType : isIdentifier written.returnType.content = true
  hasParameter : written.parameters ≠ []
  nameApart : written.name.before.text ≠ []
  typeApart : written.returnType.after.text ≠ []

variable (written : SpacedFunction)

/-- What is written before the opening bracket. -/
def opening : Text := written.indent.text ++ (functionKeyword ++ written.name.written)

/-- What is written between the brackets. -/
def inner : Text := [','].intercalate (written.parameters.map PaddedText.written)

/-- What is written after the closing bracket. -/
def closing : Text := written.returnType.written ++ '{' :: written.trailing.text

/-- The line of the header. -/
def line : Text := written.opening ++ '(' :: (written.inner ++ ')' :: written.closing)

/-- What is written from the name on. -/
def fromName : Text :=
  written.name.content ++ (written.name.after.text ++ '(' ::
    (written.inner ++ ')' :: written.closing))

/-- The header that the line stands for. -/
def header : Header :=
  .function written.name.content (written.parameters.map PaddedText.content)
    written.returnType.content

variable {written} (proper : written.IsProper)

include proper

namespace IsProper

/-- A character of neither padding nor identifiers is not written before the opening bracket. -/
theorem not_mem_opening {c : Char} (notPadding : ∀ padding : Padding, c ∉ padding.text)
    (stops : continuesIdentifier c = false) : c ∉ written.opening := by
  have notKeyword : c ∉ functionKeyword :=
    not_mem_of_isIdentifier (show isIdentifier functionKeyword = true by decide) stops
  have notName :=
    written.name.not_mem_written notPadding (not_mem_of_isIdentifier proper.name stops)
  simp [opening, notPadding, notKeyword, notName]

theorem not_mem_inner {c : Char} (notPadding : ∀ padding : Padding, c ∉ padding.text)
    (stops : continuesIdentifier c = false) (notComma : c ≠ ',') : c ∉ written.inner := by
  have others : ∀ each ∈ written.inner, each ≠ c := by
    refine forall_mem_intercalate (by simpa using notComma.symm) fun text member each inside => ?_
    obtain ⟨parameter, isParameter, rfl⟩ := List.mem_map.mp member
    rintro rfl
    exact parameter.not_mem_written notPadding
      (not_mem_of_isIdentifier (proper.parameters parameter isParameter) stops) inside
  exact fun member => others c member rfl

/-- The parameters are read back from between the brackets. -/
theorem parameters_inner :
    (if isBlankText written.inner then [] else (written.inner.splitOn ',').map normalize) =
      written.parameters.map PaddedText.content := by
  have pieces : written.inner.splitOn ',' = written.parameters.map PaddedText.written := by
    refine List.splitOn_intercalate _ (fun text member => ?_) (by simpa using proper.hasParameter)
    obtain ⟨parameter, isParameter, rfl⟩ := List.mem_map.mp member
    exact parameter.not_mem_written (fun padding => padding.not_mem (by decide))
      (not_mem_of_isIdentifier (proper.parameters parameter isParameter) (by decide))
  have own : ∀ parameter ∈ written.parameters, normalize parameter.written = parameter.content :=
    fun parameter member => by
      rw [parameter.normalize_written,
        (isWord_of_isIdentifier (proper.parameters parameter member)).normalize_eq]
  have notBlank : isBlankText written.inner = false := by
    obtain ⟨first, rest, shape⟩ := List.exists_cons_of_ne_nil proper.hasParameter
    have isWord := isWord_of_isIdentifier (proper.parameters first (shape ▸ List.mem_cons_self))
    rw [inner, shape, List.map_cons]
    refine isBlankText_intercalate_eq_false _ ?_
    rw [← Bool.not_eq_true, ← words_eq_nil_iff, first.words_written,
      words_eq_singleton isWord.1 isWord.2]
    exact List.cons_ne_nil _ _
  rw [notBlank, pieces, List.map_map]
  exact List.map_congr_left own

/-- The type is read back from after the closing bracket. -/
theorem firstWord_closing : firstWord written.closing = written.returnType.content := by
  rw [closing, PaddedText.written, List.append_assoc, List.append_assoc, firstWord,
    words_blank_append written.returnType.before.blank,
    words_append_blanks (isWord_of_isIdentifier proper.returnType) proper.typeApart
      written.returnType.after.blank, List.headD_cons]

theorem newline_not_mem_line : '\n' ∉ written.line := by
  have onOneLine : ∀ padding : Padding, '\n' ∉ padding.text := Padding.oneLine
  have notOpening := proper.not_mem_opening onOneLine (by decide)
  have notInner := proper.not_mem_inner onOneLine (by decide) (by decide)
  have notType := written.returnType.not_mem_written onOneLine
    (not_mem_of_isIdentifier proper.returnType (by decide))
  simp [line, closing, notOpening, notInner, notType, onOneLine]

/-- The words of the line are the keyword and those from the name on. -/
theorem words_line : words written.line = functionKeyword :: words written.fromName := by
  rw [line, opening, PaddedText.written]
  simp only [List.append_assoc]
  exact words_keyword (by decide) written.indent proper.nameApart written.fromName

theorem functionHeader?_line :
    functionHeader? (normalize written.line) (words written.fromName) = some written.header := by
  have notBlank {c : Char} (solid : isBlank c = false) (padding : Padding) : c ∉ padding.text :=
    padding.not_mem solid
  rw [line, functionHeader?_normalize _
    (proper.not_mem_opening (notBlank (by decide)) (by decide))
    (proper.not_mem_opening (notBlank (by decide)) (by decide))
    (proper.not_mem_inner (notBlank (by decide)) (by decide) (by decide)),
    proper.parameters_inner, proper.firstWord_closing, ← firstWord, fromName,
    takeWhile_firstWord proper.name]
  rfl

/-- The header of a function is read back from its line. -/
theorem ofLine_line : LineForm.ofLine (normalize written.line) = .header written.header := by
  rw [LineForm.ofLine_normalize, proper.words_line]
  exact congrArg LineForm.ofHeader? proper.functionHeader?_line

end IsProper

end SpacedFunction

/-! ### Loops -/

/-- The header of a loop with padding wherever it may stand. -/
structure SpacedLoop where
  indent : Padding
  /-- The first clause, between the keyword and the first separator. -/
  initializer : PaddedText
  /-- The second clause, between the separators. -/
  condition : PaddedText
  /-- The third clause, between the last separator and the curly bracket. -/
  increment : PaddedText
  trailing : Padding

namespace SpacedLoop

/-- A text that can stand as a clause: it is on one line and holds no mark that bounds a clause. -/
structure IsClause (text : Text) : Prop where
  oneLine : '\n' ∉ text
  noSeparator : clauseSeparator ∉ text
  noOpening : '{' ∉ text
  noClosing : '}' ∉ text

/-- The parts of a loop are clauses, and padding separates the first one from the keyword. -/
structure IsProper (written : SpacedLoop) : Prop where
  initializer : IsClause written.initializer.content
  condition : IsClause written.condition.content
  increment : IsClause written.increment.content
  initializerApart : written.initializer.before.text ≠ []

variable (written : SpacedLoop)

/-- The line of the header. -/
def line : Text :=
  written.indent.text ++ (loopKeyword ++ (written.initializer.written ++ clauseSeparator ::
    (written.condition.written ++ clauseSeparator ::
      (written.increment.written ++ '{' :: written.trailing.text))))

/-- What is written from the first clause on. -/
def clauses : Text :=
  (written.initializer.content ++ written.initializer.after.text) ++ clauseSeparator ::
    (written.condition.written ++ clauseSeparator ::
      (written.increment.written ++ '{' :: written.trailing.text))

/-- The header that the line stands for. -/
def header : Header :=
  .loop (normalize written.initializer.content) (normalize written.condition.content)
    (normalize written.increment.content)

variable {written} (proper : written.IsProper)

include proper

namespace IsProper

theorem newline_not_mem_line : '\n' ∉ written.line := by
  have onOneLine : ∀ padding : Padding, '\n' ∉ padding.text := Padding.oneLine
  have notKeyword : '\n' ∉ loopKeyword := by decide
  have notSeparator : '\n' ≠ clauseSeparator := by decide
  have notFirst := written.initializer.not_mem_written onOneLine proper.initializer.oneLine
  have notSecond := written.condition.not_mem_written onOneLine proper.condition.oneLine
  have notThird := written.increment.not_mem_written onOneLine proper.increment.oneLine
  simp [line, onOneLine, notKeyword, notSeparator, notFirst, notSecond, notThird]

/-- The words of the line are the keyword and those of the clauses. -/
theorem words_line : words written.line = loopKeyword :: words written.clauses := by
  rw [line, clauses, PaddedText.written]
  simp only [List.append_assoc]
  exact words_keyword (by decide) written.indent proper.initializerApart _

theorem loopHeader?_clauses : loopHeader? (words written.clauses) = some written.header := by
  have notSeparator (padding : Padding) : clauseSeparator ∉ padding.text :=
    padding.not_mem (by decide)
  have notOpening (padding : Padding) : '{' ∉ padding.text := padding.not_mem (by decide)
  have notClosing (padding : Padding) : '}' ∉ padding.text := padding.not_mem (by decide)
  have incrementNoOpening :=
    written.increment.not_mem_written notOpening proper.increment.noOpening
  have incrementNoClosing :=
    written.increment.not_mem_written notClosing proper.increment.noClosing
  have ownInitializer :
      normalize (written.initializer.content ++ written.initializer.after.text) =
        normalize written.initializer.content :=
    normalize_eq_normalize_iff.mpr (words_append_of_blank written.initializer.after.blank _)
  rw [clauses, loopHeader?_words (by simp [proper.initializer.noSeparator, notSeparator])
    (by simp [proper.initializer.noOpening, notOpening])
    (written.condition.not_mem_written notSeparator proper.condition.noSeparator)
    (written.condition.not_mem_written notOpening proper.condition.noOpening) incrementNoOpening,
    ownInitializer, trim_dropEnd_normalize incrementNoOpening incrementNoClosing,
    written.condition.normalize_written, written.increment.normalize_written]
  rfl

/-- The header of a loop is read back from its line. -/
theorem ofLine_line : LineForm.ofLine (normalize written.line) = .header written.header := by
  rw [LineForm.ofLine_normalize, proper.words_line]
  exact congrArg LineForm.ofHeader? proper.loopHeader?_clauses

end IsProper

end SpacedLoop

/-- Whatever the padding around the parts of a function or a loop is, its line is read as its
header. -/
theorem spaced_headers_are_read :
    (∀ written : SpacedFunction, written.IsProper → ReadsAsHeader written.line written.header) ∧
      ∀ written : SpacedLoop, written.IsProper → ReadsAsHeader written.line written.header :=
  ⟨fun _ proper => readsAsHeader_of_ofLine proper.newline_not_mem_line proper.ofLine_line,
    fun _ proper => readsAsHeader_of_ofLine proper.newline_not_mem_line proper.ofLine_line⟩

/-- A function whose marks are glued to what stands next to them, except for a few wide blanks. -/
def gluedFunction : SpacedFunction where
  indent := ⟨['\t'], by decide, by decide⟩
  name := ⟨⟨['\u00a0', ' '], by decide, by decide⟩, ['f'], .none⟩
  parameters :=
    [⟨.none, ['a'], ⟨['\u2003'], by decide, by decide⟩⟩, ⟨.none, ['b', '_', '2'], .none⟩]
  returnType := ⟨.none, ['i', 'n', 't'], ⟨['\r'], by decide, by decide⟩⟩
  trailing := .none

/-- A loop whose clauses hold keywords, a colon and a bracket. -/
def wordyLoop : SpacedLoop where
  indent := .none
  initializer := ⟨⟨['\t'], by decide, by decide⟩, "return  x:(1".toList, .none⟩
  condition := ⟨.none, " if (fc)".toList, .none⟩
  increment := ⟨⟨[' '], by decide, by decide⟩, "for\t1++".toList, .none⟩
  trailing := ⟨[' '], by decide, by decide⟩

/-- The lines of the glued function and of the wordy loop. -/
theorem spaced_headers_are_read_gluedHeaders :
    (gluedFunction.IsProper ∧
      ReadsAsHeader "\tfc\u00a0 f(a\u2003,b_2)int\r\x7b".toList
        (.function ['f'] [['a'], ['b', '_', '2']] ['i', 'n', 't'])) ∧
      (wordyLoop.IsProper ∧
        ReadsAsHeader "for\treturn  x:(1; if (fc); for\t1++\x7b ".toList
          (.loop "return x:(1".toList "if (fc)".toList "for 1++".toList)) := by
  have functionLine : gluedFunction.line = "\tfc\u00a0 f(a\u2003,b_2)int\r\x7b".toList := by
    decide +kernel
  have loopLine : wordyLoop.line = "for\treturn  x:(1; if (fc); for\t1++\x7b ".toList := by
    decide +kernel
  have loopHeader : wordyLoop.header =
      .loop "return x:(1".toList "if (fc)".toList "for 1++".toList := by decide +kernel
  have functionProper : gluedFunction.IsProper :=
    ⟨by decide, by decide, by decide, by decide, by decide, by decide⟩
  have loopProper : wordyLoop.IsProper :=
    ⟨⟨by decide, by decide, by decide, by decide⟩, ⟨by decide, by decide, by decide, by decide⟩,
      ⟨by decide, by decide, by decide, by decide⟩, by decide⟩
  refine ⟨⟨functionProper, ?_⟩, loopProper, ?_⟩
  · rw [← functionLine]
    exact spaced_headers_are_read.1 gluedFunction functionProper
  · rw [← loopLine, ← loopHeader]
    exact spaced_headers_are_read.2 wordyLoop loopProper

end BlockCheck
