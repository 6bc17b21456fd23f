/-
This file reads a text as lines and joins lines into a text. A line ends at a line feed,
and a carriage return directly before it belongs to the end. Only the statement lines
matter to a program: the lines that are not blank, each normalized.

Because a carriage return is blank, the statement lines do not depend on the rule for
line ends: cutting at every line feed gives the same ones
(`statementLines_eq_splitOn`). From this follow the two laws that the rest of the
library uses: a line feed splits the statement lines of a text
(`statementLines_append_newline`), and statement lines that are joined and read again
are the same lines (`statementLines_joinLines`).
-/

import BlockCheck.Text.Words

namespace BlockCheck

/-! ### Lines -/

/-- Put a text in front of the first of some lines; where there is none it is a line. -/
def prependToFirst (front : Text) : List Text → List Text
  | [] => [front]
  | line :: others => (front ++ line) :: others

/-- The lines of a text. A line feed ends a line, together with one carriage return directly
before it; a text that ends with a line feed has no empty line after it. -/
def lines : Text → List Text
  | [] => []
  | '\n' :: rest => [] :: lines rest
  | '\r' :: '\n' :: rest => [] :: lines rest
  | c :: rest => prependToFirst [c] (lines rest)

/-- Join lines with a line feed between each two. -/
def joinLines (texts : List Text) : Text := ['\n'].intercalate texts

/-- Normalize each of some lines and leave out those that are blank. -/
def keepStatements (texts : List Text) : List Text :=
  (texts.map normalize).filter fun line => !line.isEmpty

/-- The statement lines of a text are its lines that are not blank, each normalized. -/
def statementLines (text : Text) : List Text := keepStatements (lines text)

/-- A line as statement lines are: normalized and not empty. -/
def IsStatementLine (line : Text) : Prop := line ≠ [] ∧ normalize line = line

/-! ### What is kept of some lines -/

@[simp] theorem keepStatements_nil : keepStatements [] = [] := rfl

theorem keepStatements_cons (line : Text) (rest : List Text) :
    keepStatements (line :: rest) = keepStatements [line] ++ keepStatements rest := by
  simp only [keepStatements, List.map_cons, List.map_nil, List.filter_cons, List.filter_nil]
  split <;> simp

theorem keepStatements_append (front back : List Text) :
    keepStatements (front ++ back) = keepStatements front ++ keepStatements back := by
  simp [keepStatements]

theorem isStatementLine_of_mem_keepStatements {texts : List Text} {line : Text}
    (member : line ∈ keepStatements texts) : IsStatementLine line := by
  obtain ⟨normalized, nonempty⟩ := List.mem_filter.mp member
  obtain ⟨raw, -, rfl⟩ := List.mem_map.mp normalized
  exact ⟨by simpa using nonempty, normalize_normalize raw⟩

/-- Keeping the statements of statement lines changes nothing. -/
theorem keepStatements_of_isStatementLine {texts : List Text}
    (proper : ∀ line ∈ texts, IsStatementLine line) : keepStatements texts = texts := by
  induction texts with
  | nil => rfl
  | cons line rest inductionHypothesis =>
    obtain ⟨nonempty, normal⟩ := proper line List.mem_cons_self
    rw [keepStatements_cons,
      inductionHypothesis fun later member => proper later (List.mem_cons_of_mem _ member)]
    simp [keepStatements, normal, nonempty]

theorem newline_not_mem_of_isStatementLine {line : Text} (proper : IsStatementLine line) :
    '\n' ∉ line := by
  rw [← proper.2]
  exact newline_not_mem_normalize line

/-! ### Line ends do not matter to statement lines -/

/-- Both ways to find lines keep the same statements, whatever stands before the text on
its first line. -/
private theorem keepStatements_prependToFirst_lines (text front : Text) :
    keepStatements (prependToFirst front (lines text)) =
      keepStatements (prependToFirst front (text.splitOn '\n')) := by
  induction text using lines.induct generalizing front with
  | case1 => simp [lines, prependToFirst]
  | case2 rest inductionHypothesis =>
    have plain := inductionHypothesis []
    rw [show ('\n' :: rest).splitOn '\n' = [] :: rest.splitOn '\n' from
      List.splitOn_append_cons_self [] rest, lines]
    simp only [prependToFirst, List.append_nil]
    rw [keepStatements_cons, keepStatements_cons front (rest.splitOn '\n')]
    obtain ⟨head, tail, shape⟩ := List.exists_cons_of_ne_nil (List.splitOn_ne_nil '\n' rest)
    rw [shape] at plain ⊢
    cases found : lines rest with
    | nil => simpa [found, prependToFirst, keepStatements] using plain
    | cons line others => simpa [found, prependToFirst] using plain
  | case3 rest inductionHypothesis =>
    have plain := inductionHypothesis []
    rw [show ('\r' :: '\n' :: rest).splitOn '\n' = ['\r'] :: rest.splitOn '\n' from
      (List.splitOn_append_cons_self ['\r'] rest).trans (by rfl), lines]
    simp only [prependToFirst, List.append_nil]
    have sameFront : keepStatements [front ++ ['\r']] = keepStatements [front] := by
      have sameNormal : normalize (front ++ ['\r']) = normalize front :=
        normalize_eq_normalize_iff.mpr (words_append_singleton_blank isBlank_carriageReturn front)
      simp [keepStatements, sameNormal]
    rw [keepStatements_cons, keepStatements_cons (front ++ ['\r']) (rest.splitOn '\n'), sameFront]
    obtain ⟨head, tail, shape⟩ := List.exists_cons_of_ne_nil (List.splitOn_ne_nil '\n' rest)
    rw [shape] at plain ⊢
    cases found : lines rest with
    | nil => simpa [found, prependToFirst, keepStatements] using plain
    | cons line others => simpa [found, prependToFirst] using plain
  | case4 c rest notNewline notReturn inductionHypothesis =>
    have longer := inductionHypothesis (front ++ [c])
    have notBreak : c ≠ '\n' := fun isBreak => notNewline isBreak
    obtain ⟨head, tail, shape⟩ := List.exists_cons_of_ne_nil (List.splitOn_ne_nil '\n' rest)
    have split : (c :: rest).splitOn '\n' = (c :: head) :: tail := by
      rw [List.splitOn_cons_eq_if_modifyHead, shape]
      simp [notBreak]
    rw [split, lines]
    rotate_left
    · exact notNewline
    · exact notReturn
    rw [shape] at longer
    cases remaining : lines rest with
    | nil => simpa [remaining, prependToFirst] using longer
    | cons line others => simpa [remaining, prependToFirst] using longer

/-- Cutting a text at every line feed gives its statement lines as well. -/
theorem statementLines_eq_splitOn (text : Text) :
    statementLines text = keepStatements (text.splitOn '\n') := by
  have plain := keepStatements_prependToFirst_lines text []
  obtain ⟨head, tail, shape⟩ := List.exists_cons_of_ne_nil (List.splitOn_ne_nil '\n' text)
  rw [shape] at plain ⊢
  unfold statementLines
  cases found : lines text with
  | nil => simpa [found, prependToFirst, keepStatements] using plain
  | cons line others => simpa [found, prependToFirst] using plain

/-! ### The laws of statement lines -/

@[simp] theorem statementLines_nil : statementLines [] = [] := rfl

theorem isStatementLine_of_mem_statementLines {text line : Text}
    (member : line ∈ statementLines text) : IsStatementLine line :=
  isStatementLine_of_mem_keepStatements member

/-- A line feed splits the statement lines of a text. -/
theorem statementLines_append_newline (front back : Text) :
    statementLines (front ++ '\n' :: back) = statementLines front ++ statementLines back := by
  simp only [statementLines_eq_splitOn]
  rw [List.splitOn_append_cons_self, keepStatements_append]

/-- A text without line feed is one line. -/
theorem statementLines_of_newline_not_mem {text : Text} (absent : '\n' ∉ text) :
    statementLines text = keepStatements [text] := by
  rw [statementLines_eq_splitOn, List.splitOn_eq_singleton absent]

/-- Reading joined texts again keeps what reading each of them keeps. -/
theorem statementLines_joinLines_cons (first : Text) (rest : List Text) :
    statementLines (joinLines (first :: rest)) =
      statementLines first ++ statementLines (joinLines rest) := by
  cases rest with
  | nil => simp [joinLines]
  | cons next others =>
    rw [show joinLines (first :: next :: others) = first ++ '\n' :: joinLines (next :: others) by
      simp [joinLines, List.intercalate_cons_cons], statementLines_append_newline]

/-- Statement lines that are joined and read again are the same lines. -/
theorem statementLines_joinLines {texts : List Text}
    (proper : ∀ line ∈ texts, IsStatementLine line) : statementLines (joinLines texts) = texts := by
  induction texts with
  | nil => rfl
  | cons line rest inductionHypothesis =>
    have this := proper line List.mem_cons_self
    rw [statementLines_joinLines_cons,
      inductionHypothesis fun later member => proper later (List.mem_cons_of_mem _ member),
      statementLines_of_newline_not_mem (newline_not_mem_of_isStatementLine this),
      keepStatements_of_isStatementLine fun only member => by
        rw [List.mem_singleton.mp member]
        exact this]
    rfl

end BlockCheck
