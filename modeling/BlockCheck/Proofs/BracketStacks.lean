/-
This file says exactly which texts have balanced brackets. One may scan a text with two stacks, one
for each kind of bracket: a single pass pushes onto both and pops from both, in the order in which
the brackets come, and stops at the first closing bracket that finds its stack empty. Only the
heights of the stacks can matter, and the height of each follows the brackets of its own kind. One
character changes both heights as the marks of the two kinds say (`heights_read?`), and so does a
text (`heights_readAll?`), which is why the pass comes to the same as following the two kinds one
after the other.

Following a kind is then a matter of counting. That the kinds are independent shows in a second
way: a text is balanced exactly when it is balanced without its curly brackets and without its
round ones. And since a balanced text leaves both heights as they are, wherever it stands, one such
text may stand for another, also within a text that is not balanced itself.
-/

import BlockCheck.Proofs.Scans

namespace BlockCheck

/-! ### Two stacks -/

/-- The brackets of each kind that are open, the innermost first. -/
structure BracketStacks where
  round : List Char
  curly : List Char
  deriving DecidableEq, Repr

namespace BracketStacks

/-- The stacks after a character, or nothing where a closing bracket has nothing to close. -/
def read? (state : BracketStacks) (c : Char) : Option BracketStacks :=
  if c = '(' then some { state with round := c :: state.round }
  else if c = '{' then some { state with curly := c :: state.curly }
  else if c = ')' then
    match state.round with
    | [] => none
    | _ :: outer => some { state with round := outer }
  else if c = '}' then
    match state.curly with
    | [] => none
    | _ :: outer => some { state with curly := outer }
  else some state

/-- The stacks after a text, or nothing where a closing bracket in it has nothing to close. -/
def readAll? (state : BracketStacks) (text : Text) : Option BracketStacks :=
  text.foldlM read? state

/-- A text passes the scan when it can be read from empty stacks and leaves them empty. -/
def passes (text : Text) : Bool :=
  match readAll? ⟨[], []⟩ text with
  | none => false
  | some state => state.round.isEmpty && state.curly.isEmpty

/-- The heights of the two stacks. -/
def heights (state : BracketStacks) : Nat × Nat := (state.round.length, state.curly.length)

theorem readAll?_cons (state : BracketStacks) (c : Char) (rest : Text) :
    state.readAll? (c :: rest) = (state.read? c).bind fun next => next.readAll? rest := rfl

/-- A character changes each height as its mark for that kind says. -/
theorem heights_read? (state : BracketStacks) (c : Char) :
    (state.read? c).map heights =
      ((roundMark c).step? state.round.length).bind fun round =>
        ((curlyMark c).step? state.curly.length).map fun curly => (round, curly) := by
  by_cases opensRound : c = '('
  · subst opensRound
    rfl
  by_cases opensCurly : c = '{'
  · subst opensCurly
    rfl
  by_cases closesRound : c = ')'
  · subst closesRound
    cases open? : state.round <;>
      simp [read?, open?, heights, roundMark, curlyMark, NestingMark.step?]
  by_cases closesCurly : c = '}'
  · subst closesCurly
    cases open? : state.curly <;>
      simp [read?, open?, heights, roundMark, curlyMark, NestingMark.step?]
  · simp [read?, heights, roundMark, curlyMark, opensRound, opensCurly, closesRound, closesCurly,
      NestingMark.step?]

/-- A text changes each height as following the brackets of that kind says. -/
theorem heights_readAll? (state : BracketStacks) (text : Text) :
    (state.readAll? text).map heights =
      (follow? roundMark state.round.length text).bind fun round =>
        (follow? curlyMark state.curly.length text).map fun curly => (round, curly) := by
  induction text generalizing state with
  | nil => rfl
  | cons c rest inductionHypothesis =>
    have step := heights_read? state c
    rw [readAll?_cons, follow?_cons, follow?_cons]
    cases roundStep : (roundMark c).step? state.round.length with
    | none =>
      rw [roundStep, Option.bind_none, Option.map_eq_none_iff] at step
      rw [step]
      rfl
    | some round =>
      rw [roundStep, Option.bind_some] at step
      cases curlyStep : (curlyMark c).step? state.curly.length with
      | none =>
        rw [curlyStep, Option.map_none, Option.map_eq_none_iff] at step
        rw [step, Option.bind_none, Option.bind_some, Option.bind_none, Option.map_none]
        exact (Option.bind_fun_none _).symm
      | some curly =>
        rw [curlyStep, Option.map_some] at step
        obtain ⟨next, read, same⟩ := Option.map_eq_some_iff.mp step
        obtain ⟨rfl, rfl⟩ := Prod.mk.inj same
        rw [read]
        exact inductionHypothesis next

theorem passes_iff {text : Text} :
    passes text = true ↔ (readAll? ⟨[], []⟩ text).map heights = some (0, 0) := by
  unfold passes
  cases readAll? ⟨[], []⟩ text with
  | none => simp
  | some state => simp [heights]

/-- The scan with two stacks accepts the texts whose brackets are balanced. -/
theorem passes_eq (text : Text) : passes text = hasBalancedBrackets text := by
  rw [Bool.eq_iff_iff, passes_iff, heights_readAll?, hasBalancedBrackets, isBalanced, isBalanced]
  show ((follow? roundMark 0 text).bind fun round =>
    (follow? curlyMark 0 text).map fun curly => (round, curly)) = some (0, 0) ↔ _
  cases follow? roundMark 0 text <;> cases follow? curlyMark 0 text <;> simp

end BracketStacks

/-! ### Counts -/

/-- In a text an opening character comes before each closing one: no front of the text holds more
closing characters than opening ones, and the whole text holds as many of both. -/
structure HasPairs (opening closing : Char) (text : Text) : Prop where
  fronts : ∀ front, front <+: text → front.count closing ≤ front.count opening
  total : text.count opening = text.count closing

/-- A kind of bracket. One character opens a level, another one closes it, and no other character
does either. -/
structure MarksPair (mark : Char → NestingMark) (opening closing : Char) : Prop where
  opens : ∀ c, mark c = .opens ↔ c = opening
  closes : ∀ c, mark c = .closes ↔ c = closing

theorem marksPair_roundMark : MarksPair roundMark '(' ')' where
  opens c := by
    unfold roundMark
    split
    · simp [*]
    · split <;> simp [*]
  closes c := by
    unfold roundMark
    split
    · simp [*]
    · split <;> simp [*]

theorem marksPair_curlyMark : MarksPair curlyMark '{' '}' where
  opens c := by
    unfold curlyMark
    split
    · simp [*]
    · split <;> simp [*]
  closes c := by
    unfold curlyMark
    split
    · simp [*]
    · split <;> simp [*]

/-- A text without the two characters of a kind of bracket. -/
def without (opening closing : Char) (text : Text) : Text :=
  text.filter fun c => c != opening && c != closing

/-- Characters that leave the level alone can be left out. -/
theorem isBalanced_without_neutral {mark : Char → NestingMark} {first second : Char}
    (firstNeutral : mark first = .neutral) (secondNeutral : mark second = .neutral) (text : Text) :
    isBalanced mark (without first second text) = isBalanced mark text := by
  have dropped : ∀ c, (c != first && c != second) = false → mark c = .neutral := by
    intro c gone
    rw [Bool.and_eq_false_iff, bne_eq_false_iff_eq, bne_eq_false_iff_eq] at gone
    rcases gone with rfl | rfl
    · exact firstNeutral
    · exact secondNeutral
  rw [isBalanced, without, follow?_filter mark dropped, isBalanced]

namespace MarksPair

variable {mark : Char → NestingMark} {opening closing : Char}
  (pair : MarksPair mark opening closing)

include pair

theorem openings_eq (text : Text) : openings mark text = text.count opening := by
  rw [openings, List.count]
  congr 1
  funext c
  rw [Bool.eq_iff_iff, beq_iff_eq, beq_iff_eq, pair.opens]

theorem closings_eq (text : Text) : closings mark text = text.count closing := by
  rw [closings, List.count]
  congr 1
  funext c
  rw [Bool.eq_iff_iff, beq_iff_eq, beq_iff_eq, pair.closes]

theorem isBalanced_iff {text : Text} :
    isBalanced mark text = true ↔ HasPairs opening closing text := by
  rw [BlockCheck.isBalanced_iff]
  constructor
  · rintro ⟨above, level⟩
    rw [pair.openings_eq, pair.closings_eq] at level
    refine ⟨fun front isFront => ?_, level⟩
    rw [← pair.openings_eq, ← pair.closings_eq]
    exact above front isFront
  · rintro ⟨fronts, total⟩
    refine ⟨fun front isFront => ?_, ?_⟩
    · rw [pair.openings_eq, pair.closings_eq]
      exact fronts front isFront
    · rwa [pair.openings_eq, pair.closings_eq]

theorem neutral {c : Char} (notOpening : c ≠ opening) (notClosing : c ≠ closing) :
    mark c = .neutral := by
  cases isMark : mark c with
  | opens => exact absurd ((pair.opens c).mp isMark) notOpening
  | closes => exact absurd ((pair.closes c).mp isMark) notClosing
  | neutral => rfl

/-- A text without its brackets of a kind is balanced in that kind. -/
theorem isBalanced_without (text : Text) :
    isBalanced mark (without opening closing text) = true := by
  have followed : follow? mark 0 (without opening closing text) = some 0 := by
    refine follow?_of_neutral mark (fun c member => ?_) 0
    have kept := (List.mem_filter.mp member).2
    rw [Bool.and_eq_true, bne_iff_ne, bne_iff_ne] at kept
    exact pair.neutral kept.1 kept.2
  rw [isBalanced, followed]
  rfl

end MarksPair

/-! ### Brackets -/

theorem hasBalancedBrackets_iff_hasPairs {source : Text} :
    hasBalancedBrackets source = true ↔ HasPairs '(' ')' source ∧ HasPairs '{' '}' source := by
  rw [hasBalancedBrackets, Bool.and_eq_true, marksPair_roundMark.isBalanced_iff,
    marksPair_curlyMark.isBalanced_iff]

/-- Each kind of bracket is checked on the text without the other kind. -/
theorem hasBalancedBrackets_without (source : Text) :
    hasBalancedBrackets source =
      (hasBalancedBrackets (without '{' '}' source) &&
        hasBalancedBrackets (without '(' ')' source)) := by
  have roundAlone : isBalanced roundMark (without '{' '}' source) = isBalanced roundMark source :=
    isBalanced_without_neutral rfl rfl source
  have curlyAlone : isBalanced curlyMark (without '(' ')' source) = isBalanced curlyMark source :=
    isBalanced_without_neutral rfl rfl source
  rw [hasBalancedBrackets, hasBalancedBrackets, hasBalancedBrackets, roundAlone, curlyAlone,
    marksPair_curlyMark.isBalanced_without, marksPair_roundMark.isBalanced_without,
    Bool.and_true, Bool.true_and]

/-- The brackets of a text are balanced exactly when a scan with two stacks accepts the text, and
exactly when each closing bracket is preceded by an opening one of its kind and none is left over.
The two kinds do not look at each other. A part that is balanced by itself can be exchanged for any
other balanced text, whatever stands around it. -/
theorem brackets_balance_kind_by_kind (source : Text) :
    hasBalancedBrackets source = BracketStacks.passes source ∧
      (hasBalancedBrackets source = true ↔
        (∀ front, front <+: source →
          front.count ')' ≤ front.count '(' ∧ front.count '}' ≤ front.count '{') ∧
          source.count '(' = source.count ')' ∧ source.count '{' = source.count '}') ∧
      hasBalancedBrackets source =
        (hasBalancedBrackets (without '{' '}' source) &&
          hasBalancedBrackets (without '(' ')' source)) ∧
      ∀ front middle back other, source = front ++ (middle ++ back) →
        hasBalancedBrackets middle = true → hasBalancedBrackets other = true →
          hasBalancedBrackets (front ++ (other ++ back)) = hasBalancedBrackets source := by
  refine ⟨(BracketStacks.passes_eq source).symm, ?_, hasBalancedBrackets_without source, ?_⟩
  · rw [hasBalancedBrackets_iff_hasPairs]
    constructor
    · rintro ⟨round, curly⟩
      exact ⟨fun front isFront => ⟨round.fronts front isFront, curly.fronts front isFront⟩,
        round.total, curly.total⟩
    · rintro ⟨fronts, roundTotal, curlyTotal⟩
      exact ⟨⟨fun front isFront => (fronts front isFront).1, roundTotal⟩,
        ⟨fun front isFront => (fronts front isFront).2, curlyTotal⟩⟩
  · rintro front middle back other rfl balanced otherBalanced
    rw [hasBalancedBrackets_append_append otherBalanced, hasBalancedBrackets_append_append balanced]

/-- Brackets of both kinds that cross. -/
def crossedBrackets : Text := "a ( b \x7b c ) d \x7d".toList

/-- Brackets of both kinds that are nested. -/
def nestedBrackets : Text := "\x7b(())\x7d()".toList

/-- The crossed brackets are exchanged for the nested ones between two brackets that fit and between
two brackets in the wrong order. -/
theorem brackets_balance_kind_by_kind_crossedBrackets :
    (hasBalancedBrackets crossedBrackets = true ∧ hasBalancedBrackets nestedBrackets = true) ∧
      (hasBalancedBrackets (['('] ++ (nestedBrackets ++ [')'])) = true ∧
        hasBalancedBrackets (['('] ++ (crossedBrackets ++ [')'])) = true) ∧
      hasBalancedBrackets (['}'] ++ (nestedBrackets ++ ['{'])) = false ∧
        hasBalancedBrackets (['}'] ++ (crossedBrackets ++ ['{'])) = false := by
  have crossed : hasBalancedBrackets crossedBrackets = true := by decide +kernel
  have nested : hasBalancedBrackets nestedBrackets = true := by decide +kernel
  have inFront : hasBalancedBrackets (['('] ++ (nestedBrackets ++ [')'])) = true := by
    decide +kernel
  have turned : hasBalancedBrackets (['}'] ++ (nestedBrackets ++ ['{'])) = false := by
    decide +kernel
  refine ⟨⟨crossed, nested⟩, ⟨inFront, ?_⟩, turned, ?_⟩
  · exact ((brackets_balance_kind_by_kind _).2.2.2 ['('] nestedBrackets [')'] crossedBrackets rfl
      nested crossed).trans inFront
  · exact ((brackets_balance_kind_by_kind _).2.2.2 ['}'] nestedBrackets ['{'] crossedBrackets rfl
      nested crossed).trans turned

end BlockCheck
