/-
This file reads nesting levels off counts. Following a list from a level succeeds exactly
when no front of the list closes more levels than there are, and it ends at the level that
the counts leave (`follow?_eq_some_iff`). A list is therefore balanced exactly when no front
of it closes more levels than it opens and the whole opens as many as it closes
(`isBalanced_iff`).

Following is the form that recursions produce; the counts are the form in which a reader
of a program thinks of it. Everything later is proved with the first and stated with the
second.
-/

import BlockCheck.Nesting

namespace BlockCheck

section

variable {Element : Type} (mark : Element → NestingMark)

/-! ### Counts -/

/-- The number of elements that open a level. -/
def openings (elements : List Element) : Nat :=
  elements.countP fun element => mark element == .opens

/-- The number of elements that close a level. -/
def closings (elements : List Element) : Nat :=
  elements.countP fun element => mark element == .closes

/-- No front of a list closes more levels than it opens. -/
def StaysAbove (elements : List Element) : Prop :=
  ∀ front, front <+: elements → closings mark front ≤ openings mark front

/-- No front of a list closes more levels than it opens, and the whole opens and closes
equally many. -/
structure NestedBalanced (elements : List Element) : Prop where
  staysAbove : StaysAbove mark elements
  level : openings mark elements = closings mark elements

@[simp] theorem openings_nil : openings mark [] = 0 := rfl

@[simp] theorem closings_nil : closings mark [] = 0 := rfl

theorem openings_cons (element : Element) (rest : List Element) :
    openings mark (element :: rest) =
      openings mark rest + if mark element = .opens then 1 else 0 := by
  simp [openings, List.countP_cons]

theorem closings_cons (element : Element) (rest : List Element) :
    closings mark (element :: rest) =
      closings mark rest + if mark element = .closes then 1 else 0 := by
  simp [closings, List.countP_cons]

theorem follow?_singleton (level : Nat) (element : Element) :
    follow? mark level [element] = (mark element).step? level := by
  rw [follow?_cons]
  exact Option.bind_fun_some _

/-- Elements that leave the level alone can be followed from every level. -/
theorem follow?_of_neutral {elements : List Element}
    (neutral : ∀ element ∈ elements, mark element = .neutral) (level : Nat) :
    follow? mark level elements = some level := by
  induction elements with
  | nil => rfl
  | cons element rest inductionHypothesis =>
    obtain ⟨first, later⟩ := List.forall_mem_cons.mp neutral
    rw [follow?_cons, first]
    exact inductionHypothesis later

/-- Elements that leave the level alone can be left out. -/
theorem follow?_filter {keep : Element → Bool}
    (neutral : ∀ element, keep element = false → mark element = .neutral) (level : Nat)
    (elements : List Element) :
    follow? mark level (elements.filter keep) = follow? mark level elements := by
  induction elements generalizing level with
  | nil => rfl
  | cons element rest inductionHypothesis =>
    cases kept : keep element with
    | false =>
      rw [List.filter_cons_of_neg (by simp [kept]), follow?_cons, neutral element kept]
      exact inductionHypothesis level
    | true =>
      rw [List.filter_cons_of_pos kept, follow?_cons, follow?_cons]
      exact congrArg _ (funext inductionHypothesis)

/-! ### Following in terms of counts -/

/-- Something holds of all fronts of a list that is not empty when it holds of the empty one
and of those that hold the first element. -/
theorem forall_front_cons_iff (element : Element) (rest : List Element)
    (property : List Element → Prop) :
    (∀ front, front <+: element :: rest → property front) ↔
      property [] ∧ ∀ front, front <+: rest → property (element :: front) := by
  constructor
  · intro every
    refine ⟨every [] List.nil_prefix, fun front isFront => every _ ?_⟩
    exact List.cons_prefix_cons.mpr ⟨rfl, isFront⟩
  · rintro ⟨atStart, later⟩ front isFront
    rcases List.prefix_cons_iff.mp isFront with rfl | ⟨shorter, rfl, isShorter⟩
    · exact atStart
    · exact later shorter isShorter

/-- Following a list from a level ends at the level that the counts leave, provided that no
front closes a level that is not there. -/
theorem follow?_eq_some_iff {level final : Nat} {elements : List Element} :
    follow? mark level elements = some final ↔
      (∀ front, front <+: elements → closings mark front ≤ level + openings mark front) ∧
        final + closings mark elements = level + openings mark elements := by
  induction elements generalizing level with
  | nil =>
    simp only [follow?_nil, Option.some.injEq, List.prefix_nil, forall_eq, closings_nil,
      openings_nil, Nat.zero_le, true_and]
    exact eq_comm
  | cons element rest inductionHypothesis =>
    rw [follow?_cons, forall_front_cons_iff]
    simp only [closings_cons, openings_cons, closings_nil, openings_nil]
    cases isMark : mark element with
    | opens =>
      simp only [NestingMark.step?, Option.bind_some, inductionHypothesis, reduceCtorEq,
        if_true, if_false]
      refine and_congr ⟨fun above => ⟨Nat.zero_le _, fun front isFront => ?_⟩,
        fun above front isFront => ?_⟩ (by omega)
      · have := above front isFront
        omega
      · have := above.2 front isFront
        omega
    | neutral =>
      simp only [NestingMark.step?, Option.bind_some, inductionHypothesis, reduceCtorEq, if_false,
        Nat.add_zero, Nat.zero_le, true_and]
    | closes =>
      cases level with
      | zero =>
        simp only [NestingMark.step?, Option.bind_none, reduceCtorEq, if_true, if_false, false_iff,
          not_and]
        intro above
        have closingAlone := above.2 [] List.nil_prefix
        simp at closingAlone
      | succ outer =>
        simp only [NestingMark.step?, Option.bind_some, inductionHypothesis, reduceCtorEq, if_true,
          if_false]
        refine and_congr ⟨fun above => ⟨Nat.zero_le _, fun front isFront => ?_⟩,
          fun above front isFront => ?_⟩ (by omega)
        · have := above front isFront
          omega
        · have := above.2 front isFront
          omega

/-- What can be followed from a level can be followed from a higher one, and ends higher by as
much. -/
theorem follow?_add {level final : Nat} {elements : List Element}
    (followed : follow? mark level elements = some final) (more : Nat) :
    follow? mark (more + level) elements = some (more + final) := by
  rw [follow?_eq_some_iff] at followed ⊢
  refine ⟨fun front isFront => ?_, by omega⟩
  have := followed.1 front isFront
  omega

/-- A list can be followed from level zero exactly when no front of it closes more levels
than it opens. -/
theorem exists_follow?_iff {elements : List Element} :
    (∃ final, follow? mark 0 elements = some final) ↔ StaysAbove mark elements := by
  constructor
  · rintro ⟨final, followed⟩ front isFront
    have := ((follow?_eq_some_iff mark).mp followed).1 front isFront
    omega
  · intro above
    refine ⟨openings mark elements - closings mark elements, ?_⟩
    refine (follow?_eq_some_iff mark).mpr ⟨?_, ?_⟩
    · intro front isFront
      have := above front isFront
      omega
    · have := above elements (List.prefix_refl _)
      omega

/-- The level that a list which is followed from level zero ends at. -/
theorem level_of_follow? {elements : List Element} {final : Nat}
    (followed : follow? mark 0 elements = some final) :
    final = openings mark elements - closings mark elements := by
  have := ((follow?_eq_some_iff mark).mp followed).2
  omega

/-- Following from level zero ends at level zero exactly for the lists that are balanced by
their counts. -/
theorem nestedBalanced_iff {elements : List Element} :
    NestedBalanced mark elements ↔ follow? mark 0 elements = some 0 := by
  rw [follow?_eq_some_iff]
  constructor
  · intro balanced
    refine ⟨fun front isFront => ?_, ?_⟩
    · have := balanced.staysAbove front isFront
      omega
    · have := balanced.level
      omega
  · rintro ⟨above, level⟩
    refine ⟨fun front isFront => ?_, by omega⟩
    have := above front isFront
    omega

/-- What is balanced can be taken out of a list, wherever it stands. -/
theorem isBalanced_append_append {middle : List Element} (balanced : isBalanced mark middle = true)
    (front back : List Element) :
    isBalanced mark (front ++ (middle ++ back)) = isBalanced mark (front ++ back) := by
  have fromZero : follow? mark 0 middle = some 0 := by simpa [isBalanced] using balanced
  have unchanged (level : Nat) : follow? mark level middle = some level :=
    follow?_add mark fromZero level
  simp only [isBalanced, follow?_append, unchanged, Option.bind_some]

theorem isBalanced_iff {elements : List Element} :
    isBalanced mark elements = true ↔ NestedBalanced mark elements := by
  rw [nestedBalanced_iff, isBalanced, beq_iff_eq]

end

end BlockCheck
