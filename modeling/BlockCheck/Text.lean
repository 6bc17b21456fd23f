/-
This file fixes what a text is for the rest of the library and the one way in which a
text is taken apart at a mark. A text is the list of its characters, so that reading
it is recursion on a list and a statement about it is an induction.

A cut always takes the first occurrence of its mark. The two characterisations
`cutAt?_eq_some_iff` and `cutAt?_eq_none_iff` say all there is to know about a cut at
a character; nothing later unfolds it.
-/

namespace BlockCheck

/-- A text is the list of its characters. -/
abbrev Text := List Char

/-! ### Cutting at a character -/

/-- Cut a text at the first occurrence of a character, which belongs to neither part. -/
def cutAt? (mark : Char) : Text → Option (Text × Text)
  | [] => none
  | c :: rest =>
    if c = mark then some ([], rest)
    else (cutAt? mark rest).map fun (before, after) => (c :: before, after)

/-- A cut at a character exists exactly where the character occurs. -/
theorem cutAt?_eq_none_iff {mark : Char} {text : Text} :
    cutAt? mark text = none ↔ mark ∉ text := by
  induction text with
  | nil => simp [cutAt?]
  | cons c rest inductionHypothesis =>
    by_cases same : c = mark
    · simp [cutAt?, same]
    · simp [cutAt?, same, inductionHypothesis, Ne.symm same]

/-- A cut gives back the text around the mark, and the part before holds no mark. -/
theorem cutAt?_eq_some_iff {mark : Char} {text before after : Text} :
    cutAt? mark text = some (before, after) ↔
      text = before ++ mark :: after ∧ mark ∉ before := by
  induction text generalizing before with
  | nil => simp [cutAt?]
  | cons c rest inductionHypothesis =>
    by_cases same : c = mark
    · subst same
      cases before with
      | nil => simp [cutAt?, eq_comm]
      | cons d others =>
        simp only [cutAt?, if_pos, List.cons_append, List.cons.injEq, List.mem_cons]
        constructor
        · intro impossible
          simp at impossible
        · rintro ⟨⟨rfl, -⟩, absent⟩
          exact absurd (Or.inl rfl) absent
    · cases before with
      | nil =>
        simp [cutAt?, same]
      | cons d others =>
        simp only [cutAt?, if_neg same, Option.map_eq_some_iff, Prod.exists, Prod.mk.injEq,
          List.cons.injEq, List.cons_append, List.mem_cons, not_or]
        constructor
        · rintro ⟨front, back, found, ⟨rfl, rfl⟩, rfl⟩
          obtain ⟨split, absent⟩ := inductionHypothesis.mp found
          exact ⟨⟨rfl, split⟩, Ne.symm same, absent⟩
        · rintro ⟨⟨rfl, split⟩, -, absent⟩
          exact ⟨others, after, inductionHypothesis.mpr ⟨split, absent⟩, ⟨rfl, rfl⟩, rfl⟩

/-! ### Cutting at a text -/

/-- Cut a text at the first occurrence of another text, which belongs to neither part. -/
def cutAtText? (mark : Text) : Text → Option (Text × Text)
  | [] => if mark = [] then some ([], []) else none
  | c :: rest =>
    match mark.isPrefixOf? (c :: rest) with
    | some after => some ([], after)
    | none => (cutAtText? mark rest).map fun (before, after) => (c :: before, after)

end BlockCheck
