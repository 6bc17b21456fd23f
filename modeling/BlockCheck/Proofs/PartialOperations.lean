/-
This file holds the operations that are not defined everywhere: taking the elements of a
list from an index on, taking a piece of a text between two offsets, and counting one open
block less. Outside of its domain each of them is a fault. Beside each operation stands the
law that says where it is defined and what it gives there.

A text is stored in UTF-8, so an offset counts bytes and a character takes up to four of
them. A piece of a text lies between two offsets only where they are in order, not past the
end and not inside a character (`exists_slice_iff`). An offset that a search finds is the
length of what a cut leaves before the mark (`findByte?_eq`), which is how offsets are
brought back to texts.
-/

import BlockCheck.Text

namespace BlockCheck

/-- The use of an operation outside of its domain. -/
inductive Fault where
  /-- A list of this length has no elements from this index on. -/
  | listIndex (start length : Nat)
  /-- A text cannot be cut at these byte offsets. -/
  | textOffset (start stop : Nat)
  /-- No block is open that could be closed. -/
  | nothingOpen
  /-- All blocks that are open were open before. -/
  | nothingAbove (floor : Nat)
  deriving DecidableEq, Repr

/-! ### Lists and counts -/

/-- The elements of a list from an index on. The index may be the length of the list. -/
def elementsFrom {Element : Type} (start : Nat) (elements : List Element) :
    Except Fault (List Element) :=
  if start ≤ elements.length then .ok (elements.drop start)
  else .error (.listIndex start elements.length)

theorem elementsFrom_append {Element : Type} (front back : List Element) :
    elementsFrom front.length (front ++ back) = .ok back := by
  rw [elementsFrom, if_pos (by simp), List.drop_left]

/-- The elements of a list between two indices, or nothing where the indices are not in order
or past the end. -/
def elementsBetween? {Element : Type} (start stop : Nat) (elements : List Element) :
    Option (List Element) :=
  if start ≤ stop ∧ stop ≤ elements.length then some ((elements.take stop).drop start) else none

/-- Indices that bound no elements bound an empty list. -/
theorem getD_elementsBetween? {Element : Type} (start : Nat) {stop : Nat} {elements : List Element}
    (within : stop ≤ elements.length) :
    (elementsBetween? start stop elements).getD [] = (elements.take stop).drop start := by
  by_cases ordered : start ≤ stop
  · rw [elementsBetween?, if_pos ⟨ordered, within⟩, Option.getD_some]
  · have nothing : (elements.take stop).drop start = [] :=
      List.drop_eq_nil_of_le (by rw [List.length_take]; omega)
    rw [elementsBetween?, if_neg fun both => ordered both.1, nothing, Option.getD_none]

/-- Count one open block less, where more than `floor` are open. -/
def lower (floor : Nat) : Nat → Except Fault Nat
  | 0 => .error .nothingOpen
  | below + 1 => if floor ≤ below then .ok below else .error (.nothingAbove floor)

/-- A count can be lowered exactly where it is above the floor. -/
theorem lower_eq_ok_iff {floor count lowered : Nat} :
    lower floor count = .ok lowered ↔ floor < count ∧ lowered + 1 = count := by
  cases count with
  | zero => simp [lower]
  | succ below =>
    by_cases above : floor ≤ below
    · simp [lower, above, Nat.lt_succ_of_le above, eq_comm]
    · simp [lower, above, mt Nat.le_of_lt_succ above]

/-! ### Offsets -/

/-- The number of bytes that a text takes. -/
def byteLength : Text → Nat
  | [] => 0
  | c :: rest => c.utf8Size + byteLength rest

@[simp] theorem byteLength_nil : byteLength [] = 0 := rfl

@[simp] theorem byteLength_cons (c : Char) (rest : Text) :
    byteLength (c :: rest) = c.utf8Size + byteLength rest := rfl

@[simp] theorem byteLength_append (front back : Text) :
    byteLength (front ++ back) = byteLength front + byteLength back := by
  induction front with
  | nil => simp
  | cons c rest inductionHypothesis =>
    rw [List.cons_append, byteLength_cons, byteLength_cons, inductionHypothesis, Nat.add_assoc]

/-- An offset is a boundary of a text when the characters before it take that many bytes. -/
def IsBoundary (text : Text) (offset : Nat) : Prop :=
  ∃ front back, text = front ++ back ∧ byteLength front = offset

/-- No boundary lies past the end. -/
theorem IsBoundary.le_byteLength {text : Text} {offset : Nat} (boundary : IsBoundary text offset) :
    offset ≤ byteLength text := by
  obtain ⟨front, back, rfl, rfl⟩ := boundary
  simp

/-- The bytes are those of the text as a string. -/
theorem byteLength_eq_utf8ByteSize (text : Text) :
    byteLength text = (String.ofList text).utf8ByteSize := by
  induction text with
  | nil => simp
  | cons c rest inductionHypothesis => simp [String.ofList_cons, inductionHypothesis]

/-- Only the empty text takes no bytes, because every character takes at least one. -/
theorem byteLength_eq_zero_iff {text : Text} : byteLength text = 0 ↔ text = [] := by
  cases text with
  | nil => simp
  | cons c rest =>
    have positive := c.utf8Size_pos
    simp only [byteLength_cons, reduceCtorEq, iff_false]
    omega

/-! ### Searching -/

/-- The byte offset of the first occurrence of a character. -/
def findByte? (mark : Char) : Text → Option Nat
  | [] => none
  | c :: rest => if c = mark then some 0 else (findByte? mark rest).map (c.utf8Size + ·)

/-- A search finds the length of what a cut at the same character leaves before it. -/
theorem findByte?_eq (mark : Char) (text : Text) :
    findByte? mark text = (cutAt? mark text).map fun (before, _) => byteLength before := by
  induction text with
  | nil => rfl
  | cons c rest inductionHypothesis =>
    by_cases found : c = mark
    · simp [findByte?, cutAt?, found]
    · rw [findByte?, cutAt?, if_neg found, if_neg found, inductionHypothesis, Option.map_map,
        Option.map_map]
      rfl

theorem findByte?_of_not_mem {mark : Char} {text : Text} (absent : mark ∉ text) :
    findByte? mark text = none := by
  rw [findByte?_eq, cutAt?_eq_none_iff.mpr absent, Option.map_none]

theorem findByte?_append {mark : Char} {before : Text} (absent : mark ∉ before) (after : Text) :
    findByte? mark (before ++ mark :: after) = some (byteLength before) := by
  rw [findByte?_eq, cutAt?_eq_some_iff.mpr ⟨rfl, absent⟩, Option.map_some]

/-! ### Slices -/

/-- Split a text at a byte offset, where that is a boundary. -/
def splitAtByte? : Nat → Text → Option (Text × Text)
  | 0, text => some ([], text)
  | _ + 1, [] => none
  | offset + 1, c :: rest =>
    if c.utf8Size ≤ offset + 1 then
      (splitAtByte? (offset + 1 - c.utf8Size) rest).map fun (front, back) => (c :: front, back)
    else none

/-- A text is split at its boundaries and nowhere else. -/
theorem splitAtByte?_eq_some_iff {offset : Nat} {text front back : Text} :
    splitAtByte? offset text = some (front, back) ↔
      text = front ++ back ∧ byteLength front = offset := by
  fun_induction splitAtByte? offset text generalizing front with
  | case1 text =>
    cases front with
    | nil => simp [eq_comm]
    | cons c others =>
      have positive := c.utf8Size_pos
      simp only [Option.some.injEq, Prod.mk.injEq, reduceCtorEq, false_and, byteLength_cons,
        false_iff, not_and]
      omega
  | case2 offset =>
    cases front <;> simp
  | case3 offset c rest fits inductionHypothesis =>
    cases front with
    | nil => simp
    | cons d others =>
      simp only [Option.map_eq_some_iff, Prod.exists, Prod.mk.injEq, List.cons.injEq,
        List.cons_append, byteLength_cons]
      constructor
      · rintro ⟨before, after, found, ⟨rfl, rfl⟩, rfl⟩
        obtain ⟨split, length⟩ := inductionHypothesis.mp found
        exact ⟨⟨rfl, split⟩, by omega⟩
      · rintro ⟨⟨rfl, split⟩, length⟩
        exact ⟨others, back, inductionHypothesis.mpr ⟨split, by omega⟩, ⟨rfl, rfl⟩, rfl⟩
  | case4 offset c rest larger =>
    cases front with
    | nil => simp
    | cons d others =>
      simp only [reduceCtorEq, List.cons_append, List.cons.injEq, byteLength_cons, false_iff,
        not_and]
      rintro ⟨rfl, -⟩
      omega

/-- The piece of a text between two byte offsets. -/
def slice (start stop : Nat) (text : Text) : Except Fault Text :=
  if start ≤ stop then
    match splitAtByte? stop text with
    | none => .error (.textOffset start stop)
    | some (front, _) =>
      match splitAtByte? start front with
      | none => .error (.textOffset start stop)
      | some (_, piece) => .ok piece
  else .error (.textOffset start stop)

/-- The piece of a text from a byte offset on. -/
def sliceFrom (start : Nat) (text : Text) : Except Fault Text :=
  match splitAtByte? start text with
  | none => .error (.textOffset start (byteLength text))
  | some (_, piece) => .ok piece

/-- A slice is a piece of the text that lies between the two offsets. -/
theorem slice_eq_ok_iff {start stop : Nat} {text piece : Text} :
    slice start stop text = .ok piece ↔
      ∃ before after, text = before ++ piece ++ after ∧ byteLength before = start ∧
        byteLength (before ++ piece) = stop := by
  constructor
  · intro taken
    unfold slice at taken
    split at taken
    · split at taken
      · simp at taken
      · rename_i front after outer
        split at taken
        · simp at taken
        · rename_i before inside inner
          obtain ⟨rfl, stops⟩ := splitAtByte?_eq_some_iff.mp outer
          obtain ⟨rfl, starts⟩ := splitAtByte?_eq_some_iff.mp inner
          rw [Except.ok.injEq] at taken
          subst taken
          exact ⟨before, after, rfl, starts, stops⟩
    · simp at taken
  · rintro ⟨before, after, rfl, rfl, rfl⟩
    have ordered : byteLength before ≤ byteLength (before ++ piece) := by simp
    have outer : splitAtByte? (byteLength (before ++ piece)) (before ++ piece ++ after) =
        some (before ++ piece, after) := splitAtByte?_eq_some_iff.mpr ⟨rfl, rfl⟩
    have inner : splitAtByte? (byteLength before) (before ++ piece) = some (before, piece) :=
      splitAtByte?_eq_some_iff.mpr ⟨rfl, rfl⟩
    simp only [slice, if_pos ordered, outer, inner]

/-- A slice to the end is what follows some text of that length. -/
theorem sliceFrom_eq_ok_iff {start : Nat} {text piece : Text} :
    sliceFrom start text = .ok piece ↔
      ∃ before, text = before ++ piece ∧ byteLength before = start := by
  unfold sliceFrom
  constructor
  · intro taken
    split at taken
    · simp at taken
    · rename_i before after found
      rw [Except.ok.injEq] at taken
      subst taken
      exact ⟨before, splitAtByte?_eq_some_iff.mp found⟩
  · rintro ⟨before, split⟩
    simp only [splitAtByte?_eq_some_iff.mpr split]

/-- A slice exists exactly where the offsets are in order and both are boundaries. -/
theorem exists_slice_iff {start stop : Nat} {text : Text} :
    (∃ piece, slice start stop text = .ok piece) ↔
      start ≤ stop ∧ stop ≤ byteLength text ∧ IsBoundary text start ∧ IsBoundary text stop := by
  constructor
  · rintro ⟨piece, taken⟩
    obtain ⟨before, after, rfl, rfl, rfl⟩ := slice_eq_ok_iff.mp taken
    have starts : IsBoundary (before ++ piece ++ after) (byteLength before) :=
      ⟨before, piece ++ after, List.append_assoc .., rfl⟩
    have stops : IsBoundary (before ++ piece ++ after) (byteLength (before ++ piece)) :=
      ⟨before ++ piece, after, rfl, rfl⟩
    exact ⟨by simp, stops.le_byteLength, starts, stops⟩
  · rintro ⟨ordered, -, ⟨before, rest, rfl, rfl⟩, ⟨front, after, same, rfl⟩⟩
    obtain ⟨piece, rfl, rfl⟩ | ⟨piece, rfl, rfl⟩ := List.append_eq_append_iff.mp same
    · exact ⟨piece, slice_eq_ok_iff.mpr ⟨before, after, by simp, rfl, rfl⟩⟩
    · have nothing : piece = [] := by
        rw [byteLength_append] at ordered
        exact byteLength_eq_zero_iff.mp (by omega)
      subst nothing
      exact ⟨[], slice_eq_ok_iff.mpr ⟨front, rest, by simp, by simp, by simp⟩⟩

/-- An offset inside a character is no place to cut at. -/
example : slice 1 3 ['é', 'x'] = .error (.textOffset 1 3) := by rfl

end BlockCheck
