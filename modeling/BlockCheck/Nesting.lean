/-
This file counts nesting. Some elements of a list open a level, some close one, and the
rest leave the level alone. Following a list from a level either ends at a level or fails
at the first element that would close a level that is not there. A list is balanced when
following it from level zero ends at level zero.

The one law that everything else rests on is `follow?_append`: two lists are followed one
after the other.
-/

namespace BlockCheck

/-! ### Levels -/

/-- What an element does to the nesting level. -/
inductive NestingMark where
  /-- The element opens a level. -/
  | opens
  /-- The element closes the innermost level. -/
  | closes
  /-- The element leaves the level alone. -/
  | neutral
  deriving DecidableEq, Repr

/-- The level after an element, or nothing where a level that is not there would close. -/
def NestingMark.step? : NestingMark → Nat → Option Nat
  | .opens, level => some (level + 1)
  | .closes, 0 => none
  | .closes, level + 1 => some level
  | .neutral, level => some level

/-- Follow a list from a level. -/
def follow? {Element : Type} (mark : Element → NestingMark) (level : Nat)
    (elements : List Element) : Option Nat :=
  elements.foldlM (fun current element => (mark element).step? current) level

/-- A list is balanced when it opens and closes the same levels, each opened before it is
closed. -/
def isBalanced {Element : Type} (mark : Element → NestingMark) (elements : List Element) : Bool :=
  follow? mark 0 elements == some 0

/-! ### Following a list -/

section

variable {Element : Type} (mark : Element → NestingMark)

@[simp] theorem follow?_nil (level : Nat) : follow? mark level [] = some level := rfl

theorem follow?_cons (level : Nat) (element : Element) (rest : List Element) :
    follow? mark level (element :: rest) =
      ((mark element).step? level).bind fun next => follow? mark next rest := rfl

/-- Two lists are followed one after the other. -/
theorem follow?_append (level : Nat) (front back : List Element) :
    follow? mark level (front ++ back) =
      (follow? mark level front).bind fun next => follow? mark next back := by
  unfold follow?
  rw [List.foldlM_append]
  rfl

end

end BlockCheck
