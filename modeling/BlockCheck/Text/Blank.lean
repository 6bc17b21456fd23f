/-
This file holds the class of blank characters and what removes them from the ends of a
text. The class is the Unicode property White_Space, which is wider than the blanks of
ASCII: the no-break space and the line and paragraph separators belong to it, the zero
width space and the byte order mark do not.
-/

import BlockCheck.Text

namespace BlockCheck

/-! ### The class -/

/-- The first and last code points of the runs of White_Space, in order. -/
def blankRanges : List (Nat × Nat) :=
  [(0x0009, 0x000D), (0x0020, 0x0020), (0x0085, 0x0085), (0x00A0, 0x00A0), (0x1680, 0x1680),
    (0x2000, 0x200A), (0x2028, 0x2029), (0x202F, 0x202F), (0x205F, 0x205F), (0x3000, 0x3000)]

/-- A character is blank when it has the property White_Space. -/
def isBlank (c : Char) : Bool :=
  blankRanges.any fun (first, last) => decide (first ≤ c.toNat) && decide (c.toNat ≤ last)

theorem isBlank_space : isBlank ' ' = true := by decide

theorem isBlank_newline : isBlank '\n' = true := by decide

theorem isBlank_carriageReturn : isBlank '\r' = true := by decide

/-- Every blank of ASCII that the core library knows is blank. -/
theorem isBlank_of_isWhitespace {c : Char} (white : c.isWhitespace = true) :
    isBlank c = true := by
  simp only [Char.isWhitespace, Bool.or_eq_true, decide_eq_true_eq] at white
  rcases white with ((rfl | rfl) | rfl) | rfl <;> decide

/-! ### Blank texts and their ends -/

/-- A text is blank when all its characters are. -/
def isBlankText (text : Text) : Bool := text.all isBlank

/-- Drop the longest end of a text whose characters all satisfy a test. -/
def dropEnd (test : Char → Bool) (text : Text) : Text :=
  (text.reverse.dropWhile test).reverse

/-- Drop the blanks at both ends of a text. -/
def trim (text : Text) : Text := dropEnd isBlank (text.dropWhile isBlank)

end BlockCheck
