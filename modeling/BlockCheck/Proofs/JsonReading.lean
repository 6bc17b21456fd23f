/-
This file reads JSON texts. The reader takes the whole of JSON, not only objects of some form. A
string is read into numbers first, since a character outside of the basic plane may be written as
two escapes, and the numbers are characters afterwards. A reader of something returns what it read
and the text that is left. The length of the text bounds how deep and how long values are read,
because each value takes one character at least.

A line break behind a text changes nothing about what is read (`Json.ofText?_append_newline`). Each
reader leaves the line break where it is, and the bound only grows with it.
-/

import BlockCheck.CommandLine.Run
import Mathlib.Data.List.TakeDrop

namespace BlockCheck.CommandLine

/-! ### Strings -/

/-- The number of a hexadecimal digit. -/
def hexDigit? (c : Char) : Option Nat :=
  if c.isDigit then some (c.toNat - '0'.toNat)
  else if 'a' ≤ c ∧ c ≤ 'f' then some (c.toNat - 'a'.toNat + 10)
  else if 'A' ≤ c ∧ c ≤ 'F' then some (c.toNat - 'A'.toNat + 10)
  else none

/-- The number that hexadecimal digits write. -/
def hexadecimal? (digits : Text) : Option Nat :=
  digits.foldlM (fun value digit => (hexDigit? digit).map (value * 16 + ·)) 0

/-- The number of the character that a letter after a backslash stands for. -/
def escaped? (letter : Char) : Option Nat :=
  if letter = '"' ∨ letter = '\\' ∨ letter = '/' then some letter.toNat
  else if letter = 'b' then some 0x08
  else if letter = 'f' then some 0x0C
  else if letter = 'n' then some 0x0A
  else if letter = 'r' then some 0x0D
  else if letter = 't' then some 0x09
  else none

/-- Put a number before those that were read. -/
def afterUnit (unit : Nat) (read : Option (List Nat × Text)) : Option (List Nat × Text) :=
  read.map fun (units, rest) => (unit :: units, rest)

/-- Read the numbers of a string up to the quote that closes it. -/
def readUnits : Text → Option (List Nat × Text)
  | [] => none
  | c :: rest =>
    if c = '"' then some ([], rest)
    else if c = '\\' then
      match rest with
      | 'u' :: first :: second :: third :: fourth :: rest =>
        (hexadecimal? [first, second, third, fourth]).bind (afterUnit · (readUnits rest))
      | letter :: rest => (escaped? letter).bind (afterUnit · (readUnits rest))
      | [] => none
    else if c.toNat < 0x20 then none
    else afterUnit c.toNat (readUnits rest)

/-- The characters of some numbers. A pair of surrogates is one character, and a surrogate without
its other half is none. -/
def charactersOf? : List Nat → Option Text
  | [] => some []
  | unit :: rest =>
    if 0xD800 ≤ unit ∧ unit < 0xDC00 then
      match rest with
      | low :: rest =>
        if 0xDC00 ≤ low ∧ low < 0xE000 then
          (charactersOf? rest).map
            (Char.ofNat (0x10000 + (unit - 0xD800) * 0x400 + (low - 0xDC00)) :: ·)
        else none
      | [] => none
    else if 0xDC00 ≤ unit ∧ unit < 0xE000 then none
    else (charactersOf? rest).map (Char.ofNat unit :: ·)

/-- Read a string after the quote that opens it. -/
def readString (text : Text) : Option (Text × Text) := do
  let (units, rest) ← readUnits text
  let characters ← charactersOf? units
  return (characters, rest)

/-! ### Numbers -/

/-- Numbers are written with these characters. -/
def isNumberCharacter (c : Char) : Bool :=
  c.isDigit || c == '+' || c == '-' || c == '.' || c == 'e' || c == 'E'

/-- Digits that do not start with a zero, or a zero. -/
def isWholePart (text : Text) : Bool :=
  isDigits text && (text.head? != some '0' || text.length == 1)

/-- Digits after a sign that may be missing. -/
def isExponent (text : Text) : Bool :=
  isDigits (if text.head? = some '+' ∨ text.head? = some '-' then text.tail else text)

/-- A number has a sign, a whole part, a fraction after a point and an exponent after a letter; only
the whole part cannot be missing. -/
def isNumber (text : Text) : Bool :=
  let unsigned := if text.head? = some '-' then text.tail else text
  let (decimal, exponent) := unsigned.span fun c => c != 'e' && c != 'E'
  let (whole, fraction) := decimal.span (· != '.')
  isWholePart whole && (fraction.isEmpty || isDigits fraction.tail) &&
    (exponent.isEmpty || isExponent exponent.tail)

/-! ### Values -/

/-- A JSON value. A number is kept as it is written and an object with its members in order. -/
inductive Json where
  | null
  | bool (value : Bool)
  | number (written : Text)
  | string (text : Text)
  | array (items : List Json)
  | object (members : List (Text × Json))
  deriving Repr

/-- Drop the blanks of JSON at the start. -/
def skipBlanks (text : Text) : Text :=
  text.dropWhile fun c => c == ' ' || c == '\n' || c == '\r' || c == '\t'

/-- Read items with commas between them up to the character that closes them. -/
def readItems {Item : Type} (readItem : Text → Option (Item × Text)) (closing : Char) :
    Nat → Text → Option (List Item × Text)
  | 0, _ => none
  | bound + 1, text => do
    let (item, rest) ← readItem text
    match skipBlanks rest with
    | [] => none
    | c :: rest =>
      if c = closing then return ([item], rest)
      else if c = ',' then
        let (items, rest) ← readItems readItem closing bound rest
        return (item :: items, rest)
      else none

/-- Read items after the character that opens them. There may be none. -/
def readListed {Item : Type} (readItem : Text → Option (Item × Text)) (closing : Char)
    (bound : Nat) (text : Text) : Option (List Item × Text) :=
  match skipBlanks text with
  | [] => none
  | c :: rest => if c = closing then some ([], rest) else readItems readItem closing bound text

/-- Read a member of an object, with a reader for its value. -/
def readMember (readItem : Text → Option (Json × Text)) (text : Text) :
    Option ((Text × Json) × Text) :=
  match skipBlanks text with
  | '"' :: rest => do
    let (name, rest) ← readString rest
    match skipBlanks rest with
    | ':' :: rest => (readItem rest).map fun (value, rest) => ((name, value), rest)
    | _ => none
  | _ => none

/-- Read a value. -/
def readValue : Nat → Text → Option (Json × Text)
  | 0, _ => none
  | bound + 1, text =>
    match skipBlanks text with
    | 'n' :: 'u' :: 'l' :: 'l' :: rest => some (.null, rest)
    | 't' :: 'r' :: 'u' :: 'e' :: rest => some (.bool true, rest)
    | 'f' :: 'a' :: 'l' :: 's' :: 'e' :: rest => some (.bool false, rest)
    | '"' :: rest => (readString rest).map fun (text, rest) => (.string text, rest)
    | '[' :: rest =>
      (readListed (readValue bound) ']' bound rest).map fun (items, rest) => (.array items, rest)
    | '{' :: rest =>
      (readListed (readMember (readValue bound)) '}' bound rest).map
        fun (members, rest) => (.object members, rest)
    | other =>
      let (written, rest) := other.span isNumberCharacter
      if isNumber written then some (.number written, rest) else none

/-- The value that a text writes, with nothing but blanks around it. -/
def Json.ofText? (text : Text) : Option Json := do
  let (value, rest) ← readValue (text.length + 1) text
  if (skipBlanks rest).isEmpty then return value else none

/-! ### Objects -/

/-- The JSON value of a value without parts. -/
def Json.ofScalar : Scalar → Json
  | .null => .null
  | .bool value => .bool value
  | .string text => .string text.toList

/-- The JSON object with some members. -/
def Json.ofMembers (members : List (String × Scalar)) : Json :=
  .object (members.map fun member => (member.1.toList, .ofScalar member.2))

/-- The value for a message that may be missing. -/
def Json.ofMessage? : Option String → Json
  | none => .null
  | some message => .string message.toList

/-- The object for a verdict: whether it is in favour of the program, and its message. -/
def Json.ofVerdict (verdict : Verdict) : Json :=
  .object [("valid".toList, .bool verdict.isAccepted),
    ("message".toList, .ofMessage? verdict.message?)]

theorem ofMembers_verdictMembers (verdict : Verdict) :
    Json.ofMembers (verdictMembers verdict) = .ofVerdict verdict := by
  cases verdict <;> rfl

/-! ### Steps of reading a string -/

theorem afterUnit_eq_some_iff {unit : Nat} {read : Option (List Nat × Text)} {units : List Nat}
    {rest : Text} : afterUnit unit read = some (units, rest) ↔
      ∃ later, read = some (later, rest) ∧ unit :: later = units := by
  rw [afterUnit, Option.map_eq_some_iff]
  constructor
  · rintro ⟨⟨later, behind⟩, isRead, same⟩
    obtain ⟨rfl, rfl⟩ := Prod.mk.inj same
    exact ⟨later, isRead, rfl⟩
  · rintro ⟨later, isRead, rfl⟩
    exact ⟨(later, rest), isRead, rfl⟩

/-- A letter after a backslash is read as what it stands for. -/
theorem readUnits_escaped {letter : Char} {unit : Nat} (isLetter : escaped? letter = some unit)
    (rest : Text) : readUnits ('\\' :: letter :: rest) = afterUnit unit (readUnits rest) := by
  have notNumber : letter ≠ 'u' := by
    rintro rfl
    nomatch isLetter
  rw [readUnits.eq_def]
  simp only [Char.reduceEq, if_true, if_false]
  split
  case h_1 same => exact absurd (List.cons_eq_cons.mp same).1 notNumber
  case h_2 same =>
    obtain ⟨rfl, rfl⟩ := List.cons_eq_cons.mp same
    rw [isLetter, Option.bind_some]
  case h_3 same => nomatch same

/-! ### A line break behind a text -/

/-- What is behind a string is left, however long it is. -/
theorem readUnits_append {text rest : Text} {units : List Nat}
    (isRead : readUnits text = some (units, rest)) (more : Text) :
    readUnits (text ++ more) = some (units, rest ++ more) := by
  fun_induction readUnits text generalizing units with
  | case1 => nomatch isRead
  | case2 after =>
    obtain ⟨rfl, rfl⟩ := Prod.mk.inj (Option.some.inj isRead)
    rw [List.cons_append, readUnits.eq_def]
    rfl
  | case3 first second third fourth after notQuote inductionHypothesis =>
    obtain ⟨unit, isNumber, isRead⟩ := Option.bind_eq_some_iff.mp isRead
    obtain ⟨later, laterRead, rfl⟩ := afterUnit_eq_some_iff.mp isRead
    show (hexadecimal? _).bind (afterUnit · (readUnits (after ++ more))) = _
    rw [isNumber, inductionHypothesis laterRead]
    rfl
  | case4 letter after notNumber notQuote inductionHypothesis =>
    obtain ⟨unit, isLetter, isRead⟩ := Option.bind_eq_some_iff.mp isRead
    obtain ⟨later, laterRead, rfl⟩ := afterUnit_eq_some_iff.mp isRead
    rw [List.cons_append, List.cons_append, readUnits_escaped isLetter,
      inductionHypothesis laterRead]
    rfl
  | case5 => nomatch isRead
  | case6 => nomatch isRead
  | case7 c after notQuote notBackslash printable inductionHypothesis =>
    obtain ⟨later, laterRead, rfl⟩ := afterUnit_eq_some_iff.mp isRead
    rw [List.cons_append, readUnits.eq_def]
    simp only
    rw [if_neg notQuote, if_neg notBackslash, if_neg printable, inductionHypothesis laterRead]
    rfl

/-- One reader reads what another does when a line break comes after the text, and leaves it. -/
def ReadsAlike {Item : Type} (readItem other : Text → Option (Item × Text)) : Prop :=
  ∀ ⦃text item rest⦄, readItem text = some (item, rest) →
    other (text ++ ['\n']) = some (item, rest ++ ['\n'])

theorem readsAlike_readString : ReadsAlike readString readString := by
  intro text characters rest isRead
  obtain ⟨⟨units, behind⟩, unitsRead, isRead⟩ := Option.bind_eq_some_iff.mp isRead
  obtain ⟨found, isText, same⟩ := Option.bind_eq_some_iff.mp isRead
  obtain ⟨rfl, rfl⟩ := Prod.mk.inj (Option.some.inj same)
  rw [readString, readUnits_append unitsRead]
  show (charactersOf? units).bind _ = _
  rw [isText]
  rfl

theorem skipBlanks_append {text rest : Text} {c : Char} (starts : skipBlanks text = c :: rest) :
    skipBlanks (text ++ ['\n']) = c :: (rest ++ ['\n']) := by
  rw [skipBlanks] at starts
  rw [skipBlanks, List.dropWhile_append, starts]
  rfl

section

variable {Item : Type} {readItem other : Text → Option (Item × Text)}

theorem readsAlike_readItems (alike : ReadsAlike readItem other) (closing : Char) (bound : Nat) :
    ReadsAlike (readItems readItem closing bound) (readItems other closing (bound + 1)) := by
  induction bound with
  | zero => exact fun _ _ _ isRead => nomatch isRead
  | succ bound inductionHypothesis =>
    intro text items rest isRead
    obtain ⟨⟨item, behind⟩, itemRead, isRead⟩ := Option.bind_eq_some_iff.mp isRead
    rw [readItems, alike itemRead]
    show (match skipBlanks (behind ++ ['\n']) with | [] => _ | c :: after => _) = _
    cases starts : skipBlanks behind with
    | nil =>
      simp only [starts] at isRead
      nomatch isRead
    | cons c after =>
      simp only [starts] at isRead
      simp only [skipBlanks_append starts]
      split
      case isTrue closes =>
        rw [if_pos closes] at isRead
        obtain ⟨rfl, rfl⟩ := Prod.mk.inj (Option.some.inj isRead)
        rfl
      case isFalse goesOn =>
        rw [if_neg goesOn] at isRead
        split
        case isTrue comma =>
          rw [if_pos comma] at isRead
          obtain ⟨⟨others, last⟩, othersRead, same⟩ := Option.bind_eq_some_iff.mp isRead
          obtain ⟨rfl, rfl⟩ := Prod.mk.inj (Option.some.inj same)
          rw [inductionHypothesis othersRead]
          rfl
        case isFalse noComma =>
          rw [if_neg noComma] at isRead
          nomatch isRead

theorem readsAlike_readListed (alike : ReadsAlike readItem other) (closing : Char) (bound : Nat) :
    ReadsAlike (readListed readItem closing bound) (readListed other closing (bound + 1)) := by
  intro text items rest isRead
  rw [readListed] at isRead ⊢
  cases starts : skipBlanks text with
  | nil =>
    simp only [starts] at isRead
    nomatch isRead
  | cons c after =>
    simp only [starts] at isRead
    simp only [skipBlanks_append starts]
    split
    case isTrue closes =>
      rw [if_pos closes] at isRead
      obtain ⟨rfl, rfl⟩ := Prod.mk.inj (Option.some.inj isRead)
      rfl
    case isFalse goesOn =>
      rw [if_neg goesOn] at isRead
      exact readsAlike_readItems alike closing bound isRead

end

theorem readsAlike_readMember {readItem other : Text → Option (Json × Text)}
    (alike : ReadsAlike readItem other) :
    ReadsAlike (readMember readItem) (readMember other) := by
  intro text member rest isRead
  rw [readMember] at isRead ⊢
  split at isRead
  case h_1 after starts =>
    obtain ⟨⟨name, behind⟩, nameRead, isRead⟩ := Option.bind_eq_some_iff.mp isRead
    rw [skipBlanks_append starts]
    show (readString (after ++ ['\n'])).bind _ = _
    rw [readsAlike_readString nameRead]
    dsimp only at isRead
    split at isRead
    case h_1 value opens =>
      obtain ⟨⟨found, last⟩, valueRead, same⟩ := Option.map_eq_some_iff.mp isRead
      obtain ⟨rfl, rfl⟩ := Prod.mk.inj same
      show (match skipBlanks (behind ++ ['\n']) with | ':' :: value => _ | _ => _) = _
      rw [skipBlanks_append opens]
      show (other (value ++ ['\n'])).map _ = _
      rw [alike valueRead]
      rfl
    case h_2 => nomatch isRead
  case h_2 => nomatch isRead

/-- A number ends before a line break. -/
theorem span_isNumberCharacter_append (text : Text) :
    (text ++ ['\n']).span isNumberCharacter =
      (text.takeWhile isNumberCharacter, text.dropWhile isNumberCharacter ++ ['\n']) := by
  rw [List.span_eq_takeWhile_dropWhile, Prod.mk.injEq]
  induction text with
  | nil => decide
  | cons c rest inductionHypothesis =>
    obtain ⟨taken, dropped⟩ := inductionHypothesis
    cases inNumber : isNumberCharacter c <;> simp [*]

/-- What starts with a character of numbers is read as a number. -/
theorem readValue_number (bound : Nat) {text rest : Text} {c : Char}
    (starts : skipBlanks text = c :: rest) (inNumber : isNumberCharacter c = true) :
    readValue (bound + 1) text =
      let (written, rest) := (c :: rest).span isNumberCharacter
      if isNumber written then some (.number written, rest) else none := by
  rw [readValue, starts]
  split
  case h_7 => rfl
  all_goals
    rename_i same
    obtain ⟨rfl, -⟩ := List.cons_eq_cons.mp same
    nomatch inNumber

theorem readsAlike_readValue (bound : Nat) :
    ReadsAlike (readValue bound) (readValue (bound + 1)) := by
  induction bound with
  | zero => exact fun _ _ _ isRead => nomatch isRead
  | succ bound inductionHypothesis =>
    intro text value rest isRead
    rw [readValue] at isRead
    split at isRead
    case h_1 after starts | h_2 after starts | h_3 after starts =>
      obtain ⟨rfl, rfl⟩ := Prod.mk.inj (Option.some.inj isRead)
      rw [readValue, skipBlanks_append starts]
      rfl
    case h_4 after starts =>
      obtain ⟨⟨found, last⟩, textRead, same⟩ := Option.map_eq_some_iff.mp isRead
      obtain ⟨rfl, rfl⟩ := Prod.mk.inj same
      rw [readValue, skipBlanks_append starts]
      show (readString (after ++ ['\n'])).map _ = _
      rw [readsAlike_readString textRead]
      rfl
    case h_5 after starts =>
      obtain ⟨⟨found, last⟩, itemsRead, same⟩ := Option.map_eq_some_iff.mp isRead
      obtain ⟨rfl, rfl⟩ := Prod.mk.inj same
      rw [readValue, skipBlanks_append starts]
      show (readListed _ _ _ (after ++ ['\n'])).map _ = _
      rw [readsAlike_readListed inductionHypothesis _ _ itemsRead]
      rfl
    case h_6 after starts =>
      obtain ⟨⟨found, last⟩, membersRead, same⟩ := Option.map_eq_some_iff.mp isRead
      obtain ⟨rfl, rfl⟩ := Prod.mk.inj same
      rw [readValue, skipBlanks_append starts]
      show (readListed _ _ _ (after ++ ['\n'])).map _ = _
      rw [readsAlike_readListed (readsAlike_readMember inductionHypothesis) _ _ membersRead]
      rfl
    case h_7 =>
      rw [List.span_eq_takeWhile_dropWhile] at isRead
      dsimp only at isRead
      split at isRead
      case isFalse => nomatch isRead
      case isTrue isNumber =>
        obtain ⟨rfl, rfl⟩ := Prod.mk.inj (Option.some.inj isRead)
        cases starts : skipBlanks text with
        | nil =>
          rw [starts] at isNumber
          nomatch isNumber
        | cons c after =>
          rw [starts] at isNumber
          have inNumber : isNumberCharacter c = true := by
            by_contra notInNumber
            rw [List.takeWhile_cons_of_neg notInNumber] at isNumber
            nomatch isNumber
          rw [readValue_number _ (skipBlanks_append starts) inNumber, ← List.cons_append,
            span_isNumberCharacter_append]
          exact if_pos isNumber

/-- A line break behind a text changes nothing. -/
theorem Json.ofText?_append_newline {text : Text} {value : Json}
    (isRead : ofText? text = some value) : ofText? (text ++ ['\n']) = some value := by
  obtain ⟨⟨found, rest⟩, valueRead, isRead⟩ := Option.bind_eq_some_iff.mp isRead
  dsimp only at isRead
  split at isRead
  case isTrue ended =>
    have stillEnded : (skipBlanks (rest ++ ['\n'])).isEmpty = true := by
      rw [skipBlanks] at ended ⊢
      rw [List.dropWhile_append, if_pos ended]
      rfl
    rw [ofText?, List.length_append, List.length_singleton]
    show (readValue _ _).bind _ = _
    rw [readsAlike_readValue _ valueRead]
    exact (if_pos stillEnded).trans isRead
  case isFalse => nomatch isRead

end BlockCheck.CommandLine
