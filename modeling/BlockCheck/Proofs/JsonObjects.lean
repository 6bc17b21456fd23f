/-
This file proves that a JSON object is read from the text that is written for it, whatever its
members are (`ofText?_writeObject`). What is written for a string is read up to the quote that
closes it, since quotes and backslashes inside are escaped; so what follows a member is left as it
is, and members are read one after the other.
-/

import BlockCheck.CommandLine.Report
import BlockCheck.Proofs.JsonReading

namespace BlockCheck.CommandLine

/-! ### Reading what was escaped -/

/-- A character is no surrogate, so the numbers of characters are those characters. -/
theorem charactersOf?_map_toNat (text : Text) :
    charactersOf? (text.map Char.toNat) = some text := by
  induction text with
  | nil => rfl
  | cons c rest inductionHypothesis =>
    have noSurrogate : c.toNat < 0xD800 ∨ 0xE000 ≤ c.toNat := by
      rcases c.valid with low | ⟨high, -⟩
      · exact .inl low
      · exact .inr high
    rw [List.map_cons, charactersOf?.eq_def]
    simp only
    rw [if_neg (by omega), if_neg (by omega), inductionHypothesis, Option.map_some,
      Char.ofNat_toNat]

/-- The code of a control character has four digits, the first two of which are zeros. -/
theorem hexadecimal?_control : ∀ code < 0x20,
    hexadecimal? ['0', '0', Nat.digitChar (code / 16), Nat.digitChar (code % 16)] = some code := by
  decide

/-- Every letter after a backslash is read as the character that it is written for. -/
theorem escaped?_of_mem : ∀ pair ∈ escapedLetters, escaped? pair.2 = some pair.1.toNat := by
  decide

/-- One escaped character is read as the number of that character. -/
theorem readUnits_escapeJson (c : Char) (rest : Text) :
    readUnits (escapeJson c ++ rest) = afterUnit c.toNat (readUnits rest) := by
  unfold escapeJson
  cases isLetter : escapedLetters.lookup c with
  | some letter =>
    obtain ⟨before, after, split, -⟩ := List.lookup_eq_some_iff.mp isLetter
    have member : (c, letter) ∈ escapedLetters := split ▸ List.mem_append_right _ List.mem_cons_self
    exact readUnits_escaped (escaped?_of_mem _ member) rest
  | none =>
    have ordinary : c ≠ '"' ∧ c ≠ '\\' := by
      constructor <;> rintro rfl <;> exact absurd isLetter (by decide)
    dsimp only
    split
    case isTrue control =>
      show (hexadecimal? _).bind _ = _
      rw [hexadecimal?_control c.toNat control]
      rfl
    case isFalse printable =>
      rw [List.singleton_append, readUnits.eq_def]
      simp only
      rw [if_neg ordinary.1, if_neg ordinary.2, if_neg printable]

/-- An escaped text is read up to the quote that follows it. -/
theorem readUnits_flatMap_escapeJson (text rest : Text) :
    readUnits (text.flatMap escapeJson ++ '"' :: rest) = some (text.map Char.toNat, rest) := by
  induction text with
  | nil =>
    rw [List.flatMap_nil, List.nil_append, readUnits.eq_def]
    rfl
  | cons c others inductionHypothesis =>
    rw [List.flatMap_cons, List.append_assoc, readUnits_escapeJson, inductionHypothesis]
    rfl

/-- An escaped text is read as it was. -/
theorem readString_flatMap_escapeJson (text rest : Text) :
    readString (text.flatMap escapeJson ++ '"' :: rest) = some (text, rest) := by
  rw [readString, readUnits_flatMap_escapeJson]
  show (charactersOf? (text.map Char.toNat)).bind _ = _
  rw [charactersOf?_map_toNat]
  rfl

/-! ### Reading what was written for an object -/

section

variable (bound : Nat) (rest : Text)

theorem readValue_scalar (scalar : Scalar) :
    readValue (bound + 1) (' ' :: (writeScalar scalar ++ rest)) =
      some (.ofScalar scalar, rest) := by
  cases scalar with
  | null => rfl
  | bool value => cases value <;> rfl
  | string text =>
    show (readString (text.toList.flatMap escapeJson ++ ['"'] ++ rest)).map _ = _
    rw [List.append_assoc, List.singleton_append, readString_flatMap_escapeJson]
    rfl

theorem readMember_writeMember (member : String × Scalar) :
    readMember (readValue (bound + 1)) ('\n' :: (writeMember member ++ rest)) =
      some ((member.1.toList, .ofScalar member.2), rest) := by
  have shape : writeMember member ++ rest = ' ' :: ' ' :: '"' ::
      (member.1.toList.flatMap escapeJson ++ '"' :: ':' :: ' ' ::
        (writeScalar member.2 ++ rest)) := by
    simp [writeMember, quoteJson]
  rw [shape]
  show (readString _).bind _ = _
  rw [readString_flatMap_escapeJson]
  show (readValue (bound + 1) (' ' :: (writeScalar member.2 ++ rest))).map _ = _
  rw [readValue_scalar]
  rfl

theorem writeMembers_cons_cons (first second : String × Scalar)
    (members : List (String × Scalar)) : writeMembers (first :: second :: members) =
      writeMember first ++ ',' :: '\n' :: writeMembers (second :: members) := rfl

/-- Members are read up to the bracket that closes the object, when there are no more of them than
the bound. -/
theorem readItems_writeMembers (first : String × Scalar) (members : List (String × Scalar))
    {count : Nat} (enough : members.length < count) :
    readItems (readMember (readValue (bound + 1))) '}' count
        ('\n' :: (writeMembers (first :: members) ++ '\n' :: '}' :: rest)) =
      some ((first :: members).map fun member => (member.1.toList, .ofScalar member.2), rest) := by
  induction members generalizing first count with
  | nil =>
    obtain ⟨count, rfl⟩ := Nat.exists_eq_add_one.mpr enough
    rw [readItems, writeMembers, readMember_writeMember]
    rfl
  | cons second members inductionHypothesis =>
    obtain ⟨count, rfl⟩ := Nat.exists_eq_add_one.mpr (Nat.zero_lt_of_lt enough)
    have later := inductionHypothesis second (Nat.lt_of_succ_lt_succ enough)
    rw [readItems, writeMembers_cons_cons, List.append_assoc, readMember_writeMember]
    show (readItems _ _ _ ('\n' :: (writeMembers (second :: members) ++ _))).bind _ = _
    rw [later]
    rfl

theorem length_le_length_writeMembers : (members : List (String × Scalar)) →
    members.length ≤ (writeMembers members).length
  | [] => Nat.le_refl 0
  | [member] => Nat.le_add_left 1 _
  | first :: second :: members => by
    have later := length_le_length_writeMembers (second :: members)
    rw [writeMembers_cons_cons, List.length_append]
    simp only [List.length_cons] at later ⊢
    omega

end

/-- What does not start with the closing character is read as items. -/
theorem readListed_eq_readItems {Item : Type} (readItem : Text → Option (Item × Text))
    {closing c : Char} {text rest : Text} (bound : Nat) (starts : skipBlanks text = c :: rest)
    (notClosing : c ≠ closing) :
    readListed readItem closing bound text = readItems readItem closing bound text := by
  rw [readListed, starts]
  exact if_neg notClosing

theorem readValue_object (bound : Nat) (rest : Text) : readValue (bound + 1) ('{' :: rest) =
    (readListed (readMember (readValue bound)) '}' bound rest).map
      fun (members, rest) => (.object members, rest) := rfl

/-- An object is read from the text that is written for it. -/
theorem ofText?_writeObject (members : List (String × Scalar)) :
    Json.ofText? (writeObject members) = some (.ofMembers members) := by
  cases members with
  | nil => rfl
  | cons first members =>
    have shape : writeObject (first :: members) =
        '{' :: '\n' :: (writeMembers (first :: members) ++ ['\n', '}']) := rfl
    obtain ⟨bound, length⟩ : ∃ bound, (writeObject (first :: members)).length = bound + 1 :=
      ⟨_, rfl⟩
    have enough : members.length < bound + 1 := by
      have bounded := length_le_length_writeMembers (first :: members)
      rw [← length, shape]
      simp only [List.length_cons, List.length_append] at bounded ⊢
      omega
    obtain ⟨others, quote⟩ : ∃ others,
        skipBlanks ('\n' :: (writeMembers (first :: members) ++ ['\n', '}'])) = '"' :: others := by
      cases members <;> exact ⟨_, rfl⟩
    rw [Json.ofText?, length, shape, readValue_object,
      readListed_eq_readItems _ _ quote (by decide),
      readItems_writeMembers bound [] first members enough]
    rfl

end BlockCheck.CommandLine
