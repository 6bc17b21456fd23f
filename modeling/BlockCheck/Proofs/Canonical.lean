/-
This file writes single statements and headers as lines and proves that each line is read
back as what it was written from. Not everything can be written: a declaration whose name
holds a colon, say, would be read as another declaration. What can be written is said by
`Statement.IsCanonical` and `Header.IsCanonical`, in terms of the texts of a statement or
header: a plain text holds neither blanks nor brackets, and a phrase is plain words with
single spaces between them.

A line is read after it has been normalized, among the other lines of a program, so beside
the reading itself this file says what a written line does to everything that counts
brackets or lines.
-/

import BlockCheck.Proofs.Captured
import BlockCheck.Proofs.Headers
import BlockCheck.Proofs.Scans

namespace BlockCheck

/-! ### Plain texts and phrases -/

/-- A bracket of either kind. -/
def isBracket (c : Char) : Bool := c == '(' || c == ')' || isCurly c

/-- A text without blanks and brackets. -/
def IsPlain (text : Text) : Prop := ∀ c ∈ text, isBlank c = false ∧ isBracket c = false

/-- A text that is one word. -/
def IsWord (text : Text) : Prop := text ≠ [] ∧ ∀ c ∈ text, isBlank c = false

/-- Some words, possibly none, without brackets, with a single space between each two. -/
def IsPhrase (text : Text) : Prop :=
  ∃ parts : List Text, (∀ word ∈ parts, word ≠ [] ∧ IsPlain word) ∧ text = joinWords parts

/-- A text that holds no bracket and no blank but the space. -/
def IsFlat (text : Text) : Prop :=
  ∀ c ∈ text, (isBlank c = false ∨ c = ' ') ∧ isBracket c = false

theorem IsPlain.isFlat {text : Text} (plain : IsPlain text) : IsFlat text :=
  fun c member => ⟨.inl (plain c member).1, (plain c member).2⟩

theorem IsPlain.isWord {text : Text} (plain : IsPlain text) (nonempty : text ≠ []) : IsWord text :=
  ⟨nonempty, fun c member => (plain c member).1⟩

theorem IsFlat.append {front back : Text} (frontFlat : IsFlat front) (backFlat : IsFlat back) :
    IsFlat (front ++ back) :=
  List.forall_mem_append.mpr ⟨frontFlat, backFlat⟩

theorem IsFlat.cons {c : Char} {text : Text}
    (mild : (isBlank c = false ∨ c = ' ') ∧ isBracket c = false) (flat : IsFlat text) :
    IsFlat (c :: text) :=
  List.forall_mem_cons.mpr ⟨mild, flat⟩

theorem IsFlat.nil : IsFlat [] := fun _ member => absurd member List.not_mem_nil

/-- What holds of all characters of some texts and of a separator holds of all characters of the
joined texts. -/
theorem forall_mem_intercalate {property : Char → Prop} {separator : Text}
    (ofSeparator : ∀ c ∈ separator, property c) {texts : List Text}
    (ofTexts : ∀ text ∈ texts, ∀ c ∈ text, property c) :
    ∀ c ∈ separator.intercalate texts, property c := by
  induction texts with
  | nil => exact List.forall_mem_nil property
  | cons text rest inductionHypothesis =>
    obtain ⟨ofText, ofRest⟩ := List.forall_mem_cons.mp ofTexts
    cases rest with
    | nil => simpa using ofText
    | cons next others =>
      rw [List.intercalate_cons_cons, List.forall_mem_append, List.forall_mem_append]
      exact ⟨⟨ofText, ofSeparator⟩, inductionHypothesis ofRest⟩

theorem IsFlat.intercalate {separator : Text} (separatorFlat : IsFlat separator)
    {texts : List Text} (flat : ∀ text ∈ texts, IsFlat text) :
    IsFlat (separator.intercalate texts) :=
  forall_mem_intercalate separatorFlat flat

theorem IsFlat.not_mem {text : Text} (flat : IsFlat text) {c : Char}
    (bracket : isBracket c = true) : c ∉ text := by
  intro member
  simp [(flat c member).2] at bracket

theorem IsFlat.newline_not_mem {text : Text} (flat : IsFlat text) : '\n' ∉ text :=
  fun member => absurd (flat _ member).1 (by decide)

namespace IsPhrase

variable {text : Text} (phrase : IsPhrase text)

include phrase

theorem isFlat : IsFlat text := by
  obtain ⟨parts, plain, rfl⟩ := phrase
  exact .intercalate (.cons (by decide) .nil) fun word member => (plain word member).2.isFlat

/-- A phrase is its own normal form. -/
theorem normalize_eq : normalize text = text := by
  obtain ⟨parts, plain, rfl⟩ := phrase
  rw [normalize, words_joinWords fun word member =>
    ⟨(plain word member).1, fun c inside => ((plain word member).2 c inside).1⟩]

theorem isBlankText_eq_false (nonempty : text ≠ []) : isBlankText text = false := by
  rw [← Bool.not_eq_true, ← words_eq_nil_iff, ← normalize_eq_nil_iff, phrase.normalize_eq]
  exact nonempty

end IsPhrase

/-- A character of a word is one of the text. -/
theorem mem_of_mem_words {text word : Text} {c : Char} (member : word ∈ words text)
    (inside : c ∈ word) : c ∈ text := by
  have solidMember : c ∈ solid text := by
    rw [← flatten_words]
    exact List.mem_flatten_of_mem member inside
  exact (List.mem_filter.mp solidMember).1

/-- A text is a phrase when normalizing does not change it and it holds no bracket. -/
theorem isPhrase_iff {text : Text} :
    IsPhrase text ↔ normalize text = text ∧ ∀ c ∈ text, isBracket c = false := by
  constructor
  · exact fun phrase => ⟨phrase.normalize_eq, fun c member => (phrase.isFlat c member).2⟩
  · rintro ⟨normal, noBracket⟩
    refine ⟨words text, fun word member => ?_, normal.symm⟩
    obtain ⟨nonempty, noBlank⟩ := of_mem_words member
    refine ⟨nonempty, fun c inside => ⟨noBlank c inside, ?_⟩⟩
    exact noBracket c (mem_of_mem_words member inside)

/-- A first word that blanks follow. -/
theorem words_append_blanks {word blanks : Text} (isWord : IsWord word) (nonempty : blanks ≠ [])
    (blank : isBlankText blanks = true) (rest : Text) :
    words (word ++ (blanks ++ rest)) = word :: words rest := by
  obtain ⟨c, others, rfl⟩ := List.exists_cons_of_ne_nil nonempty
  simp only [isBlankText, List.all_cons, Bool.and_eq_true] at blank
  rw [List.cons_append, words_append_blank blank.1, words_eq_singleton isWord.1 isWord.2,
    words_blank_append blank.2, List.singleton_append]

/-- A first word that a space follows. -/
theorem words_append_space {word : Text} (isWord : IsWord word) (rest : Text) :
    words (word ++ ' ' :: rest) = word :: words rest :=
  words_append_blanks isWord (List.cons_ne_nil ' ' []) (by decide) rest

/-! ### Marks for brackets -/

/-- A mark that follows brackets: what it adds at an opening bracket it takes back at a closing
bracket of the same kind, and nothing else matters to it. -/
structure FollowsBrackets (mark : Char → NestingMark) : Prop where
  neutral : ∀ c, isBracket c = false → mark c = .neutral
  round : ∃ added, ∀ level,
    (mark '(').step? level = some (level + added) ∧ (mark ')').step? (level + added) = some level
  curly : ∃ added, ∀ level,
    (mark '{').step? level = some (level + added) ∧ (mark '}').step? (level + added) = some level

theorem followsBrackets_roundMark : FollowsBrackets roundMark where
  neutral c noBracket := by
    rw [roundMark, if_neg, if_neg] <;> rintro rfl <;> revert noBracket <;> decide
  round := ⟨1, fun _ => ⟨rfl, rfl⟩⟩
  curly := ⟨0, fun _ => ⟨rfl, rfl⟩⟩

theorem followsBrackets_curlyMark : FollowsBrackets curlyMark where
  neutral c noBracket := by
    rw [curlyMark, if_neg, if_neg] <;> rintro rfl <;> revert noBracket <;> decide
  round := ⟨0, fun _ => ⟨rfl, rfl⟩⟩
  curly := ⟨1, fun _ => ⟨rfl, rfl⟩⟩

theorem isBracket_of_blank {c : Char} (blank : isBlank c = true) : isBracket c = false := by
  rw [← Bool.not_eq_true]
  intro bracket
  simp only [isBracket, isCurly, Bool.or_eq_true, beq_iff_eq] at bracket
  rcases bracket with (rfl | rfl) | rfl | rfl <;> revert blank <;> decide

/-- A flat text leaves every level of brackets alone. -/
theorem IsFlat.follow?_eq {mark : Char → NestingMark} (follows : FollowsBrackets mark) {text : Text}
    (flat : IsFlat text) (level : Nat) : follow? mark level text = some level :=
  follow?_of_neutral mark (fun c member => follows.neutral c (flat c member).2) level

/-! ### Deciding what can be written

The conditions on all characters of a text are decided along the text; as statements about
all characters they would be decided character by character. -/

instance (text : Text) : Decidable (IsPlain text) :=
  decidable_of_iff (text.all (fun c => !isBlank c && !isBracket c) = true) (by simp [IsPlain])

instance (text : Text) : Decidable (IsFlat text) :=
  decidable_of_iff (text.all (fun c => (!isBlank c || c == ' ') && !isBracket c) = true)
    (by simp [IsFlat])

instance (text : Text) : Decidable (IsWord text) :=
  decidable_of_iff ((!text.isEmpty && text.all fun c => !isBlank c) = true) (by simp [IsWord])

instance (text : Text) : Decidable (IsPhrase text) :=
  decidable_of_iff (normalize text = text ∧ (text.all fun c => !isBracket c) = true)
    (by simp [isPhrase_iff])

/-! ### Statements -/

/-- The words that decide what a line is. -/
def keywords : List Text := [functionKeyword, loopKeyword, branchKeyword, returnKeyword]

/-- A statement that is read back from its line. -/
def Statement.IsCanonical : Statement → Prop
  | .declaration name value => IsPlain name ∧ ':' ∉ name ∧ IsPlain value
  | .returning value => IsPhrase value
  | .code text =>
    IsPhrase text ∧ text ≠ [] ∧ ∀ word ∈ words text, word ∉ keywords ∧ ':' ∉ word

instance (content : Statement) : Decidable content.IsCanonical :=
  match content with
  | .declaration name value =>
    inferInstanceAs (Decidable (IsPlain name ∧ ':' ∉ name ∧ IsPlain value))
  | .returning value => inferInstanceAs (Decidable (IsPhrase value))
  | .code text => inferInstanceAs (Decidable
      (IsPhrase text ∧ text ≠ [] ∧ ∀ word ∈ words text, word ∉ keywords ∧ ':' ∉ word))

/-- The line of a statement. -/
def Statement.render : Statement → Text
  | .declaration name value => name ++ ':' :: value
  | .returning value => returnKeyword ++ ' ' :: value
  | .code text => text

theorem LineForm.ofLine_normalize (line : Text) :
    LineForm.ofLine (normalize line) =
      LineForm.ofWords (normalize line) (words line) (words line) := by
  rw [LineForm.ofLine, words_normalize]

/-- A word with a colon that no deciding word precedes makes a declaration. -/
theorem LineForm.ofWords_declaration (line : Text) (allWords following : List Text) {name : Text}
    (absent : ':' ∉ name) (value : Text) :
    LineForm.ofWords line allWords ((name ++ ':' :: value) :: following) =
      .statement (.declaration name value) := by
  have noKeyword : ∀ keyword ∈ keywords, name ++ ':' :: value ≠ keyword := by
    intro keyword member same
    have noColon : ∀ keyword ∈ keywords, ':' ∉ keyword := by decide
    exact noColon keyword member (same ▸ by simp)
  simp only [keywords, List.forall_mem_cons] at noKeyword
  obtain ⟨notFunction, notLoop, notBranch, notReturn, -⟩ := noKeyword
  rw [LineForm.ofWords, if_neg notReturn, if_neg notFunction, if_neg notLoop, if_neg notBranch,
    cutAt?_eq_some_iff.mpr ⟨rfl, absent⟩]

/-- Words that do not decide are passed over. -/
theorem LineForm.ofWords_append (line : Text) (allWords : List Text) {before : List Text}
    (undecided : ∀ word ∈ before, word ∉ keywords ∧ ':' ∉ word) (rest : List Text) :
    LineForm.ofWords line allWords (before ++ rest) = LineForm.ofWords line allWords rest := by
  induction before with
  | nil => rfl
  | cons word following inductionHypothesis =>
    obtain ⟨⟨noKeyword, noColon⟩, later⟩ := List.forall_mem_cons.mp undecided
    simp only [keywords, List.mem_cons, List.not_mem_nil, or_false, not_or] at noKeyword
    obtain ⟨notFunction, notLoop, notBranch, notReturn⟩ := noKeyword
    rw [List.cons_append, LineForm.ofWords, if_neg notReturn, if_neg notFunction, if_neg notLoop,
      if_neg notBranch, cutAt?_eq_none_iff.mpr noColon]
    exact inductionHypothesis later

/-- Where no word decides, the line is a line of code. -/
theorem LineForm.ofWords_code (line : Text) (allWords : List Text) {remaining : List Text}
    (undecided : ∀ word ∈ remaining, word ∉ keywords ∧ ':' ∉ word) :
    LineForm.ofWords line allWords remaining = .statement (.code line) := by
  have passed := LineForm.ofWords_append line allWords undecided []
  rwa [List.append_nil] at passed

namespace Statement

variable {content : Statement}

theorem words_render_declaration {name value : Text}
    (canonical : (Statement.declaration name value).IsCanonical) :
    words (Statement.declaration name value).render = [name ++ ':' :: value] := by
  obtain ⟨namePlain, -, valuePlain⟩ := canonical
  refine words_eq_singleton (by simp [render]) fun c member => ?_
  rcases List.mem_append.mp member with inName | inRest
  · exact (namePlain c inName).1
  · rcases List.mem_cons.mp inRest with rfl | inValue
    · decide
    · exact (valuePlain c inValue).1

theorem words_render_returning (value : Text) :
    words (Statement.returning value).render = returnKeyword :: words value :=
  words_append_space (by decide) value

namespace IsCanonical

/-- The line of a statement is read back as that statement. -/
theorem ofLine_render (canonical : content.IsCanonical) :
    LineForm.ofLine (normalize content.render) = .statement content := by
  rw [LineForm.ofLine_normalize]
  cases content with
  | declaration name value =>
    rw [words_render_declaration canonical]
    exact LineForm.ofWords_declaration _ _ _ canonical.2.1 value
  | returning value =>
    rw [words_render_returning, LineForm.ofWords, if_pos rfl, ← normalize,
      IsPhrase.normalize_eq canonical]
  | code text =>
    obtain ⟨phrase, -, undecided⟩ := canonical
    rw [render, LineForm.ofWords_code _ _ undecided, phrase.normalize_eq]

theorem isFlat_render (canonical : content.IsCanonical) : IsFlat content.render := by
  cases content with
  | declaration name value =>
    obtain ⟨namePlain, -, valuePlain⟩ := canonical
    exact namePlain.isFlat.append (.cons (by decide) valuePlain.isFlat)
  | returning value =>
    have keywordFlat : IsFlat returnKeyword := by decide
    exact keywordFlat.append (.cons (by decide) (IsPhrase.isFlat canonical))
  | code text => exact canonical.1.isFlat

theorem blockMark_render (canonical : content.IsCanonical) :
    blockMark (normalize content.render) = .neutral := by
  have noBracket : ∀ c, isBracket c = true → isBlank c = false → c ∉ normalize content.render :=
    fun c bracket notBlank member =>
      canonical.isFlat_render.not_mem bracket ((mem_normalize_iff notBlank).mp member)
  rw [blockMark, if_neg, if_neg]
  · intro atEnd
    exact noBracket '{' (by decide) (by decide) (List.mem_of_getLast? atEnd)
  · intro isClosing
    exact noBracket '}' (by decide) (by decide) (isClosing ▸ List.mem_singleton_self '}')

theorem words_render_ne_nil (canonical : content.IsCanonical) : words content.render ≠ [] := by
  cases content with
  | declaration name value => simp [words_render_declaration canonical]
  | returning value => simp [words_render_returning]
  | code text =>
    obtain ⟨phrase, nonempty, -⟩ := canonical
    rw [render, Ne, words_eq_nil_iff, phrase.isBlankText_eq_false nonempty]
    simp

/-- A statement starts no loop. -/
theorem lineHasLoopClauses_render (canonical : content.IsCanonical) :
    lineHasLoopClauses content.render = true := by
  have noLoop : firstWord content.render ≠ loopKeyword := by
    cases content with
    | declaration name value =>
      rw [firstWord, words_render_declaration canonical]
      intro same
      have noColon : ':' ∉ loopKeyword := by decide
      exact noColon (same ▸ by simp)
    | returning value =>
      rw [firstWord, words_render_returning, List.headD_cons]
      decide
    | code text =>
      rw [firstWord, render]
      cases found : words text with
      | nil => decide
      | cons word rest =>
        have notKeyword := (canonical.2.2 word (found ▸ List.mem_cons_self)).1
        rintro rfl
        exact notKeyword (by decide)
  rw [lineHasLoopClauses, bne_iff_ne.mpr noLoop, Bool.true_or]

end IsCanonical

end Statement

/-! ### Headers -/

/-- A header that is read back from its line. -/
def Header.IsCanonical : Header → Prop
  | .function name parameters returnType =>
    (name ≠ [] ∧ IsPlain name) ∧
      (∀ parameter ∈ parameters, IsPhrase parameter ∧ parameter ≠ [] ∧ ',' ∉ parameter) ∧
      (returnType ≠ [] ∧ IsPlain returnType)
  | .loop initializer condition increment =>
    (IsPhrase initializer ∧ clauseSeparator ∉ initializer) ∧
      (IsPhrase condition ∧ clauseSeparator ∉ condition) ∧ IsPhrase increment
  | .branch condition => IsPhrase condition

instance (header : Header) : Decidable header.IsCanonical :=
  match header with
  | .function name parameters returnType => inferInstanceAs (Decidable ((name ≠ [] ∧ IsPlain name) ∧
      (∀ parameter ∈ parameters, IsPhrase parameter ∧ parameter ≠ [] ∧ ',' ∉ parameter) ∧
      (returnType ≠ [] ∧ IsPlain returnType)))
  | .loop initializer condition increment => inferInstanceAs (Decidable
      ((IsPhrase initializer ∧ clauseSeparator ∉ initializer) ∧
        (IsPhrase condition ∧ clauseSeparator ∉ condition) ∧ IsPhrase increment))
  | .branch condition => inferInstanceAs (Decidable (IsPhrase condition))

/-- The line of a header, up to the curly bracket that ends it. -/
def Header.front : Header → Text
  | .function name parameters returnType =>
    functionKeyword ++ ' ' :: (name ++ ' ' :: '(' :: ' ' ::
      ([',', ' '].intercalate parameters ++ ' ' :: ')' :: ' ' :: returnType))
  | .loop initializer condition increment =>
    loopKeyword ++ ' ' :: (initializer ++ clauseSeparator :: ' ' ::
      (condition ++ clauseSeparator :: ' ' :: increment))
  | .branch condition => branchKeyword ++ ' ' :: '(' :: ' ' :: (condition ++ [' ', ')'])

/-- The line of a header. -/
def Header.render (header : Header) : Text := header.front ++ [' ', '{']

/-- A flat text with a space on both sides. -/
theorem IsFlat.spaced {text : Text} (flat : IsFlat text) : IsFlat (' ' :: (text ++ [' '])) :=
  .cons (by decide) (flat.append (.cons (by decide) .nil))

theorem normalize_spaced (text : Text) : normalize (' ' :: (text ++ [' '])) = normalize text := by
  rw [normalize_cons_blank isBlank_space, normalize_eq_normalize_iff,
    words_append_singleton_blank isBlank_space]

theorem isFlat_parameters {parameters : List Text}
    (canonical : ∀ parameter ∈ parameters, IsPhrase parameter ∧ parameter ≠ [] ∧ ',' ∉ parameter) :
    IsFlat ([',', ' '].intercalate parameters) :=
  .intercalate (.cons (by decide) (.cons (by decide) .nil)) fun parameter member =>
    (canonical parameter member).1.isFlat

theorem isBlankText_intercalate_eq_false {separator first : Text} (rest : List Text)
    (notBlank : isBlankText first = false) :
    isBlankText (separator.intercalate (first :: rest)) = false := by
  cases rest with
  | nil => simpa using notBlank
  | cons next others => simp [List.intercalate_cons_cons, isBlankText_append, notBlank]

/-- Parameters are read back from between the brackets of a function. -/
theorem parameters_of_intercalate {parameters : List Text}
    (canonical : ∀ parameter ∈ parameters, IsPhrase parameter ∧ parameter ≠ [] ∧ ',' ∉ parameter) :
    (if isBlankText (' ' :: ([',', ' '].intercalate parameters ++ [' '])) then []
      else ((' ' :: ([',', ' '].intercalate parameters ++ [' '])).splitOn ',').map normalize) =
      parameters := by
  cases parameters with
  | nil => decide
  | cons first rest =>
    obtain ⟨phrase, nonempty, -⟩ := canonical first List.mem_cons_self
    have joinedNotBlank : isBlankText ([',', ' '].intercalate (first :: rest)) = false :=
      isBlankText_intercalate_eq_false rest (phrase.isBlankText_eq_false nonempty)
    have notBlank :
        isBlankText (' ' :: ([',', ' '].intercalate (first :: rest) ++ [' '])) = false := by
      rw [← List.singleton_append, isBlankText_append, isBlankText_append, joinedNotBlank,
        Bool.false_and, Bool.and_false]
    have own : (first :: rest).map normalize = first :: rest :=
      (List.map_congr_left fun parameter member =>
        (canonical parameter member).1.normalize_eq).trans (List.map_id' _)
    rw [notBlank, map_normalize_splitOn_congr (by decide) (normalize_spaced _),
      map_normalize_splitOn_intercalate (by simp) fun parameter member =>
        (canonical parameter member).2.2, own]
    rfl

namespace Header

variable {header : Header} {name returnType initializer condition increment : Text}
  {parameters : List Text}

theorem words_render_function (nonempty : name ≠ []) (plain : IsPlain name)
    (parameters : List Text) (returnType : Text) :
    ∃ rest, words (Header.function name parameters returnType).render =
      functionKeyword :: name :: rest := by
  simp only [render, front, List.append_assoc, List.cons_append]
  rw [words_append_space (by decide),
    words_append_space (plain.isWord nonempty)]
  exact ⟨_, rfl⟩

theorem isFlat_beforeParameters (plain : IsPlain name) :
    IsFlat (functionKeyword ++ ' ' :: (name ++ [' '])) :=
  IsFlat.append (by decide) plain.isFlat.spaced

theorem functionHeader?_render
    (canonical : (Header.function name parameters returnType).IsCanonical) (rest : List Text) :
    functionHeader? (normalize (Header.function name parameters returnType).render)
      (name :: rest) = some (.function name parameters returnType) := by
  obtain ⟨⟨-, namePlain⟩, parametersCanonical, typeNonempty, typePlain⟩ := canonical
  have shape : (Header.function name parameters returnType).render =
      (functionKeyword ++ ' ' :: (name ++ [' '])) ++ '(' ::
        ((' ' :: ([',', ' '].intercalate parameters ++ [' '])) ++ ')' ::
          ' ' :: (returnType ++ ' ' :: ['{'])) := by
    simp [render, front]
  have beforeFlat := isFlat_beforeParameters namePlain
  have innerFlat := (isFlat_parameters parametersCanonical).spaced
  have ownName : name.takeWhile (· != '(') = name := by
    have absent : '(' ∉ name := namePlain.isFlat.not_mem (by decide)
    have kept : ∀ c ∈ name, (c != '(') = true := fun c member =>
      bne_iff_ne.mpr fun same => absent (same ▸ member)
    rw [← List.append_nil name, List.takeWhile_append_of_pos (by simpa using kept),
      List.takeWhile_nil]
  have ownType : firstWord (' ' :: (returnType ++ ' ' :: ['{'])) = returnType := by
    rw [firstWord, words_cons_blank isBlank_space,
      words_append_space (typePlain.isWord typeNonempty)]
    rfl
  rw [shape, functionHeader?_normalize _ (beforeFlat.not_mem (by decide))
    (beforeFlat.not_mem (by decide)) (innerFlat.not_mem (by decide)),
    parameters_of_intercalate parametersCanonical, ownType, List.headD_cons, ownName]

theorem loopHeader?_render (canonical : (Header.loop initializer condition increment).IsCanonical) :
    ∃ following, words (Header.loop initializer condition increment).render =
        loopKeyword :: following ∧
      loopHeader? following = some (.loop initializer condition increment) := by
  obtain ⟨⟨first, firstAbsent⟩, ⟨second, secondAbsent⟩, third⟩ := canonical
  have secondFlat : IsFlat (' ' :: condition) := .cons (by decide) second.isFlat
  have secondOwn : normalize (' ' :: condition) = condition := by
    rw [normalize_cons_blank isBlank_space, second.normalize_eq]
  have thirdOwn : trim (dropEnd isCurly (normalize (' ' :: (increment ++ [' '])))) = increment := by
    rw [trim_dropEnd_normalize (third.isFlat.spaced.not_mem (by decide))
      (third.isFlat.spaced.not_mem (by decide)), normalize_spaced, third.normalize_eq]
  have shape : (Header.loop initializer condition increment).render =
      loopKeyword ++ ' ' :: (initializer ++ clauseSeparator :: ((' ' :: condition) ++
        clauseSeparator :: ((' ' :: (increment ++ [' '])) ++ '{' :: []))) := by
    simp [render, front]
  rw [shape, words_append_space (by decide)]
  refine ⟨_, rfl, ?_⟩
  rw [loopHeader?_words firstAbsent (first.isFlat.not_mem (by decide))
    (by simpa [clauseSeparator] using secondAbsent) (secondFlat.not_mem (by decide))
    (third.isFlat.spaced.not_mem (by decide)), first.normalize_eq, secondOwn, thirdOwn]

theorem branchHeader?_render (canonical : (Header.branch condition).IsCanonical) :
    words (Header.branch condition).render =
        branchKeyword :: ['('] :: (words condition ++ [[')'], ['{']]) ∧
      branchHeader? (words (Header.branch condition).render) = some (.branch condition) := by
  have shape : words (Header.branch condition).render =
      branchKeyword :: ['('] :: (words condition ++ [[')'], ['{']]) := by
    have written : (Header.branch condition).render =
        branchKeyword ++ ' ' ::
          (['('] ++ ' ' :: (condition ++ ' ' :: ([')'] ++ ' ' :: ['{']))) := by
      simp [render, front]
    have lastIsWord : IsWord ['{'] := by decide
    have lastWord : words ['{'] = [['{']] := words_eq_singleton lastIsWord.1 lastIsWord.2
    rw [written, words_append_space (by decide),
      words_append_space (by decide), words_append_blank isBlank_space condition,
      words_append_space (by decide), lastWord]
  refine ⟨shape, ?_⟩
  rw [shape]
  have phrase : IsPhrase condition := canonical
  have noInnerClosing : ∀ word ∈ words condition, ')' ∉ word := fun word member inside =>
    phrase.isFlat.not_mem (by decide) (mem_of_mem_words member inside)
  have found := branchHeader?_append (show ∀ word ∈ [branchKeyword], '(' ∉ word by decide)
    (show ∀ word ∈ [branchKeyword] ++ [['(']], ')' ∉ word by decide) (by decide)
    noInnerClosing (show ')' ∈ [')'] by decide) [['{']]
  rw [show joinWords (words condition) = condition from phrase.normalize_eq] at found
  exact found

/-- Outside of the round brackets that it opens and closes, the line of a header is flat. -/
theorem front_cases (canonical : header.IsCanonical) :
    IsFlat header.front ∨ ∃ before inside after, IsFlat before ∧ IsFlat inside ∧ IsFlat after ∧
      header.front = before ++ '(' :: (inside ++ ')' :: after) := by
  cases header with
  | function name parameters returnType =>
    obtain ⟨⟨-, namePlain⟩, parametersCanonical, -, typePlain⟩ := canonical
    have afterFlat : IsFlat (' ' :: returnType) := .cons (by decide) typePlain.isFlat
    refine .inr ⟨_, _, _, isFlat_beforeParameters namePlain,
      (isFlat_parameters parametersCanonical).spaced, afterFlat, ?_⟩
    simp [front]
  | loop initializer condition increment =>
    obtain ⟨⟨first, -⟩, ⟨second, -⟩, third⟩ := canonical
    have keywordFlat : IsFlat loopKeyword := by decide
    refine .inl (keywordFlat.append (.cons (by decide) (first.isFlat.append ?_)))
    refine .cons (by decide) (.cons (by decide) (second.isFlat.append ?_))
    exact .cons (by decide) (.cons (by decide) third.isFlat)
  | branch condition =>
    have phrase : IsPhrase condition := canonical
    have keywordFlat : IsFlat branchKeyword := by decide
    have beforeFlat : IsFlat (branchKeyword ++ [' ']) := keywordFlat.append (.cons (by decide) .nil)
    refine .inr ⟨_, _, _, beforeFlat, phrase.isFlat.spaced, .nil, ?_⟩
    simp [front]

theorem blockMark_render (header : Header) : blockMark (normalize header.render) = .opens := by
  have written : header.render = (header.front ++ [' ']) ++ '{' :: [] := by simp [render]
  obtain ⟨blanks, -, shape⟩ :=
    normalize_append_mark (show isBlank '{' = false by decide) (header.front ++ [' ']) []
  rw [blockMark_eq_opens_iff, written, shape]
  simp [gap]

theorem words_render_ne_nil (header : Header) : words header.render ≠ [] := by
  rw [Ne, words_eq_nil_iff, render, isBlankText_append]
  have notBlank : isBlankText [' ', '{'] = false := by decide
  simp [notBlank]

namespace IsCanonical

/-- The line of a header is read back as that header. -/
theorem ofLine_render (canonical : header.IsCanonical) :
    LineForm.ofLine (normalize header.render) = .header header := by
  rw [LineForm.ofLine_normalize]
  cases header with
  | function name parameters returnType =>
    obtain ⟨rest, found⟩ :=
      words_render_function canonical.1.1 canonical.1.2 parameters returnType
    have read := functionHeader?_render canonical rest
    rw [found]
    exact congrArg LineForm.ofHeader? read
  | loop initializer condition increment =>
    obtain ⟨following, found, read⟩ := loopHeader?_render canonical
    rw [found]
    exact congrArg LineForm.ofHeader? read
  | branch condition =>
    obtain ⟨found, read⟩ := branchHeader?_render canonical
    rw [found] at read ⊢
    exact congrArg LineForm.ofHeader? read

/-- A header that starts a loop has its three clauses. -/
theorem lineHasLoopClauses_render (canonical : header.IsCanonical) :
    lineHasLoopClauses header.render = true := by
  rw [lineHasLoopClauses, firstWord]
  cases header with
  | function name parameters returnType =>
    obtain ⟨rest, found⟩ :=
      words_render_function canonical.1.1 canonical.1.2 parameters returnType
    rw [found]
    rfl
  | loop initializer condition increment =>
    have enough :
        2 ≤ (Header.loop initializer condition increment).render.count clauseSeparator := by
      simp only [render, front, List.count_append, List.count_cons, beq_self_eq_true, if_true]
      omega
    rw [decide_eq_true enough, Bool.or_true]
  | branch condition =>
    rw [(branchHeader?_render canonical).1]
    rfl

/-- The round brackets of a header are closed on its line. -/
theorem follow?_front {mark : Char → NestingMark} (follows : FollowsBrackets mark)
    (canonical : header.IsCanonical) (level : Nat) :
    follow? mark level header.front = some level := by
  rcases front_cases canonical with flat | ⟨before, inside, after, beforeFlat, insideFlat,
    afterFlat, shape⟩
  · exact flat.follow?_eq follows level
  · obtain ⟨added, round⟩ := follows.round
    rw [shape, follow?_append, beforeFlat.follow?_eq follows, Option.bind_some, follow?_cons,
      (round level).1, Option.bind_some, follow?_append, insideFlat.follow?_eq follows,
      Option.bind_some, follow?_cons, (round level).2, Option.bind_some]
    exact afterFlat.follow?_eq follows level

/-- After a header there is what its mark adds at a curly bracket. -/
theorem follow?_render {mark : Char → NestingMark} (follows : FollowsBrackets mark) {added : Nat}
    (curly : ∀ level, (mark '{').step? level = some (level + added))
    (canonical : header.IsCanonical) (level : Nat) :
    follow? mark level header.render = some (level + added) := by
  rw [render, follow?_append, follow?_front follows canonical, Option.bind_some, follow?_cons,
    follows.neutral ' ' (by decide), NestingMark.step?, Option.bind_some, follow?_cons, curly]
  rfl

theorem newline_not_mem_render (canonical : header.IsCanonical) : '\n' ∉ header.render := by
  rcases front_cases canonical with flat | ⟨before, inside, after, beforeFlat, insideFlat,
    afterFlat, shape⟩
  · simp [render, flat.newline_not_mem]
  · simp [render, shape, beforeFlat.newline_not_mem, insideFlat.newline_not_mem,
      afterFlat.newline_not_mem]

end IsCanonical

end Header

end BlockCheck
