/-
This file says which arguments the command line accepts and what it takes them to ask for. The
arguments up to two dashes that stand alone are flags and names, in any order; what comes after the
dashes is names only. Arguments are accepted when all flags are known, none but those for verbosity
is repeated, and there is at most one name.

Taking arguments goes from the left and changes options on the way. What the options have to do
with the arguments is therefore said of options that were changed before (`take_eq_ok_iff`), and
of the initial options in the end (`ofArguments_eq_ok_iff`).
-/

import BlockCheck.CommandLine.Arguments
import Mathlib.Tactic.MkIffOfInductiveProp

namespace BlockCheck.CommandLine

/-! ### Flags and names -/

/-- A flag starts with a dash and goes on after it. -/
def isFlag (argument : String) : Bool := argument.toList.head? == some '-' && argument != "-"

/-- The flags among some arguments, in order. -/
def flagsOf (arguments : List String) : List String :=
  (arguments.takeWhile (· != "--")).filter isFlag

/-- The names among some arguments: those that are no flags, and all that come after two dashes. -/
def namesOf (arguments : List String) : List String :=
  (arguments.takeWhile (· != "--")).filter (fun argument => !isFlag argument) ++
    (arguments.dropWhile (· != "--")).tail

/-- A flag asks for more detail: by its full name, or by a dash and one letter or more. -/
def IsVerbosityFlag (flag : String) : Prop :=
  flag = "--verbose" ∨ ∃ count, flag.toList = '-' :: List.replicate (count + 1) 'v'

/-- A flag that changes what is reported or how much detail is asked for. -/
def IsKnownFlag (flag : String) : Prop :=
  flag = "--json" ∨ flag = "--no-color" ∨ IsVerbosityFlag flag

/-- Some arguments ask for a program to be checked. -/
@[mk_iff]
structure IsAccepted (arguments : List String) : Prop where
  known : ∀ flag ∈ flagsOf arguments, IsKnownFlag flag
  jsonOnce : (flagsOf arguments).count "--json" ≤ 1
  plainOnce : (flagsOf arguments).count "--no-color" ≤ 1
  oneName : (namesOf arguments).length ≤ 1
  named : "" ∉ namesOf arguments

theorem isVerbosityFlag_iff {flag : String} : IsVerbosityFlag flag ↔
    flag = "--verbose" ∨ 2 ≤ flag.toList.length ∧
      flag.toList = '-' :: List.replicate (flag.toList.length - 1) 'v' := by
  refine or_congr_right ⟨fun ⟨count, written⟩ => ?_, fun ⟨long, written⟩ => ?_⟩
  · simp [written]
  · refine ⟨flag.toList.length - 2, ?_⟩
    rwa [show flag.toList.length - 2 + 1 = flag.toList.length - 1 by omega]

instance (flag : String) : Decidable (IsVerbosityFlag flag) :=
  decidable_of_iff _ isVerbosityFlag_iff.symm

instance (flag : String) : Decidable (IsKnownFlag flag) :=
  inferInstanceAs (Decidable (_ ∨ _ ∨ _))

instance (arguments : List String) : Decidable (IsAccepted arguments) :=
  decidable_of_iff _ (isAccepted_iff arguments).symm

theorem flagsOf_dashes (rest : List String) : flagsOf ("--" :: rest) = [] := rfl

theorem namesOf_dashes (rest : List String) : namesOf ("--" :: rest) = rest := rfl

section

variable {argument : String} (rest : List String)

theorem flagsOf_cons (notDashes : argument ≠ "--") :
    flagsOf (argument :: rest) =
      if isFlag argument then argument :: flagsOf rest else flagsOf rest := by
  rw [flagsOf, List.takeWhile_cons_of_pos (by simpa using notDashes), List.filter_cons]
  rfl

theorem namesOf_cons (notDashes : argument ≠ "--") :
    namesOf (argument :: rest) =
      if isFlag argument then namesOf rest else argument :: namesOf rest := by
  rw [namesOf, List.takeWhile_cons_of_pos (by simpa using notDashes),
    List.dropWhile_cons_of_pos (by simpa using notDashes), List.filter_cons]
  cases isFlag argument <;> rfl

end

/-! ### Taking one argument -/

theorem eq_of_toList_eq {argument other : String} (same : argument.toList = other.toList) :
    argument = other :=
  String.toList_inj.mp same

theorem ne_dashes_of_isFlag_eq_false {argument : String} (notFlag : isFlag argument = false) :
    argument ≠ "--" := by
  rintro rfl
  nomatch notFlag

section

variable (options : Options) (rest : List String)

theorem take_dashes : options.take ("--" :: rest) = rest.foldlM Options.takeName options := rfl

theorem take_json : options.take ("--json" :: rest) =
    if options.json then .error .misuse else { options with json := true }.take rest := by
  show (options.takeFlag .json).bind (·.take rest) = _
  rw [Options.takeFlag]
  split <;> rfl

theorem take_plain : options.take ("--no-color" :: rest) =
    if options.plain then .error .misuse else { options with plain := true }.take rest := by
  show (options.takeFlag .plain).bind (·.take rest) = _
  rw [Options.takeFlag]
  split <;> rfl

/-- What is no flag is a name. -/
theorem take_name {argument : String} (notFlag : isFlag argument = false) :
    options.take (argument :: rest) = (options.takeName argument).bind (·.take rest) := by
  rw [Options.take]
  split
  case h_1 written => exact absurd (eq_of_toList_eq written) (ne_dashes_of_isFlag_eq_false notFlag)
  case h_2 name notDashes written => simp [isFlag, written, ← String.toList_inj] at notFlag
  case h_3 letter letters notTwoDashes notLong written =>
    simp [isFlag, written, ← String.toList_inj] at notFlag
  case h_4 => rfl

/-- Take the letters of a flag. -/
def Options.takeLetters (options : Options) (letters : List Char) : Except Stop Options :=
  letters.foldlM (fun current each => current.takeFlag? (Flag.ofLetter? each)) options

theorem takeLetters_replicate (count : Nat) : options.takeLetters (List.replicate count 'v') =
    .ok { options with verbosity := options.verbosity + count } := by
  induction count generalizing options with
  | zero => rfl
  | succ count inductionHypothesis =>
    show Options.takeLetters { options with verbosity := options.verbosity + 1 } _ = _
    rw [inductionHypothesis, Nat.add_right_comm, Nat.add_assoc]

/-- A letter that does not ask for more detail ends the reading of arguments. -/
theorem exists_takeLetters_eq_error {letters : List Char}
    (other : letters ≠ List.replicate letters.length 'v') :
    ∃ stop, options.takeLetters letters = .error stop := by
  induction letters generalizing options with
  | nil => exact absurd rfl other
  | cons letter letters inductionHypothesis =>
    by_cases same : letter = 'v'
    · subst same
      exact inductionHypothesis _ fun all => other (congrArg ('v' :: ·) all)
    · show ∃ stop, (options.takeFlag? (Flag.ofLetter? letter)).bind _ = _
      rw [Flag.ofLetter?, if_neg same]
      split
      · exact ⟨.help, rfl⟩
      · split
        · exact ⟨.version, rfl⟩
        · exact ⟨.misuse, rfl⟩

/-- A flag for verbosity changes nothing else. -/
theorem exists_take_of_isVerbosityFlag {flag : String} (isVerbosity : IsVerbosityFlag flag) :
    ∃ verbosity,
      options.take (flag :: rest) = { options with verbosity := verbosity }.take rest := by
  rcases isVerbosity with rfl | ⟨count, written⟩
  · exact ⟨_, rfl⟩
  · refine ⟨options.verbosity + (count + 1), ?_⟩
    rw [Options.take, written, List.replicate_succ]
    show (options.takeLetters (List.replicate (count + 1) 'v')).bind _ = _
    rw [takeLetters_replicate]
    rfl

theorem IsVerbosityFlag.ne {flag : String} (isVerbosity : IsVerbosityFlag flag) :
    flag ≠ "--json" ∧ flag ≠ "--no-color" := by
  rcases isVerbosity with rfl | ⟨count, written⟩
  · decide
  · constructor <;> rintro rfl <;> simp [List.replicate_succ] at written

/-- A flag that is not known ends the reading of arguments. -/
theorem exists_take_eq_error {flag : String} (isAFlag : isFlag flag = true)
    (notDashes : flag ≠ "--") (unknown : ¬IsKnownFlag flag) :
    ∃ stop, options.take (flag :: rest) = .error stop := by
  simp only [IsKnownFlag, IsVerbosityFlag, not_or] at unknown
  obtain ⟨notJson, notPlain, notVerbose, notLetters⟩ := unknown
  rw [Options.take]
  split
  case h_1 written => exact absurd (eq_of_toList_eq written) notDashes
  case h_2 name notEmpty written =>
    have differs (known : Text) (other : flag.toList ≠ '-' :: '-' :: known) : name ≠ known := by
      rintro rfl
      exact other written
    rw [Flag.ofName?, if_neg (differs "json".toList fun same => notJson (eq_of_toList_eq same)),
      if_neg (differs "no-color".toList fun same => notPlain (eq_of_toList_eq same)),
      if_neg (differs "verbose".toList fun same => notVerbose (eq_of_toList_eq same))]
    split
    · exact ⟨.help, rfl⟩
    · split
      · exact ⟨.version, rfl⟩
      · exact ⟨.misuse, rfl⟩
  case h_3 letter letters notTwoDashes notLong written =>
    have other : letter :: letters ≠ List.replicate (letter :: letters).length 'v' :=
      fun all => notLetters ⟨letters.length, written.trans (congrArg ('-' :: ·) all)⟩
    obtain ⟨stop, stops⟩ := exists_takeLetters_eq_error options other
    refine ⟨stop, ?_⟩
    show (options.takeLetters (letter :: letters)).bind _ = _
    rw [stops]
    rfl
  case h_4 notTwoDashes notLong notShort =>
    obtain ⟨startsWithDash, notDash⟩ : flag.toList.head? = some '-' ∧ flag ≠ "-" := by
      simpa [isFlag] using isAFlag
    obtain ⟨_ | ⟨letter, letters⟩, written⟩ : ∃ letters, flag.toList = '-' :: letters :=
      List.head?_eq_some_iff.mp startsWithDash
    · exact absurd (eq_of_toList_eq written) notDash
    · exact absurd written (notShort letter letters)

end

/-! ### Taking all arguments -/

section

variable {json plain : Bool} {name : Option String}

/-- A name is taken where it is not empty and where there was none. -/
theorem takeName_cases (options : Options) (first : String) :
    (first = "" ∨ options.name.isSome) ∧ options.takeName first = .error .misuse ∨
      (first ≠ "" ∧ options.name = none) ∧
        options.takeName first = .ok { options with name := some first } := by
  rw [Options.takeName]
  split
  case isTrue misused => exact .inl ⟨misused, rfl⟩
  case isFalse fits => exact .inr ⟨by simpa using fits, rfl⟩

/-- No names are right after a name that is not taken: it is empty, or it is the second one. -/
theorem not_named_of_misused {given : Option String} {first : String} (names : List String)
    (misused : first = "" ∨ given.isSome) :
    ¬(given.toList ++ first :: names = name.toList ∧ "" ∉ first :: names) := by
  rintro ⟨sameName, named⟩
  rcases misused with rfl | isGiven
  · exact named List.mem_cons_self
  · obtain ⟨before, rfl⟩ := Option.isSome_iff_exists.mp isGiven
    cases name <;> simp at sameName

/-- Names alone change nothing but the name of the options, and there is room for one. -/
theorem foldlM_takeName_eq_ok_iff (names : List String) (options : Options) :
    (∃ verbosity, names.foldlM Options.takeName options = .ok ⟨json, plain, verbosity, name⟩) ↔
      options.json = json ∧ options.plain = plain ∧ options.name.toList ++ names = name.toList ∧
        "" ∉ names := by
  induction names generalizing options with
  | nil =>
    obtain ⟨isJson, isPlain, detail, given⟩ := options
    have sameName : given.toList = name.toList ↔ given = name := by
      cases given <;> cases name <;> simp
    simp [pure, Except.pure, sameName]
  | cons first names inductionHypothesis =>
    show (∃ verbosity, (options.takeName first).bind _ = _) ↔ _
    rcases takeName_cases options first with ⟨misused, stops⟩ | ⟨⟨notEmpty, unnamed⟩, taken⟩
    · rw [stops]
      exact ⟨nofun, fun ⟨_, _, named⟩ => absurd named (not_named_of_misused names misused)⟩
    · rw [taken]
      refine (inductionHypothesis { options with name := some first }).trans ?_
      simp [unnamed, Ne.symm notEmpty]

/-- There is no room for a flag that was there before. -/
theorem not_asked_twice {before after : Bool} {flag : String} (flags : List String)
    (already : before = true) : before.toNat + (flag :: flags).count flag ≠ after.toNat := by
  have := after.toNat_le
  rw [already, List.count_cons_self, Bool.toNat_true]
  omega

/-- What options that may have been changed before become by some arguments. The options change with
each argument, so the induction is for all of them. -/
theorem take_eq_ok_iff (arguments : List String) (options : Options) :
    (∃ verbosity, options.take arguments = .ok ⟨json, plain, verbosity, name⟩) ↔
      (∀ flag ∈ flagsOf arguments, IsKnownFlag flag) ∧
        options.json.toNat + (flagsOf arguments).count "--json" = json.toNat ∧
        options.plain.toNat + (flagsOf arguments).count "--no-color" = plain.toNat ∧
        options.name.toList ++ namesOf arguments = name.toList ∧ "" ∉ namesOf arguments := by
  have bool_toNat_inj (left right : Bool) : left.toNat = right.toNat ↔ left = right := by
    cases left <;> cases right <;> decide
  induction arguments generalizing options with
  | nil =>
    refine (foldlM_takeName_eq_ok_iff [] options).trans ?_
    simp [flagsOf, namesOf, bool_toNat_inj]
  | cons argument rest inductionHypothesis =>
    by_cases dashes : argument = "--"
    · subst dashes
      simp only [take_dashes, flagsOf_dashes, namesOf_dashes, foldlM_takeName_eq_ok_iff]
      simp [bool_toNat_inj]
    rw [flagsOf_cons rest dashes, namesOf_cons rest dashes]
    cases isAFlag : isFlag argument with
    | false =>
      simp only [take_name options rest isAFlag, Bool.false_eq_true, if_false]
      rcases takeName_cases options argument with ⟨misused, stops⟩ | ⟨⟨notEmpty, unnamed⟩, taken⟩
      · rw [stops]
        exact ⟨nofun, fun ⟨_, _, _, named⟩ => absurd named (not_named_of_misused _ misused)⟩
      · rw [taken]
        refine (inductionHypothesis { options with name := some argument }).trans ?_
        simp [unnamed, Ne.symm notEmpty]
    | true =>
      simp only [if_true]
      by_cases known : IsKnownFlag argument
      · rcases known with rfl | rfl | isVerbosity
        · rw [take_json]
          split
          case isTrue already =>
            exact ⟨nofun, fun ⟨_, once, _⟩ => absurd once (not_asked_twice _ already)⟩
          case isFalse first =>
            refine (inductionHypothesis { options with json := true }).trans ?_
            simp [first, IsKnownFlag, Nat.add_comm 1]
        · rw [take_plain]
          split
          case isTrue already =>
            exact ⟨nofun, fun ⟨_, _, once, _⟩ => absurd once (not_asked_twice _ already)⟩
          case isFalse first =>
            refine (inductionHypothesis { options with plain := true }).trans ?_
            simp [first, IsKnownFlag, Nat.add_comm 1]
        · obtain ⟨verbosity, goesOn⟩ := exists_take_of_isVerbosityFlag options rest isVerbosity
          rw [goesOn]
          refine (inductionHypothesis { options with verbosity := verbosity }).trans ?_
          simp [IsKnownFlag, isVerbosity, List.count_cons_of_ne isVerbosity.ne.1,
            List.count_cons_of_ne isVerbosity.ne.2]
      · obtain ⟨stop, stops⟩ := exists_take_eq_error options rest isAFlag dashes known
        simp [stops, known]

end

/-- The options that some arguments ask for, up to the detail. -/
theorem ofArguments_eq_ok_iff (arguments : List String) (json plain : Bool) (name : Option String) :
    (∃ verbosity, Options.ofArguments arguments = .ok ⟨json, plain, verbosity, name⟩) ↔
      IsAccepted arguments ∧ json = decide ("--json" ∈ flagsOf arguments) ∧
        plain = decide ("--no-color" ∈ flagsOf arguments) ∧ name = (namesOf arguments).head? := by
  have atMostOnce (flag : String) (is : Bool) (flags : List String) :
      0 + flags.count flag = is.toNat ↔ flags.count flag ≤ 1 ∧ is = decide (flag ∈ flags) := by
    have isMember : 0 < flags.count flag ↔ flag ∈ flags := List.count_pos_iff
    by_cases member : flag ∈ flags <;> cases is <;>
      simp only [member, decide_true, decide_false, Bool.toNat_true, Bool.toNat_false, iff_true,
        iff_false, and_true, and_false, reduceCtorEq] at isMember ⊢ <;> omega
  have atMostOne (names : List String) :
      names = name.toList ↔ names.length ≤ 1 ∧ name = names.head? := by
    cases name <;> rcases names with _ | ⟨first, _ | ⟨second, others⟩⟩ <;> simp [eq_comm]
  refine (take_eq_ok_iff arguments .initial).trans ?_
  show _ ∧ 0 + _ = _ ∧ 0 + _ = _ ∧ _ = _ ∧ _ ↔ _
  simp only [atMostOnce, List.nil_append, atMostOne, Options.initial, Option.toList_none]
  constructor
  · rintro ⟨known, ⟨jsonOnce, isJson⟩, ⟨plainOnce, isPlain⟩, ⟨oneName, isName⟩, named⟩
    exact ⟨⟨known, jsonOnce, plainOnce, oneName, named⟩, isJson, isPlain, isName⟩
  · rintro ⟨⟨known, jsonOnce, plainOnce, oneName, named⟩, isJson, isPlain, isName⟩
    exact ⟨known, ⟨jsonOnce, isJson⟩, ⟨plainOnce, isPlain⟩, ⟨oneName, isName⟩, named⟩

end BlockCheck.CommandLine
