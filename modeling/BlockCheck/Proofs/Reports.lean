/-
This file proves that every way to run the command line tells the same verdict, the one of the
library. A run is taken in a world that says what reading each origin gives, be it bytes or a
failure, and what its environment is. Where the arguments are accepted and the bytes are a text,
the exit code and the output tell the verdict on that text in the form that the flags ask for, and
neither the order of the arguments nor the way that the text came matters. How much is logged does
not matter either, because the log goes to the other stream. Where there is no text there is no
verdict, and the exit code is not that of one.

What other libraries do is assumed as it is documented (`Libraries.AreAsDocumented`). The stand-ins
do it as well (`standIns_areAsDocumented`).
-/

import BlockCheck.Proofs.Arguments
import BlockCheck.Proofs.JsonObjects
import BlockCheck.Proofs.Outlined

namespace BlockCheck.CommandLine

/-! ### What is documented of the libraries -/

/-- The libraries do what is documented of them. How much detail is asked for, which events pass
the filters and how the log is written is left open. -/
structure Libraries.AreAsDocumented (libraries : Libraries) : Prop where
  /-- Flags stand anywhere and in any order, only the one for verbosity is repeated, there is one
  name at most, and after two dashes there are names only. -/
  accepts : ∀ arguments,
    (∃ options, libraries.parse arguments = .ok options) ↔ IsAccepted arguments
  /-- Options hold what the flags and the names among the arguments say. -/
  asks : ∀ arguments options, libraries.parse arguments = .ok options →
    options.json = decide ("--json" ∈ flagsOf arguments) ∧
      options.plain = decide ("--no-color" ∈ flagsOf arguments) ∧
      options.name = (namesOf arguments).head?
  /-- What is written for an object is JSON and means that object. -/
  writes : ∀ members, ∃ text, libraries.writeObject members = .ok text ∧
    Json.ofText? text.toList = some (.ofMembers members)
  /-- A line is kept as it is between codes for the terminal. -/
  keeps : ∀ noColour colour, ∃ before after, ∀ line,
    libraries.paint noColour colour line = before ++ line ++ after
  /-- Where the variable is not set or is empty, nothing forbids colours: the codes are those for
  bright green and for bold, and the one that takes both back. -/
  green : ∀ noColour line, noColour.getD "" = "" →
    libraries.paint noColour .green line = "\x1b[38;5;10m\x1b[1m" ++ line ++ "\x1b[0m"
  /-- In the same way for bright red. -/
  red : ∀ noColour line, noColour.getD "" = "" →
    libraries.paint noColour .red line = "\x1b[38;5;9m\x1b[1m" ++ line ++ "\x1b[0m"

/-- The stand-ins do what is documented of the libraries. -/
theorem standIns_areAsDocumented : standIns.AreAsDocumented where
  accepts arguments := by
    constructor
    · rintro ⟨⟨json, plain, verbosity, name⟩, asked⟩
      have isTaken := mapError_eq_ok_iff.mp asked
      exact ((ofArguments_eq_ok_iff arguments json plain name).mp ⟨verbosity, isTaken⟩).1
    · intro isAccepted
      obtain ⟨verbosity, asked⟩ :=
        (ofArguments_eq_ok_iff arguments _ _ _).mpr ⟨isAccepted, rfl, rfl, rfl⟩
      exact ⟨_, mapError_eq_ok_iff.mpr asked⟩
  asks := by
    rintro arguments ⟨json, plain, verbosity, name⟩ asked
    have isTaken := mapError_eq_ok_iff.mp asked
    exact ((ofArguments_eq_ok_iff arguments json plain name).mp ⟨verbosity, isTaken⟩).2
  writes members := by
    refine ⟨_, rfl, ?_⟩
    rw [String.toList_ofList]
    exact ofText?_writeObject members
  keeps noColour colour := ⟨_, _, fun _ => rfl⟩
  green noColour line allowed := by
    simp only [standIns, paint, if_pos allowed]
    rfl
  red noColour line allowed := by
    simp only [standIns, paint, if_pos allowed]
    rfl

/-! ### Runs in a world -/

/-- What a run finds: what reading each origin gives, and its environment. -/
structure World where
  read : Origin → Except InputFailure ByteArray
  environment : Environment

/-- The outcome of a run in a world. -/
def World.outcome (world : World) (libraries : Libraries) (arguments : List String) : Outcome :=
  Id.run (libraries.run world.environment (fun origin => pure (world.read origin)) arguments)

/-- Where some arguments say that the program comes from. -/
def originOf (arguments : List String) : Origin :=
  match (namesOf arguments).head? with
  | some name => if name = "-" then .standardInput else .file name
  | none => .standardInput

/-- A text can be read from where some arguments say. -/
def World.Delivers (world : World) (arguments : List String) (source : Text) : Prop :=
  world.read (originOf arguments) = .ok (String.ofList source).toUTF8

/-- What the log holds is written to the stream for errors. -/
theorem filter_log (libraries : Libraries) (environment : Environment) (options : Options)
    (events : List Event) :
    (libraries.log environment options events).filter (fun write => write.1 == .output) = [] := by
  refine List.filter_eq_nil_iff.mpr fun write member => ?_
  obtain ⟨index, inside, rfl⟩ := List.mem_mapIdx.mp member
  simp

section

variable (logged : List (Stream × String)) (told : String) (code : UInt8)

/-- Behind a log, what is written to standard output is what is told. -/
theorem output_of_log (log : logged.filter (fun write => write.1 == .output) = []) :
    Outcome.output ⟨code, logged ++ [(.output, told)]⟩ = told := by
  rw [Outcome.output, Outcome.written, List.filter_append, log, List.nil_append]
  exact String.empty_append

/-- A run that fails writes nothing to standard output. -/
theorem output_failed (log : logged.filter (fun write => write.1 == .output) = []) :
    (Outcome.failed logged told).output = "" := by
  rw [Outcome.output, Outcome.written, Outcome.failed, List.filter_append, log]
  rfl

end

theorem decode_toUTF8 (source : Text) : decode (String.ofList source).toUTF8 = .ok source := by
  have isText : String.fromUTF8? (String.ofList source).toUTF8 = some (String.ofList source) := by
    rw [String.fromUTF8?, String.toUTF8_eq_toByteArray, dif_pos (String.ofList source).isValidUTF8]
    rfl
  rw [decode, isText]
  simp

theorem decode_eq_error {bytes : ByteArray} (notText : ¬bytes.IsValidUTF8) :
    decode bytes = .error .notText := by
  rw [decode, String.fromUTF8?, dif_neg notText]

/-! ### Outcomes -/

/-- What is reported of a verdict, given the variable that may forbid colours and whether a JSON
object or a line without colours is asked for. -/
def Libraries.reportFor (libraries : Libraries) (noColour : Option String) (json plain : Bool)
    (verdict : Verdict) : Except String String :=
  libraries.report ⟨fun _ => noColour, fun _ => ""⟩ ⟨json, plain, 0, none⟩ verdict

section

variable {libraries : Libraries} {world : World} {arguments : List String}

/-- Accepted arguments ask for options that the flags among them determine, up to the detail. -/
theorem exists_outcome_eq (documented : libraries.AreAsDocumented)
    (isAccepted : IsAccepted arguments) (world : World) :
    ∃ verbosity, world.outcome libraries arguments =
      libraries.outcome world.environment ⟨decide ("--json" ∈ flagsOf arguments),
        decide ("--no-color" ∈ flagsOf arguments), verbosity, (namesOf arguments).head?⟩
          (world.read (originOf arguments)) := by
  obtain ⟨⟨json, plain, verbosity, name⟩, asked⟩ := (documented.accepts arguments).mpr isAccepted
  obtain ⟨rfl, rfl, rfl⟩ := documented.asks arguments _ asked
  refine ⟨verbosity, ?_⟩
  rw [World.outcome, Libraries.run, asked]
  rfl

/-- There is a report for every verdict. -/
theorem exists_reportFor (documented : libraries.AreAsDocumented) (noColour : Option String)
    (json plain : Bool) (verdict : Verdict) :
    ∃ told, libraries.reportFor noColour json plain verdict = .ok told := by
  rw [Libraries.reportFor, Libraries.report]
  split
  case isTrue =>
    obtain ⟨text, written, -⟩ := documented.writes (verdictMembers verdict)
    exact ⟨text, written⟩
  case isFalse =>
    repeat' split
    all_goals exact ⟨_, rfl⟩

/-- A text that is delivered has the outcome of its verdict. -/
theorem outcome_of_delivers (documented : libraries.AreAsDocumented)
    (isAccepted : IsAccepted arguments) {source : Text}
    (delivered : world.Delivers arguments source) :
    (world.outcome libraries arguments).exitCode = verdictCode (verdict source) ∧
      ∃ told, libraries.reportFor (world.environment.value? "NO_COLOR")
          (decide ("--json" ∈ flagsOf arguments)) (decide ("--no-color" ∈ flagsOf arguments))
            (verdict source) = .ok told ∧
        (world.outcome libraries arguments).output = told ++ "\n" := by
  have isText : (world.read (originOf arguments)).bind decode = .ok source := by
    rw [delivered]
    exact decode_toUTF8 source
  obtain ⟨verbosity, isOutcome⟩ := exists_outcome_eq documented isAccepted world
  obtain ⟨told, isTold⟩ := exists_reportFor documented (world.environment.value? "NO_COLOR")
    (decide ("--json" ∈ flagsOf arguments)) (decide ("--no-color" ∈ flagsOf arguments))
    (verdict source)
  have isReport : libraries.report world.environment ⟨decide ("--json" ∈ flagsOf arguments),
      decide ("--no-color" ∈ flagsOf arguments), verbosity, (namesOf arguments).head?⟩
        (verdict source) = .ok told := isTold
  simp only [Libraries.outcome, isText, Libraries.outcomeOf, isReport] at isOutcome
  rw [isOutcome]
  exact ⟨rfl, told, isTold, output_of_log _ _ _ (filter_log _ _ _ _)⟩

/-- Where there is no text, be it that reading fails or that the bytes are none, there is no
verdict. -/
theorem outcome_of_failure (documented : libraries.AreAsDocumented)
    (isAccepted : IsAccepted arguments) {failure : InputFailure}
    (fails : (world.read (originOf arguments)).bind decode = .error failure) :
    (world.outcome libraries arguments).exitCode = 2 ∧
      (world.outcome libraries arguments).output = "" := by
  obtain ⟨verbosity, isOutcome⟩ := exists_outcome_eq documented isAccepted world
  simp only [Libraries.outcome, fails] at isOutcome
  rw [isOutcome]
  exact ⟨rfl, output_failed _ _ rfl⟩

end

/-! ### What an outcome tells -/

/-- The line for a verdict: its message if there is one. -/
def lineOf (verdict : Verdict) : String := verdict.message?.getD "Syntax is correct."

theorem verdictLine_eq (verdict : Verdict) : verdictLine verdict = lineOf verdict := by
  cases verdict <;> rfl

section

variable (libraries : Libraries) (noColour : Option String) (verdict : Verdict)

theorem reportFor_json (plain : Bool) : libraries.reportFor noColour true plain verdict =
    libraries.writeObject (verdictMembers verdict) := rfl

theorem reportFor_plain :
    libraries.reportFor noColour false true verdict = .ok (lineOf verdict) := by
  rw [← verdictLine_eq]
  rfl

theorem reportFor_coloured : libraries.reportFor noColour false false verdict =
    .ok (libraries.paint noColour (if verdict.isAccepted then .green else .red)
      (lineOf verdict)) := by
  rw [← verdictLine_eq]
  cases verdict <;> rfl

end

/-- An outcome tells a verdict in the form that some arguments ask for. -/
structure Outcome.Tells (outcome : Outcome) (environment : Environment) (arguments : List String)
    (verdict : Verdict) : Prop where
  /-- The exit code tells whether the program is accepted. -/
  code : outcome.exitCode = if verdict.isAccepted then 0 else 1
  /-- The output is the object for the verdict. -/
  object : "--json" ∈ flagsOf arguments →
    Json.ofText? outcome.output.toList = some (.ofVerdict verdict)
  /-- The output is the line for the verdict. -/
  line : "--json" ∉ flagsOf arguments → "--no-color" ∈ flagsOf arguments →
    outcome.output = lineOf verdict ++ "\n"
  /-- The output is that line between codes for the terminal. -/
  wrappedLine : "--json" ∉ flagsOf arguments → "--no-color" ∉ flagsOf arguments →
    ∃ before after, outcome.output = before ++ lineOf verdict ++ after ++ "\n"
  /-- Unless the environment forbids colours, the codes are those for bold and for bright green
  where the program is accepted, or for bright red where it is not. -/
  colouredLine : "--json" ∉ flagsOf arguments → "--no-color" ∉ flagsOf arguments →
    (environment.value? "NO_COLOR").getD "" = "" →
      outcome.output = (if verdict.isAccepted then "\x1b[38;5;10m" else "\x1b[38;5;9m") ++
        "\x1b[1m" ++ lineOf verdict ++ "\x1b[0m\n"

theorem tells_of_delivers {libraries : Libraries} (documented : libraries.AreAsDocumented)
    {world : World} {arguments : List String} (isAccepted : IsAccepted arguments) {source : Text}
    (delivered : world.Delivers arguments source) :
    (world.outcome libraries arguments).Tells world.environment arguments (verdict source) := by
  obtain ⟨code, told, isTold, output⟩ := outcome_of_delivers documented isAccepted delivered
  refine ⟨code, ?_, ?_, ?_, ?_⟩
  · intro json
    obtain ⟨text, written, isRead⟩ := documented.writes (verdictMembers (verdict source))
    rw [decide_eq_true json, reportFor_json, written, Except.ok.injEq] at isTold
    rw [ofMembers_verdictMembers, isTold] at isRead
    rw [output, String.toList_append]
    exact Json.ofText?_append_newline isRead
  · intro noJson plain
    rw [decide_eq_false noJson, decide_eq_true plain, reportFor_plain, Except.ok.injEq] at isTold
    rw [output, isTold]
  · intro noJson coloured
    rw [decide_eq_false noJson, decide_eq_false coloured, reportFor_coloured,
      Except.ok.injEq] at isTold
    obtain ⟨before, after, keeps⟩ := documented.keeps (world.environment.value? "NO_COLOR")
      (if (verdict source).isAccepted then .green else .red)
    exact ⟨before, after, by rw [output, ← isTold, keeps]⟩
  · intro noJson coloured allowed
    rw [decide_eq_false noJson, decide_eq_false coloured, reportFor_coloured,
      Except.ok.injEq] at isTold
    rw [output, ← isTold]
    cases (verdict source).isAccepted with
    | true => simp [documented.green _ _ allowed, String.append_assoc]
    | false => simp [documented.red _ _ allowed, String.append_assoc]

/-- Some arguments ask for the same form of a report as others. The order of the flags, those for
verbosity and the name do not matter to it, nor does the flag for colours beside the one for
JSON. -/
structure AskAlike (arguments others : List String) : Prop where
  json : "--json" ∈ flagsOf arguments ↔ "--json" ∈ flagsOf others
  plain : "--json" ∉ flagsOf arguments →
    ("--no-color" ∈ flagsOf arguments ↔ "--no-color" ∈ flagsOf others)

theorem reportFor_congr {arguments others : List String} (alike : AskAlike arguments others)
    (libraries : Libraries) (noColour : Option String) (verdict : Verdict) :
    libraries.reportFor noColour (decide ("--json" ∈ flagsOf arguments))
        (decide ("--no-color" ∈ flagsOf arguments)) verdict =
      libraries.reportFor noColour (decide ("--json" ∈ flagsOf others))
        (decide ("--no-color" ∈ flagsOf others)) verdict := by
  by_cases json : "--json" ∈ flagsOf arguments
  · rw [decide_eq_true json, decide_eq_true (alike.json.mp json), reportFor_json, reportFor_json]
  · simp only [alike.json, alike.plain json]

/-- Accepted arguments tell the verdict on the text that is delivered, and two runs on one text
agree: always in the exit code, and in the output where they ask for the same form and the
environment says the same about colours. Where reading fails, or where the bytes are no text, the
run ends with a code of its own and without output. -/
theorem runs_tell_verdict {libraries : Libraries} (documented : libraries.AreAsDocumented)
    (world : World) {arguments : List String} (isAccepted : IsAccepted arguments) :
    (∀ source, world.Delivers arguments source →
      (world.outcome libraries arguments).Tells world.environment arguments (verdict source) ∧
        ∀ (otherWorld : World) (others : List String), IsAccepted others →
          otherWorld.Delivers others source →
            (otherWorld.outcome libraries others).exitCode =
                (world.outcome libraries arguments).exitCode ∧
              (AskAlike arguments others → otherWorld.environment.value? "NO_COLOR" =
                  world.environment.value? "NO_COLOR" →
                (otherWorld.outcome libraries others).output =
                  (world.outcome libraries arguments).output)) ∧
      (∀ failure, world.read (originOf arguments) = .error failure →
        (world.outcome libraries arguments).exitCode = 2 ∧
          (world.outcome libraries arguments).output = "") ∧
      ∀ bytes, world.read (originOf arguments) = .ok bytes → ¬bytes.IsValidUTF8 →
        (world.outcome libraries arguments).exitCode = 2 ∧
          (world.outcome libraries arguments).output = "" := by
  refine ⟨fun source delivered => ⟨tells_of_delivers documented isAccepted delivered, ?_⟩,
    fun failure fails => ?_, fun bytes given notText => ?_⟩
  · intro otherWorld others othersAccepted again
    obtain ⟨code, told, isTold, output⟩ := outcome_of_delivers documented isAccepted delivered
    obtain ⟨otherCode, otherTold, isOtherTold, otherOutput⟩ :=
      outcome_of_delivers documented othersAccepted again
    refine ⟨otherCode.trans code.symm, fun alike sameColours => ?_⟩
    rw [sameColours, ← reportFor_congr alike, isTold, Except.ok.injEq] at isOtherTold
    rw [output, otherOutput, isOtherTold]
  · exact outcome_of_failure documented isAccepted (by rw [fails]; rfl)
  · have fails : (world.read (originOf arguments)).bind decode = .error .notText := by
      rw [given]
      exact decode_eq_error notText
    exact outcome_of_failure documented isAccepted fails

/-- A world in which some bytes come from everywhere and no variable is set. -/
def worldOf (bytes : ByteArray) : World := ⟨fun _ => .ok bytes, .bare⟩

/-- A variable that is no identifier, in runs with every form of a report, from a file and from
standard input, with flags in different orders; and a run with bytes that are no text. -/
theorem runs_tell_verdict_misnamedVariable :
    let outcome := (worldOf "1x:2".toUTF8).outcome standIns
    let broken := (worldOf ⟨#[0xFF]⟩).outcome standIns ["--", "-"]
    let line := "Syntax error: variable name must be an identifier"
    standIns.AreAsDocumented ∧
      (outcome ["-vv", "program", "--json"]).exitCode = 1 ∧
      Json.ofText? (outcome ["-vv", "program", "--json"]).output.toList =
        some (.object [("valid".toList, .bool false), ("message".toList, .string line.toList)]) ∧
      (outcome ["--json", "-v", "-"]).output =
        (outcome ["-vv", "program", "--json"]).output ∧
      (outcome ["--no-color"]).output = line ++ "\n" ∧
      (outcome ["program", "--verbose"]).output =
        "\x1b[38;5;9m" ++ "\x1b[1m" ++ line ++ "\x1b[0m\n" ∧
      broken.exitCode = 2 ∧ broken.output = "" := by
  intro outcome broken line
  have documented := standIns_areAsDocumented
  have jsonLast : IsAccepted ["-vv", "program", "--json"] := by decide
  have jsonFirst : IsAccepted ["--json", "-v", "-"] := by decide
  have plain : IsAccepted ["--no-color"] := by decide
  have coloured : IsAccepted ["program", "--verbose"] := by decide
  have namedOnly : IsAccepted ["--", "-"] := by decide
  have isRejected : verdict "1x:2".toList = .rejected (.grammar .invalidVariableName) := by
    decide +kernel
  have delivers (arguments : List String) :
      (worldOf "1x:2".toUTF8).Delivers arguments "1x:2".toList := by
    rw [World.Delivers, String.ofList_toList]
    rfl
  have runs {arguments : List String} (isAccepted : IsAccepted arguments) :=
    (runs_tell_verdict documented (worldOf "1x:2".toUTF8) isAccepted).1 _ (delivers arguments)
  rw [isRejected] at runs
  obtain ⟨told, others⟩ := runs jsonLast
  have alike : AskAlike ["-vv", "program", "--json"] ["--json", "-v", "-"] :=
    ⟨by decide, fun noJson => absurd (by decide) noJson⟩
  have same := (others _ _ jsonFirst (delivers _)).2 alike rfl
  have failed := (runs_tell_verdict documented (worldOf ⟨#[0xFF]⟩) namedOnly).2.2 _ rfl (by decide)
  exact ⟨documented, told.code, told.object (by decide), same,
    (runs plain).1.line (by decide) (by decide),
    (runs coloured).1.colouredLine (by decide) (by decide) rfl, failed⟩

/-- With the stand-ins, a program that is accepted. -/
example : (Options.outcome ⟨false, true, 2, none⟩ (.ok "x:1".toUTF8)).output =
    "Syntax is correct.\n" := by
  decide +kernel

end BlockCheck.CommandLine
