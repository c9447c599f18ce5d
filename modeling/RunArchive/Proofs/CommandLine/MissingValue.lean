import RunArchive.Proofs.CommandLine.Arguments
import RunArchive.Proofs.CommandLine.ExitCode

/-!
# Options without their values

A line whose last word is an option without its value is read as if that option had not been given.
For an identifier this is always an error.  For a name it is one only if the line needs a name:
`Nameless` is what such a line asks for if it does not.
-/

namespace RunArchive

namespace Options

/-- Whether every option of a line that takes a value has one. -/
def Valued : List String → Bool
  | [] => true
  | [last] => ¬ TakesValue last
  | word :: next :: rest => if TakesValue word then Valued rest else Valued (next :: rest)

theorem valued_single {word : String} (single : ¬ TakesValue word) (rest : List String) :
    Valued (word :: rest) = Valued rest := by
  cases rest with
  | nil => simp [Valued, single]
  | cons next rest => rw [Valued, if_neg single]

theorem valued_line (given : List GivenOption) (ending : List String) :
    Valued (GivenOption.line given ++ ending) = Valued ending := by
  induction given with
  | nil => rfl
  | cons first given ih =>
      rw [← ih]
      cases first with
      | dispatch text => rfl
      | name text => rfl
      | all => exact valued_single single_all _

end Options

namespace Command

/-! ## Announced and missing -/

/-- An identifier that is announced and missing makes its option one that is not given at all. -/
theorem parse_noDispatch (subcommand : String) (given : List GivenOption) :
    parse (subcommand :: (GivenOption.line given ++ [Options.dispatchOption])) =
      .error .missingId := by
  rw [parse_cons, Options.read_line]
  rfl

/-- A name that is announced and missing makes its option one that is not given at all. -/
theorem parse_noName (subcommand : String) (given : List GivenOption) :
    parse (subcommand :: (GivenOption.line given ++ [Options.nameOption])) =
      ofOptions subcommand { Options.ofGiven given with name := none } := by
  rw [parse_cons, Options.read_line, Options.foldl_add]
  rfl

/-! ## What is accepted -/

/-- What a line asks for in which the last word announces a name. -/
inductive Nameless : List String → Command → Prop where
  | intro {subcommand : String} {given : List GivenOption} {command : Command}
      (asked : Asked subcommand { Options.ofGiven given with name := none } command) :
      Nameless (subcommand :: (GivenOption.line given ++ [Options.nameOption])) command

theorem parse_nameless
    {arguments : List String} {command : Command} (nameless : Nameless arguments command) :
    parse arguments = .ok command := by
  cases nameless with
  | @intro subcommand given command asked =>
      rw [parse_noName]
      exact ofOptions_eq_ok_iff.mpr asked

/-- If an option lacks its value, then what is accepted is what the line asks for without names. -/
theorem nameless_of_parse
    {arguments : List String} {command : Command}
    (unvalued : Options.Valued arguments.tail = false) (parsed : parse arguments = .ok command) :
    Nameless arguments command := by
  cases arguments with
  | nil => cases parsed
  | cons subcommand words =>
      rcases Options.exists_given words with ⟨given, ending, rfl, ends⟩
      rw [List.tail_cons, Options.valued_line] at unvalued
      cases ends with
      | complete => cases unvalued
      | noDispatch =>
          rw [parse_noDispatch] at parsed
          cases parsed
      | noName =>
          rw [parse_noName] at parsed
          exact .intro (ofOptions_eq_ok_iff.mp parsed)
      | unknown unknown rest =>
          rw [parse_unknown subcommand given unknown rest] at parsed
          cases parsed

/--
A line in which an option lacks its value is refused, with the exit code 2 unless the environment
file breaks the program off before.  The exception is a name that is missing where the line without
any names asks for a summary or for all artifacts.
-/
theorem parse_unvalued
    {arguments : List String} (unvalued : Options.Valued arguments.tail = false) :
    (∀ command, parse arguments = .ok command ↔ Nameless arguments command) ∧
    ∀ environment workplace files server now,
      let outcome := Inspect.run (given arguments) environment workplace files server now
      outcome.exitCode ≠ 101 →
        (outcome.exitCode = 2 ↔ ∀ command, ¬ Nameless arguments command) := by
  refine ⟨fun command => ⟨nameless_of_parse unvalued, parse_nameless⟩, ?_⟩
  intro environment workplace files server now outcome unbroken
  have ends := Inspect.run_ends (given arguments) environment workplace files server now
  rw [ends.exitCode_refused_iff (texts_eq_ok_iff.mpr rfl) unbroken]
  constructor
  · rintro ⟨error, refused⟩ command nameless
    rw [parse_nameless nameless] at refused
    cases refused
  · intro refused
    cases parsed : parse arguments with
    | ok command => exact absurd (nameless_of_parse unvalued parsed) (refused command)
    | error error => exact ⟨error, rfl⟩

/-- A summary is asked for although the name behind it is missing. -/
theorem parse_unvalued_summary :
    parse ["summary", "--name", "result", "--dispatch", sampleText, "--name"] =
      .ok (.summary sampleId) := by
  have unvalued :
      Options.Valued
          ["summary", "--name", "result", "--dispatch", sampleText, "--name"].tail =
        false := by
    decide
  have asked :
      Asked "summary"
        { Options.ofGiven [.name "result", .dispatch sampleText] with name := none }
        (.summary sampleId) :=
    .summary rfl rfl parse_sampleText rfl rfl
  exact ((parse_unvalued unvalued).1 _).mpr (.intro asked)

/-- A missing name does not make a line wrong that asks for all artifacts. -/
theorem unvalued_accepted :
    Options.Valued ["--dispatch", sampleText, "--all", "--name"] = false ∧
      parse ["artifact", "--dispatch", sampleText, "--all", "--name"] =
        .ok (.allArtifacts sampleId) := by
  have asked :
      Asked "artifact"
        { Options.ofGiven [.dispatch sampleText, .all] with name := none }
        (.allArtifacts sampleId) :=
    .allArtifacts rfl rfl parse_sampleText rfl rfl
  exact ⟨by decide, parse_nameless (.intro asked)⟩

end Command

end RunArchive
