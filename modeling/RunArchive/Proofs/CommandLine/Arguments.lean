import RunArchive.Proofs.CommandLine.Options
import RunArchive.Proofs.Outcome
import RunArchive.Proofs.Run.Names
import RunArchive.Proofs.Text.Validity

/-!
# What command lines ask for

Arguments have texts if each of them is one.  A command is `Asked` for by a subcommand and by what
the options of a line come to, and these are exactly the lines that are accepted if every option has
its value and no other word is among them.
-/

namespace RunArchive

namespace Command

/-! ## Texts -/

theorem textOf_eq_ok_iff {argument : List UInt8} {text : String} :
    textOf argument = .ok text ↔ argument = Utf8.ofString text := by
  rw [← Utf8.text?_eq_some_iff, textOf]
  cases Utf8.text? argument <;> simp

/-- Arguments have texts if and only if these texts spell them. -/
theorem texts_eq_ok_iff {arguments : List (List UInt8)} {words : List String} :
    texts arguments = .ok words ↔ arguments = given words := by
  unfold texts
  constructor
  · intro told
    induction arguments generalizing words with
    | nil =>
        cases told
        rfl
    | cons argument arguments ih =>
        rw [List.mapM_cons] at told
        rcases bind_eq_ok told with ⟨word, spelled, told⟩
        rcases bind_eq_ok told with ⟨rest, others, same⟩
        cases same
        rw [textOf_eq_ok_iff.mp spelled, ih others]
        rfl
  · rintro rfl
    induction words with
    | nil => rfl
    | cons word words ih =>
        rw [given, List.map_cons, List.mapM_cons, textOf_eq_ok_iff.mpr rfl, ok_bind, ← given, ih]
        rfl

/-- The names that a request may have. -/
def Admitted (text : String) : Prop :=
  (∃ kind : ArtifactKind, kind.name = text) ∨ text = "call_before" ∨ text = "call_after"

theorem isAdmitted_iff {text : String} : isAdmitted text = true ↔ Admitted text := by
  rw [isAdmitted, Bool.or_eq_true, Option.isSome_iff_exists, Admitted, hookNames,
    List.contains_iff_mem, List.mem_cons, List.mem_singleton]
  simp only [ArtifactKind.ofName?_eq_some_iff]

/-- What a subcommand and its options ask for. -/
inductive Asked (subcommand : String) (options : Options) : Command → Prop where
  | summary {text : String} {id : RunId}
      (wanted : subcommand = "summary")
      (given : options.dispatch = some text) (accepted : RunId.parse text = .ok id)
      (unnamed : options.name = none) (single : options.all = false) :
      Asked subcommand options (.summary id)
  | artifact {text : String} {id : RunId} {nameText : String} {name : ArtifactName}
      (wanted : subcommand = "artifact")
      (given : options.dispatch = some text) (accepted : RunId.parse text = .ok id)
      (named : options.name = some nameText) (admitted : Admitted nameText)
      (meant : name.Means nameText) (single : options.all = false) :
      Asked subcommand options (.artifact id name)
  | allArtifacts {text : String} {id : RunId}
      (wanted : subcommand = "artifact")
      (given : options.dispatch = some text) (accepted : RunId.parse text = .ok id)
      (unnamed : options.name = none) (every : options.all = true) :
      Asked subcommand options (.allArtifacts id)

/-- The command that a subcommand and its options make. -/
def ofOptions (subcommand : String) (options : Options) : Except ArgumentError Command := do
  let id ← readId options
  match some subcommand, options.name, options.all with
  | some "summary", none, false => return .summary id
  | some "artifact", some name, false =>
    if isAdmitted name then return .artifact id (.ofText name) else .error (.unexpectedName name)
  | some "artifact", none, true => return .allArtifacts id
  | _, _, _ => .error .misuse

theorem parse_cons (subcommand : String) (words : List String) :
    parse (subcommand :: words) = Options.empty.read words >>= ofOptions subcommand := rfl

theorem readId_eq_ok_iff {options : Options} {id : RunId} :
    readId options = .ok id ↔
      ∃ text, options.dispatch = some text ∧ RunId.parse text = .ok id := by
  rw [readId]
  cases options.dispatch with
  | none => simp
  | some text =>
      dsimp only
      cases parsed : RunId.parse text <;> simp [parsed]

theorem ofOptions_eq_ok_iff {subcommand : String} {options : Options} {command : Command} :
    ofOptions subcommand options = .ok command ↔ Asked subcommand options command := by
  constructor
  · intro made
    rcases bind_eq_ok made with ⟨id, read, made⟩
    rcases readId_eq_ok_iff.mp read with ⟨text, given, accepted⟩
    split at made
    · rename_i wanted unnamed single
      cases made
      exact .summary (Option.some.inj wanted) given accepted unnamed single
    · rename_i name wanted named single
      split at made
      · rename_i admitted
        cases made
        exact
          .artifact (Option.some.inj wanted) given accepted named (isAdmitted_iff.mp admitted)
            (ArtifactName.means_iff.mpr rfl) single
      · cases made
    · rename_i wanted unnamed every
      cases made
      exact .allArtifacts (Option.some.inj wanted) given accepted unnamed every
    · cases made
  · intro asked
    cases asked with
    | summary wanted given accepted unnamed single =>
        rw [ofOptions, readId_eq_ok_iff.mpr ⟨_, given, accepted⟩, ok_bind, wanted, unnamed, single]
        rfl
    | artifact wanted given accepted named admitted meant single =>
        rw [ofOptions, readId_eq_ok_iff.mpr ⟨_, given, accepted⟩, ok_bind, wanted, named, single]
        change (if isAdmitted _ = true then _ else _) = _
        rw [if_pos (isAdmitted_iff.mpr admitted), ArtifactName.means_iff.mp meant]
        rfl
    | allArtifacts wanted given accepted unnamed every =>
        rw [ofOptions, readId_eq_ok_iff.mpr ⟨_, given, accepted⟩, ok_bind, wanted, unnamed, every]
        rfl

/-! ## Lines -/

/-- A line of options with their values makes the command of what they come to. -/
theorem parse_line (subcommand : String) (given : List GivenOption) :
    parse (subcommand :: GivenOption.line given) =
      ofOptions subcommand (Options.ofGiven given) := by
  have read := Options.empty.read_line given []
  rw [List.append_nil, Options.foldl_add] at read
  rw [parse_cons, read]
  rfl

/-- A line of options with their values is a command exactly if it is asked for. -/
theorem parse_line_eq_ok_iff
    {subcommand : String} {given : List GivenOption} {command : Command} :
    parse (subcommand :: GivenOption.line given) = .ok command ↔
      Asked subcommand (Options.ofGiven given) command := by
  rw [parse_line, ofOptions_eq_ok_iff]

theorem parse_unknown
    (subcommand : String) (given : List GivenOption) {word : String}
    (unknown : ¬ Options.IsOption word) (rest : List String) :
    parse (subcommand :: (GivenOption.line given ++ word :: rest)) =
      .error (.unknownArgument word) := by
  rw [parse_cons, Options.read_line, Options.read_unknown _ unknown]
  rfl

/--
A line of options with their values means what they come to: the last identifier, the last name and
whether all artifacts are wanted, in whatever order.  It is a command exactly if the identifier is
one, and if the subcommand wants a summary and there is nothing else, or wants artifacts and there
is either a name that a request may have or the wish for all of them.

A line with any other word where an option is expected is refused for the first such word.
-/
theorem parse_exact (subcommand : String) :
    (∀ given other, Options.ofGiven other = Options.ofGiven given →
      parse (subcommand :: GivenOption.line other) =
        parse (subcommand :: GivenOption.line given)) ∧
    (∀ given command, parse (subcommand :: GivenOption.line given) = .ok command ↔
      Asked subcommand (Options.ofGiven given) command) ∧
    ∀ words word, (Options.positions words).find? (¬ Options.IsOption ·) = some word →
      ∃ error, parse (subcommand :: words) = .error error ∧
        error.detail =
          ⟨["path", "args"], "argumento desconocido: " ++ word, some "value_error"⟩ := by
  refine ⟨?_, ?_, ?_⟩
  · intro given other same
    rw [parse_line, parse_line, same]
  · intro given command
    exact parse_line_eq_ok_iff
  · intro words word first
    rcases Options.exists_given words with ⟨given, ending, rfl, ends⟩
    rw [Options.find?_positions] at first
    cases ends with
    | complete | noDispatch | noName => cases first
    | @unknown other unknown rest =>
        rw [Options.find?_positions_unknown unknown rest] at first
        cases first
        exact ⟨_, parse_unknown subcommand given unknown rest, rfl⟩

/-- An identifier, and its written form. -/
def sampleId : RunId := ⟨0x6f1c2a943e0b4d4f9a570c8e2b7d1f10, by decide⟩

def sampleText : String := "6f1c2a94-3e0b-4d4f-9a57-0c8e2b7d1f10"

theorem parse_sampleText : RunId.parse sampleText = .ok sampleId := by decide +kernel

/-- A name that looks like an option is still a name, and the last one counts. -/
theorem parse_exact_hook :
    parse ["artifact", "--name", "--dispatch", "--dispatch", sampleText, "--name", "call_after"] =
      .ok (.artifact sampleId (.unrecognized "call_after")) := by
  have asked :
      Asked "artifact"
        (Options.ofGiven [.name "--dispatch", .dispatch sampleText, .name "call_after"])
        (.artifact sampleId (.unrecognized "call_after")) :=
    .artifact rfl rfl parse_sampleText rfl (.inr (.inr rfl)) (ArtifactName.means_iff.mpr rfl) rfl
  exact ((parse_exact "artifact").2.1 _ _).mpr asked

end Command

end RunArchive
