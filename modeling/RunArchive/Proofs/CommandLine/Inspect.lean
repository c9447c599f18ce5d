import RunArchive.CommandLine.Inspect
import RunArchive.Proofs.CommandLine.Arguments
import RunArchive.Proofs.CommandLine.EnvironmentFile
import RunArchive.Proofs.Database.Interchange
import RunArchive.Proofs.Json.Tightening
import RunArchive.Proofs.Query.Artifact
import RunArchive.Proofs.Run.Summary

/-!
# All artifacts and one artifact

The lookup program can be asked for all artifacts of a run or for one of them by its name.  Once
the run is found, the first answer is an object with an entry for every kind, and each entry is
what asking for that kind alone prints: the response on the standard output, or the report of what
is wrong among the errors.  So one kind can fail without any effect on the entries of the others.
A run that cannot be found, or a database that fails, ends both programs in the same way.

Texts are compared by the values that they show, since the one program indents an entry deeper
than the other, and since reports stand on one line.
-/

namespace RunArchive

namespace Inspect

/-! ## Running the program -/

/-- The settings that the program finds are in order, and this is the limit among them. -/
def Configured (environment : Environment) (workplace : EnvironmentFile.Workplace)
    (files : FileView) (limit : ReadLimit) : Prop :=
  ∃ extended, EnvironmentFile.extend environment workplace files = .ok extended ∧
    extended.readLimit = .ok limit ∧ ∃ settings, extended.database = .ok settings

/-- With settings in order, a command line that is accepted is answered by the service. -/
theorem run_configured
    {words : List String} {command : Command} (parsed : Command.parse words = .ok command)
    {environment : Environment} {workplace : EnvironmentFile.Workplace} {files : FileView}
    {limit : ReadLimit} (configured : Configured environment workplace files limit)
    (server : Server) (now : Instant) :
    run (Command.given words) environment workplace files server now =
      outcomeOf
        (server.result
          (answer ⟨Server.repositories now, ⟨files, .sealing, limit⟩⟩ command)) := by
  rcases configured with ⟨extended, loaded, limited, settings, connected⟩
  rw [run, loaded]
  dsimp only
  rw [Command.texts_eq_ok_iff.mpr rfl]
  dsimp only
  rw [parsed]
  dsimp only
  rw [execute, limited]
  dsimp only
  rw [EnvironmentFile.extend_extended loaded]
  dsimp only
  rw [connected]

/-- An answer is made of what one look-up comes to. -/
theorem result_answer
    (server : Server) (now : Instant) (reader : ArtifactReader) (command : Command) :
    server.result (answer ⟨Server.repositories now, reader⟩ command) =
      match command with
      | .summary id =>
        ((server.result ((Server.repositories now).summary id)).found id).map Summary.toJson
      | .artifact id name =>
        (do
          (← (server.result ((Server.repositories now).record id)).found id).artifact reader
            name).map (.ok ∘ Response.toJson)
      | .allArtifacts id =>
        (do
          return (← (server.result ((Server.repositories now).record id)).found id).artifacts
            reader ArtifactKind.all).map (.ok ∘ artifactsByKind) := by
  cases command <;> rfl

/-- There is a JSON value for every answer from a database, where directories are texts. -/
theorem answer_written
    (server : Server) (now : Instant) (reader : ArtifactReader) (command : Command) :
    ∃ result : Except QueryError Json,
      server.result (answer ⟨Server.repositories now, reader⟩ command) = result.map .ok := by
  have written {α : Type} (toJson : α → Json) (answered : Except QueryError α) :
      ∃ result : Except QueryError Json, (answered.map (.ok ∘ toJson) : Answer) = result.map .ok :=
    ⟨answered.map toJson, by cases answered <;> rfl⟩
  rw [result_answer]
  cases command with
  | artifact id name => exact written _ _
  | allArtifacts id => exact written _ _
  | summary id =>
      dsimp only
      cases looked : server.result ((Server.repositories now).summary id) with
      | error cause => exact ⟨.error (.repository cause), rfl⟩
      | ok found =>
          cases found with
          | none => exact ⟨.error (.notFound id), rfl⟩
          | some summary =>
              rcases Lookup.directory_of_columns looked with ⟨directory, textual⟩
              have made := Summary.toJson_eq_ok_iff.mpr ⟨directory, textual, rfl⟩
              exact ⟨.ok _, congrArg Except.ok made⟩

section Arguments

variable {text : String} {id : RunId} (parsed : RunId.parse text = .ok id)
include parsed

theorem parse_all :
    Command.parse ["artifact", "--dispatch", text, "--all"] = .ok (.allArtifacts id) := by
  have asked :
      Command.Asked "artifact" (Options.ofGiven [.dispatch text, .all]) (.allArtifacts id) :=
    .allArtifacts rfl rfl parsed rfl rfl
  exact Command.parse_line_eq_ok_iff.mpr asked

theorem parse_named (kind : ArtifactKind) :
    Command.parse ["artifact", "--dispatch", text, "--name", kind.name] =
      .ok (.artifact id (.known kind)) := by
  have means : (ArtifactName.known kind).Means kind.name :=
    ⟨rfl, fun _ => ⟨kind, rfl⟩, fun _ => ⟨kind, rfl⟩⟩
  have asked :
      Command.Asked "artifact" (Options.ofGiven [.dispatch text, .name kind.name])
        (.artifact id (.known kind)) :=
    .artifact rfl rfl parsed rfl (.inl ⟨kind, rfl⟩) means rfl
  exact Command.parse_line_eq_ok_iff.mpr asked

end Arguments

/-! ## What is shown -/

/-- What is shown of the artifact of a kind: the response, or the report of what is wrong. -/
def entry (record : StorageRecord) (reader : ArtifactReader) (kind : ArtifactKind) : Json :=
  match record.artifact reader (.known kind) with
  | .ok response => response.toJson.normalize
  | .error error => error.detail.report.normalize

/-- What is shown of all artifacts. -/
def entries (record : StorageRecord) (reader : ArtifactReader) : List (String × Json) :=
  ArtifactKind.all.map fun kind => (kind.name, entry record reader kind)

theorem entries_distinct (record : StorageRecord) (reader : ArtifactReader) :
    Json.DistinctKeys (entries record reader) := by
  refine List.pairwise_map.mpr (ArtifactKind.nodup_all.imp ?_)
  intro left right different same
  exact different (ArtifactKind.name_injective same)

/-- The object of all artifacts has the entries in key order. -/
theorem artifactsByKind_eq (record : StorageRecord) (reader : ArtifactReader) :
    artifactsByKind (record.artifacts reader ArtifactKind.all) =
      .object (Json.sortMembers (entries record reader)) := by
  rw [artifactsByKind, StorageRecord.artifacts, List.map_map, Json.normalize, Json.ofMembers,
    Json.normalizeMembers_eq, Json.mapMembers, List.map_map, entries]
  congr 3
  funext kind
  dsimp only [Function.comp, entry]
  cases record.artifact reader (.known kind) <;> rfl

theorem lookup_entries
    (record : StorageRecord) (reader : ArtifactReader) (kind : ArtifactKind) :
    Json.lookup kind.name (Json.sortMembers (entries record reader)) =
      some (entry record reader kind) := by
  rw [Json.lookup_sortMembers (entries_distinct record reader),
    Json.lookup_eq_some (entries_distinct record reader)]
  exact List.mem_map_of_mem kind.mem_all

theorem keys_entries (record : StorageRecord) (reader : ArtifactReader) :
    ((Json.sortMembers (entries record reader)).map Prod.fst).Perm
      (ArtifactKind.all.map ArtifactKind.name) := by
  have sorted := (Json.sortMembers_perm (entries_distinct record reader)).map Prod.fst
  rw [entries, List.map_map] at sorted
  exact sorted

/-- A response has no details of an error. -/
theorem member?_response (response : Response) :
    response.toJson.normalize.member? "detail" = none := by
  cases response <;> rfl

theorem member?_report (detail : ErrorDetail) :
    (detail.report.normalize.member? "detail").isSome = true := rfl

end Inspect

/-- An outcome shows a value: as the output of a success, or as the errors of a failure. -/
def Outcome.Shows (outcome : Outcome) (value : Json) : Prop :=
  (outcome.exitCode = 0 → Json.Shows outcome.output value) ∧
    (outcome.exitCode ≠ 0 → Json.Shows outcome.errors value)

theorem QueryError.exitCode_eq (error : QueryError) :
    error.exitCode = 4 ∨ error.exitCode = 5 := by
  rw [exitCode]
  split
  · exact Or.inl rfl
  · exact Or.inr rfl

theorem QueryError.exitCode_ne_zero (error : QueryError) : error.exitCode ≠ 0 := by
  rcases error.exitCode_eq with four | five
  · rw [four]
    decide
  · rw [five]
    decide

namespace Inspect

theorem outcomeOf_ok_shows (json : Json) :
    (outcomeOf (.ok (.ok json))).Shows json.normalize := by
  have succeeded : (outcomeOf (.ok (.ok json))).exitCode = 0 := rfl
  exact ⟨fun _ => Json.shows_pretty json, fun failed => absurd succeeded failed⟩

theorem outcomeOf_error_shows (error : QueryError) :
    (outcomeOf (.error error)).Shows error.detail.report.normalize := by
  have failed : (outcomeOf (.error error)).exitCode ≠ 0 := error.exitCode_ne_zero
  exact ⟨fun succeeded => absurd succeeded failed,
    fun _ => Json.shows_compact error.detail.report⟩

/-- The outcome for one kind shows its entry, which has details if and only if the kind fails. -/
theorem outcomeOf_entry
    (record : StorageRecord) (reader : ArtifactReader) (kind : ArtifactKind) :
    let outcome := outcomeOf ((record.artifact reader (.known kind)).map (.ok ∘ Response.toJson))
    outcome.Shows (entry record reader kind) ∧
      (((entry record reader kind).member? "detail").isSome = true ↔ outcome.exitCode ≠ 0) := by
  unfold entry
  cases record.artifact reader (.known kind) with
  | ok response =>
      refine ⟨outcomeOf_ok_shows response.toJson, ?_⟩
      dsimp only
      rw [member?_response]
      exact ⟨nofun, fun failed => absurd rfl failed⟩
  | error error =>
      refine ⟨outcomeOf_error_shows error, ?_⟩
      exact ⟨fun _ => error.exitCode_ne_zero, fun _ => member?_report error.detail⟩

/-- The output for all kinds shows the object of their entries. -/
theorem output_entries (record : StorageRecord) (reader : ArtifactReader) :
    Json.Shows
      (outcomeOf (.ok (.ok (artifactsByKind (record.artifacts reader ArtifactKind.all))))).output
      (.object (Json.sortMembers (entries record reader))) := by
  have shown := Json.shows_pretty (artifactsByKind (record.artifacts reader ArtifactKind.all))
  have normal :
      (artifactsByKind (record.artifacts reader ArtifactKind.all)).normalize =
        artifactsByKind (record.artifacts reader ArtifactKind.all) := by
    rw [artifactsByKind, Json.normalize_normalize]
  rw [normal, artifactsByKind_eq] at shown
  rw [artifactsByKind_eq]
  exact shown

/-- The entry of a kind depends on no other file. -/
theorem entry_congr
    {record : StorageRecord} {kind : ArtifactKind} {files others : FileView}
    (codec : Codec) (limit : ReadLimit)
    (same : ∀ path, record.resolve kind = .ok path → files path = others path) :
    entry record ⟨others, codec, limit⟩ kind = entry record ⟨files, codec, limit⟩ kind := by
  have responds :
      record.respond ⟨files, codec, limit⟩ (.known kind) =
        record.respond ⟨others, codec, limit⟩ (.known kind) :=
    (StorageRecord.AgreesOn.refl kind record).respond codec limit same
  rw [entry, entry, StorageRecord.artifact, StorageRecord.artifact, responds]

/-! ## Both programs -/

/-- What the program that asks for one kind makes of the look-up of the run. -/
theorem run_named
    {text : String} {id : RunId} (parsed : RunId.parse text = .ok id)
    {environment : Environment} {workplace : EnvironmentFile.Workplace} {files : FileView}
    {limit : ReadLimit} (configured : Configured environment workplace files limit)
    (server : Server) (now : Instant)
    (kind : ArtifactKind) :
    run (Command.given ["artifact", "--dispatch", text, "--name", kind.name]) environment workplace
        files server now =
      outcomeOf
        ((do
          (← (server.result ((Server.repositories now).record id)).found id).artifact
            ⟨files, .sealing, limit⟩ (.known kind)).map (.ok ∘ Response.toJson)) := by
  rw [run_configured (parse_named parsed kind) configured server now, result_answer]

/-- What the program that asks for all kinds makes of the look-up of the run. -/
theorem run_all
    {text : String} {id : RunId} (parsed : RunId.parse text = .ok id)
    {environment : Environment} {workplace : EnvironmentFile.Workplace} {files : FileView}
    {limit : ReadLimit} (configured : Configured environment workplace files limit)
    (server : Server) (now : Instant) :
    run (Command.given ["artifact", "--dispatch", text, "--all"]) environment workplace files server
        now =
      outcomeOf
        ((do
          return (← (server.result ((Server.repositories now).record id)).found id).artifacts
            ⟨files, .sealing, limit⟩ ArtifactKind.all).map (.ok ∘ artifactsByKind)) := by
  rw [run_configured (parse_all parsed) configured server now, result_answer]

/--
Asking for all artifacts of a run agrees with asking for each of them by its name.

If the run is found, the answer is an object with exactly the names of the kinds as keys.  The value
under a name is what asking for this kind shows, and it has details if and only if that fails.  It
stays the same if other files change, as long as the file of this kind is the same.

If there is no such run or the database fails, both end in the same way.
-/
theorem all_agrees_with_named
    {text : String} {id : RunId} (parsed : RunId.parse text = .ok id)
    {environment : Environment} {workplace : EnvironmentFile.Workplace} {files : FileView}
    {limit : ReadLimit} (configured : Configured environment workplace files limit)
    (server : Server) (now : Instant) :
    let all (view : FileView) :=
      run (Command.given ["artifact", "--dispatch", text, "--all"]) environment workplace view
        server now
    let named (kind : ArtifactKind) :=
      run (Command.given ["artifact", "--dispatch", text, "--name", kind.name]) environment
        workplace files server now
    match server.result ((Server.repositories now).record id) with
    | .ok (some record) =>
      (all files).exitCode = 0 ∧
      ∃ members, Json.Shows (all files).output (.object members) ∧
        (members.map Prod.fst).Perm (ArtifactKind.all.map ArtifactKind.name) ∧
        ∀ kind : ArtifactKind, ∃ value, Json.lookup kind.name members = some value ∧
          (named kind).Shows value ∧
          ((value.member? "detail").isSome = true ↔ (named kind).exitCode ≠ 0) ∧
          ∀ others, Configured environment workplace others limit →
            (∀ path, record.resolve kind = .ok path → files path = others path) →
            ∃ otherMembers, Json.Shows (all others).output (.object otherMembers) ∧
              Json.lookup kind.name otherMembers = some value
    | .ok none =>
      all files = .failure 4 (reportLine (QueryError.notFound id).detail) ∧
        ∀ kind, named kind = all files
    | .error cause =>
      all files = .failure 5 (reportLine (QueryError.repository cause).detail) ∧
        ∀ kind, named kind = all files := by
  intro all named
  have allEq (view : FileView) (configured : Configured environment workplace view limit) :=
    run_all parsed configured server now
  have namedEq := run_named parsed configured server now
  cases looked : server.result ((Server.repositories now).record id) with
  | error cause =>
      rw [looked] at namedEq
      simp only [looked] at allEq
      exact ⟨allEq files configured, fun kind => (namedEq kind).trans (allEq files configured).symm⟩
  | ok found =>
      cases found with
      | none =>
          rw [looked] at namedEq
          simp only [looked] at allEq
          exact
            ⟨allEq files configured, fun kind => (namedEq kind).trans (allEq files configured).symm⟩
      | some record =>
          rw [looked] at namedEq
          simp only [looked] at allEq
          have shown (view : FileView) (configured : Configured environment workplace view limit) :
              Json.Shows (all view).output
                (.object (Json.sortMembers (entries record ⟨view, .sealing, limit⟩))) := by
            rw [show all view = _ from allEq view configured]
            exact output_entries record ⟨view, .sealing, limit⟩
          refine ⟨congrArg Outcome.exitCode (allEq files configured), _, shown files configured,
            keys_entries record _, ?_⟩
          intro kind
          have single := outcomeOf_entry record ⟨files, .sealing, limit⟩ kind
          have outcome :
              named kind =
                outcomeOf
                  ((record.artifact ⟨files, .sealing, limit⟩ (.known kind)).map
                    (.ok ∘ Response.toJson)) :=
            namedEq kind
          rw [← outcome] at single
          refine ⟨_, lookup_entries record _ kind, single.1, single.2, ?_⟩
          intro others otherConfigured same
          refine ⟨_, shown others otherConfigured, ?_⟩
          rw [lookup_entries, entry_congr .sealing limit same]

/-- The identifier of a run in its written form. -/
def firstText : String := "00000000-0000-0000-0000-000000000001"

/-- A working directory without an environment file in it or above it. -/
def bareWorkplace : EnvironmentFile.Workplace :=
  ⟨some [Utf8.ofString "work"], fun _ => .error .notFound⟩

/-- An environment with a database and nothing else. -/
def plainEnvironment : Environment := [("DATABASE_URL", "db")]

theorem parse_firstText : RunId.parse firstText = .ok Service.finishedRow.dispatchId := by
  decide +kernel

theorem configured_plain (files : FileView) :
    Configured plainEnvironment bareWorkplace files .unbounded :=
  ⟨plainEnvironment, rfl, rfl, ⟨"db", 2, 16⟩, rfl⟩

/-- Of the files of a run, the source of its function is the only one left. -/
def sourceView : FileView := fun path =>
  if path = .ofText "/runs/1/function_string.txt" then
    .regular 4 (.whole (Utf8.ofString "pass"))
  else .refused .notFound

/--
A run with the source of its function and nothing else: asking for everything succeeds, with a
response for the source and details of what is wrong for its executor.
-/
theorem all_agrees_with_named_partly :
    let server : Server := ⟨[Service.finishedRow], [], 0⟩
    let all :=
      run (Command.given ["artifact", "--dispatch", firstText, "--all"]) plainEnvironment
        bareWorkplace sourceView server .epoch
    let named (kind : ArtifactKind) :=
      run (Command.given ["artifact", "--dispatch", firstText, "--name", kind.name])
        plainEnvironment bareWorkplace sourceView server .epoch
    all.exitCode = 0 ∧
      ∃ members, Json.Shows all.output (.object members) ∧
        (∃ value, Json.lookup "function_string" members = some value ∧
          (named .functionString).exitCode = 0 ∧ (named .functionString).Shows value ∧
          value.member? "detail" = none) ∧
        ∃ value, Json.lookup "executor" members = some value ∧
          (named .executor).exitCode = 4 ∧ (named .executor).Shows value ∧
          (value.member? "detail").isSome = true := by
  intro server all named
  have agree :=
    all_agrees_with_named parse_firstText (configured_plain sourceView) server .epoch
  have looked :
      server.result ((Server.repositories .epoch).record Service.finishedRow.dispatchId) =
        .ok (some Service.finishedRow.described) :=
    Server.result_record .epoch Service.finishedRow.dispatchId
  simp only [looked] at agree
  rcases agree with ⟨succeeds, members, shown, _, each⟩
  have answered (kind : ArtifactKind) :
      named kind =
        outcomeOf
          ((Service.finishedRow.described.artifact ⟨sourceView, .sealing, .unbounded⟩
            (.known kind)).map (.ok ∘ Response.toJson)) := by
    have outcome := run_named parse_firstText (configured_plain sourceView) server .epoch kind
    rw [looked] at outcome
    exact outcome
  have zero : (named .functionString).exitCode = 0 := by
    rw [answered]
    decide +kernel
  have four : (named .executor).exitCode = 4 := by
    rw [answered]
    decide +kernel
  refine ⟨succeeds, members, shown, ?_, ?_⟩
  · rcases each .functionString with ⟨value, found, same, detailed, _⟩
    refine ⟨value, found, zero, same, ?_⟩
    rw [← Option.not_isSome_iff_eq_none, detailed]
    exact fun failed => failed zero
  · rcases each .executor with ⟨value, found, same, detailed, _⟩
    refine ⟨value, found, four, same, detailed.mpr ?_⟩
    exact fun succeeded => absurd (four.symm.trans succeeded) (by decide)

end Inspect

end RunArchive
