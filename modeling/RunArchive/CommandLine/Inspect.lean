import RunArchive.CommandLine.Arguments
import RunArchive.CommandLine.EnvironmentFile
import RunArchive.CommandLine.Outcome
import RunArchive.Database.Repository
import RunArchive.Json.Printer

/-!
# The lookup program

`lattice` answers one query and ends.  It first loads its environment file, then takes its command
line apart, then its settings, and only then asks the database.  Answers are printed as indented
JSON; a failed query and a refused command line are reported as JSON objects, and faulty settings
and answers for which there is no JSON value as plain lines.

The exit code is 2 for a refused command line, 4 if what is asked for does not exist, and 5 for
everything else that fails.  It is 101 for a program that is ended by its environment file or by an
argument that is no text.
-/

namespace RunArchive.Inspect

/-- The name of the program. -/
def programName : String := "lattice"

/-- The report of a detailed error, as one line. -/
def reportLine (detail : ErrorDetail) : String := String.ofList detail.report.compact

/-- The outcome of a failure that is reported as a plain line. -/
def plainFailure (what message : String) : Outcome :=
  .failure 5 ("[" ++ programName ++ "] " ++ what ++ ": " ++ message)

/-- What a query comes to: an error, or an answer that may have no JSON value. -/
abbrev Answer := Except QueryError (Except Json.Unwritable Json)

/-- The outcome of a query with this answer. -/
def outcomeOf : Answer → Outcome
  | .ok (.ok json) => .success (String.ofList json.pretty ++ "\n")
  | .ok (.error cause) => plainFailure "serialización" cause.message
  | .error error => .failure error.exitCode (reportLine error.detail)

/-- The answer to a command. -/
def answer {m : Type → Type} [Functor m] (service : Service m) : Command → m Answer
  | .summary id => (·.map Summary.toJson) <$> service.summary id
  | .artifact id name => (·.map (.ok ∘ Response.toJson)) <$> service.artifact id name
  | .allArtifacts id => (·.map (.ok ∘ artifactsByKind)) <$> service.artifacts id ArtifactKind.all

/--
Carries out a command.  Whoever looks for the settings of the database loads the environment file
once more.
-/
def execute (command : Command) (environment : Environment)
    (workplace : EnvironmentFile.Workplace) (files : FileView) (server : Server) (now : Instant) :
    Outcome :=
  match environment.readLimit with
  | .error cause => plainFailure "config" cause.message
  | .ok limit =>
    match EnvironmentFile.extend environment workplace files with
    | .error breach => .broken breach.message
    | .ok environment =>
      match environment.database with
      | .error cause => plainFailure "pool error" cause.message
      | .ok _ =>
        outcomeOf
          (server.result (answer ⟨Server.repositories now, ⟨files, .sealing, limit⟩⟩ command))

/-- The program on its arguments. -/
def run (arguments : List (List UInt8)) (environment : Environment)
    (workplace : EnvironmentFile.Workplace) (files : FileView) (server : Server) (now : Instant) :
    Outcome :=
  match EnvironmentFile.extend environment workplace files with
  | .error breach => .broken breach.message
  | .ok environment =>
    match Command.texts arguments with
    | .error argument => .broken argument.message
    | .ok texts =>
      match Command.parse texts with
      | .error error => .failure 2 (reportLine error.detail)
      | .ok command => execute command environment workplace files server now

end RunArchive.Inspect
