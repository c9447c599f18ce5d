import RunArchive.CommandLine.Arguments
import RunArchive.CommandLine.Demo
import RunArchive.CommandLine.EnvironmentFile
import RunArchive.Database.Repository
import RunArchive.Json.Printer

/-!
# The overview program

`main-core` prints the summary of a run and then a line for each of its artifacts.  With a
database and an identifier on the command line it shows that run; otherwise it shows the
demonstration run, which it writes to a directory of its own and removes again.  Before anything
else it loads its environment file.
-/

namespace RunArchive

/-- The settings of the overview program. -/
structure OverviewSettings where
  /-- The database, if there is one. -/
  database : Option DatabaseSettings
  limit : ReadLimit
deriving DecidableEq

namespace OverviewSettings

/-- The settings for runs in memory. -/
def inMemory (limit : ReadLimit) : OverviewSettings := ⟨none, limit⟩

/-- The database in an environment; a blank address is as good as none. -/
def readDatabase (environment : Environment) : Except ProgramError (Option DatabaseSettings) :=
  match environment.get? DatabaseSettings.urlVariable with
  | none => .ok none
  | some url =>
    if DatabaseSettings.isBlankText url then .ok none
    else
      match environment.database with
      | .ok settings => .ok (some settings)
      | .error cause => .error (.database cause)

/-- The settings in an environment. -/
def ofEnvironment (environment : Environment) : Except ProgramError OverviewSettings := do
  let database ← readDatabase environment
  match environment.readLimit with
  | .ok limit => return ⟨database, limit⟩
  | .error cause => .error (.refused cause)

end OverviewSettings

namespace Overview

/-- The name of the program. -/
def programName : String := "main-core"

/-- What a program has printed, and the error that ended it, if one did. -/
structure Printed where
  output : String
  error? : Option ProgramError

/-- The line for an artifact. -/
def artifactLine (kind : ArtifactKind) (answer : Except QueryError Response) : String :=
  kind.name ++ ": " ++
    (match answer with
      | .ok response => String.ofList response.toJson.compact
      | .error error => "error " ++ String.ofList error.detail.toJson.compact) ++
    "\n"

/-- The text for a summary, which is empty if there is no JSON value for it. -/
def summaryText (summary : Summary) : String :=
  "summary: " ++
    (match summary.toJson with
      | .ok json => String.ofList json.pretty
      | .error _ => "") ++
    "\n"

/-- The lines for artifacts. -/
def artifactLines (artifacts : ArtifactList) : String :=
  String.join (artifacts.map fun (kind, answer) => artifactLine kind answer)

/-- Prints a run. -/
def printRun {m : Type → Type} [Monad m] (service : Service m) (id : RunId) : m Printed := do
  match ← service.summary id with
  | .error error => return ⟨"", some (.query error)⟩
  | .ok summary =>
    match ← service.artifacts id ArtifactKind.all with
    | .error error => return ⟨summaryText summary, some (.query error)⟩
    | .ok artifacts => return ⟨summaryText summary ++ artifactLines artifacts, none⟩

/-- What the demonstration needs to know: who runs it, and when. -/
structure Occasion where
  /-- The identifier of the run. -/
  id : RunId
  /-- What sets the directory of this process apart from others. -/
  process : String
  now : Instant

/-- The variable with the directory for passing files. -/
def directoryVariable : String := "TMPDIR"

/-- The directory for passing files where none is set. -/
def usualDirectory : String := "/tmp"

/-- The directory of the demonstration run. -/
def demoDirectory (environment : Environment) (process : String) : Path :=
  (Path.ofText ((environment.get? directoryVariable).getD usualDirectory)).join
    (.ofText ("lattice-demo-" ++ process))

/-- Shows the demonstration run. -/
def demo (environment : Environment) (disk : Disk) (limit : ReadLimit) (occasion : Occasion) :
    Printed :=
  let directory := demoDirectory environment occasion.process
  match disk.makeDirectories directory with
  | .error fault => ⟨"", some (.files fault.message)⟩
  | .ok disk =>
    match Demo.seed .sealing .empty disk directory occasion.id occasion.now with
    | .error error => ⟨"", some error⟩
    | .ok (store, disk) =>
      let printed : Printed :=
        Id.run (printRun ⟨store.repositories, ⟨disk.opened, .sealing, limit⟩⟩ occasion.id)
      match disk.remove directory with
      | .ok _ => printed
      | .error fault => ⟨printed.output, some (.files fault.message)⟩

/-- The line that announces the demonstration. -/
def announcement : String := "modo demo en memoria\n"

/--
What the program prints; the demonstration run is written to `disk`.  Only the first argument is
looked at, and it must be a text.
-/
def print (arguments : List (List UInt8)) (environment : Environment) (files : FileView)
    (disk : Disk) (server : Server) (occasion : Occasion) : Except ForeignArgument Printed := do
  match OverviewSettings.ofEnvironment environment with
  | .error error => return ⟨"", some error⟩
  | .ok settings =>
    let texts ← Command.texts (arguments.take 1)
    match settings.database, texts.head? with
    | some _, some text =>
      match RunId.parse text with
      | .error cause => return ⟨"", some (.refused cause)⟩
      | .ok id =>
        let reader : ArtifactReader := ⟨files, .sealing, settings.limit⟩
        return server.result (printRun ⟨Server.repositories occasion.now, reader⟩ id)
    | _, _ =>
      let printed := demo environment disk settings.limit occasion
      return { printed with output := announcement ++ printed.output }

/-- The outcome of a program that has printed this. -/
def outcomeOf (printed : Printed) : Outcome :=
  match printed.error? with
  | none => .success printed.output
  | some error =>
    ⟨error.exitCode, printed.output, "[" ++ programName ++ "] " ++ error.message ++ "\n"⟩

/-- The program on its arguments; the demonstration run is written to `disk`. -/
def run (arguments : List (List UInt8)) (environment : Environment)
    (workplace : EnvironmentFile.Workplace) (files : FileView) (disk : Disk) (server : Server)
    (occasion : Occasion) : Outcome :=
  match EnvironmentFile.extend environment workplace files with
  | .error breach => .broken breach.message
  | .ok environment =>
    match print arguments environment files disk server occasion with
    | .error argument => .broken argument.message
    | .ok printed => outcomeOf printed

end Overview

end RunArchive
