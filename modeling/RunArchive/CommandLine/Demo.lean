import RunArchive.CommandLine.Outcome
import RunArchive.Files.Change
import RunArchive.Store.Memory

/-!
# The demonstration run

A completed run with all eight artifacts, written to a directory and entered into a store.
-/

namespace RunArchive

/-- An instant some nanoseconds earlier; there is none before the first one. -/
def Instant.earlier (instant : Instant) (nanos : Nat) : Instant :=
  let all := instant.seconds * Instant.second + instant.nanos - nanos
  (Instant.of? (all / Instant.second) (all % Instant.second).toNat).getD instant

namespace Demo

/-- The content of an artifact. -/
def content : ArtifactKind → Json
  | .result => .object [("value", .ofNat 42)]
  | .inputs => .object [("args", .array [.ofNat 41]), ("kwargs", .object [])]
  | .functionString => .string "@ct.lattice\ndef workflow(x):\n    return add(x, 1)\n"
  | .executor => .object [("cores", .ofNat 2)]
  | .workflowExecutor => .object [("workdir", .string "/tmp")]
  | .error => .string ""
  | .function => .object [("module", .string "__main__"), ("name", .string "workflow")]
  | .transportGraph =>
    .object [
      ("links", .array []),
      ("nodes", .array [.object [("id", .ofNat 0), ("name", .string "add")]])]

/-- How long the run took, in nanoseconds. -/
def runtime : Nat := 1500 * Summary.millisecond

/-- The summary of the run. -/
def summary (id : RunId) (directory : Path) (endedAt : Instant) : Summary where
  id := id
  status := .completed
  total := 1
  completed := 1
  startedAt := endedAt.earlier runtime
  endedAt := some endedAt
  directory := directory
  runtime := runtime

/-- The storage record of the run. -/
def record (id : RunId) (directory : Path) : StorageRecord where
  id := id
  directory := directory
  filenames := Filenames.usual
  executorName := "local"
  workflowExecutorName := "local"

/-- Writes the artifact of a kind into a directory. -/
def writeArtifact (codec : Codec) (directory : Path) (kind : ArtifactKind) (disk : Disk) :
    Except ProgramError Disk :=
  match kind.octets codec (content kind) with
  | .error fault => .error (.codec fault)
  | .ok octets =>
    match disk.write (directory.join (.ofText (Filenames.usualName kind))) octets with
    | .error fault => .error (.files fault.message)
    | .ok disk => .ok disk

/-- Writes the run into a directory and enters it into a store. -/
def seed (codec : Codec) (store : Store) (disk : Disk) (directory : Path) (id : RunId)
    (endedAt : Instant) : Except ProgramError (Store × Disk) := do
  let disk ← ArtifactKind.all.foldlM (fun disk kind => writeArtifact codec directory kind disk) disk
  match store.insertSummary (summary id directory endedAt) with
  | .error cause => .error (.refused cause)
  | .ok store => return (store.insertRecord (record id directory), disk)

end Demo

end RunArchive
