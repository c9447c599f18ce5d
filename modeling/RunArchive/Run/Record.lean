import RunArchive.Run.Artifact
import RunArchive.Run.Id

/-!
# Storage records

Where a run keeps its artifacts: a directory, a filename in it for every kind of artifact that has
been recorded, and the names of the two executors.
-/

namespace RunArchive

/-- The filenames of a run's artifacts, as far as they are recorded. -/
structure Filenames where
  results : Option String := none
  inputs : Option String := none
  functionString : Option String := none
  executorData : Option String := none
  workflowExecutorData : Option String := none
  error : Option String := none
  function : Option String := none
  transportGraph : Option String := none
deriving DecidableEq

namespace Filenames

/-- No filename at all. -/
def empty : Filenames := {}

/-- The filename of a kind of artifact. -/
def get? (filenames : Filenames) : ArtifactKind → Option String
  | .result => filenames.results
  | .inputs => filenames.inputs
  | .functionString => filenames.functionString
  | .executor => filenames.executorData
  | .workflowExecutor => filenames.workflowExecutorData
  | .error => filenames.error
  | .function => filenames.function
  | .transportGraph => filenames.transportGraph

/-- Records the filename of a kind of artifact. -/
def set (filenames : Filenames) (kind : ArtifactKind) (name : String) : Filenames :=
  match kind with
  | .result => { filenames with results := some name }
  | .inputs => { filenames with inputs := some name }
  | .functionString => { filenames with functionString := some name }
  | .executor => { filenames with executorData := some name }
  | .workflowExecutor => { filenames with workflowExecutorData := some name }
  | .error => { filenames with error := some name }
  | .function => { filenames with function := some name }
  | .transportGraph => { filenames with transportGraph := some name }

@[simp]
theorem get?_set (filenames : Filenames) (kind : ArtifactKind) (name : String) :
    (filenames.set kind name).get? kind = some name := by
  cases kind <;> rfl

/-- The name under which a run usually writes an artifact. -/
def usualName : ArtifactKind → String
  | .result => "results.json"
  | .inputs => "inputs.json"
  | .functionString => "function_string.txt"
  | .executor => "executor_data.json"
  | .workflowExecutor => "workflow_executor_data.json"
  | .error => "error.log"
  | .function => "function.json"
  | .transportGraph => "transport_graph.json"

/-- All usual names. -/
def usual : Filenames :=
  ArtifactKind.all.foldl (fun filenames kind => filenames.set kind (usualName kind)) empty

def toJson (filenames : Filenames) : Json :=
  .object [
    ("results", .ofText? filenames.results),
    ("inputs", .ofText? filenames.inputs),
    ("function_string", .ofText? filenames.functionString),
    ("executor_data", .ofText? filenames.executorData),
    ("workflow_executor_data", .ofText? filenames.workflowExecutorData),
    ("error", .ofText? filenames.error),
    ("function", .ofText? filenames.function),
    ("transport_graph", .ofText? filenames.transportGraph)]

def fields : List Json.Field :=
  ["results", "inputs", "function_string", "executor_data", "workflow_executor_data", "error",
    "function", "transport_graph"].map fun name => .of name (Json.readOptional Json.readString)

def ofJson (value : Json) : Except Json.Mismatch Filenames := do
  let found ← Json.readFields "ArtifactFilenames" fields value
  return {
    results := ← Json.optional found "results" Json.readString
    inputs := ← Json.optional found "inputs" Json.readString
    functionString := ← Json.optional found "function_string" Json.readString
    executorData := ← Json.optional found "executor_data" Json.readString
    workflowExecutorData := ← Json.optional found "workflow_executor_data" Json.readString
    error := ← Json.optional found "error" Json.readString
    function := ← Json.optional found "function" Json.readString
    transportGraph := ← Json.optional found "transport_graph" Json.readString }

end Filenames

/-- The storage record of a run. -/
structure StorageRecord where
  id : RunId
  directory : Path
  filenames : Filenames
  executorName : String
  workflowExecutorName : String
deriving DecidableEq

namespace StorageRecord

def toJson (record : StorageRecord) : Except Json.Unwritable Json := do
  return .object [
    ("dispatch_id", record.id.toJson),
    ("directory", ← Json.ofPath record.directory),
    ("filenames", record.filenames.toJson),
    ("executor_name", .string record.executorName),
    ("workflow_executor_name", .string record.workflowExecutorName)]

def fields : List Json.Field :=
  [.of "dispatch_id" RunId.ofJson,
    .of "directory" Json.readPath,
    .of "filenames" Filenames.ofJson,
    .of "executor_name" Json.readString,
    .of "workflow_executor_name" Json.readString]

def ofJson (value : Json) : Except Json.Mismatch StorageRecord := do
  let found ← Json.readFields "StorageRecord" fields value
  return {
    id := ← Json.required found "dispatch_id" RunId.ofJson
    directory := ← Json.required found "directory" Json.readPath
    filenames := ← Json.required found "filenames" Filenames.ofJson
    executorName := ← Json.required found "executor_name" Json.readString
    workflowExecutorName := ← Json.required found "workflow_executor_name" Json.readString }

end StorageRecord

end RunArchive
