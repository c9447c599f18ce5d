import RunArchive.Database.Repository
import RunArchive.Json.Reader

/-!
# Snapshots of databases

The rows of a database as a JSON text: a list of objects, one for each row, with a member for each
column.  Columns that can be empty may be missing.
-/

namespace RunArchive

namespace Row

/-- A column with a text, or with nothing. -/
def nullableText (column : String) : Json.Field := .of column (Json.readOptional Json.readString)

/-- The columns of a row. -/
def columns : List Json.Field :=
  [.of "dispatch_id" RunId.ofJson,
    .of "status" Json.readString,
    .of "electron_num" Json.readInt32,
    .of "completed_electron_num" Json.readInt32,
    .of "storage_path" Json.readString,
    nullableText "results_filename",
    nullableText "inputs_filename",
    nullableText "function_string_filename",
    .of "executor" Json.readString,
    nullableText "executor_data_filename",
    .of "workflow_executor" Json.readString,
    nullableText "workflow_executor_data_filename",
    nullableText "error_filename",
    nullableText "function_filename",
    nullableText "transport_graph_filename",
    .of "is_active" Json.readBool,
    .of "started_at" Summary.instantOfJson,
    .of "completed_at" (Json.readOptional Summary.instantOfJson)]

def ofJson (value : Json) : Except Json.Mismatch Row := do
  let found ← Json.readFields "Row" columns value
  let text (column : String) := Json.required found column Json.readString
  let text? (column : String) := Json.optional found column Json.readString
  return {
    dispatchId := ← Json.required found "dispatch_id" RunId.ofJson
    status := ← text "status"
    electronNum := ← Json.required found "electron_num" Json.readInt32
    completedElectronNum := ← Json.required found "completed_electron_num" Json.readInt32
    storagePath := ← Json.required found "storage_path" Json.readString
    resultsFilename := ← text? "results_filename"
    inputsFilename := ← text? "inputs_filename"
    functionStringFilename := ← text? "function_string_filename"
    executor := ← text "executor"
    executorDataFilename := ← text? "executor_data_filename"
    workflowExecutor := ← text "workflow_executor"
    workflowExecutorDataFilename := ← text? "workflow_executor_data_filename"
    errorFilename := ← text? "error_filename"
    functionFilename := ← text? "function_filename"
    transportGraphFilename := ← text? "transport_graph_filename"
    isActive := ← Json.required found "is_active" Json.readBool
    startedAt := .ofInstant (← Json.required found "started_at" Summary.instantOfJson)
    completedAt :=
      (← Json.optional found "completed_at" Summary.instantOfJson).map .ofInstant }

end Row

/-- How deep the text of a snapshot may be nested. -/
def Table.snapshotDepth : Nat := 127

/-- The table in the text of a snapshot, or what is wrong with it. -/
def Table.ofSnapshot (octets : List UInt8) : Except String Table :=
  match Json.read snapshotDepth octets with
  | .error fault => .error fault.message
  | .ok value =>
    match Json.readList Row.ofJson value with
    | .error mismatch => .error mismatch.message
    | .ok rows => .ok rows

end RunArchive
