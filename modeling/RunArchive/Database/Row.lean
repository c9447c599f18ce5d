import RunArchive.Database.Error
import RunArchive.Database.StoredTime
import RunArchive.Run.Error
import RunArchive.Run.Record

/-!
# Rows

The database keeps everything about a run in one row.  It is queried for two purposes, each query
selecting some columns in an order of its own, and what has been selected is read by position.

* `RecordColumns` are the columns for a storage record; any of them give one.
* `SummaryColumns` are the columns for a summary.  They cannot be read if a time in them is no
  instant, and `SummaryColumns.summary` makes a summary of them only if they make sense together:
  the state is one of the known ones, the counts are not negative, and the summary that results
  is valid.
-/

namespace RunArchive

/-- A row of the table of runs, by its columns. -/
structure Row where
  dispatchId : RunId
  status : String
  electronNum : Int32
  completedElectronNum : Int32
  storagePath : String
  resultsFilename : Option String
  inputsFilename : Option String
  functionStringFilename : Option String
  executor : String
  executorDataFilename : Option String
  workflowExecutor : String
  workflowExecutorDataFilename : Option String
  errorFilename : Option String
  functionFilename : Option String
  transportGraphFilename : Option String
  /-- Whether the run can be seen at all. -/
  isActive : Bool
  startedAt : StoredTime
  completedAt : Option StoredTime

/-! ## Summaries -/

/-- The columns that a summary is made of, in the order in which they are read. -/
structure SummaryColumns where
  id : RunId
  status : String
  electrons : Int32
  completedElectrons : Int32
  directory : String
  startedAt : Instant
  completedAt : Option Instant

/-- What a query for a summary selects. -/
abbrev SummarySelection :=
  RunId × String × Int32 × Int32 × String × StoredTime × Option StoredTime

/-- The columns that a query for a summary selects, in its order. -/
def Row.summarySelection (row : Row) : SummarySelection :=
  (row.dispatchId, row.status, row.electronNum, row.completedElectronNum, row.storagePath,
    row.startedAt, row.completedAt)

namespace SummaryColumns

/-- The count in a column, which must not be negative. -/
def count (id : RunId) (column : String) (value : Int32) : Except DatabaseError UInt32 :=
  if value.toInt < 0 then
    .error (.corrupt s!"{id.text}: {column}={value.toInt} is negative")
  else .ok (UInt32.ofNat value.toInt.toNat)

/-- The state in the columns. -/
def readStatus (columns : SummaryColumns) : Except DatabaseError RunStatus :=
  match RunStatus.parse columns.status with
  | .ok status => .ok status
  | .error cause => .error (.corrupt s!"{columns.id.text}: {cause.message}")

/-- The summary that columns make; a run without an end counts as running up to `now`. -/
def summary (columns : SummaryColumns) (now : Instant) : Except DatabaseError Summary := do
  let status ← columns.readStatus
  let total ← count columns.id "electron_num" columns.electrons
  let completed ← count columns.id "completed_electron_num" columns.completedElectrons
  let summary : Summary := {
    id := columns.id
    status := status
    total := total
    completed := completed
    startedAt := columns.startedAt
    endedAt := columns.completedAt
    directory := .ofText columns.directory
    runtime := Summary.runtimeUntil columns.startedAt columns.completedAt now }
  match summary.validated with
  | .ok summary => .ok summary
  | .error cause => .error (.corrupt cause.message)

/-- The instant in a column. -/
def readTime (column : String) (time : StoredTime) : Except TransactionError Instant :=
  match time.instant? with
  | some instant => .ok instant
  | none => .error (.unreadableColumn ("Error deserializing field '" ++ column ++ "'"))

/-- Reads what has been selected by position. -/
def ofSelection : SummarySelection → Except TransactionError SummaryColumns
  | (first, second, third, fourth, fifth, sixth, seventh) => do
    let sixth ← readTime "started_at" sixth
    let seventh ← seventh.mapM (readTime "completed_at")
    return ⟨first, second, third, fourth, fifth, sixth, seventh⟩

end SummaryColumns

/-! ## Storage records -/

/-- The columns that a storage record is made of, in the order in which they are read. -/
structure RecordColumns where
  id : RunId
  directory : String
  resultsFilename : Option String
  inputsFilename : Option String
  functionStringFilename : Option String
  executor : String
  executorDataFilename : Option String
  workflowExecutor : String
  workflowExecutorDataFilename : Option String
  errorFilename : Option String
  functionFilename : Option String
  transportGraphFilename : Option String

/-- What a query for a storage record selects. -/
abbrev RecordSelection :=
  RunId × String × Option String × Option String × Option String × String × Option String ×
    String × Option String × Option String × Option String × Option String

/-- The columns that a query for a storage record selects, in its order. -/
def Row.recordSelection (row : Row) : RecordSelection :=
  (row.dispatchId, row.storagePath, row.resultsFilename, row.inputsFilename,
    row.functionStringFilename, row.executor, row.executorDataFilename, row.workflowExecutor,
    row.workflowExecutorDataFilename, row.errorFilename, row.functionFilename,
    row.transportGraphFilename)

namespace RecordColumns

/-- Reads what has been selected by position. -/
def ofSelection : RecordSelection → RecordColumns
  | (first, second, third, fourth, fifth, sixth, seventh, eighth, ninth, tenth, eleventh,
      twelfth) =>
    ⟨first, second, third, fourth, fifth, sixth, seventh, eighth, ninth, tenth, eleventh, twelfth⟩

/-- The storage record that columns make. -/
def record (columns : RecordColumns) : StorageRecord where
  id := columns.id
  directory := .ofText columns.directory
  filenames := {
    results := columns.resultsFilename
    inputs := columns.inputsFilename
    functionString := columns.functionStringFilename
    executorData := columns.executorDataFilename
    workflowExecutorData := columns.workflowExecutorDataFilename
    error := columns.errorFilename
    function := columns.functionFilename
    transportGraph := columns.transportGraphFilename }
  executorName := columns.executor
  workflowExecutorName := columns.workflowExecutor

end RecordColumns

namespace Row

/-- The columns for a summary, as a client reads them. -/
def summaryColumns (row : Row) : Except TransactionError SummaryColumns :=
  SummaryColumns.ofSelection row.summarySelection

/-- The columns for a storage record, as a client reads them. -/
def recordColumns (row : Row) : RecordColumns := .ofSelection row.recordSelection

end Row

end RunArchive
