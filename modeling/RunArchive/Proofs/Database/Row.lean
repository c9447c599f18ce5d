import RunArchive.Proofs.Database.Conversion

/-!
# What a row says

A row says what its columns say by their names: what the run is called, where it keeps which file,
how far it has come.  `Row.described` is the storage record of a row in this sense and `Row.summary`
its summary.  A client reads what it has selected by position; `recordColumns_record` and
`summaryColumns_eq` say that both selections are read as they were meant, each column as what its
name says.

A summary is made in two steps, reading the columns and making sense of them.  If both succeed the
summary is a valid one of the run in the row; if one of them fails the row cannot be true, whichever
column it is about.
-/

namespace RunArchive

open SummaryColumns (readTime)

/-! ## Times -/

theorem SummaryColumns.readTime_error
    {column : String} {time : StoredTime} {error : TransactionError}
    (unread : readTime column time = .error error) :
    ∃ message, error = .unreadableColumn message := by
  rw [readTime] at unread
  cases known : time.instant? with
  | some instant =>
      rw [known] at unread
      cases unread
  | none =>
      rw [known] at unread
      exact ⟨_, (Except.error.inj unread).symm⟩

namespace Row

/-! ## Storage records -/

/-- The column with the filename of a kind of artifact. -/
def filename? (row : Row) : ArtifactKind → Option String
  | .result => row.resultsFilename
  | .inputs => row.inputsFilename
  | .functionString => row.functionStringFilename
  | .executor => row.executorDataFilename
  | .workflowExecutor => row.workflowExecutorDataFilename
  | .error => row.errorFilename
  | .function => row.functionFilename
  | .transportGraph => row.transportGraphFilename

/-- The storage record that a row describes. -/
def described (row : Row) : StorageRecord where
  id := row.dispatchId
  directory := .ofText row.storagePath
  filenames := {
    results := row.resultsFilename
    inputs := row.inputsFilename
    functionString := row.functionStringFilename
    executorData := row.executorDataFilename
    workflowExecutorData := row.workflowExecutorDataFilename
    error := row.errorFilename
    function := row.functionFilename
    transportGraph := row.transportGraphFilename }
  executorName := row.executor
  workflowExecutorName := row.workflowExecutor

/-- What is selected for a storage record is read as what the row describes. -/
theorem recordColumns_record (row : Row) : row.recordColumns.record = row.described := rfl

/-! ## Summaries -/

/-- The columns for a summary, by their names. -/
def namedColumns (row : Row) : Except TransactionError SummaryColumns := do
  let startedAt ← readTime "started_at" row.startedAt
  let completedAt ← row.completedAt.mapM (readTime "completed_at")
  return {
    id := row.dispatchId
    status := row.status
    electrons := row.electronNum
    completedElectrons := row.completedElectronNum
    directory := row.storagePath
    startedAt := startedAt
    completedAt := completedAt }

/-- What is selected for a summary is read as what the names say. -/
theorem summaryColumns_eq (row : Row) : row.summaryColumns = row.namedColumns := rfl

/-- The summary of the run in a row, if its columns can be read and make sense together. -/
def summary (row : Row) (now : Instant) : Except DatabaseError Summary :=
  match row.namedColumns with
  | .ok columns => columns.summary now
  | .error error => .error (.ofTransaction error)

/-- The columns of a row are those of its run. -/
theorem namedColumns_id
    {row : Row} {columns : SummaryColumns}
    (read : row.namedColumns = .ok columns) :
    columns.id = row.dispatchId := by
  rcases bind_eq_ok read with ⟨startedAt, _, read⟩
  rcases bind_eq_ok read with ⟨completedAt, _, read⟩
  rw [← Except.ok.inj read]

/-- Columns that cannot be read hold something unreadable. -/
theorem namedColumns_error
    {row : Row} {error : TransactionError}
    (unread : row.namedColumns = .error error) :
    ∃ message, error = .unreadableColumn message := by
  rcases bind_eq_error unread with unread | ⟨startedAt, _, unread⟩
  · exact SummaryColumns.readTime_error unread
  rcases bind_eq_error unread with unread | ⟨completedAt, _, unread⟩
  · cases stored : row.completedAt with
    | none =>
        rw [stored] at unread
        cases unread
    | some time =>
        rw [stored] at unread
        rcases bind_eq_error unread with unread | ⟨instant, _, unread⟩
        · exact SummaryColumns.readTime_error unread
        · cases unread
  · cases unread

/-- The summary of a row is a valid one of its run. -/
theorem summary_ok
    {row : Row} {now : Instant} {summary : Summary}
    (made : row.summary now = .ok summary) :
    summary.id = row.dispatchId ∧ summary.validated = .ok summary := by
  rw [Row.summary] at made
  cases read : row.namedColumns with
  | ok columns =>
      rw [read] at made
      rcases SummaryColumns.summary_eq_ok_iff.mp made with ⟨told, valid, _⟩
      exact ⟨told.id.trans (namedColumns_id read), Summary.validated_valid valid⟩
  | error error =>
      rw [read] at made
      cases made

/-- A row without a summary cannot be true. -/
theorem summary_error
    {row : Row} {now : Instant} {error : DatabaseError}
    (failed : row.summary now = .error error) :
    ∃ description, error = .corrupt description := by
  rw [Row.summary] at failed
  cases read : row.namedColumns with
  | ok columns =>
      rw [read] at failed
      exact SummaryColumns.summary_error failed
  | error unread =>
      rw [read] at failed
      rcases namedColumns_error read with ⟨message, rfl⟩
      exact ⟨_, (Except.error.inj failed).symm⟩

end Row

end RunArchive
