import RunArchive.Database.Retry
import RunArchive.Database.Row
import RunArchive.Query.Service

/-!
# Runs in a database

Repositories that look runs up in a database.  Every look-up is a unit of work of its own,
repeated as `Retry` says: it takes a connection, fetches the row of the run in a transaction and
reads the columns it needs.  That no row is found is not a failure.  Whether columns that could be
read make sense is asked afterwards, so a row that makes no sense is reported at once.

`Server` is a database that answers from one table of rows and spoils its next queries in given
ways.
-/

namespace RunArchive

/-- What one attempt to fetch a row comes to. -/
inductive FetchOutcome where
  /-- There is no connection. -/
  | unconnected (error : DatabaseError)
  /-- The transaction cannot be begun or brought to its end. -/
  | unfinished (error : TransactionError)
  /-- The query in the transaction fails. -/
  | failed (error : TransactionError)
  /-- The query is answered: with the row of the run, if it has one. -/
  | answered (row : Option Row)

/-- The outcome as the client sees it that reads some columns of the row. -/
def FetchOutcome.result {α : Type} (read : Row → Except TransactionError α) :
    FetchOutcome → Except DatabaseError (Option α)
  | .unconnected error => .error error
  | .unfinished error => .error (.ofTransaction error)
  | .failed .noRow | .answered none => .ok none
  | .failed error => .error (.ofTransaction error)
  | .answered (some row) =>
    match read row with
    | .ok columns => .ok (some columns)
    | .error error => .error (.ofTransaction error)

/-- The look-up of a summary, from what fetching its columns has come to. -/
def Lookup.summaryOfColumns (now : Instant) :
    Except DatabaseError (Option SummaryColumns) → Lookup Summary
  | .error error => .error error.toRepository
  | .ok none => .ok none
  | .ok (some columns) =>
    match columns.summary now with
    | .ok summary => .ok (some summary)
    | .error error => .error error.toRepository

/-- The look-up of a storage record, from what fetching its columns has come to. -/
def Lookup.recordOfColumns : Except DatabaseError (Option RecordColumns) → Lookup StorageRecord
  | .error error => .error error.toRepository
  | .ok columns => .ok (columns.map RecordColumns.record)

/-- The repositories over a way to fetch the row of a run. -/
def Repositories.ofFetch {m : Type → Type} [Monad m] (pause : Nat → m Unit)
    (fetch : RunId → m FetchOutcome) (now : Instant) : Repositories m where
  summary id :=
    Lookup.summaryOfColumns now <$>
      Retry.run pause (FetchOutcome.result Row.summaryColumns <$> fetch id)
  record id :=
    Lookup.recordOfColumns <$>
      Retry.run pause (FetchOutcome.result (fun row => .ok row.recordColumns) <$> fetch id)

/-- The rows of a database. -/
abbrev Table := List Row

/-- The row of a run, if it can be seen. -/
def Table.find (table : Table) (id : RunId) : Option Row :=
  List.find? (fun row : Row => row.dispatchId = id && row.isActive) table

/-- A database over one table. -/
structure Server where
  table : Table
  /-- How the next queries fail. -/
  failures : List TransactionError
  /-- How many queries there have been. -/
  queries : Nat

namespace Server

/-- A query for the row of a run. -/
def fetch (id : RunId) : StateM Server FetchOutcome :=
  modifyGet fun server =>
    match server.failures with
    | failure :: failures =>
      (.failed failure, { server with failures := failures, queries := server.queries + 1 })
    | [] => (.answered (server.table.find id), { server with queries := server.queries + 1 })

/-- What an action on a server gives. -/
def result {α : Type} (server : Server) (action : StateM Server α) : α :=
  (StateT.run action server).run.1

/-- The repositories over a server, without waiting between attempts. -/
def repositories (now : Instant) : Repositories (StateM Server) :=
  .ofFetch (fun _ => pure ()) fetch now

end Server

end RunArchive
