import RunArchive.Query.Error

/-!
# Failing databases

What can go wrong between a database and its client, and what it means for those who ask.

A transaction fails in one of the ways of `TransactionError`.  `DatabaseError.ofTransaction` sorts
these out by what can be done about them, `DatabaseError.isRetryable` tells which failures are
worth another attempt, and `DatabaseError.toRepository` is what a query gets to know.
-/

namespace RunArchive

/-- The classes of errors that a database server reports. -/
inductive ServerErrorKind where
  | uniqueViolation
  | foreignKeyViolation
  | unableToSendCommand
  | serializationFailure
  | readOnlyTransaction
  | notNullViolation
  | checkViolation
  | restrictViolation
  | exclusionViolation
  | closedConnection
  | unknown
deriving DecidableEq

namespace ServerErrorKind

def name : ServerErrorKind → String
  | .uniqueViolation => "UniqueViolation"
  | .foreignKeyViolation => "ForeignKeyViolation"
  | .unableToSendCommand => "UnableToSendCommand"
  | .serializationFailure => "SerializationFailure"
  | .readOnlyTransaction => "ReadOnlyTransaction"
  | .notNullViolation => "NotNullViolation"
  | .checkViolation => "CheckViolation"
  | .restrictViolation => "RestrictViolation"
  | .exclusionViolation => "ExclusionViolation"
  | .closedConnection => "ClosedConnection"
  | .unknown => "Unknown"

/--
The class of a state code of the SQL standard.  Of the connection exceptions, those by which a
connection is lost or never comes about count as a closed connection.
-/
def ofState : String → ServerErrorKind
  | "23505" => .uniqueViolation
  | "23503" => .foreignKeyViolation
  | "40001" => .serializationFailure
  | "25006" => .readOnlyTransaction
  | "23502" => .notNullViolation
  | "23514" => .checkViolation
  | "23001" => .restrictViolation
  | "23P01" => .exclusionViolation
  | "08000" | "08001" | "08004" | "08006" => .closedConnection
  | _ => .unknown

end ServerErrorKind

/-- How a transaction can fail. -/
inductive TransactionError where
  /-- No row answers the query. -/
  | noRow
  /-- The server reports an error. -/
  | server (kind : ServerErrorKind) (message : String)
  /-- A column does not hold what it should. -/
  | unreadableColumn (message : String)
  /-- A parameter cannot be sent. -/
  | unwritableParameter (message : String)
  /-- A text for the server has a NUL character, at this position of its octets. -/
  | nulCharacter (position : Nat) (octets : List UInt8)
  /-- The query cannot be put together. -/
  | malformedQuery (message : String)
  /-- The state of the transaction is lost. -/
  | brokenManager
  /-- The caller gives the transaction up. -/
  | givenUp
  | alreadyInTransaction
  | notInTransaction
  /-- Neither the commit nor the rollback after it succeeds. -/
  | rollbackOnCommit (rollback commit : TransactionError)
deriving DecidableEq

namespace TransactionError

def message : TransactionError → String
  | .noRow => "Record not found"
  | .server _ message => message
  | .unreadableColumn message => message
  | .unwritableParameter message => message
  | .nulCharacter position _ =>
    "nul byte found in provided data at position: " ++ toString position
  | .malformedQuery message => message
  | .brokenManager => "The transaction manager is broken"
  | .givenUp => "You have asked diesel to rollback the transaction"
  | .alreadyInTransaction => "Cannot perform this operation while a transaction is open"
  | .notInTransaction => "Cannot perform this operation outside of a transaction"
  | .rollbackOnCommit rollback commit =>
    "Transaction rollback failed: " ++ rollback.message ++
      " (rollback attempted because of failure to commit: " ++ commit.message ++ ")"

/-- The wording of an error that no rule covers. -/
def unhandled (name : String) : String := "unhandled diesel error: " ++ name

end TransactionError

/-- What a failure of the database is to its client. -/
inductive DatabaseError where
  | notFound
  /-- Another transaction was in the way. -/
  | conflict
  /-- The connection fails. -/
  | transient (description : String)
  /-- A row cannot be true. -/
  | corrupt (description : String)
  /-- A setting is missing or malformed. -/
  | config (description : String)
  | unknown (description : String)
deriving DecidableEq

namespace DatabaseError

def message : DatabaseError → String
  | .notFound => "not found"
  | .conflict => "serialization conflict (retryable)"
  | .transient description => "transient IO / connection pool error: " ++ description
  | .corrupt description => "corrupt row: " ++ description
  | .config description => "configuration error: " ++ description
  | .unknown description => "unknown database error: " ++ description

/-- What a failed transaction is to the client. -/
def ofTransaction : TransactionError → DatabaseError
  | .noRow => .notFound
  | .server .serializationFailure _ => .conflict
  | .server .closedConnection message => .transient message
  | .server kind message => .unknown ("db error kind " ++ kind.name ++ ": " ++ message)
  | .unreadableColumn message => .corrupt ("deser: " ++ message)
  | .brokenManager => .transient "broken transaction manager"
  | .rollbackOnCommit rollback commit =>
    .unknown ("rollback=" ++ rollback.message ++ "; commit=" ++ commit.message)
  | .unwritableParameter message =>
    .unknown (TransactionError.unhandled ("SerializationError(" ++ Text.quoted message ++ ")"))
  | .malformedQuery message =>
    .unknown (TransactionError.unhandled ("QueryBuilderError(" ++ Text.quoted message ++ ")"))
  | .nulCharacter position octets =>
    .unknown (TransactionError.unhandled
      ("InvalidCString(NulError(" ++ toString position ++ ", [" ++
        String.intercalate ", " (octets.map toString) ++ "]))"))
  | .givenUp => .unknown (TransactionError.unhandled "RollbackTransaction")
  | .alreadyInTransaction => .unknown (TransactionError.unhandled "AlreadyInTransaction")
  | .notInTransaction => .unknown (TransactionError.unhandled "NotInTransaction")

/-- The words by which a passing failure of unknown class is recognized. -/
def passingFailures : List String :=
  ["terminating connection due to administrator command", "connection closed", "connection refused",
    "timeout"]

/-- Whether words stand somewhere in a text. -/
def standsIn (words : List Char) : List Char → Bool
  | [] => words.isEmpty
  | character :: rest => words.isPrefixOf (character :: rest) || standsIn words rest

/-- Whether a text mentions words in lower case, itself being in any case. -/
def mentions (text words : String) : Bool :=
  standsIn words.toList (text.toList.map Char.toLower)

/-- Whether another attempt may succeed. -/
def isRetryable : DatabaseError → Bool
  | .conflict | .transient _ => true
  | .unknown description =>
    passingFailures.any fun words => mentions description words
  | .notFound | .corrupt _ | .config _ => false

/-- What a query gets to know of an error. -/
def toRepository : DatabaseError → RepositoryError
  | .corrupt description => .corrupt description
  | error => .backend error.message

end DatabaseError

end RunArchive
