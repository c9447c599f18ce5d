import RunArchive.Envelope.Codec
import RunArchive.Files.Opened
import RunArchive.Files.Path
import RunArchive.Run.Artifact
import RunArchive.Run.Id

/-!
# Failed queries

A query fails because there is no such run, because the artifact that it asks for cannot be had,
or because the repository that knows about runs cannot answer.  Every failure has a wording and a
detailed form, which says what part of the request it is about and of what type it is.
-/

namespace RunArchive

/-- Why the content of a file is not an artifact. -/
inductive ContentFault where
  /-- A text is not UTF-8. -/
  | encoding (cause : Utf8.Fault)
  /-- The codec makes no value of the octets. -/
  | codec (cause : CodecFault)

def ContentFault.message : ContentFault → String
  | .encoding cause => "invalid utf-8: " ++ cause.message
  | .codec cause => cause.message

/-- Why an artifact cannot be had. -/
inductive ArtifactError where
  /-- Nothing, or nothing that could be an artifact, is at the path. -/
  | missingFile (path : Path)
  /-- The run has no file of the kind. -/
  | notRecorded (kind : ArtifactKind)
  /-- The recorded filename leaves the directory of the run. -/
  | invalidFilename (kind : ArtifactKind) (filename : String)
  /-- The content of the file is not what the kind demands. -/
  | undecodable (path : Path) (cause : ContentFault)
  /-- The file is longer than the limit; `size` is what is known of its length. -/
  | tooLarge (path : Path) (size : Nat) (limit : UInt64)
  /-- The file cannot be read. -/
  | unreadable (path : Path) (cause : FileFault)

namespace ArtifactError

/-- What a fault in opening or reading a path means: that nothing is there, or that it fails. -/
def ofFault (path : Path) : FileFault → ArtifactError
  | .notFound => .missingFile path
  | fault => .unreadable path fault

def message : ArtifactError → String
  | .missingFile path => s!"artifact file {path.shown} does not exist"
  | .notRecorded kind => s!"no {kind.name} file is recorded for this dispatch"
  | .invalidFilename kind filename =>
    "artifact filename " ++ Text.quoted filename ++
      s!" for {kind.name} escapes the storage directory"
  | .undecodable path cause =>
    s!"artifact file {path.shown} could not be decoded: {cause.message}"
  | .tooLarge path size limit =>
    s!"artifact file {path.shown} is {size} bytes, above the {limit.toNat} byte limit"
  | .unreadable path cause => s!"io error reading {path.shown}: {cause.message}"

/-- Whether the artifact does not exist. -/
def isMissing : ArtifactError → Bool
  | .missingFile _ | .notRecorded _ => true
  | .invalidFilename _ _ | .undecodable _ _ | .tooLarge _ _ _ | .unreadable _ _ => false

/-- Whether the artifact exists but is broken. -/
def isUndecodable : ArtifactError → Bool
  | .undecodable _ _ => true
  | .missingFile _ | .notRecorded _ | .invalidFilename _ _ | .tooLarge _ _ _
  | .unreadable _ _ => false

def typeName : ArtifactError → String
  | .missingFile _ | .notRecorded _ => "missing_file"
  | .invalidFilename _ _ => "invalid_filename"
  | .undecodable _ _ => "decode_error"
  | .tooLarge _ _ _ => "too_large"
  | .unreadable _ _ => "io_error"

end ArtifactError

/-- Why the artifact of some kind cannot be had. -/
structure KindError where
  kind : ArtifactKind
  cause : ArtifactError

def KindError.message (error : KindError) : String :=
  s!"could not load {error.kind.name} artifact: {error.cause.message}"

/-- Why a repository cannot answer. -/
inductive RepositoryError where
  /-- It cannot be reached, or fails. -/
  | backend (description : String)
  /-- What it has cannot be true. -/
  | corrupt (description : String)
deriving DecidableEq

def RepositoryError.message : RepositoryError → String
  | .backend description => "storage backend unavailable: " ++ description
  | .corrupt description => "stored record is corrupt: " ++ description

/-- Why a query fails. -/
inductive QueryError where
  /-- There is no such run. -/
  | notFound (id : RunId)
  /-- The artifact cannot be had. -/
  | artifact (cause : KindError)
  /-- The repository cannot answer. -/
  | repository (cause : RepositoryError)

/-- The detailed form of an error. -/
structure ErrorDetail where
  /-- The part of the request that the error is about. -/
  location : List String
  message : String
  type? : Option String
deriving DecidableEq

namespace ErrorDetail

/-- A detail as a JSON object, its fields in the order in which they are written. -/
def toJson (detail : ErrorDetail) : Json :=
  .object [
    ("loc", .array (detail.location.map .string)),
    ("msg", .string detail.message),
    ("type", .ofText? detail.type?)]

def fields : List Json.Field :=
  [.of "loc" (Json.readList Json.readString),
    .of "msg" Json.readString,
    .of "type" (Json.readOptional Json.readString)]

def ofJson (value : Json) : Except Json.Mismatch ErrorDetail := do
  let found ← Json.readFields "ErrorDetail" fields value
  return {
    location := ← Json.required found "loc" (Json.readList Json.readString)
    message := ← Json.required found "msg" Json.readString
    type? := ← Json.optional found "type" Json.readString }

/-- Details as they are shown to a user. -/
def report (detail : ErrorDetail) : Json := .object [("detail", .array [detail.toJson])]

end ErrorDetail

namespace QueryError

def message : QueryError → String
  | .notFound id => s!"Dispatch ID {id.text} does not exist"
  | .artifact cause => cause.message
  | .repository cause => cause.message

/-- Whether there is no such run. -/
def isNotFound : QueryError → Bool
  | .notFound _ => true
  | .artifact _ | .repository _ => false

/-- Whether the artifact does not exist. -/
def isMissingFile : QueryError → Bool
  | .artifact error => error.cause.isMissing
  | .notFound _ | .repository _ => false

/-- Whether the artifact exists but is broken. -/
def isUndecodable : QueryError → Bool
  | .artifact error => error.cause.isUndecodable
  | .notFound _ | .repository _ => false

def detail (error : QueryError) : ErrorDetail :=
  match error with
  | .notFound _ => ⟨["path", "dispatch_id"], error.message, none⟩
  | .artifact cause => ⟨["path", "name"], error.message, some cause.cause.typeName⟩
  | .repository _ => ⟨[], error.message, some "storage_error"⟩

/-- The exit code of a program that ends with an error: 4 for what does not exist, else 5. -/
def exitCode (error : QueryError) : UInt8 :=
  if error.isNotFound || error.isMissingFile then 4 else 5

end QueryError

end RunArchive
