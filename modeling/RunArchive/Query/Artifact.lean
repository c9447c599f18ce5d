import RunArchive.Files.Path
import RunArchive.Query.Reader
import RunArchive.Run.Record
import RunArchive.Run.Response

/-!
# Loading artifacts

From a storage record to the answer for one artifact: the recorded filename gives the path, the
kind says how the file there is read, and the two executors are answered together with their
recorded names.  A name that is no kind is answered with no data, without a look at any file.
-/

namespace RunArchive

/--
The content of a file that keeps an artifact: a text as it is where the kind demands one, and else
what the codec makes of it.
-/
def ArtifactKind.octets (kind : ArtifactKind) (codec : Codec) (content : Json) :
    Except CodecFault (List UInt8) :=
  match kind.form, content with
  | .text, .string text => .ok (Utf8.ofString text)
  | .text, other => .ok (Utf8.encode other.compact)
  | .object, content => codec.encode content

/-- The content of the artifact of a kind in an opened file. -/
def ArtifactKind.content (kind : ArtifactKind) (codec : Codec) (limit : ReadLimit) (path : Path)
    (opened : Opened) : Except ArtifactError Json :=
  match kind.form with
  | .text => (limit.text path opened).map .string
  | .object => limit.object codec path opened

namespace StorageRecord

/-- The path of the artifact of a kind. -/
def resolve (record : StorageRecord) (kind : ArtifactKind) : Except ArtifactError Path :=
  match record.filenames.get? kind with
  | none => .error (.notRecorded kind)
  | some filename =>
    let path := Path.ofText filename
    if path.Contained then .ok (record.directory.join path)
    else .error (.invalidFilename kind filename)

/-- Loads the artifact of a kind: the computation opens one path, if the record gives one. -/
def load (record : StorageRecord) (codec : Codec) (limit : ReadLimit) (kind : ArtifactKind) :
    Opening (Except ArtifactError Json) :=
  match record.resolve kind with
  | .error cause => .done (.error cause)
  | .ok path => .next path fun opened => .done (kind.content codec limit path opened)

/-- What the content of an artifact is answered with. -/
def responseOf (record : StorageRecord) (kind : ArtifactKind) (content : Json) : Response :=
  match kind with
  | .executor => .executor record.executorName content
  | .workflowExecutor => .workflowExecutor record.workflowExecutorName content
  | .result | .inputs | .functionString | .error | .function | .transportGraph =>
    .data (some content)

/-- The computation that answers a request for an artifact. -/
def answering (record : StorageRecord) (codec : Codec) (limit : ReadLimit) :
    ArtifactName → Opening (Except KindError Response)
  | .unrecognized _ => .done (.ok .empty)
  | .known kind =>
    (record.load codec limit kind).map fun loaded =>
      match loaded with
      | .ok content => .ok (record.responseOf kind content)
      | .error cause => .error ⟨kind, cause⟩

/-- The answer to a request for an artifact. -/
def respond (record : StorageRecord) (reader : ArtifactReader) (name : ArtifactName) :
    Except KindError Response :=
  (record.answering reader.codec reader.limit name).run reader.files

end StorageRecord

end RunArchive
