import RunArchive.Query.Artifact
import RunArchive.Run.Summary

/-!
# The query service

A service answers three queries: for the summary of a run, for one of its artifacts and for
several of them at once.  It looks the run up in its repositories, once for every query, and reads
the artifacts from where the storage record says they are.

Repositories are free to keep a state of their own, such as the failures that are still to come:
look-ups are actions of some monad.  What a query makes of the outcome of its look-up is a pure
function beside it.
-/

namespace RunArchive

/-- What the look-up of a run comes to. -/
abbrev Lookup (α : Type) := Except RepositoryError (Option α)

/-- Where runs are looked up. -/
structure Repositories (m : Type → Type) where
  summary : RunId → m (Lookup Summary)
  record : RunId → m (Lookup StorageRecord)

/-- The artifacts of several kinds, each with what its query came to. -/
abbrev ArtifactList := List (ArtifactKind × Except QueryError Response)

namespace Lookup

/-- What has been found, which must be there. -/
def found {α : Type} (id : RunId) : Lookup α → Except QueryError α
  | .error cause => .error (.repository cause)
  | .ok none => .error (.notFound id)
  | .ok (some value) => .ok value

end Lookup

namespace StorageRecord

/-- The answer to a query for one artifact. -/
def artifact (record : StorageRecord) (reader : ArtifactReader) (name : ArtifactName) :
    Except QueryError Response :=
  match record.respond reader name with
  | .ok response => .ok response
  | .error cause => .error (.artifact cause)

/-- The answers to queries for artifacts of several kinds. -/
def artifacts (record : StorageRecord) (reader : ArtifactReader) (kinds : List ArtifactKind) :
    ArtifactList :=
  kinds.map fun kind => (kind, record.artifact reader (.known kind))

end StorageRecord

/-- A service over repositories and a reader of artifacts. -/
structure Service (m : Type → Type) where
  repositories : Repositories m
  reader : ArtifactReader

namespace Service

variable {m : Type → Type} [Functor m]

/-- The summary of a run. -/
def summary (service : Service m) (id : RunId) : m (Except QueryError Summary) :=
  (fun lookup => lookup.found id) <$> service.repositories.summary id

/-- One artifact of a run. -/
def artifact (service : Service m) (id : RunId) (name : ArtifactName) :
    m (Except QueryError Response) :=
  (fun lookup => do (← lookup.found id).artifact service.reader name) <$>
    service.repositories.record id

/-- The artifacts of several kinds, as far as they can be had. -/
def artifacts (service : Service m) (id : RunId) (kinds : List ArtifactKind) :
    m (Except QueryError ArtifactList) :=
  (fun lookup => do return (← lookup.found id).artifacts service.reader kinds) <$>
    service.repositories.record id

end Service

/--
The artifacts of a run as one object by the names of their kinds, failures in their detailed form.
The object and all objects in it have their members in key order.
-/
def artifactsByKind (artifacts : ArtifactList) : Json :=
  .normalize <| .object <| artifacts.map fun (kind, answer) =>
    (kind.name,
      match answer with
      | .ok response => response.toJson
      | .error error => error.detail.report)

end RunArchive
