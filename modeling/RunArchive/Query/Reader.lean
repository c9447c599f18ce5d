import RunArchive.Files.Opening
import RunArchive.Query.Error
import RunArchive.Query.Limit

/-!
# Reading artifact files

What becomes of an artifact file depends on nothing but the outcome of opening it.  A limit is
enforced twice: on the size that the metadata report, before anything is read, and on what is then
read, which is never more than one byte above the limit.  A file that is not there is missing,
whenever this shows.
-/

namespace RunArchive

/-- The octets that a regular file gives under a limit, which its size must not exceed either. -/
def ReadLimit.octetsOf (limit : ReadLimit) (path : Path) (size : Nat) (content : Content) :
    Except ArtifactError (List UInt8) :=
  match limit.maxBytes with
  | none => content.all.mapError (.ofFault path)
  | some most =>
    if most.toNat < size then .error (.tooLarge path size most)
    else
      match content.upTo (reach most) with
      | .error fault => .error (.ofFault path fault)
      | .ok seen =>
        if most.toNat < seen.length then .error (.tooLarge path seen.length most) else .ok seen

/-- The octets of an opened file, as far as a limit admits them. -/
def ReadLimit.octets (limit : ReadLimit) (path : Path) :
    Opened → Except ArtifactError (List UInt8)
  | .refused fault => .error (.ofFault path fault)
  | .irregular => .error (.missingFile path)
  | .regular size content => limit.octetsOf path size content

/-- The text in an opened file. -/
def ReadLimit.text (limit : ReadLimit) (path : Path) (opened : Opened) :
    Except ArtifactError String := do
  match Utf8.decode (← limit.octets path opened) with
  | .ok characters => return String.ofList characters
  | .error fault => .error (.undecodable path (.encoding fault))

/-- The value that is sealed in an opened file. -/
def ReadLimit.object (limit : ReadLimit) (codec : Codec) (path : Path) (opened : Opened) :
    Except ArtifactError Json := do
  match codec.decode (← limit.octets path opened) with
  | .ok value => return value
  | .error fault => .error (.undecodable path (.codec fault))

/-- What it takes to read artifacts: a view of the files, a codec for sealed values and a limit. -/
structure ArtifactReader where
  files : FileView
  codec : Codec
  limit : ReadLimit

namespace ArtifactReader

/-- The text in the file at a path. -/
def text (reader : ArtifactReader) (path : Path) : Except ArtifactError String :=
  reader.limit.text path (reader.files path)

/-- The value that is sealed in the file at a path. -/
def object (reader : ArtifactReader) (path : Path) : Except ArtifactError Json :=
  reader.limit.object reader.codec path (reader.files path)

end ArtifactReader

end RunArchive
