import RunArchive.Files.Opened
import RunArchive.Files.Path

/-!
# Directory trees

A tree of files, directories and symbolic links, and the way in which a path is followed in it:
name by name from the working directory or from the root, through every link, up to a limit on
their number.  What stands in the way of a path is reported at the first name where it shows.

`Disk.opened` is the view that a reader has of a tree.
-/

namespace RunArchive

/-- What can stand at a place. -/
inductive Node where
  /-- A regular file: the size that its metadata report, and what reading it gives. -/
  | file (size : Nat) (content : Content)
  | directory
  /-- A symbolic link to the place at the end of a path. -/
  | link (target : Path)

/-- The file that holds these octets. -/
def Node.ofOctets (octets : List UInt8) : Node := .file octets.length (.whole octets)

/-- A tree and the place in it where relative paths start. -/
structure Disk where
  nodes : List (Location × Node)
  workplace : Location

namespace Disk

/-- The tree that only has its working directory. -/
def empty : Disk := ⟨[([Utf8.ofString "work"], .directory)], [Utf8.ofString "work"]⟩

/-- What stands at a place; the root is always a directory. -/
def node? (disk : Disk) (location : Location) : Option Node :=
  if location = [] then some .directory else disk.nodes.lookup location

/-- What a path is followed for. -/
inductive Purpose where
  /-- What it leads to, through every link. -/
  | target
  /-- The place that it names, even if a link stands there. -/
  | place
  /--
  A place for a file, through every link.  A last name with a slash behind it asks for a directory,
  so no file can be made there.
  -/
  | newFile
deriving DecidableEq

/-- Where following a path ends. -/
inductive Arrival where
  /-- At a place where something stands. -/
  | there (location : Location) (node : Node)
  /-- At a place in a directory where nothing stands. -/
  | absent (location : Location)
  /-- In front of an obstacle. -/
  | refused (fault : FileFault)

/-- How far a path can be followed without going through a link. -/
inductive Walk where
  | arrived (arrival : Arrival)
  /-- Up to a link at a place in a directory; the rest of the path comes behind its target. -/
  | link (directory location : Location) (target : Path) (rest : List (List UInt8))

/-- The longest name, in octets. -/
def longestName : Nat := 255

/-- The longest path, in octets. -/
def longestPath : Nat := 4095

/-- How many links a path may lead through. -/
def mostLinks : Nat := 40

/-- Whether nothing but slashes remains of a path. -/
def onlySlashes (rest : List (List UInt8)) : Bool := rest.all (·.isEmpty)

/-- Follows segments from a directory up to the first link. -/
def walk (disk : Disk) (purpose : Purpose) (directory : Location) : List (List UInt8) → Walk
  | [] => .arrived (.there directory .directory)
  | name :: rest =>
    if name = [] ∨ name = Path.here then walk disk purpose directory rest
    else if name = Path.above then walk disk purpose directory.dropLast rest
    else if purpose = .newFile ∧ rest ≠ [] ∧ onlySlashes rest then .arrived (.refused .isDirectory)
    else if longestName < name.length then .arrived (.refused .nameTooLong)
    else
      let location := directory ++ [name]
      match disk.node? location with
      | none => .arrived (if onlySlashes rest then .absent location else .refused .notFound)
      | some .directory => walk disk purpose location rest
      | some (.link target) => .link directory location target rest
      | some (.file size content) =>
        .arrived
          (if rest = [] then .there location (.file size content) else .refused .notDirectory)

/-- Where a path starts when it is met in a directory. -/
def start (directory : Location) (path : Path) : Location :=
  if path.octets.head? = some Path.slash then [] else directory

/--
Follows segments from a directory through at most `links` links.  Whoever looks for a place is not
led on by a link under the very last name.
-/
def follow (disk : Disk) (purpose : Purpose) :
    (links : Nat) → (directory : Location) → List (List UInt8) → Arrival
  | links, directory, segments =>
    match disk.walk purpose directory segments with
    | .arrived arrival => arrival
    | .link directory location target rest =>
      if purpose = .place ∧ onlySlashes rest then .there location (.link target)
      else
        match links with
        | 0 => .refused .tooManyLinks
        | links + 1 =>
          follow disk purpose links (start directory target)
            (Path.segments target.octets ++ rest)

/-- Where a path leads. -/
def locate (disk : Disk) (purpose : Purpose) (path : Path) : Arrival :=
  if 0 ∈ path.octets then .refused .nulCharacter
  else if path.octets = [] then .refused .notFound
  else if longestPath < path.octets.length then .refused .nameTooLong
  else disk.follow purpose mostLinks (start disk.workplace path) (Path.segments path.octets)

/-- What opening a path for reading finds. -/
def opened (disk : Disk) (path : Path) : Opened :=
  match disk.locate .target path with
  | .there _ (.file size content) => .regular size content
  | .there _ .directory | .there _ (.link _) => .irregular
  | .absent _ => .refused .notFound
  | .refused fault => .refused fault

/-- Whether a path leads to a regular file, if it leads anywhere. -/
def isFile (disk : Disk) (path : Path) : Except FileFault Bool :=
  match disk.locate .target path with
  | .there _ (.file _ _) => .ok true
  | .there _ .directory | .there _ (.link _) => .ok false
  | .absent _ => .error .notFound
  | .refused fault => .error fault

/-- Whether a path leads to a directory. -/
def isDirectory (disk : Disk) (path : Path) : Bool :=
  match disk.locate .target path with
  | .there _ .directory => true
  | .there _ _ | .absent _ | .refused _ => false

end Disk

end RunArchive
