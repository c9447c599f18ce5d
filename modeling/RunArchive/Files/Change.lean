import RunArchive.Files.Disk

/-!
# Changes to directory trees

Writing files, making and removing directories.  Every change answers with the new tree, or with
the fault that kept it from happening.
-/

namespace RunArchive.Disk

/-- Puts a node at a place, instead of the one that stands there. -/
def put (disk : Disk) (location : Location) (node : Node) : Disk :=
  { disk with nodes := (location, node) :: disk.nodes.filter (·.1 ≠ location) }

/-- Removes what stands at a place, with all that is in it. -/
def erase (disk : Disk) (location : Location) : Disk :=
  { disk with nodes := disk.nodes.filter fun node => !location.isPrefixOf node.1 }

/-- Writes a file, a new one or over the one that is there. -/
def write (disk : Disk) (path : Path) (octets : List UInt8) : Except FileFault Disk :=
  match disk.locate .newFile path with
  | .there location (.file _ _) | .absent location => .ok (disk.put location (.ofOctets octets))
  | .there _ .directory | .there _ (.link _) => .error .isDirectory
  | .refused fault => .error fault

/-- Makes one directory. -/
def makeDirectory (disk : Disk) (path : Path) : Except FileFault Disk :=
  match disk.locate .place path with
  | .there _ _ => .error .alreadyExists
  | .absent location => .ok (disk.put location .directory)
  | .refused fault => .error fault

/-- The path of segments, given from the last one to the first. -/
def backwards (segments : List (List UInt8)) : Path :=
  ⟨List.intercalate [Path.slash] segments.reverse⟩

/--
Makes the directory at the end of the segments, given from the last one to the first, and before
it the ones on the way if it cannot be found without them.  A directory that is there already is
as good as a new one.
-/
def makeAlong (disk : Disk) : List (List UInt8) → Except FileFault Disk
  | [] => .ok disk
  | last :: before =>
    let path := backwards (last :: before)
    if path.octets = [] then .ok disk
    else
      match disk.makeDirectory path with
      | .ok made => .ok made
      | .error .notFound => do
        let disk ← makeAlong disk before
        match disk.makeDirectory path with
        | .ok made => .ok made
        | .error fault => if disk.isDirectory path then .ok disk else .error fault
      | .error fault => if disk.isDirectory path then .ok disk else .error fault

/-- Makes a directory and the ones on the way to it. -/
def makeDirectories (disk : Disk) (path : Path) : Except FileFault Disk :=
  disk.makeAlong (Path.segments path.octets).reverse

/-- Removes what a path leads to, with all that is in it; a link is removed and not followed. -/
def remove (disk : Disk) (path : Path) : Except FileFault Disk :=
  match disk.locate .place path with
  | .there location _ => .ok (disk.erase location)
  | .absent _ => .error .notFound
  | .refused fault => .error fault

/-- The segments of the directory that a path stands in, given from the last one to the first. -/
def before (path : Path) : List (List UInt8) :=
  (((Path.segments path.octets).reverse.dropWhile (·.isEmpty)).drop 1).dropWhile (·.isEmpty)

/--
Puts a node at the end of a path, instead of anything but a directory for a directory, and makes
the directories on the way to it.
-/
def place (disk : Disk) (path : Path) (node : Node) : Except FileFault Disk := do
  let disk ← disk.makeAlong (before path)
  match disk.locate .place path, node with
  | .there _ .directory, .directory => return disk
  | .there location _, node => return (disk.erase location).put location node
  | .absent location, node => return disk.put location node
  | .refused fault, _ => .error fault

end RunArchive.Disk
