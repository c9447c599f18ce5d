/-!
# Opening files

All that a program can learn about a path by opening it, looking at the metadata and reading.  The
size that the metadata report need not be the length of what is read: some files report nothing and
others grow in between.  Each of the three steps can fail, reading also behind octets that can be
read, and each of them can find that nothing is there any more.
-/

namespace RunArchive

/-- Why an operation on files fails. -/
inductive FileFault where
  | notFound
  | inputOutput
  | alreadyExists
  | notDirectory
  | isDirectory
  | nameTooLong
  | tooManyLinks
  /-- The path has a character that no path can have. -/
  | nulCharacter
  /-- Anything else, in the words of the system. -/
  | other (description : String)
deriving DecidableEq

def FileFault.message : FileFault → String
  | .notFound => "No such file or directory (os error 2)"
  | .inputOutput => "Input/output error (os error 5)"
  | .alreadyExists => "File exists (os error 17)"
  | .notDirectory => "Not a directory (os error 20)"
  | .isDirectory => "Is a directory (os error 21)"
  | .nameTooLong => "File name too long (os error 36)"
  | .tooManyLinks => "Too many levels of symbolic links (os error 40)"
  | .nulCharacter => "file name contained an unexpected NUL byte"
  | .other description => description

/-- What reading an open file gives. -/
structure Content where
  /-- The octets that can be read. -/
  octets : List UInt8
  /-- What breaks the reading off behind them, if that is not the end of the file. -/
  fault? : Option FileFault
deriving DecidableEq

namespace Content

/-- The content that is read to the end of the file. -/
def whole (octets : List UInt8) : Content := ⟨octets, none⟩

/-- Reads to the end. -/
def all (content : Content) : Except FileFault (List UInt8) :=
  match content.fault? with
  | none => .ok content.octets
  | some fault => .error fault

/-- Reads up to this many octets; what would break the reading off behind them is never met. -/
def upTo (content : Content) (most : Nat) : Except FileFault (List UInt8) :=
  if most ≤ content.octets.length then .ok (content.octets.take most) else content.all

end Content

/-- The outcome of opening a path and looking at the metadata. -/
inductive Opened where
  /-- The path cannot be opened, or what has been opened cannot be looked at. -/
  | refused (fault : FileFault)
  /-- The path opens, but not as a regular file. -/
  | irregular
  /-- A regular file: the size that its metadata report, and what reading it gives. -/
  | regular (size : Nat) (content : Content)

end RunArchive
