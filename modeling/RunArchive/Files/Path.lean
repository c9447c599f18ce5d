import RunArchive.Text.Utf8

/-!
# Paths

A path is a sequence of octets in which slashes separate the names to follow.  Most paths come from
texts, but none has to be one: `text?` is the text that a path is, and `shown` is what a reader gets
to see of it in any case.  `segments` keeps empty segments, so a path that starts or ends with a
slash can be told from one that does not.

`components` are the moves that a path stands for.  Empty segments are no moves, and neither is the
segment `.`, except that a relative path may say with its first segment that it starts here.

A path is *contained* if it is not empty and following it neither starts at the root nor ever moves
above.
-/

namespace RunArchive

/-- A path to a file. -/
structure Path where
  octets : List UInt8
deriving DecidableEq

/-- The names from the root to a place. -/
abbrev Location := List (List UInt8)

namespace Path

/-- The path that a text spells. -/
def ofText (text : String) : Path := ⟨Utf8.ofString text⟩

/-- The text of a path, if it is one. -/
def text? (path : Path) : Option String := Utf8.text? path.octets

/-- A path as it is shown. -/
def shown (path : Path) : String := String.ofList (Utf8.lossy path.octets)

/-- What separates the names in a path. -/
def slash : UInt8 := '/'.toUInt8

/-- The octets between the slashes of a path. -/
def segments : List UInt8 → List (List UInt8)
  | [] => [[]]
  | octet :: rest =>
    if octet = slash then [] :: segments rest
    else
      match segments rest with
      | [] => [[octet]]
      | first :: others => (octet :: first) :: others

/-- The segment that names the directory itself. -/
def here : List UInt8 := Utf8.ofString "."

/-- The segment that names the directory above. -/
def above : List UInt8 := Utf8.ofString ".."

/-- A move along a path. -/
inductive Component where
  /-- To the root. -/
  | root
  /-- To where one is already. -/
  | here
  /-- To the directory above. -/
  | above
  /-- To what has this name. -/
  | name (name : List UInt8)
deriving DecidableEq

/-- The move that a segment stands for, wherever it is. -/
def move? (segment : List UInt8) : Option Component :=
  if segment = [] ∨ segment = here then none
  else if segment = above then some .above
  else some (.name segment)

/-- The move that only the start of a path can stand for. -/
def opening (path : Path) : List Component :=
  if path.octets.head? = some slash then [.root]
  else if (segments path.octets).head? = some here then [.here]
  else []

/-- The moves that a path stands for. -/
def components (path : Path) : List Component :=
  path.opening ++ (segments path.octets).filterMap move?

/-- Whether a move does not leave the directories that have been entered. -/
def Component.Stays : Component → Prop
  | .here => True
  | .name _ => True
  | .root => False
  | .above => False

instance : (component : Component) → Decidable component.Stays
  | .here => .isTrue trivial
  | .name _ => .isTrue trivial
  | .root => .isFalse id
  | .above => .isFalse id

/-- Whether a path stays below the directory where one starts. -/
def Contained (path : Path) : Prop :=
  path.octets ≠ [] ∧ ∀ component ∈ path.components, component.Stays

instance (path : Path) : Decidable path.Contained :=
  inferInstanceAs (Decidable (_ ∧ ∀ component ∈ path.components, component.Stays))

/-- What separates a directory from a name in it: nothing if the directory already ends so. -/
def separator (directory : Path) : List UInt8 :=
  match directory.octets.getLast? with
  | none => []
  | some last => if last = slash then [] else [slash]

/-- The path in a directory; one that starts at the root leads away from there. -/
def join (directory path : Path) : Path :=
  if path.octets.head? = some slash then path
  else ⟨directory.octets ++ directory.separator ++ path.octets⟩

end Path

end RunArchive
