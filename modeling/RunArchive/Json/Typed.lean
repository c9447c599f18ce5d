import RunArchive.Decimal.Unsigned
import RunArchive.Files.Path
import RunArchive.Json.Mismatch

/-!
# Typed reading of JSON values

Readers that turn a JSON value into a value of the domain, or say why it is none.  A path is written
as the text that it is, so one that is no text cannot be written.

A record with named fields may come as an object or as a list of its fields in the order of their
declaration.  `readFields` looks at the fields that are there, in the order in which they come,
and reports the first unreadable one; fields that it does not know do not matter.  Only after that
are missing fields reported, by `required`, in the order in which a record asks for them.
-/

namespace RunArchive.Json

/-- The text of a string. -/
def asString (expected : String) : Shape → Except Mismatch String
  | .string text => .ok text
  | other => .error (.wrongKind other expected)

/-- An integer from zero to a limit. -/
def asNatural (limit : Nat) (expected : String) : Shape → Except Mismatch Nat
  | .number (.integer value) =>
    if 0 ≤ value ∧ value ≤ limit then .ok value.toNat
    else .error (.wrongValue (.number (.integer value)) expected)
  | other => .error (.wrongKind other expected)

/-- A text without further rules. -/
def readString (value : Json) : Except Mismatch String := asString "a string" value.shape

/-- A path. -/
def readPath (value : Json) : Except Mismatch Path :=
  (asString "path string" value.shape).map .ofText

/-- Why something has no JSON value. -/
inductive Unwritable where
  /-- A path in it is no text. -/
  | path
deriving DecidableEq

def Unwritable.message : Unwritable → String
  | .path => "path contains invalid UTF-8 characters"

/-- The value for a path. -/
def ofPath (path : Path) : Except Unwritable Json :=
  match path.text? with
  | some text => .ok (.string text)
  | none => .error .path

/-- An integer of 32 bits without a sign. -/
def asUInt32 (shape : Shape) : Except Mismatch UInt32 :=
  (asNatural Unsigned.greatest32 "u32" shape).map UInt32.ofNat

/-- An integer of 32 bits without a sign. -/
def readUInt32 (value : Json) : Except Mismatch UInt32 := asUInt32 value.shape

/-- An integer of 64 bits without a sign. -/
def readUInt64 (value : Json) : Except Mismatch Nat :=
  asNatural Unsigned.greatest64 "u64" value.shape

/-- An integer of 32 bits with a sign. -/
def readInt32 : Json → Except Mismatch Int32
  | .number (.integer value) =>
    if -0x80000000 ≤ value ∧ value ≤ 0x7FFFFFFF then .ok (Int32.ofInt value)
    else .error (.wrongValue (.number (.integer value)) "i32")
  | other => .error (.wrongKind other.shape "i32")

/-- A truth value. -/
def readBool : Json → Except Mismatch Bool
  | .bool value => .ok value
  | other => .error (.wrongKind other.shape "a boolean")

/-- A value that may be null. -/
def readOptional {α : Type} (reader : Json → Except Mismatch α) :
    Json → Except Mismatch (Option α)
  | .null => .ok none
  | value => (reader value).map some

/-- The items of a list, each read by one reader. -/
def readList {α : Type} (reader : Json → Except Mismatch α) : Json → Except Mismatch (List α)
  | .array items => items.mapM reader
  | other => .error (.wrongKind other.shape "a sequence")

/--
One of the given names, which stands for the value beside it.  The name may also be the only key
of an object whose value is null.
-/
def readName {α : Type} (admitted : List (String × α)) (value : Json) : Except Mismatch α := do
  let (name, content) ←
    match value with
    | .string name => .ok (name, .null)
    | .object [(name, content)] => .ok (name, content)
    | .object _ => .error (.wrongValue .object "map with a single key")
    | other => .error (.wrongKind other.shape "string or map")
  let some meaning := admitted.lookup name
    | .error (.unknownName name (admitted.map (·.1)))
  match content with
  | .null => return meaning
  | other => .error (.wrongKind other.shape "unit")

/-- A field of a record, and what must be true of its value. -/
structure Field where
  name : String
  check : Json → Except Mismatch Unit

/-- A field whose value a reader must accept. -/
def Field.of {α : Type} (name : String) (reader : Json → Except Mismatch α) : Field :=
  ⟨name, fun value => (reader value).map fun _ => ()⟩

/-- Pairs the items of a list with the fields of a record, of which `done` came before. -/
def pairItems (record : String) (fields : List Field) (total done : Nat) :
    List Field → List Json → Except Mismatch (List (String × Json))
  | [], [] => .ok []
  | [], _ :: _ => .error (.wrongLength total "fewer elements in array")
  | _ :: _, [] =>
    .error (.wrongLength done s!"struct {record} with {fields.length} elements")
  | field :: rest, item :: items => do
    field.check item
    return (field.name, item) :: (← pairItems record fields total (done + 1) rest items)

/-- The members that are fields of a record, all of them readable. -/
def checkMembers (fields : List Field) :
    List (String × Json) → Except Mismatch (List (String × Json))
  | [] => .ok []
  | (key, value) :: rest =>
    match fields.find? (·.name == key) with
    | some field => do
      field.check value
      return (key, value) :: (← checkMembers fields rest)
    | none => checkMembers fields rest

/-- The readable fields of a record with their values. -/
def readFields (record : String) (fields : List Field) :
    Json → Except Mismatch (List (String × Json))
  | .array items => pairItems record fields items.length 0 fields items
  | .object members => checkMembers fields members
  | other => .error (.wrongKind other.shape s!"struct {record}")

/-- The value of a field that a record must have. -/
def required {α : Type} (found : List (String × Json)) (name : String)
    (reader : Json → Except Mismatch α) : Except Mismatch α :=
  match lookup name found with
  | some value => reader value
  | none => .error (.missingField name)

/-- The value of a field that may be missing. -/
def optional {α : Type} (found : List (String × Json)) (name : String)
    (reader : Json → Except Mismatch α) : Except Mismatch (Option α) :=
  match lookup name found with
  | some value => readOptional reader value
  | none => .ok none

end RunArchive.Json
