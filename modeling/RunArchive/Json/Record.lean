import RunArchive.Json.Reader
import RunArchive.Json.Skipper
import RunArchive.Json.Typed

/-!
# Reading records from texts

A record is read from its text without building the value of the text first.  It may come as an
object or as a list of its fields in the order of their declaration.  The members of an object are
gone through as they come: a field is read by its own reader and must not come twice, any other
member is skipped without a limit on its nesting.

What has been read are the values of the fields that are there; whether a field is missing is for
the record to say.
-/

namespace RunArchive.Json

/-- Turns a mismatch into a fault of the text. -/
def orFault {α : Type} : Except Mismatch α → Except Fault α
  | .ok value => .ok value
  | .error cause => .error (.mismatch cause)

/-! ## Fields -/

/-- The value of a shape, a list or an object without its content. -/
def Shape.value : Shape → Json
  | .null => .null
  | .bool value => .bool value
  | .number value => .number value
  | .string text => .string text
  | .list => .array []
  | .object => .object []

/-- Reads a scalar that a reader accepts. -/
def readScalar {α : Type} (reader : Json → Except Mismatch α) (input : List UInt8) :
    Except Fault (Json × List UInt8) := do
  let (shape, rest) ← scanHead input
  let _ ← orFault (reader shape.value)
  return (shape.value, rest)

/-- Reads the null value, which is the content of a name that has none. -/
def readUnit (input : List UInt8) : Except Fault (List UInt8) := do
  match ← scanHead input with
  | (.null, rest) => return rest
  | (other, _) => .error (.mismatch (.wrongKind other "unit"))

/-- Accepts the end of an object that has one member only. -/
def endSingle (input : List UInt8) : Except Fault (List UInt8) :=
  match skipBlanks input with
  | [] => .error .endInObject
  | o :: rest => if o = octet '\x7d' then .ok rest else .error .expectedValue

/--
Reads one of the given names.  The name may also be the only key of an object whose value is null.
-/
def scanName {α : Type} (admitted : List (String × α)) (input : List UInt8) :
    Except Fault (Json × List UInt8) :=
  match skipBlanks input with
  | [] => .error .endInValue
  | o :: rest =>
    if o = octet '"' then do
      let (name, rest) ← scanString [] rest
      let _ ← orFault (readName admitted (.string name))
      return (.string name, rest)
    else if o = octet '\x7b' then do
      let (shape, rest) ← scanHead rest
      let name ← orFault (asString "variant identifier" shape)
      let _ ← orFault (readName admitted (.string name))
      return (.string name, ← endSingle (← readUnit (← scanColon rest)))
    else .error .expectedValue

/-- A field of a record, and how its value is read from a text. -/
structure TextField extends Field where
  read : List UInt8 → Except Fault (Json × List UInt8)

/-- A field whose value is a scalar that a reader must accept. -/
def TextField.scalar {α : Type} (name : String) (reader : Json → Except Mismatch α) : TextField :=
  { Field.of name reader with read := readScalar reader }

/-- A field whose value is one of the given names. -/
def TextField.named {α : Type} (name : String) (admitted : List (String × α)) : TextField :=
  { Field.of name (readName admitted) with read := scanName admitted }

/-! ## Records -/

/-- Reads a member from its colon on; `found` holds the fields that have come before. -/
def readFieldMember (fields : List TextField) (key : String) (found : List (String × Json))
    (input : List UInt8) : Except Fault (List (String × Json) × List UInt8) :=
  match fields.find? (·.name == key) with
  | some field =>
    match lookup key found with
    | some _ => .error (.mismatch (.repeatedField key))
    | none => do
      let (value, rest) ← field.read (← scanColon input)
      return ((key, value) :: found, rest)
  | none => do return (found, ← skipValue (← scanColon input))

/-- Moves to the item of a list that has this number of items before it. -/
def itemAt (expected : String) (count : Nat) (input : List UInt8) :
    Except Fault (List UInt8) := do
  match ← nextItem (count == 0) input with
  | (true, rest) => return rest
  | (false, _) => .error (.mismatch (.wrongLength count expected))

/-- Accepts the end of the list of fields. -/
def endFields (input : List UInt8) : Except Fault (List UInt8) :=
  match skipBlanks input with
  | [] => .error .endInList
  | o :: rest =>
    if o = octet ']' then .ok rest
    else if o = octet ',' then
      match skipBlanks rest with
      | next :: _ => if next = octet ']' then .error .trailingComma else .error .trailingCharacters
      | [] => .error .trailingCharacters
    else .error .trailingCharacters

/-- Reads the fields of a record that is written as a list, of which `done` came before. -/
def readListed (expected : String) :
    (done : Nat) → List TextField → List UInt8 →
      Except Fault (List (String × Json) × List UInt8)
  | _, [], input => do return ([], ← endFields input)
  | done, field :: fields, input => do
    let (value, rest) ← field.read (← itemAt expected done input)
    let (found, rest) ← readListed expected (done + 1) fields rest
    return ((field.name, value) :: found, rest)

/-- Reads a record from a text that consists of it. -/
def readRecord {α : Type} (record : String) (fields : List TextField)
    (complete : List (String × Json) → Except Mismatch α) (text : List UInt8) :
    Except Fault α := do
  match ← scanHead text with
  | (.object, rest) =>
    let (found, rest) ← readMembers (readFieldMember fields) text.length true [] rest
    let value ← orFault (complete found)
    scanEnd rest
    return value
  | (.list, rest) =>
    let expected := s!"struct {record} with {fields.length} elements"
    let (found, rest) ← readListed expected 0 fields rest
    let value ← orFault (complete found)
    scanEnd rest
    return value
  | (other, _) => .error (.mismatch (.wrongKind other s!"struct {record}"))

end RunArchive.Json
