import RunArchive.Envelope.Basic
import RunArchive.Json.Record

/-!
# Opening sealed artifacts

An envelope is read from its octets member by member, in the order of the text: a known member is
read as what it must be, any other one is skipped without a limit on its nesting.  The envelope
counts as one level of nesting, so a payload may be nested 126 deep.  An envelope may also be a
list of its four fields.

`decode` reads an envelope and accepts its payload if tag, version and checksum are right.
-/

namespace RunArchive.Envelope

/-- The members of an envelope that have been read so far. -/
structure Draft where
  format : Option String
  version : Option UInt32
  checksum : Option String
  payload : Option Json

/-- The draft before any member has been read. -/
def Draft.empty : Draft := ⟨none, none, none, none⟩

/-- How deep a payload may be nested. -/
def payloadDepth : Nat := 126

/-- Reads a string. -/
def readString (input : List UInt8) : Except Json.Fault (String × List UInt8) := do
  let (shape, rest) ← Json.scanHead input
  return (← Json.orFault (Json.asString "a string" shape), rest)

/-- Reads a version number. -/
def readVersion (input : List UInt8) : Except Json.Fault (UInt32 × List UInt8) := do
  let (shape, rest) ← Json.scanHead input
  return (← Json.orFault (Json.asUInt32 shape), rest)

/-- Refuses a member that has been read before. -/
def once {α : Type} (field : String) : Option α → Except Json.Fault Unit
  | none => .ok ()
  | some _ => .error (.mismatch (.repeatedField field))

/-- Reads the member with this key, from its colon on. -/
def readMember (fuel : Nat) (key : String) (draft : Draft) (input : List UInt8) :
    Except Json.Fault (Draft × List UInt8) := do
  if key = "format" then
    once key draft.format
    let (format, rest) ← readString (← Json.scanColon input)
    return ({ draft with format := some format }, rest)
  else if key = "version" then
    once key draft.version
    let (version, rest) ← readVersion (← Json.scanColon input)
    return ({ draft with version := some version }, rest)
  else if key = "checksum" then
    once key draft.checksum
    let (checksum, rest) ← readString (← Json.scanColon input)
    return ({ draft with checksum := some checksum }, rest)
  else if key = "payload" then
    once key draft.payload
    let (payload, rest) ← Json.readValue fuel payloadDepth (← Json.scanColon input)
    return ({ draft with payload := some payload }, rest)
  else
    return (draft, ← Json.skipValue (← Json.scanColon input))

/-- The content of a member, which must be there. -/
def present {α : Type} (field : String) : Option α → Except Json.Fault α
  | some value => .ok value
  | none => .error (.mismatch (.missingField field))

/-- The envelope of a draft in which nothing is missing. -/
def Draft.complete (draft : Draft) : Except Json.Fault Envelope := do
  return {
    format := ← present "format" draft.format
    version := ← present "version" draft.version
    checksum := ← present "checksum" draft.checksum
    payload := ← present "payload" draft.payload }

/-- What an envelope is that is written as a list. -/
def asList : String := "struct Envelope with 4 elements"

/-- Reads the four fields of an envelope that is written as a list. -/
def readItems (fuel : Nat) (input : List UInt8) : Except Json.Fault (Envelope × List UInt8) := do
  let (format, rest) ← readString (← Json.itemAt asList 0 input)
  let (version, rest) ← readVersion (← Json.itemAt asList 1 rest)
  let (checksum, rest) ← readString (← Json.itemAt asList 2 rest)
  let (payload, rest) ← Json.readValue fuel payloadDepth (← Json.itemAt asList 3 rest)
  return (⟨format, version, checksum, payload⟩, ← Json.endFields rest)

/-- Reads an envelope from a text that consists of it. -/
def read (text : List UInt8) : Except Json.Fault Envelope := do
  match ← Json.scanHead text with
  | (.object, rest) =>
    let (draft, rest) ← Json.readMembers (readMember text.length) text.length true .empty rest
    let envelope ← draft.complete
    Json.scanEnd rest
    return envelope
  | (.list, rest) =>
    let (envelope, rest) ← readItems text.length rest
    Json.scanEnd rest
    return envelope
  | (other, _) => .error (.mismatch (.wrongKind other "struct Envelope"))

/-- The payload of a valid envelope. -/
def decode (octets : List UInt8) : Except Fault Json :=
  match read octets with
  | .ok envelope => envelope.validate
  | .error cause => .error (.malformed cause)

end RunArchive.Envelope
