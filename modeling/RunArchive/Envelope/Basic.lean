import RunArchive.Digest.Blake3
import RunArchive.Json.Fault
import RunArchive.Json.Printer

/-!
# Sealed artifacts

An artifact that is a JSON value is kept in an envelope: a JSON object with the format tag, the
format version, the checksum of the payload and the payload itself.  The checksum is the BLAKE3
digest of the canonical text of the payload, so it does not depend on how the file is laid out.
-/

namespace RunArchive

/-- The contents of an envelope. -/
structure Envelope where
  format : String
  version : UInt32
  checksum : String
  payload : Json

namespace Envelope

/-- The tag of the only format. -/
def formatTag : String := "lattice-artifact"

/-- The version that is written, and the latest one that is understood. -/
def formatVersion : UInt32 := 1

/-- Why octets are not a valid envelope. -/
inductive Fault where
  /-- The octets are not the JSON text of an envelope. -/
  | malformed (cause : Json.Fault)
  /-- The tag is another one. -/
  | unknownFormat (tag : String)
  /-- The version is not understood. -/
  | unsupportedVersion (found : UInt32)
  /-- The payload is not the one that was sealed. -/
  | checksumMismatch (expected actual : String)

/-- The checksum of a payload. -/
def checksumOf (payload : Json) : String :=
  String.ofList (Blake3.hexDigest (Utf8.encode payload.canonical))

/-- The envelope around a payload. -/
def around (payload : Json) : Envelope :=
  ⟨formatTag, formatVersion, checksumOf payload, payload⟩

/-- An envelope as a JSON object, in the order in which it is written. -/
def toJson (envelope : Envelope) : Json :=
  .object [
    ("format", .string envelope.format),
    ("version", .ofNat envelope.version.toNat),
    ("checksum", .string envelope.checksum),
    ("payload", envelope.payload)]

/-- The text of the envelope around a payload. -/
def text (payload : Json) : List Char := (around payload).toJson.compact

/-- The octets of the envelope around a payload. -/
def encode (payload : Json) : List UInt8 := Utf8.encode (text payload)

/-- Accepts an envelope whose tag, version and checksum are right, in this order. -/
def validate (envelope : Envelope) : Except Fault Json :=
  let actual := checksumOf envelope.payload
  if envelope.format ≠ formatTag then .error (.unknownFormat envelope.format)
  else if envelope.version = 0 ∨ formatVersion < envelope.version then
    .error (.unsupportedVersion envelope.version)
  else if actual ≠ envelope.checksum then .error (.checksumMismatch envelope.checksum actual)
  else .ok envelope.payload

end Envelope

end RunArchive
