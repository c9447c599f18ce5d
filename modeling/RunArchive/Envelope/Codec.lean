import RunArchive.Envelope.Reader

/-!
# Codecs

A codec turns JSON values into octets and back.  It has a format with versions of its own, and words
of its own for what is wrong with octets.  Readers of artifacts work with any codec; `sealing` is
the one that puts values into envelopes.
-/

namespace RunArchive

/-- Why a codec does not turn a value into octets, or octets into a value. -/
inductive CodecFault where
  /-- The octets have not the form that the codec gives to values; what is wrong, in its words. -/
  | malformed (description : String)
  /-- The tag is one of another format. -/
  | unknownFormat (tag : String)
  /-- The version is not understood; `supported` is the latest one that is. -/
  | unsupportedVersion (found supported : UInt32)
  /-- The value is not the one that was turned into the octets. -/
  | checksumMismatch (expected actual : String)
deriving DecidableEq

def CodecFault.message : CodecFault → String
  | .malformed description => "malformed artifact: " ++ description
  | .unknownFormat tag => "unknown artifact format tag " ++ Text.quoted tag
  | .unsupportedVersion found supported =>
    s!"unsupported artifact format version {found.toNat} (supported <= {supported.toNat})"
  | .checksumMismatch expected actual =>
    s!"checksum mismatch: expected {expected}, computed {actual}"

/-- A way to keep JSON values in files. -/
structure Codec where
  /-- The version of the format in which values are written. -/
  version : UInt32
  encode : Json → Except CodecFault (List UInt8)
  decode : List UInt8 → Except CodecFault Json

namespace Envelope

/-- A fault of an envelope as one of its codec. -/
def Fault.reported : Fault → CodecFault
  | .malformed cause => .malformed cause.message
  | .unknownFormat tag => .unknownFormat tag
  | .unsupportedVersion found => .unsupportedVersion found formatVersion
  | .checksumMismatch expected actual => .checksumMismatch expected actual

end Envelope

/-- The codec that puts values into envelopes. -/
def Codec.sealing : Codec where
  version := Envelope.formatVersion
  encode payload := .ok (Envelope.encode payload)
  decode octets := (Envelope.decode octets).mapError Envelope.Fault.reported

end RunArchive
