import RunArchive.Decimal.Unsigned
import RunArchive.Run.Error
import RunArchive.Text.Blank

/-!
# Read limits

How many bytes of an artifact may be read.  A limit is given as a text: a blank one sets no limit,
a number of 64 bits sets one, and anything else is refused.
-/

namespace RunArchive

/-- A limit on the size of artifacts. -/
structure ReadLimit where
  maxBytes : Option UInt64
deriving DecidableEq

namespace ReadLimit

/-- No limit at all. -/
def unbounded : ReadLimit := ⟨none⟩

/-- The limit of these many bytes. -/
def ofBytes (bytes : UInt64) : ReadLimit := ⟨some bytes⟩

/--
How many octets of a file are asked for under a limit: one more than it admits, or as many as can be
counted.
-/
def reach (most : UInt64) : Nat := min (most.toNat + 1) Unsigned.greatest64

/-- The limit that a text gives; no text gives none. -/
def parse : Option String → Except RunError ReadLimit
  | none => .ok unbounded
  | some text =>
    match Text.trim text.toList with
    | [] => .ok unbounded
    | trimmed =>
      match Unsigned.read? Unsigned.greatest64 trimmed with
      | some bytes => .ok (ofBytes (UInt64.ofNat bytes))
      | none => .error (.invalidLimit (String.ofList trimmed))

end ReadLimit

end RunArchive
