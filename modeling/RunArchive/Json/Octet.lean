/-!
# Octets of JSON texts

The classes of octets that the spellings of JSON values are made of.  Outside of strings a JSON
text has ASCII characters only.
-/

namespace RunArchive.Json

/-- The octet of an ASCII character. -/
def octet (character : Char) : UInt8 := UInt8.ofNat character.toNat

/-- Whether an octet may stand between tokens. -/
def isBlank (o : UInt8) : Bool :=
  o == octet ' ' || o == octet '\n' || o == octet '\t' || o == octet '\r'

/-- Whether an octet is a decimal digit. -/
def isDigit (o : UInt8) : Bool := octet '0' ≤ o && o ≤ octet '9'

/-- The value of a decimal digit. -/
def digitValue (o : UInt8) : Nat := o.toNat - 0x30

/-- The value of a hexadecimal digit of either case. -/
def hexValue? (o : UInt8) : Option Nat :=
  if isDigit o then some (digitValue o)
  else if octet 'a' ≤ o && o ≤ octet 'f' then some (o.toNat - 0x61 + 10)
  else if octet 'A' ≤ o && o ≤ octet 'F' then some (o.toNat - 0x41 + 10)
  else none

end RunArchive.Json
