/-!
# Unsigned decimal numbers in texts

The grammar of counts in settings: an optional plus sign and at least one of the digits `0` to
`9`, with any number of leading zeros.  A number above the limit is refused, never cut off.
-/

namespace RunArchive.Unsigned

/-- The greatest number of 32 bits. -/
def greatest32 : Nat := 0xFFFFFFFF

/-- The greatest number of 64 bits. -/
def greatest64 : Nat := 0xFFFFFFFFFFFFFFFF

/-- The number that decimal digits denote. -/
def valueOf (digits : List Char) : Nat :=
  digits.foldl (fun value digit => value * 10 + (digit.toNat - '0'.toNat)) 0

/-- The text behind an optional plus sign. -/
def withoutSign : List Char → List Char
  | '+' :: rest => rest
  | text => text

/-- The number that a text denotes, unless it is above a limit. -/
def read? (limit : Nat) (text : List Char) : Option Nat :=
  let digits := withoutSign text
  if digits ≠ [] ∧ digits.all Char.isDigit ∧ valueOf digits ≤ limit then some (valueOf digits)
  else none

end RunArchive.Unsigned
