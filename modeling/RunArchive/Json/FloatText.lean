import RunArchive.Decimal.Shortest

/-!
# The text of a float in JSON

A float is written with the digits of its shortest decimal.  From `1e-5` up to below `1e16` they
stand in plain positional notation with at least one digit after the point; outside that range one
digit stands before the point, and the exponent follows with its sign and without padding.  A
float text always contains a point or an exponent, so it is never the text of an integer.
-/

namespace RunArchive

/-- The decimal digits of a natural number. -/
def digitsOf (value : Nat) : List Char := Nat.toDigits 10 value

/-- The decimal digits of an integer behind its minus sign. -/
def signedDigitsOf (value : Int) : List Char :=
  if value < 0 then '-' :: digitsOf value.natAbs else digitsOf value.natAbs

namespace Decimal

/-- The greatest number of digits before the point in positional notation. -/
def widestWhole : Int := 16

/-- The greatest number of zeros between the point and the first digit in positional notation. -/
def mostLeadingZeros : Int := 4

/-- Positional notation: `point` digits stand before the point, or zeros follow it if negative. -/
def positional (digits : List Char) (point : Int) : List Char :=
  if point ≤ 0 then
    '0' :: '.' :: (List.replicate (-point).toNat '0' ++ digits)
  else if (digits.length : Int) ≤ point then
    digits ++ List.replicate (point.toNat - digits.length) '0' ++ ['.', '0']
  else digits.take point.toNat ++ '.' :: digits.drop point.toNat

/-- An exponent with its sign. -/
def exponentText (exponent : Int) : List Char :=
  'e' :: (if exponent < 0 then '-' else '+') :: digitsOf exponent.natAbs

/-- Exponential notation: one digit, the others behind a point, and the exponent. -/
def exponential (digits : List Char) (point : Int) : List Char :=
  match digits with
  | [] => []
  | [digit] => digit :: exponentText (point - 1)
  | digit :: rest => digit :: '.' :: rest ++ exponentText (point - 1)

/-- The text of a decimal. -/
def text (decimal : Decimal) : List Char :=
  let digits := digitsOf decimal.digits
  let point := (digits.length : Int) + decimal.exponent
  if -mostLeadingZeros ≤ point ∧ point ≤ widestWhole then positional digits point
  else exponential digits point

end Decimal

/-- The text of a magnitude. -/
def Magnitude.text (magnitude : Magnitude) : List Char :=
  if magnitude.val = 0 then ['0', '.', '0'] else (Decimal.shortest magnitude).text

/-- The text of a float. -/
def Double.text (value : Double) : List Char :=
  if value.negative then '-' :: value.magnitude.text else value.magnitude.text

end RunArchive
