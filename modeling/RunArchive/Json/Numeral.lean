import RunArchive.Decimal.Unsigned
import RunArchive.Json.Fault
import RunArchive.Json.Octet

/-!
# Numerals

The spellings of numbers in a JSON text.  A numeral is read in two steps: `scanNumeral` takes the
longest spelling apart, and `Numeral.number` computes its value.  A float is not the nearest double
to its spelling: the digits are gathered into an integer of at most 64 bits, which is rounded to a
double and then scaled by a rounded power of ten.
-/

namespace RunArchive.Json

/-! ## Spellings -/

/-- The written parts of a number. -/
structure Numeral where
  /-- Whether a minus sign stands in front. -/
  negative : Bool
  /-- The digits before the point. -/
  whole : List UInt8
  /-- The digits behind the point, if there is one. -/
  fraction : Option (List UInt8)
  /-- Whether the exponent is negative, and its digits, if there is one. -/
  exponent : Option (Bool × List UInt8)

/-- Reads one or more digits; `cut` is the fault of a text that ends before the first. -/
def scanDigits (cut : Fault) : List UInt8 → Except Fault (List UInt8 × List UInt8)
  | [] => .error cut
  | o :: input =>
    if isDigit o then .ok ((o :: input).takeWhile isDigit, (o :: input).dropWhile isDigit)
    else .error .invalidNumber

/-- Reads the digits before the point: a zero alone, or digits that start with another one. -/
def scanWhole (cut : Fault) (input : List UInt8) : Except Fault (List UInt8 × List UInt8) :=
  match input with
  | o :: rest =>
    if o = octet '0' then
      match rest with
      | next :: _ => if isDigit next then .error .invalidNumber else .ok ([o], rest)
      | [] => .ok ([o], rest)
    else scanDigits cut input
  | [] => .error cut

/-- Reads a point and the digits behind it, if there is a point. -/
def scanFraction (cut : Fault) (input : List UInt8) :
    Except Fault (Option (List UInt8) × List UInt8) :=
  match input with
  | o :: rest =>
    if o = octet '.' then do
      let (digits, rest) ← scanDigits cut rest
      return (some digits, rest)
    else .ok (none, input)
  | [] => .ok (none, [])

/-- Reads the sign of an exponent, if there is one. -/
def scanSign (input : List UInt8) : Bool × List UInt8 :=
  match input with
  | o :: rest =>
    if o = octet '+' then (false, rest)
    else if o = octet '-' then (true, rest)
    else (false, input)
  | [] => (false, [])

/-- Reads an exponent, if there is one. -/
def scanExponent (cut : Fault) (input : List UInt8) :
    Except Fault (Option (Bool × List UInt8) × List UInt8) :=
  match input with
  | o :: rest =>
    if o = octet 'e' || o = octet 'E' then do
      let (negative, rest) := scanSign rest
      let (digits, rest) ← scanDigits cut rest
      return (some (negative, digits), rest)
    else .ok (none, input)
  | [] => .ok (none, [])

/--
Reads the spelling of a number; `cut` is the fault of a text that ends where a digit must stand.
-/
def scanNumeral (cut : Fault) (input : List UInt8) : Except Fault (Numeral × List UInt8) := do
  let (negative, input) :=
    match input with
    | o :: rest => if o = octet '-' then (true, rest) else (false, input)
    | [] => (false, [])
  let (whole, input) ← scanWhole cut input
  let (fraction, input) ← scanFraction cut input
  let (exponent, input) ← scanExponent cut input
  return (⟨negative, whole, fraction, exponent⟩, input)

/-! ## Values -/

/-- The greatest exponent, of 32 bits with a sign. -/
def greatestExponent : Int := 0x7FFFFFFF

/-- The greatest absolute value of a negative integer, of 64 bits with a sign. -/
def greatestNegative : Nat := 0x8000000000000000

/--
Appends digits to a number as long as it stays within a limit; also returns the digits left over.
-/
def gather (limit : Nat) (value : Nat) : List UInt8 → Nat × List UInt8
  | [] => (value, [])
  | digit :: digits =>
    if value * 10 + digitValue digit ≤ limit then
      gather limit (value * 10 + digitValue digit) digits
    else (value, digit :: digits)

/-- The magnitude divided by a power of ten, in steps of at most `10 ^ 308`. -/
def scaleDown (magnitude : Magnitude) (exponent : Nat) : Option Magnitude := do
  if exponent ≤ 308 then
    magnitude.div (← Magnitude.powerOfTen exponent)
  else if magnitude = .zero then
    return .zero
  else
    scaleDown (← magnitude.div (← Magnitude.powerOfTen 308)) (exponent - 308)
termination_by exponent

/-- The magnitude multiplied by a power of ten; nothing is left of one above the largest. -/
def scaleUp (magnitude : Magnitude) (exponent : Nat) : Option Magnitude := do
  if exponent ≤ 308 then
    magnitude.mul (← Magnitude.powerOfTen exponent)
  else if magnitude = .zero then
    return .zero
  else none

/-- The float of a gathered integer and a power of ten. -/
def scaled (negative : Bool) (gathered : Nat) (exponent : Int) : Except Fault Number :=
  let magnitude := do
    let magnitude ← Magnitude.ofRatio gathered 1
    if exponent < 0 then scaleDown magnitude exponent.natAbs
    else scaleUp magnitude exponent.toNat
  match magnitude with
  | some magnitude => .ok (.float ⟨negative, magnitude⟩)
  | none => .error .numberOutOfRange

/-- An integer within the range of exponents. -/
def clampExponent (exponent : Int) : Int :=
  max (-greatestExponent - 1) (min greatestExponent exponent)

/-- The number of an integer spelling: negative zero and what does not fit are floats. -/
def integerNumber (negative : Bool) (gathered : Nat) : Except Fault Number :=
  if negative then
    if gathered = 0 ∨ greatestNegative < gathered then scaled true gathered 0
    else .ok (.integer (-gathered))
  else .ok (.integer gathered)

/-- The value of a spelling. -/
def Numeral.number (numeral : Numeral) : Except Fault Number :=
  let (whole, dropped) := gather Unsigned.greatest64 0 numeral.whole
  let fraction := numeral.fraction.getD []
  let (gathered, left) := gather Unsigned.greatest64 whole fraction
  let shift : Int := (dropped.length : Int) - ((fraction.length : Int) - (left.length : Int))
  match numeral.exponent with
  | none =>
    if numeral.fraction.isNone ∧ dropped = [] then integerNumber numeral.negative gathered
    else scaled numeral.negative gathered shift
  | some (negative, digits) =>
    let (exponent, excess) := gather greatestExponent.toNat 0 digits
    if excess = [] then
      let exponent : Int := if negative then -(exponent : Int) else exponent
      scaled numeral.negative gathered (clampExponent (shift + exponent))
    else if gathered ≠ 0 ∧ negative = false then .error .numberOutOfRange
    else .ok (.float ⟨numeral.negative, .zero⟩)

end RunArchive.Json
