/-!
# Finite binary magnitudes

The magnitudes that a double-precision number can have, zero and the subnormal ones included.  A
magnitude is held as its *code*: the codes `0, 1, 2, …` enumerate the magnitudes in increasing
order, so `code + 1` is the next larger one and comparing codes compares magnitudes.  Below
`span`, which is `2 ^ 52`, the code counts multiples of `2 ^ (-1074)`; above, its quotient by
`span` fixes the binary exponent and its remainder the fraction.

Every operation goes through `ofRatio`, which rounds an exact quotient of natural numbers to the
nearest magnitude and takes the even code on a tie.
-/

namespace RunArchive

/-- The code that follows the largest finite magnitude. -/
def Magnitude.bound : Nat := 0x7FF0000000000000

/-- How many codes share a binary exponent. -/
def Magnitude.span : Nat := 0x10000000000000

/-- A finite double-precision magnitude, by its place in increasing order. -/
abbrev Magnitude : Type := Fin Magnitude.bound

namespace Magnitude

def zero : Magnitude := ⟨0, by decide⟩

/-- The integer significand: the magnitude is `significand * 2 ^ binaryExponent`. -/
def significand (magnitude : Magnitude) : Nat :=
  if magnitude.val < span then magnitude.val else span + magnitude.val % span

/-- The exponent of two that goes with `significand`. -/
def binaryExponent (magnitude : Magnitude) : Int :=
  if magnitude.val < span then -1074 else (magnitude.val / span : Nat) - 1075

/-- The numerator of the magnitude as a quotient of natural numbers. -/
def numerator (magnitude : Magnitude) : Nat :=
  magnitude.significand * Nat.pow 2 magnitude.binaryExponent.toNat

/-- The denominator of the magnitude as a quotient of natural numbers. -/
def denominator (magnitude : Magnitude) : Nat :=
  Nat.pow 2 (-magnitude.binaryExponent).toNat

/--
The quotient of two natural numbers rounded to an integer, a half going to the even neighbour.
-/
def roundHalfEven (numerator denominator : Nat) : Nat :=
  let floor := numerator / denominator
  let twice := 2 * (numerator % denominator)
  if twice < denominator then floor
  else if denominator < twice then floor + 1
  else floor + floor % 2

/-- The greatest `e` with `2 ^ e ≤ numerator / denominator`, for positive arguments. -/
def floorLog2 (numerator denominator : Nat) : Int :=
  let guess : Int := (numerator.log2 : Int) - (denominator.log2 : Int)
  if denominator * Nat.pow 2 guess.toNat ≤ numerator * Nat.pow 2 (-guess).toNat then guess
  else guess - 1

/-- The code of the magnitude nearest to a quotient; a code from `bound` on stands for overflow. -/
def nearestCode (numerator denominator : Nat) : Nat :=
  if numerator = 0 then 0
  else
    let exponent := max (-1074) (floorLog2 numerator denominator - 52)
    let integer :=
      roundHalfEven (numerator * Nat.pow 2 (-exponent).toNat)
        (denominator * Nat.pow 2 exponent.toNat)
    (exponent + 1074).toNat * span + integer

/-- The magnitude nearest to a quotient, or nothing when that is above every finite one. -/
def ofRatio (numerator denominator : Nat) : Option Magnitude :=
  if finite : nearestCode numerator denominator < bound then some ⟨_, finite⟩ else none

/-- The magnitude nearest to `10 ^ exponent`. -/
def powerOfTen (exponent : Nat) : Option Magnitude := ofRatio (Nat.pow 10 exponent) 1

/-- The rounded product. -/
def mul (left right : Magnitude) : Option Magnitude :=
  ofRatio (left.numerator * right.numerator) (left.denominator * right.denominator)

/-- The rounded quotient. -/
def div (left right : Magnitude) : Option Magnitude :=
  ofRatio (left.numerator * right.denominator) (left.denominator * right.numerator)

end Magnitude

/-- A finite double-precision number; the two zeros differ in their sign. -/
structure Double where
  /-- Whether the number carries a minus sign. -/
  negative : Bool
  /-- The absolute value. -/
  magnitude : Magnitude
deriving DecidableEq

def Double.zero : Double := ⟨false, .zero⟩

end RunArchive
