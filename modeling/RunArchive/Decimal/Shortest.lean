import RunArchive.Decimal.Magnitude

/-!
# Shortest decimals

The decimal with the fewest digits that still identifies a binary magnitude: of all decimals that
round to the magnitude it lies on the coarsest grid `10 ^ p`, and of the points of that grid it is
the nearest.

Only the two neighbours of the magnitude on a grid have to be tried: if any point of the grid
rounds to the magnitude, so does one of them.  The search starts on a grid coarser than the
magnitude and ends at the latest on the grid `10 ^ (-1074)`, which contains every finite
magnitude.
-/

namespace RunArchive

/-- The decimal number `digits * 10 ^ exponent`. -/
structure Decimal where
  digits : Nat
  exponent : Int
deriving DecidableEq

namespace Decimal

/-- The exponent of the finest grid, on which every finite magnitude lies. -/
def finest : Int := -1074

/-- A magnitude, the reals that round to it, and a decimal grid, brought to one common unit. -/
structure Comparison where
  /-- One step of the grid. -/
  step : Nat
  /-- The magnitude itself. -/
  value : Nat
  /-- The lower end of the reals that round to the magnitude. -/
  lower : Nat
  /-- Their upper end. -/
  upper : Nat
  /-- Whether the two ends round to the magnitude themselves. -/
  closed : Bool

/-- The comparison of a magnitude with the grid `10 ^ exponent`. -/
def compareWith (magnitude : Magnitude) (exponent : Int) : Comparison :=
  let significand := magnitude.significand
  let quarter := magnitude.binaryExponent - 2
  let scale := Nat.pow 2 quarter.toNat * Nat.pow 10 (-exponent).toNat
  let below :=
    if magnitude.val % Magnitude.span = 0 ∧ 2 * Magnitude.span ≤ magnitude.val then 1 else 2
  { step := Nat.pow 2 (-quarter).toNat * Nat.pow 10 exponent.toNat
    value := 4 * significand * scale
    lower := (4 * significand - below) * scale
    upper := (4 * significand + 2) * scale
    closed := significand % 2 = 0 }

/-- Whether the grid point with this number rounds to the magnitude. -/
def Comparison.holds (comparison : Comparison) (point : Nat) : Bool :=
  if comparison.closed then
    comparison.lower ≤ point * comparison.step ∧ point * comparison.step ≤ comparison.upper
  else
    comparison.lower < point * comparison.step ∧ point * comparison.step < comparison.upper

/-- The nearest grid point that rounds to the magnitude; of two equally near ones the even one. -/
def Comparison.hit (comparison : Comparison) : Option Nat :=
  let floor := comparison.value / comparison.step
  match comparison.holds floor, comparison.holds (floor + 1) with
  | false, false => none
  | true, false => some floor
  | false, true => some (floor + 1)
  | true, true =>
    let middle := (2 * floor + 1) * comparison.step
    if 2 * comparison.value < middle then some floor
    else if middle < 2 * comparison.value then some (floor + 1)
    else some (floor + floor % 2)

/-- The hit on the coarsest grid from `10 ^ (finest + steps)` on downwards. -/
def shortestFrom (magnitude : Magnitude) : Nat → Decimal
  | 0 => ⟨(compareWith magnitude finest).value / (compareWith magnitude finest).step, finest⟩
  | steps + 1 =>
    match (compareWith magnitude (finest + (steps + 1 : Nat))).hit with
    | some digits => ⟨digits, finest + (steps + 1 : Nat)⟩
    | none => shortestFrom magnitude steps

/-- An exponent of ten whose power is above the magnitude. -/
def coarsest (magnitude : Magnitude) : Int :=
  ((magnitude.significand.log2 : Int) + 1 + magnitude.binaryExponent) * 30103 / 100000 + 1

/-- The shortest decimal of a positive magnitude. -/
def shortest (magnitude : Magnitude) : Decimal :=
  shortestFrom magnitude (coarsest magnitude - finest).toNat

end Decimal

end RunArchive
