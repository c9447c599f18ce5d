import Mathlib.Algebra.Order.Field.Basic
import Mathlib.Algebra.Order.Ring.Rat
import Mathlib.Data.Rat.Cast.Order
import Mathlib.Tactic.FieldSimp
import Mathlib.Tactic.Linarith
import Mathlib.Tactic.Positivity
import Mathlib.Tactic.Ring
import RunArchive.Decimal.Shortest

/-!
# Shortest decimals identify their magnitudes

The rational numbers that round to a magnitude form an interval.  The interval of the next larger
magnitude begins where this one ends, and of two such neighbours only the one with the even code
owns their common end.  So no number rounds to two magnitudes.

The shortest decimal of a magnitude lies in its interval: on every grid but the finest the search
asks for that, and on the finest grid the magnitude itself is a point.  Hence different magnitudes
have decimals of different values.
-/

namespace RunArchive

/-- The number that a decimal denotes. -/
def Decimal.value (decimal : Decimal) : ℚ := decimal.digits * (10 : ℚ) ^ decimal.exponent

namespace Magnitude

/-! ## Intervals -/

/-- How many quarters of a unit the interval reaches below the magnitude. -/
def below (magnitude : Magnitude) : Nat :=
  if magnitude.val % span = 0 ∧ 2 * span ≤ magnitude.val then 1 else 2

/-- The lower end of the numbers that round to a magnitude. -/
def lowerEnd (magnitude : Magnitude) : ℚ :=
  ((4 * magnitude.significand - magnitude.below : Nat) : ℚ) *
    2 ^ (magnitude.binaryExponent - 2)

/-- The upper end of the numbers that round to a magnitude. -/
def upperEnd (magnitude : Magnitude) : ℚ :=
  ((4 * magnitude.significand + 2 : Nat) : ℚ) * 2 ^ (magnitude.binaryExponent - 2)

/-- Whether a number rounds to a magnitude.  The ends do if the significand is even. -/
def RoundsFrom (magnitude : Magnitude) (number : ℚ) : Prop :=
  if magnitude.significand % 2 = 0 then
    magnitude.lowerEnd ≤ number ∧ number ≤ magnitude.upperEnd
  else magnitude.lowerEnd < number ∧ number < magnitude.upperEnd

theorem RoundsFrom.within
    {magnitude : Magnitude} {number : ℚ}
    (rounds : magnitude.RoundsFrom number) :
    magnitude.lowerEnd ≤ number ∧ number ≤ magnitude.upperEnd := by
  unfold RoundsFrom at rounds
  split at rounds
  · exact rounds
  · exact ⟨rounds.1.le, rounds.2.le⟩

theorem roundsFrom_of_between
    {magnitude : Magnitude} {number : ℚ}
    (above : magnitude.lowerEnd < number)
    (under : number < magnitude.upperEnd) :
    magnitude.RoundsFrom number := by
  unfold RoundsFrom
  split
  · exact ⟨above.le, under.le⟩
  · exact ⟨above, under⟩

/-- An end that rounds to a magnitude is one of an even significand. -/
theorem RoundsFrom.even_of_end
    {magnitude : Magnitude} {number : ℚ}
    (rounds : magnitude.RoundsFrom number)
    (atEnd : number = magnitude.lowerEnd ∨ number = magnitude.upperEnd) :
    magnitude.significand % 2 = 0 := by
  unfold RoundsFrom at rounds
  split at rounds
  · assumption
  · rcases atEnd with equal | equal
    · exact absurd rounds.1 (by rw [equal]; exact lt_irrefl _)
    · exact absurd rounds.2 (by rw [equal]; exact lt_irrefl _)

/-! ## Neighbours -/

/-- The next magnitude has one unit more, or starts over with units twice as large. -/
theorem step_next
    {magnitude next : Magnitude}
    (follows : next.val = magnitude.val + 1) :
    (next.binaryExponent = magnitude.binaryExponent ∧
        4 * next.significand - next.below = 4 * magnitude.significand + 2) ∨
      (next.binaryExponent = magnitude.binaryExponent + 1 ∧
        2 * (4 * next.significand - next.below) = 4 * magnitude.significand + 2) := by
  unfold binaryExponent significand below span
  split_ifs <;> omega

theorem parity_next
    {magnitude next : Magnitude}
    (follows : next.val = magnitude.val + 1)
    (even : magnitude.significand % 2 = 0) :
    next.significand % 2 ≠ 0 := by
  unfold significand span at *
  split_ifs at * <;> omega

/-- The interval of the next magnitude begins where this one ends. -/
theorem lowerEnd_next
    {magnitude next : Magnitude}
    (follows : next.val = magnitude.val + 1) :
    next.lowerEnd = magnitude.upperEnd := by
  rw [lowerEnd, upperEnd]
  rcases step_next follows with ⟨exponent, units⟩ | ⟨exponent, units⟩
  · rw [exponent, units]
  · have shifted :
        magnitude.binaryExponent + 1 - 2 = magnitude.binaryExponent - 2 + 1 := by
      ring
    rw [exponent, ← units, shifted, zpow_add₀ two_ne_zero]
    push_cast
    ring

theorem lowerEnd_lt_upperEnd (magnitude : Magnitude) :
    magnitude.lowerEnd < magnitude.upperEnd := by
  have units :
      4 * magnitude.significand - magnitude.below < 4 * magnitude.significand + 2 := by
    omega
  have positive : (0 : ℚ) < 2 ^ (magnitude.binaryExponent - 2) := zpow_pos two_pos _
  exact mul_lt_mul_of_pos_right (by exact_mod_cast units) positive

/-- The interval of a larger magnitude begins at the end of this one or above it. -/
theorem upperEnd_le_lowerEnd
    {smaller larger : Magnitude}
    (gap : Nat)
    (apart : larger.val = smaller.val + gap + 1) :
    smaller.upperEnd ≤ larger.lowerEnd := by
  induction gap generalizing smaller with
  | zero =>
      exact (lowerEnd_next apart).ge
  | succ gap ih =>
      have bounded : smaller.val + 1 < bound := by
        have := larger.isLt
        omega
      let next : Magnitude := ⟨smaller.val + 1, bounded⟩
      calc
        smaller.upperEnd = next.lowerEnd := (lowerEnd_next rfl).symm
        _ ≤ next.upperEnd := next.lowerEnd_lt_upperEnd.le
        _ ≤ larger.lowerEnd := ih (by change larger.val = smaller.val + 1 + gap + 1; omega)

/-- No number rounds to a magnitude and to a larger one. -/
theorem not_roundsFrom_both
    {smaller larger : Magnitude} {number : ℚ}
    (order : smaller.val < larger.val)
    (fromSmaller : smaller.RoundsFrom number)
    (fromLarger : larger.RoundsFrom number) :
    False := by
  rcases Nat.exists_eq_add_of_lt order with ⟨gap, apart⟩
  have ends := upperEnd_le_lowerEnd gap apart
  have atUpper : number = smaller.upperEnd :=
    le_antisymm fromSmaller.within.2 (ends.trans fromLarger.within.1)
  have atLower : number = larger.lowerEnd :=
    le_antisymm (fromSmaller.within.2.trans ends) fromLarger.within.1
  have smallerEven := fromSmaller.even_of_end (Or.inr atUpper)
  have largerEven := fromLarger.even_of_end (Or.inl atLower)
  cases gap with
  | zero =>
      exact parity_next apart smallerEven largerEven
  | succ gap =>
      -- Another magnitude lies between the two, and its interval is not empty.
      have bounded : smaller.val + 1 < bound := by
        have := larger.isLt
        omega
      let next : Magnitude := ⟨smaller.val + 1, bounded⟩
      have beyond : next.upperEnd ≤ larger.lowerEnd :=
        upperEnd_le_lowerEnd gap (by change larger.val = smaller.val + 1 + gap + 1; omega)
      have start : next.lowerEnd = smaller.upperEnd := lowerEnd_next rfl
      have := next.lowerEnd_lt_upperEnd
      linarith

/-- A number rounds to one magnitude at most. -/
theorem RoundsFrom.unique
    {left right : Magnitude} {number : ℚ}
    (fromLeft : left.RoundsFrom number)
    (fromRight : right.RoundsFrom number) :
    left = right := by
  rcases Nat.lt_trichotomy left.val right.val with smaller | equal | larger
  · exact (not_roundsFrom_both smaller fromLeft fromRight).elim
  · exact Fin.ext equal
  · exact (not_roundsFrom_both larger fromRight fromLeft).elim

/-! ## Positive magnitudes -/

theorem significand_pos
    {magnitude : Magnitude} (nonzero : magnitude.val ≠ 0) :
    0 < magnitude.significand := by
  unfold significand span
  split_ifs <;> omega

/-- Numbers that round to a positive magnitude are positive. -/
theorem RoundsFrom.pos
    {magnitude : Magnitude} {number : ℚ}
    (rounds : magnitude.RoundsFrom number)
    (nonzero : magnitude.val ≠ 0) :
    0 < number := by
  have significant := significand_pos nonzero
  have reach : magnitude.below ≤ 2 := by
    unfold below
    split_ifs <;> omega
  have units : 0 < 4 * magnitude.significand - magnitude.below := by omega
  have positive : 0 < magnitude.lowerEnd :=
    mul_pos (by exact_mod_cast units) (zpow_pos two_pos _)
  exact positive.trans_le rounds.within.1

end Magnitude

namespace Decimal

/-! ## Grids -/

/-- A power with a negative exponent is made whole by the opposite power. -/
theorem zpow_mul_pow
    {base : ℚ} (nonzero : base ≠ 0) (exponent : Int) :
    base ^ exponent * base ^ (-exponent).toNat = base ^ exponent.toNat := by
  rw [← zpow_natCast base (-exponent).toNat, ← zpow_natCast base exponent.toNat,
    ← zpow_add₀ nonzero]
  congr 1
  omega

/-- How many units of a comparison the number one has. -/
def unit (magnitude : Magnitude) (exponent : Int) : ℚ :=
  2 ^ (-(magnitude.binaryExponent - 2)).toNat * 10 ^ (-exponent).toNat

theorem unit_pos (magnitude : Magnitude) (exponent : Int) : 0 < unit magnitude exponent :=
  mul_pos (pow_pos two_pos _) (pow_pos (by norm_num) _)

/-- A count of quarters of the magnitude's unit, brought to the unit of a comparison. -/
theorem quarters_unit (magnitude : Magnitude) (exponent : Int) (quarters : Nat) :
    ((quarters *
        (Nat.pow 2 (magnitude.binaryExponent - 2).toNat * Nat.pow 10 (-exponent).toNat) : Nat) :
          ℚ) =
      quarters * 2 ^ (magnitude.binaryExponent - 2) * unit magnitude exponent := by
  have whole := zpow_mul_pow (two_ne_zero (α := ℚ)) (magnitude.binaryExponent - 2)
  simp only [Nat.pow_eq]
  push_cast
  rw [← whole, unit]
  ring

theorem compareWith_lower (magnitude : Magnitude) (exponent : Int) :
    ((compareWith magnitude exponent).lower : ℚ) =
      magnitude.lowerEnd * unit magnitude exponent :=
  quarters_unit magnitude exponent _

theorem compareWith_upper (magnitude : Magnitude) (exponent : Int) :
    ((compareWith magnitude exponent).upper : ℚ) =
      magnitude.upperEnd * unit magnitude exponent :=
  quarters_unit magnitude exponent _

/-- A point of a grid, brought to the unit of a comparison. -/
theorem compareWith_point (magnitude : Magnitude) (exponent : Int) (point : Nat) :
    ((point * (compareWith magnitude exponent).step : Nat) : ℚ) =
      value ⟨point, exponent⟩ * unit magnitude exponent := by
  have nonzero : (10 : ℚ) ≠ 0 := by norm_num
  have whole := zpow_mul_pow nonzero exponent
  simp only [compareWith, Nat.pow_eq, value, unit]
  push_cast
  rw [← whole]
  ring

/-- A grid point holds in a comparison if and only if it rounds to the magnitude. -/
theorem holds_iff (magnitude : Magnitude) (exponent : Int) (point : Nat) :
    (compareWith magnitude exponent).holds point = true ↔
      magnitude.RoundsFrom (value ⟨point, exponent⟩) := by
  have positive := unit_pos magnitude exponent
  have below :
      (compareWith magnitude exponent).lower ≤ point * (compareWith magnitude exponent).step ↔
        magnitude.lowerEnd ≤ value ⟨point, exponent⟩ := by
    rw [← Nat.cast_le (α := ℚ), compareWith_lower, compareWith_point,
      mul_le_mul_iff_left₀ positive]
  have above :
      point * (compareWith magnitude exponent).step ≤ (compareWith magnitude exponent).upper ↔
        value ⟨point, exponent⟩ ≤ magnitude.upperEnd := by
    rw [← Nat.cast_le (α := ℚ), compareWith_upper, compareWith_point,
      mul_le_mul_iff_left₀ positive]
  have strictlyBelow :
      (compareWith magnitude exponent).lower < point * (compareWith magnitude exponent).step ↔
        magnitude.lowerEnd < value ⟨point, exponent⟩ := by
    rw [← Nat.cast_lt (α := ℚ), compareWith_lower, compareWith_point,
      mul_lt_mul_iff_left₀ positive]
  have strictlyAbove :
      point * (compareWith magnitude exponent).step < (compareWith magnitude exponent).upper ↔
        value ⟨point, exponent⟩ < magnitude.upperEnd := by
    rw [← Nat.cast_lt (α := ℚ), compareWith_upper, compareWith_point,
      mul_lt_mul_iff_left₀ positive]
  have closed :
      (compareWith magnitude exponent).closed = decide (magnitude.significand % 2 = 0) := rfl
  rw [Comparison.holds, closed, Magnitude.RoundsFrom]
  by_cases even : magnitude.significand % 2 = 0
  · simp only [even, decide_true, if_true, decide_eq_true_eq, below, above]
  · simp only [even, decide_false, Bool.false_eq_true, if_false, decide_eq_true_eq,
      strictlyBelow, strictlyAbove]

/-- What is hit on a grid holds. -/
theorem Comparison.hit_holds
    {comparison : Comparison} {point : Nat}
    (found : comparison.hit = some point) :
    comparison.holds point = true := by
  unfold Comparison.hit at found
  dsimp only at found
  generalize comparison.value / comparison.step = floor at found
  split at found
  · exact absurd found (by simp)
  · rename_i floorHolds _
    rw [← Option.some.inj found]
    exact floorHolds
  · rename_i _ nextHolds
    rw [← Option.some.inj found]
    exact nextHolds
  · rename_i floorHolds nextHolds
    split at found
    · rw [← Option.some.inj found]
      exact floorHolds
    · split at found
      · rw [← Option.some.inj found]
        exact nextHolds
      · rw [← Option.some.inj found]
        rcases Nat.mod_two_eq_zero_or_one floor with even | odd
        · rw [even]
          exact floorHolds
        · rw [odd]
          exact nextHolds

/-! ## The finest grid -/

theorem binaryExponent_ge (magnitude : Magnitude) : -1074 ≤ magnitude.binaryExponent := by
  unfold Magnitude.binaryExponent Magnitude.span
  split_ifs <;> omega

/-- On the finest grid the magnitude is a point. -/
theorem step_dvd_value (magnitude : Magnitude) :
    (compareWith magnitude finest).step ∣ (compareWith magnitude finest).value := by
  have reach : (-(magnitude.binaryExponent - 2)).toNat ≤ (-finest).toNat + 2 := by
    have := binaryExponent_ge magnitude
    unfold finest
    omega
  have powers :
      2 ^ (-(magnitude.binaryExponent - 2)).toNat ∣ 4 * 10 ^ (-finest).toNat :=
    calc
      2 ^ (-(magnitude.binaryExponent - 2)).toNat ∣ 2 ^ ((-finest).toNat + 2) :=
        pow_dvd_pow 2 reach
      _ = 4 * 2 ^ (-finest).toNat := (pow_add 2 _ 2).trans (mul_comm _ _)
      _ ∣ 4 * 10 ^ (-finest).toNat :=
        mul_dvd_mul_left 4 (pow_dvd_pow_of_dvd (by decide) _)
  have step :
      (compareWith magnitude finest).step = 2 ^ (-(magnitude.binaryExponent - 2)).toNat :=
    Nat.mul_one _
  have value :
      (compareWith magnitude finest).value =
        4 * 10 ^ (-finest).toNat *
          (magnitude.significand * 2 ^ (magnitude.binaryExponent - 2).toNat) := by
    simp only [compareWith, Nat.pow_eq]
    ring
  rw [step, value]
  exact powers.mul_right _

theorem finest_roundsFrom
    {magnitude : Magnitude} (nonzero : magnitude.val ≠ 0) :
    magnitude.RoundsFrom (shortestFrom magnitude 0).value := by
  have exact :
      (shortestFrom magnitude 0).value * unit magnitude finest =
        ((4 * magnitude.significand : Nat) : ℚ) * 2 ^ (magnitude.binaryExponent - 2) *
          unit magnitude finest := by
    rw [shortestFrom, ← compareWith_point, Nat.div_mul_cancel (step_dvd_value magnitude)]
    exact quarters_unit magnitude finest _
  have middle := mul_right_cancel₀ (unit_pos magnitude finest).ne' exact
  have positive : (0 : ℚ) < 2 ^ (magnitude.binaryExponent - 2) := zpow_pos two_pos _
  have significant := magnitude.significand_pos nonzero
  have reach : 0 < magnitude.below := by
    unfold Magnitude.below
    split_ifs <;> omega
  have unitsBelow : 4 * magnitude.significand - magnitude.below < 4 * magnitude.significand := by
    omega
  have unitsAbove : 4 * magnitude.significand < 4 * magnitude.significand + 2 := by
    omega
  apply Magnitude.roundsFrom_of_between
  · rw [middle]
    exact mul_lt_mul_of_pos_right (by exact_mod_cast unitsBelow) positive
  · rw [middle]
    exact mul_lt_mul_of_pos_right (by exact_mod_cast unitsAbove) positive

/-! ## The search -/

theorem shortestFrom_roundsFrom
    {magnitude : Magnitude} (nonzero : magnitude.val ≠ 0) (steps : Nat) :
    magnitude.RoundsFrom (shortestFrom magnitude steps).value := by
  induction steps with
  | zero => exact finest_roundsFrom nonzero
  | succ steps ih =>
      rw [shortestFrom]
      split
      · rename_i digits found
        exact (holds_iff magnitude _ digits).mp (Comparison.hit_holds found)
      · exact ih

/-- The shortest decimal of a magnitude rounds to that magnitude. -/
theorem shortest_roundsFrom
    {magnitude : Magnitude} (nonzero : magnitude.val ≠ 0) :
    magnitude.RoundsFrom (shortest magnitude).value :=
  shortestFrom_roundsFrom nonzero _

theorem shortest_digits_pos
    {magnitude : Magnitude} (nonzero : magnitude.val ≠ 0) :
    0 < (shortest magnitude).digits := by
  have positive := (shortest_roundsFrom nonzero).pos nonzero
  rcases Nat.eq_zero_or_pos (shortest magnitude).digits with none | some
  · rw [value, none] at positive
    simp at positive
  · exact some

/-- Magnitudes whose shortest decimals denote one number are the same. -/
theorem shortest_injective
    {left right : Magnitude}
    (leftNonzero : left.val ≠ 0)
    (rightNonzero : right.val ≠ 0)
    (equal : (shortest left).value = (shortest right).value) :
    left = right := by
  have fromRight := shortest_roundsFrom rightNonzero
  rw [← equal] at fromRight
  exact (shortest_roundsFrom leftNonzero).unique fromRight

end Decimal

end RunArchive
