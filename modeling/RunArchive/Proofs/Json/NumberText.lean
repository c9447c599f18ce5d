import RunArchive.Proofs.Json.DecimalText
import RunArchive.Proofs.Json.Escaping
import RunArchive.Proofs.Json.Tokens

/-!
# Written numbers are numerals

A written number spells a numeral.  The numeral of an integer has no fraction and no exponent; that
of a float has one or the other, and its exact value is the value of the shortest decimal.  So the
text of a number determines the number, whether or not reading the text gives the number back:
integers are told from floats by their spelling, and floats from one another by their decimals.

The last section is about reading.  An integer that fits 64 bits is read back from its text.
-/

namespace RunArchive.Json

/-! ## Texts of numbers -/

theorem ascii_digitsOf (value : Nat) : Ascii (digitsOf value) := by
  intro character member
  have digit : character.isDigit = true :=
    Nat.isDigit_of_mem_toDigits (by decide) (by decide) member
  rw [Char.isDigit_iff_toNat] at digit
  exact digit.2.trans (by decide)

theorem ascii_decimal (decimal : Decimal) : Ascii decimal.text := by
  have digits := ascii_digitsOf decimal.digits
  have zeros (count : Nat) : Ascii (List.replicate count '0') := by
    intro character member
    rw [List.eq_of_mem_replicate member]
    decide
  have exponent (power : Int) : Ascii (Decimal.exponentText power) := by
    unfold Decimal.exponentText
    refine Ascii.cons (by decide) (Ascii.cons ?_ (ascii_digitsOf _))
    split <;> decide
  unfold Decimal.text
  dsimp only
  split
  · unfold Decimal.positional
    split
    · exact .cons (by decide) (.cons (by decide) ((zeros _).append digits))
    · split
      · exact (digits.append (zeros _)).append (by decide)
      · exact
          (digits.of_sublist (List.take_sublist _ _)).append
            (.cons (by decide) (digits.of_sublist (List.drop_sublist _ _)))
  · unfold Decimal.exponential
    split
    · decide
    · rename_i equal
      rw [equal] at digits
      exact digits.append (exponent _)
    · rename_i digit rest _ equal
      rw [equal] at digits
      have front : Ascii [digit] := digits.of_sublist (by simp)
      have back : Ascii rest := digits.of_sublist (List.sublist_cons_self _ _)
      exact front.append (.cons (by decide) (back.append (exponent _)))

/-- The number that the text of a magnitude denotes. -/
def printed (magnitude : Magnitude) : ℚ :=
  if magnitude.val = 0 then 0 else (Decimal.shortest magnitude).value

/-- The texts of different magnitudes denote different numbers. -/
theorem printed_injective : Function.Injective printed := by
  intro left right equal
  unfold printed at equal
  split at equal
  · rename_i leftZero
    split at equal
    · rename_i rightZero
      exact Fin.ext (leftZero.trans rightZero.symm)
    · rename_i rightNonzero
      have positive := (Decimal.shortest_roundsFrom rightNonzero).pos rightNonzero
      exact absurd equal positive.ne
  · rename_i leftNonzero
    split at equal
    · have positive := (Decimal.shortest_roundsFrom leftNonzero).pos leftNonzero
      exact absurd equal positive.ne'
    · rename_i rightNonzero
      exact Decimal.shortest_injective leftNonzero rightNonzero equal

theorem magnitude_spelled (magnitude : Magnitude) :
    SpellsFloat (Utf8.encode magnitude.text) false (printed magnitude) := by
  unfold Magnitude.text printed
  split
  · have whole : WholeDigits [octet '0'] := by decide
    have fraction : Digits [octet '0'] := by decide
    have spelled := spellsFloat_point whole fraction
    have value : digitsValue ([octet '0'] ++ [octet '0']) = 0 := rfl
    rw [value, Nat.cast_zero, zero_mul] at spelled
    exact spelled
  · rename_i nonzero
    rw [encode_eq_octets (ascii_decimal _)]
    exact decimal_spelled (Decimal.shortest_digits_pos nonzero)

/-- The text of a float spells its sign and the decimal of its magnitude. -/
theorem float_spelled (float : Double) :
    SpellsFloat (Utf8.encode float.text) float.negative (printed float.magnitude) := by
  have spelled := magnitude_spelled float.magnitude
  unfold Double.text
  cases float.negative with
  | false => exact spelled
  | true => exact spelled.negated

theorem integer_spelled (value : Int) :
    SpellsNumeral (Utf8.encode (signedDigitsOf value))
      ⟨decide (value < 0), octets (digitsOf value.natAbs), none, none⟩ := by
  have whole := wholeDigits_digitsOf value.natAbs
  have digits : Utf8.encode (digitsOf value.natAbs) = octets (digitsOf value.natAbs) :=
    encode_eq_octets (ascii_digitsOf value.natAbs)
  unfold signedDigitsOf
  by_cases negative : value < 0
  · have spelled : SpellsNumeral _ ⟨true, octets (digitsOf value.natAbs), none, none⟩ :=
      .intro .present whole .absent .absent
    rw [List.append_nil, List.append_nil] at spelled
    rw [if_pos negative, decide_eq_true negative, Utf8.encode_cons, digits]
    exact spelled
  · have spelled : SpellsNumeral _ ⟨false, octets (digitsOf value.natAbs), none, none⟩ :=
      .intro .absent whole .absent .absent
    rw [List.append_nil, List.append_nil] at spelled
    rw [if_neg negative, decide_eq_false negative, digits]
    exact spelled

/-- A numeral belongs to the text of a number. -/
def Numeral.Writes (numeral : Numeral) : Number → Prop
  | .integer value =>
    ¬ numeral.Marked ∧ numeral.negative = decide (value < 0) ∧
      digitsValue numeral.whole = value.natAbs
  | .float value =>
    numeral.Marked ∧ numeral.negative = value.negative ∧ numeral.size = printed value.magnitude

/-- The text of a number spells a numeral that belongs to it. -/
theorem number_spelled (number : Number) :
    ∃ numeral, SpellsNumeral (Utf8.encode number.text) numeral ∧ numeral.Writes number := by
  cases number with
  | integer value =>
      refine ⟨_, integer_spelled value, by simp [Numeral.Marked], rfl, ?_⟩
      exact digitsValue_digitsOf value.natAbs
  | float value =>
      rcases float_spelled value with ⟨numeral, spelled, signed, sized, marked⟩
      exact ⟨numeral, spelled, marked, signed, sized⟩

/-- A numeral belongs to the text of one number at most. -/
theorem Numeral.Writes.unique
    {numeral : Numeral} {left right : Number}
    (writesLeft : numeral.Writes left)
    (writesRight : numeral.Writes right) :
    left = right := by
  cases left with
  | integer leftValue =>
      cases right with
      | integer rightValue =>
          have signs := writesLeft.2.1.symm.trans writesRight.2.1
          have sizes := writesLeft.2.2.symm.trans writesRight.2.2
          rw [decide_eq_decide] at signs
          congr 1
          omega
      | float rightValue => exact absurd writesRight.1 writesLeft.1
  | float leftValue =>
      cases right with
      | integer rightValue => exact absurd writesLeft.1 writesRight.1
      | float rightValue =>
          rcases leftValue with ⟨leftNegative, leftMagnitude⟩
          rcases rightValue with ⟨rightNegative, rightMagnitude⟩
          have signs : leftNegative = rightNegative :=
            writesLeft.2.1.symm.trans writesRight.2.1
          have sizes : leftMagnitude = rightMagnitude :=
            printed_injective (writesLeft.2.2.symm.trans writesRight.2.2)
          rw [signs, sizes]

/-! ## Reading integers back -/

/-- Digits that denote a number within the limit are all gathered. -/
theorem gather_digits
    {limit value : Nat} {digits : List UInt8}
    (within : value * 10 ^ digits.length + digitsValue digits ≤ limit) :
    gather limit value digits = (value * 10 ^ digits.length + digitsValue digits, []) := by
  induction digits generalizing value with
  | nil => simp [gather, digitsValue]
  | cons o digits ih =>
      have total :
          (value * 10 + digitValue o) * 10 ^ digits.length + digitsValue digits =
            value * 10 ^ (o :: digits).length + digitsValue (o :: digits) := by
        rw [← foldl_digits, ← foldl_digits, List.foldl_cons]
      have front :
          value * 10 + digitValue o ≤
            (value * 10 + digitValue o) * 10 ^ digits.length :=
        Nat.le_mul_of_pos_right _ (by positivity)
      rw [gather, if_pos (by omega), ih (by omega), total]

/-- An integer that fits 64 bits is the value of its text. -/
theorem number_integer
    {value : Int} (fits : FitsInteger value) :
    Numeral.number ⟨decide (value < 0), octets (digitsOf value.natAbs), none, none⟩ =
      .ok (.integer value) := by
  rcases fits with ⟨least, greatest⟩
  have digits := digitsValue_digitsOf value.natAbs
  have gathered :
      gather Unsigned.greatest64 0 (octets (digitsOf value.natAbs)) = (value.natAbs, []) := by
    rw [gather_digits] <;> rw [Nat.zero_mul, Nat.zero_add, digits]
    unfold Unsigned.greatest64
    omega
  have integer :
      integerNumber (decide (value < 0)) value.natAbs = .ok (.integer value) := by
    unfold integerNumber
    by_cases negative : value < 0
    · have within : ¬ (value.natAbs = 0 ∨ greatestNegative < value.natAbs) := by
        unfold greatestNegative
        omega
      have signed : -(value.natAbs : Int) = value := by omega
      rw [if_pos (decide_eq_true negative), if_neg within, signed]
    · have signed : (value.natAbs : Int) = value := by omega
      rw [if_neg (by simp [negative]), signed]
  simp only [Numeral.number, gathered, Option.getD_none, gather, Option.isNone_none, true_and,
    if_true, integer]

end RunArchive.Json
