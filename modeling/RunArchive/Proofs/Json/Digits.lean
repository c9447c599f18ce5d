import Mathlib.Data.List.Basic
import Mathlib.Tactic.Ring
import RunArchive.Json.Printer
import RunArchive.Proofs.Json.Spelling

/-!
# Written digits

The digits of a number denote that number, and the digits of a positive number do not start with a
zero.  Both follow from one principle: the digits of a number are those of its tenth and one more.
Zeros may be put in front of digits that denote a number, and behind digits that start with
something else.
-/

namespace RunArchive.Json

/-! ## Octets of ASCII texts -/

theorem length_octets (text : List Char) : (octets text).length = text.length :=
  List.length_map ..

theorem octets_append (left right : List Char) :
    octets (left ++ right) = octets left ++ octets right :=
  List.map_append

theorem octets_zeros (count : Nat) :
    octets (List.replicate count '0') = List.replicate count (octet '0') :=
  List.map_replicate

/-! ## The number that digits denote -/

/-- The number that digits denote. -/
def digitsValue (digits : List UInt8) : Nat :=
  digits.foldl (fun value o => value * 10 + digitValue o) 0

theorem foldl_digits (value : Nat) (digits : List UInt8) :
    digits.foldl (fun value o => value * 10 + digitValue o) value =
      value * 10 ^ digits.length + digitsValue digits := by
  induction digits generalizing value with
  | nil => simp [digitsValue]
  | cons o digits ih =>
      have head := ih (0 * 10 + digitValue o)
      rw [digitsValue, List.foldl_cons, List.foldl_cons, ih, head, List.length_cons]
      ring

theorem digitsValue_append (left right : List UInt8) :
    digitsValue (left ++ right) =
      digitsValue left * 10 ^ right.length + digitsValue right := by
  rw [digitsValue, List.foldl_append, foldl_digits]
  rfl

theorem digitsValue_zeros (count : Nat) :
    digitsValue (List.replicate count (octet '0')) = 0 := by
  induction count with
  | zero => rfl
  | succ count ih =>
      rw [List.replicate_succ, ← List.singleton_append, digitsValue_append, ih]
      simp [digitsValue, digitValue, octet]

theorem isDigit_digitChar
    {digit : Nat} (small : digit < 10) :
    isDigit (octet digit.digitChar) = true := by
  have table : ∀ digit : Fin 10, isDigit (octet digit.val.digitChar) = true := by decide
  exact table ⟨digit, small⟩

theorem digitsValue_digitChar
    {digit : Nat} (small : digit < 10) :
    digitsValue [octet digit.digitChar] = digit := by
  have table : ∀ digit : Fin 10, digitsValue [octet digit.val.digitChar] = digit.val := by decide
  exact table ⟨digit, small⟩

/-! ## The digits of a number -/

/--
What holds of single digits, and goes over from the digits of a positive number to these and one
more, holds of the digits of every number.
-/
theorem digitsOf_induction
    {Holds : Nat → List Char → Prop}
    (single : ∀ digit, digit < 10 → Holds digit [digit.digitChar])
    (more : ∀ front digit, 0 < front → digit < 10 → Holds front (digitsOf front) →
      Holds (front * 10 + digit) (digitsOf front ++ [digit.digitChar]))
    (value : Nat) :
    Holds value (digitsOf value) := by
  induction value using Nat.strong_induction_on with
  | _ value ih =>
      have split :
          digitsOf value =
            if value < 10 then [value.digitChar]
            else digitsOf (value / 10) ++ [(value % 10).digitChar] :=
        Nat.toDigits_eq_if (by decide)
      rw [split]
      by_cases small : value < 10
      · rw [if_pos small]
        exact single value small
      · have parts : value / 10 * 10 + value % 10 = value := Nat.div_add_mod' value 10
        have last : value % 10 < 10 := Nat.mod_lt _ (by decide)
        have positive : 0 < value / 10 := by omega
        have longer := more (value / 10) (value % 10) positive last (ih (value / 10) (by omega))
        rw [parts] at longer
        rw [if_neg small]
        exact longer

/-- Written digits denote the number that is written. -/
theorem digitsValue_digitsOf (value : Nat) : digitsValue (octets (digitsOf value)) = value := by
  induction value using digitsOf_induction with
  | single digit small => exact digitsValue_digitChar small
  | more front digit _ small ih =>
      rw [octets_append, digitsValue_append, ih]
      exact congrArg (front * 10 + ·) (digitsValue_digitChar small)

theorem digits_digitsOf (value : Nat) : Digits (octets (digitsOf value)) := by
  induction value using digitsOf_induction with
  | single digit small =>
      refine ⟨by simp [octets], ?_⟩
      intro o member
      rw [List.mem_singleton.mp member]
      exact isDigit_digitChar small
  | more front digit _ small ih =>
      rw [octets_append]
      refine ⟨List.append_ne_nil_of_left_ne_nil ih.1 _, ?_⟩
      intro o member
      rcases List.mem_append.mp member with earlier | last
      · exact ih.2 o earlier
      · rw [List.mem_singleton.mp last]
        exact isDigit_digitChar small

/-- Positive numbers are written without leading zeros. -/
theorem head?_digitsOf
    {value : Nat} (positive : 0 < value) :
    (octets (digitsOf value)).head? ≠ some (octet '0') := by
  induction value using digitsOf_induction with
  | single digit small =>
      have table :
          ∀ digit : Fin 10, 0 < digit.val → octet digit.val.digitChar ≠ octet '0' := by
        decide
      intro equal
      exact table ⟨digit, small⟩ positive (Option.some.inj equal)
  | more front digit frontPositive _ ih =>
      rw [octets_append, List.head?_append_of_ne_nil _ (digits_digitsOf front).1]
      exact ih frontPositive

theorem wholeDigits_digitsOf (value : Nat) : WholeDigits (octets (digitsOf value)) := by
  refine ⟨digits_digitsOf value, ?_⟩
  intro leading
  rcases Nat.eq_zero_or_pos value with zero | positive
  · rw [zero]
    rfl
  · exact absurd leading (head?_digitsOf positive)

/-! ## Zeros around digits -/

/-- Zeros in front of digits are digits. -/
theorem Digits.zeros_append
    {digits : List UInt8} (digital : Digits digits) (count : Nat) :
    Digits (List.replicate count (octet '0') ++ digits) := by
  refine ⟨fun empty => digital.1 (List.append_eq_nil_iff.mp empty).2, ?_⟩
  intro o member
  rcases List.mem_append.mp member with zero | digit
  · rw [List.eq_of_mem_replicate zero]
    decide
  · exact digital.2 o digit

theorem wholeDigits_of_leading
    {digits : List UInt8}
    (digital : Digits digits)
    (leading : digits.head? ≠ some (octet '0')) :
    WholeDigits digits :=
  ⟨digital, fun zero => absurd zero leading⟩

/-- Digits with zeros behind them are the digits before a point. -/
theorem WholeDigits.append_zeros
    {digits : List UInt8}
    (digital : Digits digits)
    (leading : digits.head? ≠ some (octet '0'))
    (count : Nat) :
    WholeDigits (digits ++ List.replicate count (octet '0')) := by
  apply wholeDigits_of_leading
  · refine ⟨fun empty => digital.1 (List.append_eq_nil_iff.mp empty).1, ?_⟩
    intro o member
    rcases List.mem_append.mp member with digit | zero
    · exact digital.2 o digit
    · rw [List.eq_of_mem_replicate zero]
      decide
  · rw [List.head?_append_of_ne_nil _ digital.1]
    exact leading

end RunArchive.Json
