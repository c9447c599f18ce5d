import Mathlib.Data.List.Induction
import RunArchive.Decimal.Unsigned
import RunArchive.Proofs.Text.Blank

/-!
# Numerals without a sign of their own

Which texts denote a number, said by what is written and not by how it is read: a plus sign or
none, any zeros, and the digits of the number.  Reading accepts exactly these texts, as the number
that they denote, up to the limit and not beyond it.

In a setting blanks may stand around a numeral; `Gives` admits them.
-/

namespace RunArchive.Unsigned

/-! ## Digits -/

theorem valueOf_eq (digits : List Char) : valueOf digits = Nat.ofDigitChars 10 digits 0 := by
  simp only [valueOf, Nat.ofDigitChars, Nat.mul_comm]

theorem valueOf_concat (front : List Char) (digit : Char) :
    valueOf (front ++ [digit]) = 10 * valueOf front + (digit.toNat - '0'.toNat) := by
  rw [valueOf_eq, valueOf_eq, Nat.ofDigitChars_append, Nat.ofDigitChars_cons, Nat.ofDigitChars_nil]

theorem toNat_digit {digit : Char} (isDigit : digit.isDigit = true) :
    48 ≤ digit.toNat ∧ digit.toNat < 58 := by
  rw [Char.isDigit_iff_toNat] at isDigit
  exact ⟨isDigit.1, Nat.lt_succ_of_le isDigit.2⟩

theorem digit_lt_ten {digit : Char} (isDigit : digit.isDigit = true) :
    digit.toNat - '0'.toNat < 10 := by
  have range := toNat_digit isDigit
  change digit.toNat - 48 < 10
  omega

/-- A single digit is written as itself. -/
theorem toDigits_digit {digit : Char} (isDigit : digit.isDigit = true) :
    Nat.toDigits 10 (digit.toNat - '0'.toNat) = [digit] := by
  have small := digit_lt_ten isDigit
  have same : (digit.toNat - '0'.toNat).digitChar = digit := by
    apply Char.toNat_inj.mp
    rw [Nat.toNat_digitChar_of_lt_ten small]
    exact Nat.add_sub_of_le (toNat_digit isDigit).1
  rw [Nat.toDigits_of_lt_base small, same]

/-- Digits are zeros and then the digits of the number that they denote. -/
theorem exists_zeros
    {digits : List Char} (nonempty : digits ≠ [])
    (digital : ∀ character ∈ digits, character.isDigit = true) :
    ∃ zeros, digits = List.replicate zeros '0' ++ Nat.toDigits 10 (valueOf digits) := by
  induction digits using List.reverseRecOn with
  | nil => exact absurd rfl nonempty
  | append_singleton front digit ih =>
      have isDigit : digit.isDigit = true := digital digit (by simp)
      rw [valueOf_concat]
      by_cases single : front = []
      · refine ⟨0, ?_⟩
        rw [single, valueOf, List.foldl_nil, Nat.mul_zero, Nat.zero_add, toDigits_digit isDigit]
        rfl
      rcases ih single fun character member => digital character (by simp [member]) with
        ⟨zeros, written⟩
      -- A zero in front of the last digit is one more leading zero.
      rcases Nat.eq_zero_or_pos (valueOf front) with zero | positive
      · refine ⟨zeros + 1, ?_⟩
        rw [zero, Nat.toDigits_zero, ← List.replicate_succ'] at written
        rw [zero, Nat.mul_zero, Nat.zero_add, toDigits_digit isDigit, ← written]
      · refine ⟨zeros, ?_⟩
        calc
          front ++ [digit] =
              List.replicate zeros '0' ++ (Nat.toDigits 10 (valueOf front) ++ [digit]) := by
            rw [← List.append_assoc, ← written]
          _ = _ := by
            rw [← toDigits_digit isDigit,
              Nat.toDigits_append_toDigits (by decide) positive (digit_lt_ten isDigit)]

/-! ## Numerals -/

/-- The plus sign of a numeral, or its absence. -/
inductive PlusSign : List Char → Prop where
  | absent : PlusSign []
  | present : PlusSign ['+']

/-- A text denotes a number: after a plus sign or none come any zeros, and then its digits. -/
inductive Denotes : List Char → Nat → Prop where
  | intro {sign : List Char} (signed : PlusSign sign) (zeros value : Nat) :
      Denotes (sign ++ (List.replicate zeros '0' ++ Nat.toDigits 10 value)) value

theorem exists_sign (text : List Char) :
    ∃ sign, PlusSign sign ∧ text = sign ++ withoutSign text := by
  rw [withoutSign.eq_def]
  split
  · exact ⟨['+'], .present, rfl⟩
  · exact ⟨[], .absent, rfl⟩

section Digital

variable {sign digits : List Char} (signed : PlusSign sign) (nonempty : digits ≠ [])
  (digital : ∀ character ∈ digits, character.isDigit = true)
include signed nonempty digital

theorem withoutSign_digits : withoutSign (sign ++ digits) = digits := by
  cases signed with
  | present => rfl
  | absent =>
      rw [List.nil_append, withoutSign.eq_def]
      split
      · exact absurd (digital '+' List.mem_cons_self) (by decide)
      · rfl

/-- Digits behind a sign are read if their number is within the limit. -/
theorem read?_digits (limit : Nat) :
    read? limit (sign ++ digits) =
      if valueOf digits ≤ limit then some (valueOf digits) else none := by
  have all : digits.all Char.isDigit = true := List.all_eq_true.mpr digital
  simp only [read?, withoutSign_digits signed nonempty digital, nonempty, all, ne_eq,
    not_false_eq_true, true_and]

end Digital

section Written

variable (zeros value : Nat)

theorem written_nonempty : List.replicate zeros '0' ++ Nat.toDigits 10 value ≠ [] :=
  List.append_ne_nil_of_right_ne_nil _ (List.ne_nil_of_length_pos Nat.length_toDigits_pos)

theorem written_digital :
    ∀ character ∈ List.replicate zeros '0' ++ Nat.toDigits 10 value,
      character.isDigit = true := by
  intro character member
  rcases List.mem_append.mp member with zero | digit
  · rw [List.eq_of_mem_replicate zero]
    rfl
  · exact Nat.isDigit_of_mem_toDigits (by decide) (by decide) digit

theorem valueOf_written : valueOf (List.replicate zeros '0' ++ Nat.toDigits 10 value) = value := by
  rw [valueOf_eq, Nat.ofDigitChars_append, Nat.ofDigitChars_replicate_zero, Nat.mul_zero,
    Nat.ofDigitChars_ten_toDigits]

end Written

variable {limit value : Nat} {text : List Char}

/-- A text is read as a number exactly if it denotes that number and the limit admits it. -/
theorem read?_eq_some_iff : read? limit text = some value ↔ Denotes text value ∧ value ≤ limit := by
  constructor
  · intro read
    simp only [read?, Option.ite_none_right_eq_some, Option.some.injEq] at read
    rcases read with ⟨⟨nonempty, all, within⟩, same⟩
    rcases exists_zeros nonempty (List.all_eq_true.mp all) with ⟨zeros, written⟩
    rcases exists_sign text with ⟨sign, signed, parts⟩
    rw [same] at written within
    rw [written] at parts
    rw [parts]
    exact ⟨.intro signed zeros value, within⟩
  · rintro ⟨⟨signed, zeros⟩, within⟩
    rw [read?_digits signed (written_nonempty zeros value) (written_digital zeros value),
      valueOf_written, if_pos within]

/-- A text denotes one number at most. -/
theorem Denotes.unique
    {left right : Nat} (first : Denotes text left) (second : Denotes text right) :
    left = right := by
  have readLeft := read?_eq_some_iff.mpr ⟨first, Nat.le_max_left left right⟩
  have readRight := read?_eq_some_iff.mpr ⟨second, Nat.le_max_right left right⟩
  rw [readLeft] at readRight
  exact Option.some.inj readRight

/-! ## Blanks around numerals -/

/-- No digit is a blank. -/
theorem isBlank_digit {character : Char} (digit : character.isDigit = true) :
    Text.isBlank character = false := by
  have range := toNat_digit digit
  simp only [Text.isBlank, Bool.or_eq_false_iff, Bool.and_eq_false_iff, decide_eq_false_iff_not,
    beq_eq_false_iff_ne]
  omega

theorem Denotes.visible (denotes : Denotes text value) : Text.Visible text := by
  rcases denotes with ⟨signed, zeros⟩
  apply Text.visible_of_forall
  · exact List.append_ne_nil_of_right_ne_nil _ (written_nonempty zeros value)
  · intro character member
    rcases List.mem_append.mp member with inSign | inDigits
    · cases signed with
      | absent => cases inSign
      | present =>
          rw [List.mem_singleton.mp inSign]
          rfl
    · exact isBlank_digit (written_digital zeros value character inDigits)

/-- A setting gives a number: it denotes the number, with blanks around it or without. -/
inductive Gives : List Char → Nat → Prop where
  | intro {before numeral after : List Char} {value : Nat}
      (blankBefore : Text.Blank before)
      (denotes : Denotes numeral value)
      (blankAfter : Text.Blank after) :
      Gives (before ++ (numeral ++ after)) value

theorem gives_iff : Gives text value ↔ Denotes (Text.trim text) value := by
  constructor
  · rintro ⟨blankBefore, denotes, blankAfter⟩
    rw [Text.trim_padded blankBefore denotes.visible blankAfter]
    exact denotes
  · intro denotes
    rcases Text.exists_blank_trim text with ⟨before, after, blankBefore, blankAfter, same⟩
    rw [same]
    exact .intro blankBefore denotes blankAfter

/-- Without the blanks around it, a setting is read as the number that it gives. -/
theorem read?_trim_eq_some_iff :
    read? limit (Text.trim text) = some value ↔ Gives text value ∧ value ≤ limit := by
  rw [read?_eq_some_iff, gives_iff]

/-- A setting gives no number up to a limit: none at all, or a greater one. -/
def GivesNone (limit : Nat) (text : List Char) : Prop := ∀ value, Gives text value → limit < value

theorem read?_trim_eq_none_iff : read? limit (Text.trim text) = none ↔ GivesNone limit text := by
  rw [Option.eq_none_iff_forall_ne_some]
  refine forall_congr' fun value => ?_
  rw [Ne, read?_trim_eq_some_iff, not_and, Nat.not_le]

theorem Gives.unique
    {left right : Nat} (first : Gives text left) (second : Gives text right) : left = right :=
  (gives_iff.mp first).unique (gives_iff.mp second)

theorem Gives.not_blank (gives : Gives text value) : ¬ Text.Blank text := by
  intro blank
  have empty := Text.trim_eq_nil_iff.mpr blank
  exact (gives_iff.mp gives).visible.nonempty empty

end RunArchive.Unsigned
