import RunArchive.Proofs.Run.Id

/-!
# Hexadecimal digits in either case

Which characters are hexadecimal digits, and what is lost when a number is read from some: nothing
but the case of the letters.  `hexNumber?_cancel` says that two texts of one length which are read
as the same number are the same in lower case.
-/

namespace RunArchive.RunId

/-- A hexadecimal digit of either case. -/
def IsHexDigit (character : Char) : Prop :=
  '0' ≤ character ∧ character ≤ '9' ∨ 'a' ≤ character ∧ character ≤ 'f' ∨
    'A' ≤ character ∧ character ≤ 'F'

instance (character : Char) : Decidable (IsHexDigit character) :=
  inferInstanceAs
    (Decidable
      ('0' ≤ character ∧ character ≤ '9' ∨ 'a' ≤ character ∧ character ≤ 'f' ∨
        'A' ≤ character ∧ character ≤ 'F'))

/-! ## Single characters -/

/-- What holds of all characters outside ASCII, and of all others by their codes, always holds. -/
theorem character_cases
    {property : Char → Prop} (table : ∀ code : Fin 128, property (Char.ofNat code.val))
    (foreign : ∀ character : Char, 128 ≤ character.toNat → property character)
    (character : Char) : property character := by
  by_cases ascii : character.toNat < 128
  · have entry := table ⟨character.toNat, ascii⟩
    rw [Char.ofNat_toNat] at entry
    exact entry
  · exact foreign character (Nat.le_of_not_lt ascii)

section Foreign

variable {character : Char} (foreign : 128 ≤ character.toNat)
include foreign

theorem not_le_of_foreign {bound : Char} (ascii : bound.toNat < 128) : ¬ character ≤ bound := by
  intro le
  have codes : character.toNat ≤ bound.toNat := le
  omega

theorem not_isHexDigit_of_foreign : ¬ IsHexDigit character := by
  rintro (⟨_, le⟩ | ⟨_, le⟩ | ⟨_, le⟩) <;> exact not_le_of_foreign foreign (by decide) le

theorem hexValue?_of_foreign : hexValue? character = none := by
  have notDigit : ¬ character.isDigit = true := by
    intro digit
    have le : character.toNat ≤ 57 := (Char.isDigit_iff_toNat.mp digit).2
    omega
  rw [hexValue?, if_neg notDigit, if_neg, if_neg]
  · exact fun upper => not_le_of_foreign foreign (by decide) upper.2
  · exact fun lower => not_le_of_foreign foreign (by decide) lower.2

theorem toLower_of_foreign : character.toLower = character := by
  have notUpper : ¬ (character.val ≥ 'A'.val ∧ character.val ≤ 'Z'.val) := by
    intro upper
    exact not_le_of_foreign foreign (by decide : 'Z'.toNat < 128) upper.2
  exact dif_neg notUpper

end Foreign

/-- Exactly the digits have a value. -/
theorem isSome_hexValue?_iff (character : Char) :
    (hexValue? character).isSome = true ↔ IsHexDigit character := by
  induction character using character_cases with
  | table code => revert code; decide
  | foreign character foreign =>
      rw [hexValue?_of_foreign foreign]
      exact ⟨nofun, fun digit => absurd digit (not_isHexDigit_of_foreign foreign)⟩

theorem hexValue?_toLower (character : Char) :
    hexValue? character.toLower = hexValue? character := by
  induction character using character_cases with
  | table code => revert code; decide
  | foreign character foreign => rw [toLower_of_foreign foreign]

theorem toLower_eq_hyphen_iff (character : Char) :
    character.toLower = '-' ↔ character = '-' := by
  induction character using character_cases with
  | table code => revert code; decide
  | foreign character foreign => rw [toLower_of_foreign foreign]

/-- The digit of a value is the one that it has been read from, in lower case. -/
theorem digitChar_of_hexValue? (character : Char) :
    ∀ value ∈ hexValue? character, value < 16 ∧ value.digitChar = character.toLower := by
  induction character using character_cases with
  | table code => revert code; decide
  | foreign character foreign =>
      rw [hexValue?_of_foreign foreign]
      exact nofun

theorem toLower_digitChar {digit : Nat} (small : digit < 16) :
    digit.digitChar.toLower = digit.digitChar := by
  have table : ∀ digit : Fin 16, digit.val.digitChar.toLower = digit.val.digitChar := by decide
  exact table ⟨digit, small⟩

/-! ## Numbers -/

theorem hexNumber?_cons (front : Nat) (character : Char) (rest : List Char) :
    hexNumber? front (character :: rest) =
      (hexValue? character).bind fun value => hexNumber? (front * 16 + value) rest := rfl

/-- A number is read from digits and from nothing else. -/
theorem isSome_hexNumber?_iff (front : Nat) (digits : List Char) :
    (hexNumber? front digits).isSome = true ↔ ∀ digit ∈ digits, IsHexDigit digit := by
  induction digits generalizing front with
  | nil => exact ⟨fun _ => nofun, fun _ => rfl⟩
  | cons character rest ih =>
      rw [hexNumber?_cons, List.forall_mem_cons, ← isSome_hexValue?_iff]
      cases hexValue? character with
      | none => exact ⟨nofun, fun both => nomatch both.1⟩
      | some value =>
          rw [Option.bind_some, ih]
          exact ⟨fun all => ⟨rfl, all⟩, And.right⟩

/-- Every digit behind a number makes it one place longer. -/
theorem hexNumber?_lt
    {front number : Nat} {digits : List Char} (read : hexNumber? front digits = some number) :
    number < (front + 1) * 16 ^ digits.length := by
  induction digits generalizing front with
  | nil =>
      cases read
      simp
  | cons character rest ih =>
      rw [hexNumber?_cons, Option.bind_eq_some_iff] at read
      rcases read with ⟨value, valued, read⟩
      have small := (digitChar_of_hexValue? character value valued).1
      have places : (front * 16 + value + 1) * 16 ^ rest.length ≤
          (front + 1) * 16 * 16 ^ rest.length :=
        Nat.mul_le_mul_right _ (by omega)
      calc
        number < (front * 16 + value + 1) * 16 ^ rest.length := ih read
        _ ≤ (front + 1) * 16 * 16 ^ rest.length := places
        _ = (front + 1) * 16 ^ (rest.length + 1) := by rw [Nat.pow_succ']; ring

/-- Digits from which the same number is read are the same in lower case. -/
theorem hexNumber?_cancel
    {front other number : Nat} {left right : List Char} (length : left.length = right.length)
    (readLeft : hexNumber? front left = some number)
    (readRight : hexNumber? other right = some number) :
    front = other ∧ left.map Char.toLower = right.map Char.toLower := by
  induction left generalizing front other right with
  | nil =>
      have nothing : right = [] := List.eq_nil_of_length_eq_zero length.symm
      subst nothing
      exact ⟨Option.some.inj (readLeft.trans readRight.symm), rfl⟩
  | cons character rest ih =>
      rcases right with _ | ⟨rival, rivals⟩
      · exact nomatch length
      rw [hexNumber?_cons, Option.bind_eq_some_iff] at readLeft readRight
      rcases readLeft with ⟨value, valued, readLeft⟩
      rcases readRight with ⟨rivalValue, rivalValued, readRight⟩
      rcases digitChar_of_hexValue? character value valued with ⟨small, lower⟩
      rcases digitChar_of_hexValue? rival rivalValue rivalValued with ⟨rivalSmall, rivalLower⟩
      rcases ih (Nat.succ.inj length) readLeft readRight with ⟨fronts, rests⟩
      -- The values are the last digits of both fronts.
      have sameValue : value = rivalValue := by omega
      refine ⟨by omega, ?_⟩
      rw [List.map_cons, List.map_cons, rests, ← lower, ← rivalLower, sameValue]

theorem hexNumber?_lower (front : Nat) (digits : List Char) :
    hexNumber? front (digits.map Char.toLower) = hexNumber? front digits := by
  induction digits generalizing front with
  | nil => rfl
  | cons character rest ih =>
      rw [List.map_cons, hexNumber?_cons, hexNumber?_cons, hexValue?_toLower]
      simp only [ih]

/-! ## Identifiers -/

theorem lower_digits (id : RunId) : id.digits.map Char.toLower = id.digits := by
  rw [digits, group, List.map_map]
  refine List.map_congr_left fun place _ => ?_
  exact toLower_digitChar (Nat.mod_lt _ (by decide))

theorem ofDigits?_eq_some_iff {digits : List Char} {id : RunId} :
    ofDigits? digits = some id ↔
      digits.length = 32 ∧ hexNumber? 0 digits = some id.bits.val := by
  rw [ofDigits?, Option.bind_eq_bind, Option.bind_eq_some_iff]
  constructor
  · rintro ⟨value, read, made⟩
    by_cases fits : digits.length = 32 ∧ value < count
    · rw [dif_pos fits] at made
      cases made
      exact ⟨fits.1, read⟩
    · rw [dif_neg fits] at made
      cases made
  · rintro ⟨length, read⟩
    exact ⟨id.bits.val, read, dif_pos ⟨length, id.bits.isLt⟩⟩

/-- Any 32 digits denote an identifier, and nothing else does. -/
theorem exists_ofDigits?_iff (digits : List Char) :
    (∃ id, ofDigits? digits = some id) ↔
      digits.length = 32 ∧ ∀ digit ∈ digits, IsHexDigit digit := by
  simp only [ofDigits?_eq_some_iff, ← isSome_hexNumber?_iff 0, Option.isSome_iff_exists]
  constructor
  · rintro ⟨id, length, read⟩
    exact ⟨length, _, read⟩
  · rintro ⟨length, value, read⟩
    have bound := hexNumber?_lt read
    rw [length] at bound
    exact ⟨⟨value, bound⟩, length, read⟩

/-- The identifier that digits denote has these digits, in lower case. -/
theorem digits_of_ofDigits?
    {digits : List Char} {id : RunId} (made : ofDigits? digits = some id) :
    id.digits = digits.map Char.toLower := by
  rcases ofDigits?_eq_some_iff.mp made with ⟨length, read⟩
  rcases ofDigits?_eq_some_iff.mp (ofDigits?_digits id) with ⟨ownLength, ownRead⟩
  have same := hexNumber?_cancel (ownLength.trans length.symm) ownRead read
  rw [← same.2, lower_digits]

/-- The case of letters makes no difference. -/
theorem ofDigits?_lower (digits : List Char) :
    ofDigits? (digits.map Char.toLower) = ofDigits? digits := by
  ext id
  simp only [ofDigits?_eq_some_iff, hexNumber?_lower, List.length_map]

end RunArchive.RunId
