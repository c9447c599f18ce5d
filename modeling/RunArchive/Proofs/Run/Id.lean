import Mathlib.Tactic.Ring
import RunArchive.Proofs.Outcome
import RunArchive.Run.Id

/-!
# Run identifiers are read back

The digits of an identifier spell its bits, the highest digit first.  `hexNumber?_digits` says this
of any stretch of them: read behind a number, they shift it by as many places and fill these with
their part of the bits.
-/

namespace RunArchive.RunId

theorem hexValue?_digitChar {digit : Nat} (small : digit < 16) :
    hexValue? digit.digitChar = some digit := by
  have table : ∀ digit : Fin 16, hexValue? digit.val.digitChar = some digit.val := by decide
  exact table ⟨digit, small⟩

/-- The highest digit of a number is followed by the digits of its rest. -/
theorem mod_power_succ (value places : Nat) :
    value % 16 ^ (places + 1) = value / 16 ^ places % 16 * 16 ^ places + value % 16 ^ places := by
  rw [Nat.pow_succ, Nat.mod_mul]
  ring

theorem hexNumber?_digits (id : RunId) (front start count : Nat) (inside : start + count ≤ 32) :
    hexNumber? front ((List.range' start count).map id.digit) =
      some (front * 16 ^ count + id.bits.val / 16 ^ (32 - start - count) % 16 ^ count) := by
  induction count generalizing front start with
  | zero => simp [hexNumber?, Nat.mod_one]
  | succ count ih =>
      have value :
          hexValue? (id.digit start) = some (id.bits.val / 16 ^ (31 - start) % 16) :=
        hexValue?_digitChar (Nat.mod_lt _ (by decide))
      have place : 32 - (start + 1) - count = 32 - start - (count + 1) := by omega
      have shifted :
          id.bits.val / 16 ^ (31 - start) =
            id.bits.val / 16 ^ (32 - start - (count + 1)) / 16 ^ count := by
        rw [Nat.div_div_eq_div_mul, ← Nat.pow_add]
        congr 2
        omega
      rw [List.range'_succ, List.map_cons, hexNumber?, value]
      simp only [Option.bind_eq_bind, Option.bind_some]
      rw [ih _ _ (by omega), place, shifted, mod_power_succ]
      congr 1
      ring

theorem ofDigits?_digits (id : RunId) : ofDigits? id.digits = some id := by
  have value : hexNumber? 0 id.digits = some id.bits.val := by
    rw [digits, group, hexNumber?_digits id 0 0 32 (by decide)]
    have whole : id.bits.val % 16 ^ 32 = id.bits.val := Nat.mod_eq_of_lt id.bits.isLt
    rw [Nat.sub_zero, Nat.sub_self, Nat.pow_zero, Nat.div_one, whole, Nat.zero_mul, Nat.zero_add]
  have fits : id.digits.length = 32 ∧ id.bits.val < count := ⟨by simp [digits, group], id.bits.isLt⟩
  rw [ofDigits?, value]
  exact dif_pos fits

theorem withoutHyphens?_chars (id : RunId) : withoutHyphens? id.chars = some id.digits :=
  if_pos ⟨rfl, rfl, rfl, rfl, rfl⟩

/-- The written form of an identifier is read as that identifier. -/
theorem ofChars?_chars (id : RunId) : ofChars? id.chars = some id := by
  rw [ofChars?, withoutHyphens?_chars]
  exact ofDigits?_digits id

theorem ofAnyForm?_chars (id : RunId) : ofAnyForm? id.chars = some id := by
  have length : id.chars.length = 36 := rfl
  rw [ofAnyForm?, length, if_neg (by decide), if_neg (by simp), if_neg (by simp)]
  exact ofChars?_chars id

theorem ofJson_toJson (id : RunId) : ofJson id.toJson = .ok id := by
  have read : ofAnyForm? id.text.toList = some id := by
    rw [text, String.toList_ofList]
    exact ofAnyForm?_chars id
  have string : Json.asString "a formatted UUID string" id.toJson.shape = .ok id.text := rfl
  rw [ofJson, string, ok_bind, read]
  rfl

end RunArchive.RunId
