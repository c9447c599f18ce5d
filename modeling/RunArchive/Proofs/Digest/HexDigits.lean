import RunArchive.Digest.Blake3

/-!
# Digests as hexadecimal digits

The hexadecimal text of a digest determines the digest.  Every word takes eight digits, so the
texts of two digests can be compared word by word, and within a word octet by octet.
-/

namespace RunArchive.Blake3

theorem digitChar_inj
    {left right : Nat} (leftSmall : left < 16) (rightSmall : right < 16)
    (equal : left.digitChar = right.digitChar) :
    left = right := by
  have table :
      ∀ left right : Fin 16, left.val.digitChar = right.val.digitChar → left = right := by
    decide
  exact congrArg Fin.val (table ⟨left, leftSmall⟩ ⟨right, rightSmall⟩ equal)

theorem octetHex_inj
    {left right : UInt32} (leftSmall : left.toNat < 256) (rightSmall : right.toNat < 256)
    (equal : octetHex left = octetHex right) :
    left.toNat = right.toNat := by
  rcases List.cons.inj equal with ⟨highs, tail⟩
  rcases List.cons.inj tail with ⟨lows, _⟩
  have high : left.toNat / 16 % 16 = right.toNat / 16 % 16 :=
    digitChar_inj (Nat.mod_lt _ (by decide)) (Nat.mod_lt _ (by decide)) highs
  have low : left.toNat % 16 = right.toNat % 16 :=
    digitChar_inj (Nat.mod_lt _ (by decide)) (Nat.mod_lt _ (by decide)) lows
  omega

theorem toNat_lowest (word : UInt32) : (word &&& 0xFF).toNat = word.toNat % 256 := by
  rw [UInt32.toNat_and]
  exact Nat.and_two_pow_sub_one_eq_mod word.toNat 8

theorem toNat_shifted (word : UInt32) (count : UInt32) (small : count.toNat < 32) :
    (word >>> count).toNat = word.toNat / Nat.pow 2 count.toNat := by
  rw [UInt32.toNat_shiftRight, Nat.mod_eq_of_lt small]
  exact Nat.shiftRight_eq_div_pow word.toNat count.toNat

/-- The digits of a word determine the word. -/
theorem wordHex_injective {left right : UInt32} (equal : wordHex left = wordHex right) :
    left = right := by
  have lowest (word : UInt32) : (word &&& 0xFF).toNat < 256 := by
    rw [toNat_lowest]
    exact Nat.mod_lt _ (by decide)
  have highest (word : UInt32) : (word >>> 24).toNat < 256 := by
    have shifted : (word >>> 24).toNat = word.toNat / 2 ^ 24 :=
      toNat_shifted word 24 (by decide)
    have := word.toNat_lt
    omega
  rcases List.append_inj equal rfl with ⟨fronts, fourths⟩
  rcases List.append_inj fronts rfl with ⟨fronts, thirds⟩
  rcases List.append_inj fronts rfl with ⟨firsts, seconds⟩
  have first := octetHex_inj (lowest _) (lowest _) firsts
  have second := octetHex_inj (lowest _) (lowest _) seconds
  have third := octetHex_inj (lowest _) (lowest _) thirds
  have fourth := octetHex_inj (highest _) (highest _) fourths
  simp only [toNat_lowest] at first second third
  rw [toNat_shifted _ 8 (by decide), toNat_shifted _ 8 (by decide)] at second
  rw [toNat_shifted _ 16 (by decide), toNat_shifted _ 16 (by decide)] at third
  rw [toNat_shifted _ 24 (by decide), toNat_shifted _ 24 (by decide)] at fourth
  apply UInt32.toNat_inj.mp
  change left.toNat / 2 ^ 8 % 256 = right.toNat / 2 ^ 8 % 256 at second
  change left.toNat / 2 ^ 16 % 256 = right.toNat / 2 ^ 16 % 256 at third
  change left.toNat / 2 ^ 24 = right.toNat / 2 ^ 24 at fourth
  omega

theorem flatMap_wordHex_inj
    {left right : List UInt32} (lengths : left.length = right.length)
    (equal : left.flatMap wordHex = right.flatMap wordHex) :
    left = right := by
  induction left generalizing right with
  | nil =>
      cases right with
      | nil => rfl
      | cons word rest => cases lengths
  | cons word rest ih =>
      cases right with
      | nil => cases lengths
      | cons other others =>
          rw [List.flatMap_cons, List.flatMap_cons] at equal
          rcases List.append_inj equal rfl with ⟨heads, tails⟩
          rw [wordHex_injective heads, ih (Nat.succ.inj lengths) tails]

/-- The lower-case hexadecimal digits. -/
def lowerDigits : List Char := "0123456789abcdef".toList

theorem digitChar_mem_lowerDigits
    {value : Nat} (small : value < 16) :
    value.digitChar ∈ lowerDigits := by
  have table : ∀ value : Fin 16, value.val.digitChar ∈ lowerDigits := by decide
  exact table ⟨value, small⟩

theorem octetHex_lower (value : UInt32) : ∀ digit ∈ octetHex value, digit ∈ lowerDigits := by
  refine List.forall_mem_cons.mpr ⟨?_, List.forall_mem_singleton.mpr ?_⟩
  · exact digitChar_mem_lowerDigits (Nat.mod_lt _ (by decide))
  · exact digitChar_mem_lowerDigits (Nat.mod_lt _ (by decide))

theorem wordHex_lower (word : UInt32) : ∀ digit ∈ wordHex word, digit ∈ lowerDigits := by
  unfold wordHex
  simp only [List.forall_mem_append]
  exact ⟨⟨⟨octetHex_lower _, octetHex_lower _⟩, octetHex_lower _⟩, octetHex_lower _⟩

/-- A digest is written in lower case. -/
theorem hexDigest_lower
    (octets : List UInt8) :
    ∀ digit ∈ hexDigest octets, digit ∈ lowerDigits := by
  intro digit member
  rcases List.mem_flatMap.mp member with ⟨word, _, within⟩
  exact wordHex_lower word digit within

/-- A digest is written with two digits for each of its 32 octets. -/
theorem length_hexDigest (octets : List UInt8) : (hexDigest octets).length = 64 := by
  have eight : (fun word => (wordHex word).length) = fun _ => 8 := rfl
  rw [hexDigest, List.length_flatMap, eight, List.map_const', Vector.length_toList]
  rfl

/-- The hash does not collide on these two octet sequences. -/
def Distinguishes (left right : List UInt8) : Prop :=
  hash left = hash right → left = right

/-- Octet sequences with one hexadecimal digest have one hash. -/
theorem hash_eq_of_hexDigest
    {left right : List UInt8} (equal : hexDigest left = hexDigest right) :
    hash left = hash right := by
  apply Vector.toList_inj.mp
  apply flatMap_wordHex_inj _ equal
  rw [Vector.length_toList, Vector.length_toList]

end RunArchive.Blake3
