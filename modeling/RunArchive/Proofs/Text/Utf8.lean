import RunArchive.Text.Utf8

/-!
# Reading encoded texts

`Utf8.decode` gives back every text that `Utf8.encode` has written, whatever its characters are.
The proof follows the number of octets of one character: the octets of a code lie in the ranges
that the reader expects at their places, and their payload bits add up to the code again.

The last section tells the octets of an ASCII character from those of any other one, which is what
a scanner of octets has to know about characters.
-/

namespace RunArchive.Utf8

@[simp]
theorem encode_nil : encode [] = [] := rfl

@[simp]
theorem encode_cons (character : Char) (text : List Char) :
    encode (character :: text) =
      String.utf8EncodeChar character ++ encode text := rfl

@[simp]
theorem encode_append (left right : List Char) :
    encode (left ++ right) = encode left ++ encode right :=
  List.flatMap_append

/-! ## Single octets -/

theorem toNat_octet
    {code : Nat} (small : code < 256) :
    (UInt8.ofNat code).toNat = code := by
  rw [UInt8.toNat_ofNat']
  exact Nat.mod_eq_of_lt small

theorem isTail_iff
    (o : UInt8) :
    isTail o = true ↔ 0x80 ≤ o.toNat ∧ o.toNat ≤ 0xBF := by
  simp [isTail, UInt8.le_iff_toNat_le]

theorem isTail_octet
    {code : Nat} (bits : code < 0x40) :
    isTail (UInt8.ofNat (code + 0x80)) = true := by
  rw [isTail_iff, toNat_octet (show code + 0x80 < 256 by omega)]
  omega

theorem payload_octet
    {code : Nat} (bits : code < 0x40) :
    payload (UInt8.ofNat (code + 0x80)) = code := by
  have read : (UInt8.ofNat (code + 0x80)).toNat = code + 0x80 :=
    toNat_octet (by omega)
  unfold payload
  omega

theorem isSecondOfThree_iff
    (a b : UInt8) :
    isSecondOfThree a b = true ↔
      (if a.toNat = 0xE0 then 0xA0 else 0x80) ≤ b.toNat ∧
        b.toNat ≤ if a.toNat = 0xED then 0x9F else 0xBF := by
  by_cases low : a = 0xE0
  · subst low
    simp [isSecondOfThree, UInt8.le_iff_toNat_le]
  · by_cases high : a = 0xED
    · subst high
      simp [isSecondOfThree, UInt8.le_iff_toNat_le]
    · have notLow : a.toNat ≠ 0xE0 := fun same => low (UInt8.toNat_inj.mp same)
      have notHigh : a.toNat ≠ 0xED := fun same => high (UInt8.toNat_inj.mp same)
      simp [isSecondOfThree, low, high, notLow, notHigh, isTail_iff]

theorem isSecondOfFour_iff
    (a b : UInt8) :
    isSecondOfFour a b = true ↔
      (if a.toNat = 0xF0 then 0x90 else 0x80) ≤ b.toNat ∧
        b.toNat ≤ if a.toNat = 0xF4 then 0x8F else 0xBF := by
  by_cases low : a = 0xF0
  · subst low
    simp [isSecondOfFour, UInt8.le_iff_toNat_le]
  · by_cases high : a = 0xF4
    · subst high
      simp [isSecondOfFour, UInt8.le_iff_toNat_le]
    · have notLow : a.toNat ≠ 0xF0 := fun same => low (UInt8.toNat_inj.mp same)
      have notHigh : a.toNat ≠ 0xF4 := fun same => high (UInt8.toNat_inj.mp same)
      simp [isSecondOfFour, low, high, notLow, notHigh, isTail_iff]

/-! ## Steps of the reader, by the number of octets of a character -/

theorem decodeFrom_one
    (index : Nat) (done : List Char) {a : UInt8} (rest : List UInt8)
    (ascii : a.toNat < 0x80) :
    decodeFrom index done (a :: rest) =
      decodeFrom (index + 1) (Char.ofNat a.toNat :: done) rest := by
  have small : a < 0x80 := UInt8.lt_iff_toNat_lt.mpr ascii
  rw [decodeFrom.eq_def]
  simp only [if_pos small]

theorem decodeFrom_two
    (index : Nat) (done : List Char) {a b : UInt8} (rest : List UInt8)
    (lead : 0xC2 ≤ a.toNat ∧ a.toNat ≤ 0xDF)
    (second : isTail b = true) :
    decodeFrom index done (a :: b :: rest) =
      decodeFrom (index + 2) (ofTwo a b :: done) rest := by
  have notOne : ¬ a < 0x80 := by
    rw [UInt8.lt_iff_toNat_lt]
    exact Nat.not_lt.mpr (Nat.le_trans (by decide) lead.1)
  have leads : (0xC2 ≤ a && a ≤ 0xDF) = true := by
    simpa [UInt8.le_iff_toNat_le] using lead
  rw [decodeFrom.eq_def]
  simp only [if_neg notOne, if_pos leads, if_pos second]

theorem decodeFrom_three
    (index : Nat) (done : List Char) {a b c : UInt8} (rest : List UInt8)
    (lead : 0xE0 ≤ a.toNat ∧ a.toNat ≤ 0xEF)
    (second : isSecondOfThree a b = true)
    (third : isTail c = true) :
    decodeFrom index done (a :: b :: c :: rest) =
      decodeFrom (index + 3) (ofThree a b c :: done) rest := by
  have notOne : ¬ a < 0x80 := by
    rw [UInt8.lt_iff_toNat_lt]
    exact Nat.not_lt.mpr (Nat.le_trans (by decide) lead.1)
  have notTwo : ¬ (0xC2 ≤ a && a ≤ 0xDF) = true := by
    simp only [Bool.and_eq_true, decide_eq_true_eq, UInt8.le_iff_toNat_le]
    exact fun within => absurd (Nat.le_trans lead.1 within.2) (by decide)
  have leads : (0xE0 ≤ a && a ≤ 0xEF) = true := by
    simpa [UInt8.le_iff_toNat_le] using lead
  rw [decodeFrom.eq_def]
  simp only [if_neg notOne, if_neg notTwo, if_pos leads, if_pos second, if_pos third]

theorem decodeFrom_four
    (index : Nat) (done : List Char) {a b c d : UInt8} (rest : List UInt8)
    (lead : 0xF0 ≤ a.toNat ∧ a.toNat ≤ 0xF4)
    (second : isSecondOfFour a b = true)
    (third : isTail c = true)
    (fourth : isTail d = true) :
    decodeFrom index done (a :: b :: c :: d :: rest) =
      decodeFrom (index + 4) (ofFour a b c d :: done) rest := by
  have notOne : ¬ a < 0x80 := by
    rw [UInt8.lt_iff_toNat_lt]
    exact Nat.not_lt.mpr (Nat.le_trans (by decide) lead.1)
  have notTwo : ¬ (0xC2 ≤ a && a ≤ 0xDF) = true := by
    simp only [Bool.and_eq_true, decide_eq_true_eq, UInt8.le_iff_toNat_le]
    exact fun within => absurd (Nat.le_trans lead.1 within.2) (by decide)
  have notThree : ¬ (0xE0 ≤ a && a ≤ 0xEF) = true := by
    simp only [Bool.and_eq_true, decide_eq_true_eq, UInt8.le_iff_toNat_le]
    exact fun within => absurd (Nat.le_trans lead.1 within.2) (by decide)
  have leads : (0xF0 ≤ a && a ≤ 0xF4) = true := by
    simpa [UInt8.le_iff_toNat_le] using lead
  rw [decodeFrom.eq_def]
  simp only [if_neg notOne, if_neg notTwo, if_neg notThree, if_pos leads, if_pos second,
    if_pos third, if_pos fourth]

/-! ## The octets of a character -/

theorem utf8EncodeChar_one
    {character : Char} (below : character.toNat ≤ 0x7F) :
    String.utf8EncodeChar character = [UInt8.ofNat character.toNat] := by
  have below : character.val.toNat ≤ 0x7F := below
  simp only [String.utf8EncodeChar, if_pos below]
  rfl

theorem utf8EncodeChar_two
    {character : Char} (above : ¬ character.toNat ≤ 0x7F)
    (below : character.toNat ≤ 0x7FF) :
    String.utf8EncodeChar character =
      [UInt8.ofNat (character.toNat / 64 % 0x20 + 0xC0),
        UInt8.ofNat (character.toNat % 0x40 + 0x80)] := by
  have above : ¬ character.val.toNat ≤ 0x7F := above
  have below : character.val.toNat ≤ 0x7FF := below
  simp only [String.utf8EncodeChar, if_neg above, if_pos below]
  rfl

theorem utf8EncodeChar_three
    {character : Char} (above : ¬ character.toNat ≤ 0x7FF)
    (below : character.toNat ≤ 0xFFFF) :
    String.utf8EncodeChar character =
      [UInt8.ofNat (character.toNat / 4096 % 0x10 + 0xE0),
        UInt8.ofNat (character.toNat / 64 % 0x40 + 0x80),
        UInt8.ofNat (character.toNat % 0x40 + 0x80)] := by
  have above : ¬ character.val.toNat ≤ 0x7FF := above
  have aboveOne : ¬ character.val.toNat ≤ 0x7F := by omega
  have below : character.val.toNat ≤ 0xFFFF := below
  simp only [String.utf8EncodeChar, if_neg aboveOne, if_neg above, if_pos below]
  rfl

theorem utf8EncodeChar_four
    {character : Char} (above : ¬ character.toNat ≤ 0xFFFF) :
    String.utf8EncodeChar character =
      [UInt8.ofNat (character.toNat / 262144 % 0x08 + 0xF0),
        UInt8.ofNat (character.toNat / 4096 % 0x40 + 0x80),
        UInt8.ofNat (character.toNat / 64 % 0x40 + 0x80),
        UInt8.ofNat (character.toNat % 0x40 + 0x80)] := by
  have above : ¬ character.val.toNat ≤ 0xFFFF := above
  have aboveTwo : ¬ character.val.toNat ≤ 0x7FF := by omega
  have aboveOne : ¬ character.val.toNat ≤ 0x7F := by omega
  simp only [String.utf8EncodeChar, if_neg aboveOne, if_neg aboveTwo, if_neg above]
  rfl

/-- A character is what its code says. -/
theorem ofNat_eq
    {character : Char} {code : Nat}
    (same : code = character.toNat) :
    Char.ofNat code = character := by
  rw [same, Char.ofNat_toNat]

/-- Reading passes over the octets of a character and then has that character. -/
def Passes (character : Char) : Prop :=
  ∀ (index : Nat) (done : List Char) (rest : List UInt8),
    decodeFrom index done (String.utf8EncodeChar character ++ rest) =
      decodeFrom (index + (String.utf8EncodeChar character).length) (character :: done) rest

theorem passes_one
    {character : Char} (below : character.toNat ≤ 0x7F) :
    Passes character := by
  intro index done rest
  rw [utf8EncodeChar_one below]
  have code : (UInt8.ofNat character.toNat).toNat = character.toNat :=
    toNat_octet (by omega)
  rw [List.cons_append, decodeFrom_one index done _ (by omega), code, Char.ofNat_toNat]
  rfl

theorem passes_two
    {character : Char} (above : ¬ character.toNat ≤ 0x7F)
    (below : character.toNat ≤ 0x7FF) :
    Passes character := by
  intro index done rest
  rw [utf8EncodeChar_two above below]
  have lead :
      (UInt8.ofNat (character.toNat / 64 % 0x20 + 0xC0)).toNat =
        character.toNat / 64 % 0x20 + 0xC0 :=
    toNat_octet (by omega)
  have read :
      ofTwo (UInt8.ofNat (character.toNat / 64 % 0x20 + 0xC0))
          (UInt8.ofNat (character.toNat % 0x40 + 0x80)) =
        character := by
    apply ofNat_eq
    rw [lead, payload_octet (by omega)]
    omega
  rw [List.cons_append, List.cons_append,
    decodeFrom_two index done _ (by omega) (isTail_octet (by omega)), read]
  rfl

theorem passes_three
    {character : Char} (above : ¬ character.toNat ≤ 0x7FF)
    (below : character.toNat ≤ 0xFFFF) :
    Passes character := by
  intro index done rest
  rw [utf8EncodeChar_three above below]
  have scalar :
      character.toNat < 0xD800 ∨
        0xDFFF < character.toNat ∧ character.toNat < 0x110000 :=
    character.valid
  have lead :
      (UInt8.ofNat (character.toNat / 4096 % 0x10 + 0xE0)).toNat =
        character.toNat / 4096 % 0x10 + 0xE0 :=
    toNat_octet (by omega)
  have middle :
      (UInt8.ofNat (character.toNat / 64 % 0x40 + 0x80)).toNat =
        character.toNat / 64 % 0x40 + 0x80 :=
    toNat_octet (by omega)
  have second :
      isSecondOfThree (UInt8.ofNat (character.toNat / 4096 % 0x10 + 0xE0))
        (UInt8.ofNat (character.toNat / 64 % 0x40 + 0x80)) = true := by
    rw [isSecondOfThree_iff, lead, middle]
    split <;> split <;> omega
  have read :
      ofThree (UInt8.ofNat (character.toNat / 4096 % 0x10 + 0xE0))
          (UInt8.ofNat (character.toNat / 64 % 0x40 + 0x80))
          (UInt8.ofNat (character.toNat % 0x40 + 0x80)) =
        character := by
    apply ofNat_eq
    rw [lead, payload_octet (by omega), payload_octet (by omega)]
    omega
  rw [List.cons_append, List.cons_append, List.cons_append,
    decodeFrom_three index done _ (by omega) second (isTail_octet (by omega)), read]
  rfl

theorem passes_four
    {character : Char} (above : ¬ character.toNat ≤ 0xFFFF) :
    Passes character := by
  intro index done rest
  rw [utf8EncodeChar_four above]
  have scalar :
      character.toNat < 0xD800 ∨
        0xDFFF < character.toNat ∧ character.toNat < 0x110000 :=
    character.valid
  have lead :
      (UInt8.ofNat (character.toNat / 262144 % 0x08 + 0xF0)).toNat =
        character.toNat / 262144 % 0x08 + 0xF0 :=
    toNat_octet (by omega)
  have middle :
      (UInt8.ofNat (character.toNat / 4096 % 0x40 + 0x80)).toNat =
        character.toNat / 4096 % 0x40 + 0x80 :=
    toNat_octet (by omega)
  have second :
      isSecondOfFour (UInt8.ofNat (character.toNat / 262144 % 0x08 + 0xF0))
        (UInt8.ofNat (character.toNat / 4096 % 0x40 + 0x80)) = true := by
    rw [isSecondOfFour_iff, lead, middle]
    split <;> split <;> omega
  have read :
      ofFour (UInt8.ofNat (character.toNat / 262144 % 0x08 + 0xF0))
          (UInt8.ofNat (character.toNat / 4096 % 0x40 + 0x80))
          (UInt8.ofNat (character.toNat / 64 % 0x40 + 0x80))
          (UInt8.ofNat (character.toNat % 0x40 + 0x80)) =
        character := by
    apply ofNat_eq
    rw [lead, payload_octet (by omega), payload_octet (by omega), payload_octet (by omega)]
    omega
  rw [List.cons_append, List.cons_append, List.cons_append, List.cons_append,
    decodeFrom_four index done _ (by omega) second (isTail_octet (by omega))
      (isTail_octet (by omega)), read]
  rfl

theorem decodeFrom_encodeChar (character : Char) : Passes character := by
  by_cases one : character.toNat ≤ 0x7F
  · exact passes_one one
  by_cases two : character.toNat ≤ 0x7FF
  · exact passes_two one two
  by_cases three : character.toNat ≤ 0xFFFF
  · exact passes_three two three
  · exact passes_four three

theorem decodeFrom_encode
    (index : Nat) (done text : List Char) :
    decodeFrom index done (encode text) = .ok (done.reverse ++ text) := by
  induction text generalizing index done with
  | nil =>
      simp [decodeFrom]
  | cons character text ih =>
      rw [encode_cons, decodeFrom_encodeChar, ih]
      simp

/-- Reading gives every encoded text back. -/
@[simp]
theorem decode_encode (text : List Char) :
    decode (encode text) = .ok text := by
  rw [decode, decodeFrom_encode]
  rfl

theorem encode_injective : Function.Injective encode := by
  intro left right equal
  have decoded := congrArg decode equal
  rw [decode_encode, decode_encode] at decoded
  exact Except.ok.inj decoded

/-! ## ASCII characters among others -/

/-- Every octet of a character outside ASCII has its highest bit set. -/
theorem le_of_mem_encodeChar
    {character : Char} {o : UInt8}
    (foreign : 0x80 ≤ character.toNat)
    (member : o ∈ String.utf8EncodeChar character) :
    0x80 ≤ o.toNat := by
  by_cases two : character.toNat ≤ 0x7FF
  · rw [utf8EncodeChar_two (by omega) two] at member
    simp only [List.mem_cons, List.not_mem_nil, or_false] at member
    rcases member with rfl | rfl <;> rw [toNat_octet (by omega)] <;> omega
  by_cases three : character.toNat ≤ 0xFFFF
  · rw [utf8EncodeChar_three two three] at member
    simp only [List.mem_cons, List.not_mem_nil, or_false] at member
    rcases member with rfl | rfl | rfl <;> rw [toNat_octet (by omega)] <;> omega
  · rw [utf8EncodeChar_four three] at member
    simp only [List.mem_cons, List.not_mem_nil, or_false] at member
    rcases member with rfl | rfl | rfl | rfl <;> rw [toNat_octet (by omega)] <;> omega

end RunArchive.Utf8
