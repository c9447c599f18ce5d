import RunArchive.Proofs.Text.Utf8

/-!
# Which octets are texts

`Utf8.decode` accepts exactly the octets that encode some text, and gives that text: see
`decode_eq_ok_iff`.  Overlong forms, surrogates, codes beyond the last character and characters that
are cut off encode none.  The characters that the reader makes of one to four octets are therefore
shown to have these very octets.

The octets in question are those that strings are made of: see `decodes_iff_isValidUTF8`.

Octets that are no text are shown in chunks, in which no octet is lost: see `encode_chunks`.
-/

namespace RunArchive.Utf8

/-! ## The octets of the character that is read -/

theorem range_of_isSecondOfThree {a b : UInt8} (second : isSecondOfThree a b = true) :
    (0x80 ≤ b.toNat ∧ b.toNat ≤ 0xBF) ∧ (a.toNat = 0xE0 → 0xA0 ≤ b.toNat) ∧
      (a.toNat = 0xED → b.toNat ≤ 0x9F) := by
  rw [isSecondOfThree_iff] at second
  split at second <;> split at second <;> omega

theorem range_of_isSecondOfFour {a b : UInt8} (second : isSecondOfFour a b = true) :
    (0x80 ≤ b.toNat ∧ b.toNat ≤ 0xBF) ∧ (a.toNat = 0xF0 → 0x90 ≤ b.toNat) ∧
      (a.toNat = 0xF4 → b.toNat ≤ 0x8F) := by
  rw [isSecondOfFour_iff] at second
  split at second <;> split at second <;> omega

theorem toNat_ofNat {code : Nat} (valid : code.isValidChar) : (Char.ofNat code).toNat = code := by
  rw [Char.ofNat, dif_pos valid]
  rfl

/-- An octet is what its number says. -/
theorem ofNat_octet {code : Nat} {o : UInt8} (same : code = o.toNat) : UInt8.ofNat code = o := by
  rw [same, UInt8.ofNat_toNat]

theorem utf8EncodeChar_ofOne {a : UInt8} (ascii : a.toNat < 0x80) :
    String.utf8EncodeChar (Char.ofNat a.toNat) = [a] := by
  have code : (Char.ofNat a.toNat).toNat = a.toNat := toNat_ofNat (Or.inl (by omega))
  rw [utf8EncodeChar_one (by omega), code, UInt8.ofNat_toNat]

theorem utf8EncodeChar_ofTwo
    {a b : UInt8} (lead : 0xC2 ≤ a.toNat ∧ a.toNat ≤ 0xDF) (second : isTail b = true) :
    String.utf8EncodeChar (ofTwo a b) = [a, b] := by
  rw [isTail_iff] at second
  have code : (ofTwo a b).toNat = (a.toNat - 0xC0) * 64 + (b.toNat - 0x80) :=
    toNat_ofNat (Or.inl (by unfold payload; omega))
  rw [utf8EncodeChar_two (by omega) (by omega), code, ofNat_octet (o := a) (by omega),
    ofNat_octet (o := b) (by omega)]

theorem utf8EncodeChar_ofThree
    {a b c : UInt8} (lead : 0xE0 ≤ a.toNat ∧ a.toNat ≤ 0xEF)
    (second : isSecondOfThree a b = true) (third : isTail c = true) :
    String.utf8EncodeChar (ofThree a b c) = [a, b, c] := by
  have range := range_of_isSecondOfThree second
  rw [isTail_iff] at third
  have code :
      (ofThree a b c).toNat =
        (a.toNat - 0xE0) * 4096 + (b.toNat - 0x80) * 64 + (c.toNat - 0x80) := by
    apply toNat_ofNat
    unfold payload Nat.isValidChar
    omega
  rw [utf8EncodeChar_three (by omega) (by omega), code, ofNat_octet (o := a) (by omega),
    ofNat_octet (o := b) (by omega), ofNat_octet (o := c) (by omega)]

theorem utf8EncodeChar_ofFour
    {a b c d : UInt8} (lead : 0xF0 ≤ a.toNat ∧ a.toNat ≤ 0xF4)
    (second : isSecondOfFour a b = true) (third : isTail c = true) (fourth : isTail d = true) :
    String.utf8EncodeChar (ofFour a b c d) = [a, b, c, d] := by
  have range := range_of_isSecondOfFour second
  rw [isTail_iff] at third fourth
  have code :
      (ofFour a b c d).toNat =
        (a.toNat - 0xF0) * 262144 + (b.toNat - 0x80) * 4096 + (c.toNat - 0x80) * 64 +
          (d.toNat - 0x80) := by
    apply toNat_ofNat
    unfold payload Nat.isValidChar
    omega
  rw [utf8EncodeChar_four (by omega), code, ofNat_octet (o := a) (by omega),
    ofNat_octet (o := b) (by omega), ofNat_octet (o := c) (by omega),
    ofNat_octet (o := d) (by omega)]

/-! ## Whole texts -/

/--
A text starts with the characters that have been read, the last one first, and these octets encode
what stands behind them.
-/
def Continues (done text : List Char) (octets : List UInt8) : Prop :=
  ∃ rest, text = done.reverse ++ rest ∧ encode rest = octets

/-- A character that has been read can be taken back. -/
theorem Continues.back
    {character : Char} {done text : List Char} {own octets : List UInt8}
    (continues : Continues (character :: done) text octets)
    (written : String.utf8EncodeChar character = own) :
    Continues done text (own ++ octets) := by
  rcases continues with ⟨rest, same, rfl⟩
  refine ⟨character :: rest, ?_, ?_⟩
  · rw [same, List.reverse_cons, List.append_assoc, List.singleton_append]
  · rw [encode_cons, written]

theorem continues_of_decodeFrom
    {index : Nat} {done : List Char} {octets : List UInt8} {text : List Char}
    (read : decodeFrom index done octets = .ok text) :
    Continues done text octets := by
  -- Four cases read a character, one is the end, and all others are faults.
  fun_induction decodeFrom index done octets with
  | case1 index done =>
      cases read
      exact ⟨[], (List.append_nil _).symm, rfl⟩
  | case2 index done a rest ascii ih =>
      rw [UInt8.lt_iff_toNat_lt] at ascii
      exact (ih read).back (utf8EncodeChar_ofOne ascii)
  | case4 index done a notOne lead b rest second ih =>
      rw [Bool.and_eq_true, decide_eq_true_eq, decide_eq_true_eq] at lead
      exact (ih read).back (utf8EncodeChar_ofTwo lead second)
  | case8 index done a notOne notTwo lead b second c rest third ih =>
      rw [Bool.and_eq_true, decide_eq_true_eq, decide_eq_true_eq] at lead
      exact (ih read).back (utf8EncodeChar_ofThree lead second third)
  | case14 index done a notOne notTwo notThree lead b second c third d rest fourth ih =>
      rw [Bool.and_eq_true, decide_eq_true_eq, decide_eq_true_eq] at lead
      exact (ih read).back (utf8EncodeChar_ofFour lead second third fourth)
  | _ => cases read

/-- Octets are read as a text if and only if they encode it. -/
theorem decode_eq_ok_iff {octets : List UInt8} {text : List Char} :
    decode octets = .ok text ↔ encode text = octets := by
  constructor
  · intro read
    rcases continues_of_decodeFrom read with ⟨rest, same, encoded⟩
    rw [List.reverse_nil, List.nil_append] at same
    rw [same, encoded]
  · rintro rfl
    exact decode_encode text

/-- The octets of a string are those that encode its characters. -/
theorem toByteArray_eq_iff {text : String} {octets : List UInt8} :
    text.toByteArray = octets.toByteArray ↔ ofString text = octets := by
  have own : text.toByteArray = (ofString text).toByteArray := by
    rw [← String.ofList_toList (s := text)]
    rw [ofString, String.toList_ofList]
    rfl
  rw [own, List.toByteArray_inj]

/-- Octets are read if and only if strings may be made of them. -/
theorem decodes_iff_isValidUTF8 {octets : List UInt8} :
    (∃ text, decode octets = .ok text) ↔ octets.toByteArray.IsValidUTF8 := by
  simp only [decode_eq_ok_iff]
  constructor
  · rintro ⟨text, rfl⟩
    exact .intro text rfl
  · rintro ⟨text, same⟩
    exact ⟨text, (List.toByteArray_inj.mp same).symm⟩

/-- Octets are read as a string if and only if they are those of the string. -/
theorem text?_eq_some_iff {octets : List UInt8} {text : String} :
    text? octets = some text ↔ octets = ofString text := by
  constructor
  · intro same
    rw [text?] at same
    cases read : decode octets with
    | error fault =>
        rw [read] at same
        cases same
    | ok characters =>
        rw [read] at same
        cases same
        rw [ofString, String.toList_ofList]
        exact (decode_eq_ok_iff.mp read).symm
  · rintro rfl
    rw [text?, ofString, decode_encode]
    exact congrArg some String.ofList_toList

/-- How many octets stand before a fault. -/
def Fault.index : Fault → Nat
  | .invalid _ index | .incomplete index => index

theorem decodeFrom_before
    {index : Nat} {done : List Char} {octets : List UInt8} {fault : Fault}
    (failed : decodeFrom index done octets = .error fault) :
    index ≤ fault.index ∧
      ∃ text, decodeFrom index done (octets.take (fault.index - index)) = .ok text := by
  -- A character that is read is taken along; at a fault there is nothing left to take.
  fun_induction decodeFrom index done octets with
  | case1 index done => cases failed
  | case2 index done a rest ascii ih =>
      rcases ih failed with ⟨le, text, read⟩
      refine ⟨by omega, text, ?_⟩
      rw [UInt8.lt_iff_toNat_lt] at ascii
      rw [show fault.index - index = fault.index - (index + 1) + 1 by omega, List.take_succ_cons,
        decodeFrom_one _ _ _ ascii]
      exact read
  | case4 index done a notOne lead b rest second ih =>
      rcases ih failed with ⟨le, text, read⟩
      refine ⟨by omega, text, ?_⟩
      rw [Bool.and_eq_true, decide_eq_true_eq, decide_eq_true_eq] at lead
      rw [show fault.index - index = fault.index - (index + 2) + 2 by omega, List.take_succ_cons,
        List.take_succ_cons, decodeFrom_two _ _ _ lead second]
      exact read
  | case8 index done a notOne notTwo lead b second c rest third ih =>
      rcases ih failed with ⟨le, text, read⟩
      refine ⟨by omega, text, ?_⟩
      rw [Bool.and_eq_true, decide_eq_true_eq, decide_eq_true_eq] at lead
      rw [show fault.index - index = fault.index - (index + 3) + 3 by omega, List.take_succ_cons,
        List.take_succ_cons, List.take_succ_cons, decodeFrom_three _ _ _ lead second third]
      exact read
  | case14 index done a notOne notTwo notThree lead b second c third d rest fourth ih =>
      rcases ih failed with ⟨le, text, read⟩
      refine ⟨by omega, text, ?_⟩
      rw [Bool.and_eq_true, decide_eq_true_eq, decide_eq_true_eq] at lead
      rw [show fault.index - index = fault.index - (index + 4) + 4 by omega, List.take_succ_cons,
        List.take_succ_cons, List.take_succ_cons, List.take_succ_cons,
        decodeFrom_four _ _ _ lead second third fourth]
      exact read
  | _ =>
      rw [← Except.error.inj failed]
      refine ⟨Nat.le_refl _, ?_⟩
      simp [Fault.index, decodeFrom]

/-- What is shown before a fault is the text that the octets there encode. -/
theorem encode_before
    {octets : List UInt8} {fault : Fault} (failed : decode octets = .error fault) :
    encode (before fault.index octets) = octets.take fault.index := by
  rcases decodeFrom_before failed with ⟨_, text, read⟩
  have read : decode (octets.take fault.index) = .ok text := read
  rw [before, read]
  exact decode_eq_ok_iff.mp read

/-- No fault is empty. -/
theorem decodeFrom_invalid
    {index : Nat} {done : List Char} {octets : List UInt8} {length place : Nat}
    (failed : decodeFrom index done octets = .error (.invalid length place)) :
    0 < length := by
  fun_induction decodeFrom index done octets with
  | case2 index done a rest ascii ih => exact ih failed
  | case4 index done a notOne lead b rest second ih => exact ih failed
  | case8 index done a notOne notTwo lead b second c rest third ih => exact ih failed
  | case14 index done a notOne notTwo notThree lead b second c third d rest fourth ih =>
      exact ih failed
  | _ => cases failed <;> decide

/-- Nothing is lost in chunks. -/
theorem encode_chunks (octets : List UInt8) :
    ((chunks octets).flatMap fun chunk => encode chunk.text ++ chunk.fault) = octets := by
  fun_induction chunks octets with
  | case1 => rfl
  | case2 first rest octets text read => simp [decode_eq_ok_iff.mp read, octets]
  | case3 first rest octets index failed =>
      have front : encode (before index octets) = octets.take index := encode_before failed
      simp [front, octets]
  | case4 first rest octets length index failed ih =>
      have front : encode (before index octets) = octets.take index := encode_before failed
      have positive : 0 < length := decodeFrom_invalid failed
      have back : rest.drop (index + length - 1) = (octets.drop index).drop length := by
        rw [List.drop_drop, show index + length = index + length - 1 + 1 by omega,
          List.drop_succ_cons, Nat.add_sub_cancel]
      rw [List.flatMap_cons, ih, front, back, List.append_assoc, List.take_append_drop,
        List.take_append_drop]

/-- A text is shown as it is. -/
theorem lossy_encode (text : List Char) : lossy (encode text) = text := by
  have read : decode (encode text) = .ok text := decode_encode text
  cases encoded : encode text with
  | nil =>
      rw [encoded] at read
      rw [lossy, chunks, ← Except.ok.inj read]
      rfl
  | cons first rest =>
      rw [encoded] at read
      rw [lossy, chunks, read]
      exact List.append_nil text

example : lossy [0x61, 0xFF, 0xC3, 0xA9, 0xE2, 0x82] = ['a', '\uFFFD', 'é', '\uFFFD'] := by
  decide +kernel

end RunArchive.Utf8
