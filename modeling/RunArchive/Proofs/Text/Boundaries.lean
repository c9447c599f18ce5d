import RunArchive.Proofs.Text.Validity

/-!
# Where texts may be cut

Octets are valid if they encode some text.  They may be cut wherever a character starts: what stands
before the cut and what stands behind it are valid if and only if the whole is.  Nothing has to be
read to find such a place, because an octet that continues a character is told from one that starts
a character by its value alone.
-/

namespace RunArchive.Utf8

/-- Whether octets are the UTF-8 of some text. -/
def Valid (octets : List UInt8) : Prop := ∃ text, encode text = octets

theorem valid_nil : Valid [] := ⟨[], rfl⟩

theorem valid_iff_decode {octets : List UInt8} : Valid octets ↔ ∃ text, decode octets = .ok text :=
  exists_congr fun _ => decode_eq_ok_iff.symm

/-- Valid octets are those that strings may be made of. -/
theorem valid_iff_isValidUTF8 {octets : List UInt8} :
    Valid octets ↔ octets.toByteArray.IsValidUTF8 :=
  valid_iff_decode.trans decodes_iff_isValidUTF8

theorem valid_iff_isOk {octets : List UInt8} : (decode octets).isOk = true ↔ Valid octets := by
  rw [valid_iff_decode]
  cases decode octets with
  | error fault => simp [Except.isOk, Except.toBool]
  | ok text => simp [Except.isOk, Except.toBool]

instance (octets : List UInt8) : Decidable (Valid octets) := decidable_of_iff _ valid_iff_isOk

/-! ## Behind a character -/

/-- A character in front of octets makes no difference. -/
theorem valid_encodeChar_append (character : Char) {rest : List UInt8} :
    Valid (String.utf8EncodeChar character ++ rest) ↔ Valid rest := by
  constructor
  · intro whole
    rcases valid_iff_decode.mp whole with ⟨text, read⟩
    rw [decode, decodeFrom_encodeChar] at read
    rcases continues_of_decodeFrom read with ⟨behind, _, encoded⟩
    exact ⟨behind, encoded⟩
  · rintro ⟨text, rfl⟩
    exact ⟨character :: text, encode_cons character text⟩

/-- An ASCII character in front of octets makes no difference. -/
theorem valid_ascii {o : UInt8} (ascii : o < 0x80) {rest : List UInt8} :
    Valid (o :: rest) ↔ Valid rest := by
  have single := utf8EncodeChar_ofOne (UInt8.lt_iff_toNat_lt.mp ascii)
  rw [← List.singleton_append, ← single]
  exact valid_encodeChar_append (Char.ofNat o.toNat)

/-! ## Boundaries -/

/-- Octets that do not start inside a character. -/
inductive Boundary : List UInt8 → Prop where
  | ends : Boundary []
  | starts {o : UInt8} {rest : List UInt8} (starting : isTail o = false) : Boundary (o :: rest)

/-- A character is one octet that starts it, and then octets that continue it. -/
theorem encodeChar_parts (character : Char) :
    ∃ first tails, String.utf8EncodeChar character = first :: tails ∧
      isTail first = false ∧ ∀ o ∈ tails, isTail o = true := by
  have foreign {code : Nat} (small : code < 256) (outside : code < 0x80 ∨ 0xBF < code) :
      isTail (UInt8.ofNat code) = false := by
    rw [Bool.eq_false_iff, Ne, isTail_iff, toNat_octet small]
    omega
  by_cases one : character.toNat ≤ 0x7F
  · refine ⟨_, _, utf8EncodeChar_one one, foreign (by omega) (by omega), ?_⟩
    exact List.forall_mem_nil _
  by_cases two : character.toNat ≤ 0x7FF
  · refine ⟨_, _, utf8EncodeChar_two one two, foreign (by omega) (by omega), ?_⟩
    exact List.forall_mem_singleton.mpr (isTail_octet (by omega))
  by_cases three : character.toNat ≤ 0xFFFF
  · refine ⟨_, _, utf8EncodeChar_three two three, foreign (by omega) (by omega), ?_⟩
    exact
      List.forall_mem_cons.mpr
        ⟨isTail_octet (by omega), List.forall_mem_singleton.mpr (isTail_octet (by omega))⟩
  · refine ⟨_, _, utf8EncodeChar_four three, foreign (by omega) (by omega), ?_⟩
    exact
      List.forall_mem_cons.mpr
        ⟨isTail_octet (by omega),
          List.forall_mem_cons.mpr
            ⟨isTail_octet (by omega), List.forall_mem_singleton.mpr (isTail_octet (by omega))⟩⟩

theorem boundary_encodeChar (character : Char) (rest : List UInt8) :
    Boundary (String.utf8EncodeChar character ++ rest) := by
  rcases encodeChar_parts character with ⟨first, tails, octets, starting, _⟩
  rw [octets]
  exact .starts starting

theorem boundary_ascii {o : UInt8} (ascii : o < 0x80) (rest : List UInt8) :
    Boundary (o :: rest) := by
  apply Boundary.starts
  rw [Bool.eq_false_iff, Ne, isTail_iff]
  rw [UInt8.lt_iff_toNat_lt] at ascii
  exact fun within => absurd within.1 (Nat.not_le.mpr ascii)

/-- No boundary is inside a character. -/
theorem Boundary.outside
    {character : Char} {before behind rest : List UInt8}
    (boundary : Boundary (behind ++ rest))
    (cut : String.utf8EncodeChar character = before ++ behind)
    (started : before ≠ []) :
    behind = [] := by
  rcases encodeChar_parts character with ⟨first, tails, octets, _, continuing⟩
  cases behind with
  | nil => rfl
  | cons o behind =>
      cases before with
      | nil => exact absurd rfl started
      | cons own before =>
          rw [octets] at cut
          have inTails : o ∈ tails := by
            rw [(List.cons.inj cut).2]
            exact List.mem_append_right _ List.mem_cons_self
          cases boundary with
          | starts starting =>
              rw [continuing o inTails] at starting
              cases starting

/-- A text is cut into texts at a boundary. -/
theorem valid_of_valid_append
    {left right : List UInt8} (boundary : Boundary right) (whole : Valid (left ++ right)) :
    Valid left ∧ Valid right := by
  rcases whole with ⟨text, encoded⟩
  induction text generalizing left with
  | nil =>
      rcases List.append_eq_nil_iff.mp encoded.symm with ⟨rfl, rfl⟩
      exact ⟨valid_nil, valid_nil⟩
  | cons character text ih =>
      rw [encode_cons] at encoded
      rcases List.append_eq_append_iff.mp encoded with
        ⟨more, behind, rest⟩ | ⟨cut, inside, rest⟩
      · rcases ih rest with ⟨before, after⟩
        rw [behind]
        exact ⟨(valid_encodeChar_append character).mpr before, after⟩
      · cases left with
        | nil =>
            rw [rest, ← List.nil_append cut, ← inside]
            exact ⟨valid_nil, ⟨character :: text, encode_cons character text⟩⟩
        | cons o left =>
            rw [rest] at boundary
            have empty := boundary.outside inside (List.cons_ne_nil o left)
            rw [empty, List.append_nil] at inside
            rw [rest, empty, ← inside]
            refine ⟨⟨[character], ?_⟩, ⟨text, rfl⟩⟩
            exact List.append_nil _

theorem valid_append_iff
    {left right : List UInt8} (boundary : Boundary right) :
    Valid (left ++ right) ↔ Valid left ∧ Valid right := by
  constructor
  · exact valid_of_valid_append boundary
  · rintro ⟨⟨before, rfl⟩, ⟨after, rfl⟩⟩
    exact ⟨before ++ after, encode_append before after⟩

end RunArchive.Utf8
