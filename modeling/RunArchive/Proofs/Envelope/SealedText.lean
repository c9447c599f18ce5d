import RunArchive.Proofs.Digest.HexDigits
import RunArchive.Proofs.Envelope.Tampering
import RunArchive.Proofs.Json.Arrangement
import RunArchive.Proofs.Json.Tightening

/-!
# The text of a sealed file

A sealed file is written by the printer of compact texts, and its checksum is taken over a text of
another printer, which sorts the members of objects itself.  The two agree on every payload, so the
file is one fixed text around the digest and the canonical text of the payload.  Everything before
the payload has a fixed length: both can be cut out of the file again, and the one is the digest of
the other.
-/

namespace RunArchive.Envelope

open Blake3 (hexDigest lowerDigits)

/-- What stands before the checksum in a sealed file. -/
def opening : List Char :=
  "\x7b\"format\":\"lattice-artifact\",\"version\":1,\"checksum\":\"".toList

/-- What stands between the checksum and the payload. -/
def middle : List Char := "\",\"payload\":".toList

/-- The documented text around a checksum and the text of a payload. -/
def sealedText (checksum payload : List Char) : List Char :=
  opening ++ (checksum ++ (middle ++ (payload ++ ['}'])))

/-- The octets of the checksum in a sealed file. -/
def checksumOctets (file : List UInt8) : List UInt8 :=
  (file.drop (Utf8.encode opening).length).take 64

/-- The octets of the payload in a sealed file. -/
def payloadOctets (file : List UInt8) : List UInt8 :=
  (file.drop ((Utf8.encode opening).length + 64 + (Utf8.encode middle).length)).dropLast

/-! ## The two printers -/

/-- A hexadecimal digit is an ASCII character that stands for itself in a string. -/
theorem plain_digit
    {digit : Char} (lower : digit ∈ lowerDigits) :
    Json.escaped digit = [digit] ∧ (String.utf8EncodeChar digit).length = 1 := by
  have table :
      (lowerDigits.all fun digit =>
        Json.escaped digit = [digit] ∧ (String.utf8EncodeChar digit).length = 1) = true := by
    decide
  exact of_decide_eq_true (List.all_eq_true.mp table digit lower)

theorem flatMap_escaped_digits
    {digits : List Char} (lower : ∀ digit ∈ digits, digit ∈ lowerDigits) :
    digits.flatMap Json.escaped = digits := by
  induction digits with
  | nil => rfl
  | cons digit digits ih =>
      rcases List.forall_mem_cons.mp lower with ⟨head, tail⟩
      rw [List.flatMap_cons, (plain_digit head).1, ih tail]
      rfl

theorem length_encode_digits
    {digits : List Char} (lower : ∀ digit ∈ digits, digit ∈ lowerDigits) :
    (Utf8.encode digits).length = digits.length := by
  induction digits with
  | nil => rfl
  | cons digit digits ih =>
      rcases List.forall_mem_cons.mp lower with ⟨head, tail⟩
      rw [Utf8.encode_cons, List.length_append, (plain_digit head).2, ih tail,
        List.length_cons, Nat.add_comm]

/-- The compact and the canonical printer agree on payloads in normal form. -/
theorem canonical_of_wellFormed
    {payload : Json} (normal : payload.WellFormed) :
    payload.canonical = payload.compact := by
  rw [Json.canonical_eq, Json.normalize_of_wellFormed payload normal]

/-- The text of an envelope is the documented one. -/
theorem text_eq
    {payload : Json} (normal : payload.WellFormed) :
    text payload =
      sealedText (hexDigest (Utf8.encode payload.canonical)) payload.canonical := by
  have version : (Json.Number.integer formatVersion.toNat).text = ['1'] := by decide
  have digits :
      Json.stringText (checksumOf payload) =
        '"' :: (hexDigest (Utf8.encode payload.canonical) ++ ['"']) := by
    rw [Json.stringText, checksumOf, String.toList_ofList,
      flatMap_escaped_digits (Blake3.hexDigest_lower _)]
  have written :
      text payload =
        '{' ::
          ((Json.memberText ("format", Json.stringText formatTag) ++
            ',' :: (Json.memberText ("version", (Json.Number.integer formatVersion.toNat).text) ++
            ',' :: (Json.memberText ("checksum", Json.stringText (checksumOf payload)) ++
            ',' :: Json.memberText ("payload", payload.compact)))) ++ ['}']) :=
    rfl
  have front :
      opening =
        '{' ::
          (Json.memberText ("format", Json.stringText formatTag) ++
            ',' :: (Json.memberText ("version", ['1']) ++
            ',' :: (Json.stringText "checksum" ++ [':', '"']))) := by
    decide
  have between : middle = '"' :: ',' :: (Json.stringText "payload" ++ [':']) := by decide
  rw [written, version, digits, canonical_of_wellFormed normal, sealedText, front, between]
  simp only [Json.memberText, List.append_assoc, List.cons_append, List.nil_append]

/-! ## Cutting the file -/

section Octets

variable {checksum payload : List Char}

theorem encode_sealedText :
    Utf8.encode (sealedText checksum payload) =
      Utf8.encode opening ++
        (Utf8.encode checksum ++
          (Utf8.encode middle ++ (Utf8.encode payload ++ [Json.octet '\x7d']))) := by
  rw [sealedText, Utf8.encode_append, Utf8.encode_append, Utf8.encode_append, Utf8.encode_append]
  rfl

variable (long : (Utf8.encode checksum).length = 64)
include long

theorem checksumOctets_sealedText :
    checksumOctets (Utf8.encode (sealedText checksum payload)) = Utf8.encode checksum := by
  rw [checksumOctets, encode_sealedText, List.drop_left, List.take_left' long]

theorem payloadOctets_sealedText :
    payloadOctets (Utf8.encode (sealedText checksum payload)) = Utf8.encode payload := by
  have lengths :
      (Utf8.encode opening ++ (Utf8.encode checksum ++ Utf8.encode middle)).length =
        (Utf8.encode opening).length + 64 + (Utf8.encode middle).length := by
    rw [List.length_append, List.length_append, long, Nat.add_assoc]
  have parts :
      Utf8.encode (sealedText checksum payload) =
        (Utf8.encode opening ++ (Utf8.encode checksum ++ Utf8.encode middle)) ++
          (Utf8.encode payload ++ [Json.octet '\x7d']) := by
    rw [encode_sealedText, List.append_assoc, List.append_assoc]
  rw [payloadOctets, parts, List.drop_left' lengths, List.dropLast_concat]

end Octets

/-! ## Sealed files -/

/--
The file of a payload is the documented text around the digest and the canonical text of the
payload.  The digest has 64 lower-case digits.  The canonical text has no blanks outside of
strings, and the keys of every object in it increase.  What stands in the file in place of the
checksum is the digest of the octets that stand there in place of the payload.

Trees that differ in the order of members only denote one payload, which has one canonical text and
one file.
-/
theorem sealed_text :
    (∀ payload : Json, payload.WellFormed →
      Codec.sealing.encode payload = .ok (encode payload) ∧
        encode payload =
          Utf8.encode
            (sealedText (hexDigest (Utf8.encode payload.canonical)) payload.canonical) ∧
        (hexDigest (Utf8.encode payload.canonical)).length = 64 ∧
        (∀ digit ∈ hexDigest (Utf8.encode payload.canonical), digit ∈ lowerDigits) ∧
        Json.tight payload.canonical = payload.canonical ∧
        Json.SortedText payload.canonical ∧
        payloadOctets (encode payload) = Utf8.encode payload.canonical ∧
        checksumOctets (encode payload) =
          Utf8.encode (hexDigest (payloadOctets (encode payload)))) ∧
    ∀ left right : Json, left.Rearranged right →
      left.canonical = right.canonical ∧ encode left.normalize = encode right.normalize := by
  constructor
  · intro payload normal
    have lower := Blake3.hexDigest_lower (Utf8.encode payload.canonical)
    have length := Blake3.length_hexDigest (Utf8.encode payload.canonical)
    have long : (Utf8.encode (hexDigest (Utf8.encode payload.canonical))).length = 64 := by
      rw [length_encode_digits lower, length]
    have file :
        encode payload =
          Utf8.encode
            (sealedText (hexDigest (Utf8.encode payload.canonical)) payload.canonical) := by
      rw [encode, text_eq normal]
    have blankless : Json.tight payload.canonical = payload.canonical := by
      rw [canonical_of_wellFormed normal]
      exact (Json.tightens_compact payload).tight_eq
    have cut : payloadOctets (encode payload) = Utf8.encode payload.canonical := by
      rw [file, payloadOctets_sealedText long]
    refine ⟨rfl, file, length, lower, blankless, Json.sortedText_canonical payload, cut, ?_⟩
    rw [cut, file, checksumOctets_sealedText long]
  · intro left right rearranged
    refine ⟨rearranged.canonical_eq, ?_⟩
    rw [rearranged.normalize_eq]

/-- An object in an array in an object, the members of both inserted in another order. -/
theorem sealed_text_nested :
    let payload : Json :=
      .object
        [("", .null),
          ("a", .array [.object [("b", .ofNat 1), ("\u00e9", .string "x y")]])]
    let inserted : Json :=
      .object
        [("a", .array [.object [("\u00e9", .string "x y"), ("b", .ofNat 1)]]),
          ("", .null)]
    payloadOctets (encode payload) =
        Utf8.ofString "\x7b\"\":null,\"a\":[\x7b\"b\":1,\"\u00e9\":\"x y\"\x7d]\x7d" ∧
      encode inserted.normalize = encode payload := by
  intro payload inserted
  have normal : payload.WellFormed := by decide
  have rearranged : inserted.Rearranged payload := by
    refine .trans (.members (by simp [Json.DistinctKeys]) (.swap _ _ _)) ?_
    exact .value [_] [] "a" (.item [] [] (.members (by simp [Json.DistinctKeys]) (.swap _ _ _)))
  constructor
  · have cut := (sealed_text.1 payload normal).2.2.2.2.2.2.1
    rw [cut]
    decide +kernel
  · have same := (sealed_text.2 inserted payload rearranged).2
    rw [same, Json.normalize_of_wellFormed payload normal]

end RunArchive.Envelope
