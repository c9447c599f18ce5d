import RunArchive.Proofs.Envelope.Tampering
import RunArchive.Proofs.Json.Validity

/-!
# Octets that are passed over

A sealed file is a UTF-8 text as far as it is read.  The values of members with other names than
those of the fields are not read but passed over, and their strings may hold any octets.  So a file
that is accepted is UTF-8 if and only if these values are.

Which values these are is found out by a reader that does the same as the one of envelopes and notes
the octets of each value that it passes over.  Its notes change nothing about what it reads:
forgetting them gives the run of the reader itself.
-/

namespace RunArchive.Envelope

open RunArchive.Json (octet)
open Utf8 (Valid Boundary)

/-! ## Taking notes -/

/-- The octets of a text between a point and a later one. -/
def between (input rest : List UInt8) : List UInt8 := input.take (input.length - rest.length)

theorem between_append
    {input rest : List UInt8} (suffix : rest <:+ input) :
    between input rest ++ rest = input := by
  rcases suffix with ⟨front, rfl⟩
  rw [between, List.length_append, Nat.add_sub_cancel, List.take_left]

/-- A draft, and the values that have been passed over. -/
structure Notes where
  draft : Draft
  values : List (List UInt8)

/-- Reads a member and takes a note of its value if that is passed over. -/
def noteMember (fuel : Nat) (key : String) (notes : Notes) (input : List UInt8) :
    Except Json.Fault (Notes × List UInt8) := do
  let (draft, rest) ← readMember fuel key notes.draft input
  if key ∈ fieldNames then return (⟨draft, notes.values⟩, rest)
  else return (⟨draft, notes.values ++ [between (← Json.scanColon input) rest]⟩, rest)

/-- The values that are passed over when a file is read, in their order. -/
def passedOver (file : List UInt8) : List (List UInt8) :=
  match Json.scanHead file with
  | .ok (.object, rest) =>
    match Json.readMembers (noteMember file.length) file.length true ⟨.empty, []⟩ rest with
    | .ok (notes, _) => notes.values
    | .error _ => []
  | _ => []

/-! ## One member -/

/-- A member with another name than those of the fields is passed over. -/
theorem readMember_foreign
    {fuel : Nat} {key : String} {draft next : Draft} {input rest : List UInt8}
    (foreign : key ∉ fieldNames)
    (read : readMember fuel key draft input = .ok (next, rest)) :
    next = draft ∧
      ∃ behind, Json.scanColon input = .ok behind ∧ Json.skipValue behind = .ok rest := by
  simp only [fieldNames, List.mem_cons, List.not_mem_nil, or_false, not_or] at foreign
  rcases foreign with ⟨notFormat, notVersion, notChecksum, notPayload⟩
  rw [readMember, if_neg notFormat, if_neg notVersion, if_neg notChecksum, if_neg notPayload]
    at read
  rcases bind_eq_ok read with ⟨behind, colonRead, goesOn⟩
  rcases bind_eq_ok goesOn with ⟨_, skipped, ends⟩
  cases ends
  exact ⟨rfl, behind, colonRead, skipped⟩

/-- What is made of the head of a value is read of valid octets only. -/
theorem headed_valid
    {α : Type} (made : Json.Shape → Except Json.Fault α) {input rest : List UInt8} {value : α}
    (read :
      (Json.scanHead input >>= fun head => made head.1 >>= fun value =>
        Except.ok (value, head.2)) = .ok (value, rest)) :
    Valid input ↔ Valid rest := by
  rcases bind_eq_ok read with ⟨⟨shape, behind⟩, headRead, goesOn⟩
  rcases bind_eq_ok goesOn with ⟨_, _, ends⟩
  cases ends
  exact Json.scanHead_valid headRead

theorem readString_valid
    {input rest : List UInt8} {text : String} (read : readString input = .ok (text, rest)) :
    Valid input ↔ Valid rest :=
  headed_valid (fun shape => Json.orFault (Json.asString "a string" shape)) read

theorem readVersion_valid
    {input rest : List UInt8} {version : UInt32} (read : readVersion input = .ok (version, rest)) :
    Valid input ↔ Valid rest :=
  headed_valid (fun shape => Json.orFault (Json.asUInt32 shape)) read

/-- The fields of an envelope are read of valid octets only. -/
theorem readMember_valid
    {fuel : Nat} {key : String} {draft next : Draft} {input rest : List UInt8}
    (known : key ∈ fieldNames)
    (read : readMember fuel key draft input = .ok (next, rest)) :
    Valid input ↔ Valid rest := by
  rw [readMember] at read
  split at read
  · rcases field_ok (fun tag => draft.put (.format tag)) read with
      ⟨_, _, _, colonRead, valueRead, _⟩
    exact (Json.asciiUpTo_scanColon colonRead).valid_iff.trans (readString_valid valueRead)
  split at read
  · rcases field_ok (fun number => draft.put (.version number)) read with
      ⟨_, _, _, colonRead, valueRead, _⟩
    exact (Json.asciiUpTo_scanColon colonRead).valid_iff.trans (readVersion_valid valueRead)
  split at read
  · rcases field_ok (fun digest => draft.put (.checksum digest)) read with
      ⟨_, _, _, colonRead, valueRead, _⟩
    exact (Json.asciiUpTo_scanColon colonRead).valid_iff.trans (readString_valid valueRead)
  split at read
  · rcases field_ok (fun value => draft.put (.payload value)) read with
      ⟨_, _, _, colonRead, valueRead, _⟩
    exact (Json.asciiUpTo_scanColon colonRead).valid_iff.trans (Json.readValue_valid valueRead)
  · rename_i notFormat notVersion notChecksum notPayload
    simp [fieldNames, notFormat, notVersion, notChecksum, notPayload] at known

/-- A member that is read without notes is read with notes. -/
theorem readMember_noted
    {fuel : Nat} {key : String} {draft next : Draft} {input rest : List UInt8}
    (values : List (List UInt8))
    (read : readMember fuel key draft input = .ok (next, rest)) :
    ∃ more, noteMember fuel key ⟨draft, values⟩ input = .ok (⟨next, more⟩, rest) := by
  rw [noteMember, read, ok_bind]
  by_cases known : key ∈ fieldNames
  · exact ⟨values, if_pos known⟩
  · rcases readMember_foreign known read with ⟨_, behind, colonRead, _⟩
    rw [colonRead]
    exact ⟨values ++ [between behind rest], if_neg known⟩

/-- What has been noted so far is valid. -/
def Notes.Valid (notes : Notes) : Prop := ∀ value ∈ notes.values, Utf8.Valid value

/-- A member keeps notes and octets valid, or shows that one of them is not. -/
theorem noteMember_valid
    {fuel : Nat} {key : String} {notes next : Notes} {input rest : List UInt8}
    (read : noteMember fuel key notes input = .ok (next, rest))
    (boundary : Boundary rest) :
    notes.Valid ∧ Valid input ↔ next.Valid ∧ Valid rest := by
  rcases bind_eq_ok read with ⟨⟨draft, behindMember⟩, memberRead, goesOn⟩
  dsimp only at goesOn
  split at goesOn
  · rename_i known
    cases goesOn
    exact and_congr_right fun _ => readMember_valid known memberRead
  · rename_i foreign
    rcases readMember_foreign foreign memberRead with ⟨_, behind, colonRead, skipped⟩
    rw [colonRead] at goesOn
    cases goesOn
    have parts := between_append (Json.skipValue_suffix skipped)
    have noted :
        (Notes.mk draft (notes.values ++ [between behind rest])).Valid ↔
          notes.Valid ∧ Valid (between behind rest) := by
      simp only [Notes.Valid, List.forall_mem_append, List.forall_mem_singleton]
    rw [noted, (Json.asciiUpTo_scanColon colonRead).valid_iff, and_assoc,
      ← Utf8.valid_append_iff boundary, parts]

/-! ## All members -/

/-- Members that are read without notes are read with notes. -/
theorem readMembers_noted
    {fuel turns : Nat} {first : Bool} {draft final : Draft} {input rest : List UInt8}
    (values : List (List UInt8))
    (read : Json.readMembers (readMember fuel) turns first draft input = .ok (final, rest)) :
    ∃ more,
      Json.readMembers (noteMember fuel) turns first ⟨draft, values⟩ input =
        .ok (⟨final, more⟩, rest) := by
  induction turns generalizing first draft input values with
  | zero => cases read
  | succ turns ih =>
      rw [Json.readMembers] at read ⊢
      rcases bind_eq_ok read with ⟨⟨more, behind⟩, moved, goesOn⟩
      rw [moved, ok_bind]
      cases more with
      | false =>
          cases goesOn
          exact ⟨values, rfl⟩
      | true =>
          rcases bind_eq_ok goesOn with ⟨⟨key, colon⟩, keyRead, goesOn⟩
          rcases bind_eq_ok goesOn with ⟨⟨next, tail⟩, memberRead, tailRead⟩
          rcases readMember_noted values memberRead with ⟨more, memberNoted⟩
          dsimp only
          rw [keyRead, ok_bind, memberNoted, ok_bind]
          exact ih more tailRead

/-- The fields of a list are read of valid octets only. -/
theorem readItems_valid
    {fuel : Nat} {input rest : List UInt8} {envelope : Envelope}
    (read : readItems fuel input = .ok (envelope, rest)) :
    Valid input ↔ Valid rest := by
  rcases bind_eq_ok read with ⟨_, first, goesOn⟩
  rcases bind_eq_ok goesOn with ⟨⟨_, _⟩, format, goesOn⟩
  rcases bind_eq_ok goesOn with ⟨_, second, goesOn⟩
  rcases bind_eq_ok goesOn with ⟨⟨_, _⟩, version, goesOn⟩
  rcases bind_eq_ok goesOn with ⟨_, third, goesOn⟩
  rcases bind_eq_ok goesOn with ⟨⟨_, _⟩, checksum, goesOn⟩
  rcases bind_eq_ok goesOn with ⟨_, fourth, goesOn⟩
  rcases bind_eq_ok goesOn with ⟨⟨_, _⟩, payload, goesOn⟩
  rcases bind_eq_ok goesOn with ⟨_, ended, ends⟩
  cases ends
  rw [(Json.asciiUpTo_itemAt first).valid_iff, readString_valid format,
    (Json.asciiUpTo_itemAt second).valid_iff, readVersion_valid version,
    (Json.asciiUpTo_itemAt third).valid_iff, readString_valid checksum,
    (Json.asciiUpTo_itemAt fourth).valid_iff, Json.readValue_valid payload,
    (Json.asciiUpTo_endFields ended).valid_iff]

/-! ## Files -/

/-- A file that is read is UTF-8 if and only if the values are that are passed over. -/
theorem read_valid
    {file : List UInt8} {envelope : Envelope} (done : read file = .ok envelope) :
    Valid file ↔ ∀ value ∈ passedOver file, Valid value := by
  rcases bind_eq_ok done with ⟨⟨shape, rest⟩, headRead, goesOn⟩
  rw [Json.scanHead_valid headRead]
  cases shape with
  | object =>
      rcases bind_eq_ok goesOn with ⟨⟨draft, behind⟩, membersRead, goesOn⟩
      rcases bind_eq_ok goesOn with ⟨_, _, goesOn⟩
      rcases bind_eq_ok goesOn with ⟨_, ended, _⟩
      rcases readMembers_noted [] membersRead with ⟨values, noted⟩
      have passed : passedOver file = values := by
        rw [passedOver, headRead]
        dsimp only
        rw [noted]
      have kept := (Json.readMembers_valid noteMember_valid noted).2
      have blank := (Json.asciiUpTo_scanEnd ended).valid_iff.mpr Utf8.valid_nil
      have before : Notes.Valid ⟨.empty, []⟩ := List.forall_mem_nil _
      rw [and_iff_right before, and_iff_left blank] at kept
      rw [kept, passed]
      exact Iff.rfl
  | list =>
      rcases bind_eq_ok goesOn with ⟨⟨_, behind⟩, itemsRead, goesOn⟩
      rcases bind_eq_ok goesOn with ⟨_, ended, _⟩
      have passed : passedOver file = [] := by rw [passedOver, headRead]
      have blank := (Json.asciiUpTo_scanEnd ended).valid_iff.mpr Utf8.valid_nil
      rw [readItems_valid itemsRead, passed]
      exact iff_of_true blank (List.forall_mem_nil _)
  | null => cases goesOn
  | bool _ => cases goesOn
  | number _ => cases goesOn
  | string _ => cases goesOn

/--
A file that is accepted is UTF-8 if and only if the values are that were passed over, those of the
members that are no fields.
-/
theorem decode_valid_iff
    {file : List UInt8} {payload : Json} (accepted : decode file = .ok payload) :
    file.toByteArray.IsValidUTF8 ↔
      ∀ value ∈ passedOver file, value.toByteArray.IsValidUTF8 := by
  simp only [← Utf8.valid_iff_isValidUTF8]
  rw [decode] at accepted
  cases done : read file with
  | error cause =>
      rw [done] at accepted
      cases accepted
  | ok envelope => exact read_valid done

/-! ## Any octets in a note -/

/-- The file of the null value, with a note of these octets in front of the fields. -/
def notedFile (note : List UInt8) : List UInt8 :=
  Json.octets "\x7b\"note\":\"".toList ++
    (note ++
      (Json.octets "\",\"format\":\"lattice-artifact\",\"version\":1,\"checksum\":\"".toList ++
        (Json.octets "03f88b99c3d8073bba8948d6e762aac443b265f606cc05abd4d172f03a4def6a\"".toList ++
          Json.octets ",\"payload\":null\x7d".toList)))

theorem checksumOf_null :
    checksumOf .null = "03f88b99c3d8073bba8948d6e762aac443b265f606cc05abd4d172f03a4def6a" := by
  have text : Utf8.encode Json.null.canonical = Json.octets "null".toList := by decide
  have single : Blake3.pieces 1023 (Json.octets "null".toList) = [Json.octets "null".toList] := by
    decide +kernel
  rw [checksumOf, text, Blake3.hexDigest, Blake3.hash, single, Blake3.tree, dif_pos (by decide)]
  decide +kernel

theorem isQuoted_plain
    {octets : List UInt8} (plain : ∀ o ∈ octets, Json.IsPlain o) :
    Json.IsQuoted (octets ++ [octet '"']) := by
  induction octets with
  | nil => exact .closed
  | cons o octets ih =>
      rcases List.forall_mem_cons.mp plain with ⟨⟨visible, notQuote, notBackslash⟩, rest⟩
      have head : Json.IsCharacter [o] := .plain visible notQuote notBackslash
      have whole := Json.IsQuoted.character head (ih rest)
      exact whole

/-- A file is accepted whatever octets stand in its note. -/
theorem decode_notedFile
    {note : List UInt8} (plain : ∀ o ∈ note, Json.IsPlain o) :
    decode (notedFile note) = .ok .null := by
  have named := Json.spellsQuoted_quotedText
  have colon := Json.spellsColon_tight
  have comma := Json.separates_tight
  have quoted : Json.IsText (octet '"' :: (note ++ [octet '"'])) .value :=
    .string (isQuoted_plain plain)
  have format : Json.Spells _ (.value (Field.format formatTag).json) := .string (named formatTag)
  have version : Json.Spells [octet '1'] (.value (Field.version 1).json) := by
    have digits : Json.WholeDigits [octet '1'] := by decide
    have numeral : Json.SpellsNumeral _ ⟨false, [octet '1'], none, none⟩ :=
      .intro .absent digits .absent .absent
    exact .number numeral rfl
  have spelled (digest : String) :
      Spells
        (Json.octets "\x7b\"note\":\"".toList ++
          (note ++
            (Json.octets
                "\",\"format\":\"lattice-artifact\",\"version\":1,\"checksum\":\"".toList ++
              (Json.quotedText digest ++ Json.octets ",\"payload\":null\x7d".toList))))
        ⟨formatTag, 1, digest, .null⟩ := by
    have checksum : Json.Spells _ (.value (Field.checksum digest).json) := .string (named digest)
    have payload : Json.Spells _ (.value (Field.payload .null).json) := .null
    have inside :=
      SpellsFields.other (.first Json.blanks_nil) (named "note") (by decide) colon quoted
        (.field comma (named "format") colon format
          (.field comma (named "version") colon version
            (.field comma (named "checksum") colon checksum
              (.field comma (named "payload") colon payload (.done false Json.blanks_nil)))))
    have whole :=
      Spells.intro Json.blanks_nil inside
        (.refl (fields ⟨formatTag, 1, digest, .null⟩)) Json.blanks_nil
    -- What follows the note and the digest must stand to the right of them.
    simp only [List.append_assoc, List.cons_append, List.append_nil] at whole
    exact whole
  have digits :
      Json.quotedText "03f88b99c3d8073bba8948d6e762aac443b265f606cc05abd4d172f03a4def6a" =
        Json.octets
          "03f88b99c3d8073bba8948d6e762aac443b265f606cc05abd4d172f03a4def6a\"".toList := by
    decide +kernel
  have known := spelled "03f88b99c3d8073bba8948d6e762aac443b265f606cc05abd4d172f03a4def6a"
  rw [digits, ← notedFile] at known
  rw [decode_layout known (by decide), checksumOf_null]
  simp

/-- A note in two octets for one character: the file is UTF-8 because the note is. -/
theorem decode_valid_iff_noted :
    decode (notedFile [0xC3, 0xA9]) = .ok .null ∧
      (notedFile [0xC3, 0xA9]).toByteArray.IsValidUTF8 := by
  have plain : ∀ o ∈ [0xC3, 0xA9], Json.IsPlain o :=
    List.forall_mem_cons.mpr ⟨by decide, List.forall_mem_singleton.mpr (by decide)⟩
  have accepted : decode (notedFile [0xC3, 0xA9]) = .ok .null := decode_notedFile plain
  refine ⟨accepted, (decode_valid_iff accepted).mpr ?_⟩
  simp only [← Utf8.valid_iff_isValidUTF8]
  decide +kernel

/-- A note of an octet that is in no text: the file is accepted and is not UTF-8. -/
theorem stray_octet_accepted :
    decode (notedFile [0xFF]) = .ok .null ∧ ¬ (notedFile [0xFF]).toByteArray.IsValidUTF8 := by
  refine ⟨decode_notedFile (List.forall_mem_singleton.mpr (by decide)), ?_⟩
  rw [← Utf8.valid_iff_isValidUTF8]
  decide +kernel

end RunArchive.Envelope
