import RunArchive.Proofs.Digest.HexDigits
import RunArchive.Proofs.Envelope.RoundTrip
import RunArchive.Proofs.Json.Canonical
import RunArchive.Proofs.Json.Invariants

/-!
# Tampered payloads are noticed

A payload that is accepted has the checksum that its envelope carries.  If that is the checksum of
a value, then the canonical texts of the value and of the payload have one digest, and unless the
digest collides on just these two texts the payload is the value.

For octets that were written by `encode` the carried checksum is known even where the payload
behind it cannot be read back: the checksum is written before the payload, and once a draft has a
checksum no later member changes it.  The step lemma is `readMember_cases`, which lists all that
one member can do to a draft.
-/

namespace RunArchive.Envelope

open RunArchive.Json (octet)

/-! ## Steps -/

theorem once_ok
    {α : Type} {field : String} {content : Option α}
    (fresh : once field content = .ok ()) :
    content = none := by
  cases content with
  | none => rfl
  | some _ => cases fresh

/-- A field that is read was not there before, and is put where it belongs. -/
theorem field_ok
    {α : Type} (put : α → Draft)
    {value : List UInt8 → Except Json.Fault (α × List UInt8)}
    {key : String} {content : Option α} {input rest : List UInt8} {next : Draft}
    (read :
      (once key content >>= fun _ => Json.scanColon input >>= fun behind =>
        value behind >>= fun found => Except.ok (put found.1, found.2)) = .ok (next, rest)) :
    content = none ∧
      ∃ behind found,
        Json.scanColon input = .ok behind ∧ value behind = .ok (found, rest) ∧
          next = put found := by
  rcases bind_eq_ok read with ⟨_, fresh, goesOn⟩
  rcases bind_eq_ok goesOn with ⟨behind, colonRead, goesOn⟩
  rcases bind_eq_ok goesOn with ⟨⟨found, _⟩, valueRead, ends⟩
  cases ends
  exact ⟨once_ok fresh, behind, found, colonRead, valueRead, rfl⟩

/--
What a member does to a draft: a known one adds its field, which must not be there yet, and any
other one changes nothing.
-/
theorem readMember_cases
    {fuel : Nat} {key : String} {draft next : Draft} {input rest : List UInt8}
    (read : readMember fuel key draft input = .ok (next, rest)) :
    next = draft ∨
      ∃ field : Field, field.name = key ∧ draft.Lacks field ∧ field.json.WellFormed ∧
        next = draft.put field := by
  rw [readMember] at read
  split at read
  · rename_i named
    rcases field_ok (fun tag => draft.put (.format tag)) read with ⟨fresh, _, tag, _, _, put⟩
    exact Or.inr ⟨.format tag, named.symm, fresh, trivial, put⟩
  split at read
  · rename_i named
    rcases field_ok (fun number => draft.put (.version number)) read with
      ⟨fresh, _, number, _, _, put⟩
    exact Or.inr ⟨.version number, named.symm, fresh, fits_version number, put⟩
  split at read
  · rename_i named
    rcases field_ok (fun digest => draft.put (.checksum digest)) read with
      ⟨fresh, _, digest, _, _, put⟩
    exact Or.inr ⟨.checksum digest, named.symm, fresh, trivial, put⟩
  split at read
  · rename_i named
    rcases field_ok (fun value => draft.put (.payload value)) read with
      ⟨fresh, _, value, _, valueRead, put⟩
    have normal : value.WellFormed := Json.readValue_wellFormed valueRead
    exact Or.inr ⟨.payload value, named.symm, fresh, normal, put⟩
  · rcases bind_eq_ok read with ⟨_, _, goesOn⟩
    rcases bind_eq_ok goesOn with ⟨_, _, ends⟩
    cases ends
    exact Or.inl rfl

/-- A checksum that has been read stays. -/
theorem readMember_checksum
    {fuel : Nat} {key : String} {draft next : Draft} {input rest : List UInt8} {digest : String}
    (before : draft.checksum = some digest)
    (read : readMember fuel key draft input = .ok (next, rest)) :
    next.checksum = some digest := by
  rcases readMember_cases read with same | ⟨field, _, lacks, _, put⟩
  · rw [same]
    exact before
  · rw [put]
    cases field with
    | checksum other =>
        have absent : draft.checksum = none := lacks
        rw [absent] at before
        cases before
    | format _ => exact before
    | version _ => exact before
    | payload _ => exact before

/-- The payload of a draft, if it has one, is in normal form. -/
def Draft.Normal (draft : Draft) : Prop := ∀ value ∈ draft.payload, value.WellFormed

theorem readMember_normal
    {fuel : Nat} {key : String} {draft next : Draft} {input rest : List UInt8}
    (before : draft.Normal)
    (read : readMember fuel key draft input = .ok (next, rest)) :
    next.Normal := by
  rcases readMember_cases read with same | ⟨field, _, _, normal, put⟩
  · rw [same]
    exact before
  · rw [put]
    cases field with
    | payload value =>
        intro other member
        rw [← Option.some.inj member]
        exact normal
    | format _ => exact before
    | version _ => exact before
    | checksum _ => exact before

/-! ## Runs -/

theorem present_ok
    {α : Type} {field : String} {content : Option α} {value : α}
    (there : present field content = .ok value) :
    content = some value := by
  cases content with
  | none => cases there
  | some _ =>
      cases there
      rfl

theorem complete_ok
    {draft : Draft} {envelope : Envelope}
    (completed : draft.complete = .ok envelope) :
    draft.checksum = some envelope.checksum ∧ draft.payload = some envelope.payload := by
  rcases bind_eq_ok completed with ⟨format, _, goesOn⟩
  rcases bind_eq_ok goesOn with ⟨version, _, goesOn⟩
  rcases bind_eq_ok goesOn with ⟨checksum, checksumThere, goesOn⟩
  rcases bind_eq_ok goesOn with ⟨payload, payloadThere, ends⟩
  cases ends
  exact ⟨present_ok checksumThere, present_ok payloadThere⟩

/-- What has been read when an envelope has been: all its members, or the list of its fields. -/
theorem read_cases
    {text : List UInt8} {envelope : Envelope}
    (done : read text = .ok envelope) :
    (∃ rest draft behind,
        Json.scanHead text = .ok (.object, rest) ∧
          Json.readMembers (readMember text.length) text.length true .empty rest =
            .ok (draft, behind) ∧
          draft.complete = .ok envelope) ∨
      ∃ rest behind,
        Json.scanHead text = .ok (.list, rest) ∧
          readItems text.length rest = .ok (envelope, behind) := by
  rcases bind_eq_ok done with ⟨⟨shape, rest⟩, head, goesOn⟩
  cases shape with
  | object =>
      rcases bind_eq_ok goesOn with ⟨⟨draft, behind⟩, membersRead, goesOn⟩
      rcases bind_eq_ok goesOn with ⟨completed, complete, goesOn⟩
      rcases bind_eq_ok goesOn with ⟨_, _, ends⟩
      cases ends
      exact Or.inl ⟨rest, draft, behind, head, membersRead, complete⟩
  | list =>
      rcases bind_eq_ok goesOn with ⟨⟨listed, behind⟩, itemsRead, goesOn⟩
      rcases bind_eq_ok goesOn with ⟨_, _, ends⟩
      cases ends
      exact Or.inr ⟨rest, behind, head, itemsRead⟩
  | null => cases goesOn
  | bool _ => cases goesOn
  | number _ => cases goesOn
  | string _ => cases goesOn

/-- The payload of every envelope that is read is in normal form. -/
theorem read_wellFormed
    {text : List UInt8} {envelope : Envelope}
    (done : read text = .ok envelope) :
    envelope.payload.WellFormed := by
  rcases read_cases done with
    ⟨rest, draft, behind, _, membersRead, completed⟩ | ⟨rest, behind, _, itemsRead⟩
  · have normal : draft.Normal :=
      Json.readMembers_preserves (fun _ _ _ _ _ => readMember_normal)
        (fun value member => absurd member (Option.not_mem_none value)) membersRead
    exact normal envelope.payload (complete_ok completed).2
  · rcases bind_eq_ok itemsRead with ⟨_, _, goesOn⟩
    rcases bind_eq_ok goesOn with ⟨⟨_, _⟩, _, goesOn⟩
    rcases bind_eq_ok goesOn with ⟨_, _, goesOn⟩
    rcases bind_eq_ok goesOn with ⟨⟨_, _⟩, _, goesOn⟩
    rcases bind_eq_ok goesOn with ⟨_, _, goesOn⟩
    rcases bind_eq_ok goesOn with ⟨⟨_, _⟩, _, goesOn⟩
    rcases bind_eq_ok goesOn with ⟨_, _, goesOn⟩
    rcases bind_eq_ok goesOn with ⟨⟨payload, _⟩, payloadRead, goesOn⟩
    rcases bind_eq_ok goesOn with ⟨_, _, ends⟩
    cases ends
    exact Json.readValue_wellFormed payloadRead

/-- Fields in front of other members are read before these, whatever these are. -/
theorem readMembers_front
    {fuel : Nat} {first : Bool} {fields : List Field} {turns : Nat} {draft final : Draft}
    {rest behind : List UInt8}
    (spelled :
      ∀ field ∈ fields,
        Json.Spells (Utf8.encode field.json.compact) (.value field.json) ∧
          field.json.nesting ≤ payloadDepth ∧ draft.Lacks field)
    (distinct : fields.Pairwise fun left right => left.name ≠ right.name)
    (delimited : Json.Delimited rest)
    (enough :
      (Utf8.encode (Json.listed first (Json.compactMembers (fields.map Field.member)))).length ≤
        fuel)
    (read :
      Json.readMembers (readMember fuel) turns first draft
          (Utf8.encode (Json.listed first (Json.compactMembers (fields.map Field.member))) ++
            rest) =
        .ok (final, behind)) :
    ∃ turns first,
      Json.readMembers (readMember fuel) turns first (fields.foldl Draft.put draft) rest =
        .ok (final, behind) := by
  induction fields generalizing turns first draft with
  | nil => exact ⟨turns, first, read⟩
  | cons field others ih =>
      have apart := List.pairwise_cons.mp distinct
      rcases spelled field List.mem_cons_self with ⟨head, shallow, lacks⟩
      rw [List.map_cons, Field.member, Json.compactMembers, Json.listed, Utf8.encode_append,
        Utf8.encode_append, Json.encode_memberText] at read enough
      simp only [List.append_assoc, List.cons_append] at read enough
      simp only [List.length_append, List.length_cons] at enough
      cases turns with
      | zero => cases read
      | succ turns =>
          have within : (Utf8.encode field.json.compact).length ≤ fuel := by omega
          have turn :=
            readMembers_turn turns (Json.separates_listed first)
              (Json.spellsQuoted_quotedText field.name) Json.spellsColon_tight head lacks within
              (Json.delimited_listed (Json.compactMembers (others.map Field.member)) delimited)
          simp only [List.cons_append] at turn
          rw [turn, if_pos shallow] at read
          refine ih ?_ apart.2 (by omega) read
          intro other member
          rcases spelled other (List.mem_cons_of_mem _ member) with ⟨otherHead, flat, otherLacks⟩
          exact ⟨otherHead, flat, otherLacks.put (apart.1 other member)⟩

/-- The fields that stand before the payload. -/
def leading (payload : Json) : List Field :=
  [.format formatTag, .version formatVersion, .checksum (checksumOf payload)]

theorem leading_scalar
    {payload : Json} {field : Field} (member : field ∈ leading payload) :
    Json.Spells (Utf8.encode field.json.compact) (.value field.json) ∧
      field.json.nesting ≤ payloadDepth := by
  simp only [leading, List.mem_cons, List.not_mem_nil, or_false] at member
  rcases member with rfl | rfl | rfl
  · exact ⟨Json.spells_compact _ trivial trivial, Nat.zero_le _⟩
  · exact ⟨Json.spells_compact _ (fits_version _) trivial, Nat.zero_le _⟩
  · exact ⟨Json.spells_compact _ trivial trivial, Nat.zero_le _⟩

/-- The texts of the leading fields stand before that of the payload. -/
theorem encode_split (payload : Json) :
    encode payload =
      octet '\x7b' ::
        (Utf8.encode
            (Json.listed true (Json.compactMembers ((leading payload).map Field.member))) ++
          (Utf8.encode (Json.listed false [Json.memberText ("payload", payload.compact)]) ++
            [octet '\x7d'])) := by
  have members :
      Json.compactMembers ((around payload).fields.map Field.member) =
        Json.compactMembers ((leading payload).map Field.member) ++
          [Json.memberText ("payload", payload.compact)] :=
    rfl
  have texts :
      Json.listed true (Json.compactMembers ((around payload).fields.map Field.member)) =
        Json.listed true (Json.compactMembers ((leading payload).map Field.member)) ++
          Json.listed false [Json.memberText ("payload", payload.compact)] := by
    rw [members]
    exact Json.listed_append true _ _ _
  rw [encode_eq, texts, Utf8.encode_append, List.append_assoc]

/-- The members that are written give a draft the checksum of the payload. -/
theorem checksum_of_readMembers
    {payload : Json} {fuel turns : Nat} {draft : Draft} {behind : List UInt8}
    (enough : (encode payload).length ≤ fuel)
    (read :
      Json.readMembers (readMember fuel) turns true .empty (encode payload).tail =
        .ok (draft, behind)) :
    draft.checksum = some (checksumOf payload) := by
  have spelled :
      ∀ field ∈ leading payload,
        Json.Spells (Utf8.encode field.json.compact) (.value field.json) ∧
          field.json.nesting ≤ payloadDepth ∧ Draft.empty.Lacks field := by
    intro field member
    rcases leading_scalar member with ⟨text, flat⟩
    exact ⟨text, flat, Draft.empty_lacks field⟩
  have distinct : (leading payload).Pairwise fun left right => left.name ≠ right.name := by
    simp [leading, Field.name]
  have front :
      (Utf8.encode
          (Json.listed true (Json.compactMembers ((leading payload).map Field.member)))).length ≤
        fuel := by
    rw [encode_split] at enough
    simp only [List.length_cons, List.length_append] at enough
    omega
  rw [encode_split, List.tail_cons] at read
  rcases readMembers_front spelled distinct
      (Json.delimited_listed [Json.memberText ("payload", payload.compact)]
        (Json.delimited_brace []))
      front read with
    ⟨turnsLeft, first, restRead⟩
  have carried : ((leading payload).foldl Draft.put .empty).checksum = some (checksumOf payload) :=
    rfl
  exact Json.readMembers_preserves (fun _ _ _ _ _ => readMember_checksum) carried restRead

/-- Whatever is read of written octets carries the checksum of the payload that was written. -/
theorem checksum_of_read_encode
    {payload : Json} {envelope : Envelope}
    (done : read (encode payload) = .ok envelope) :
    envelope.checksum = checksumOf payload := by
  have opened :
      Json.scanHead (encode payload) = .ok (.object, (encode payload).tail) := by
    rw [encode_split]
    exact Json.scanHead_object _
  rcases read_cases done with
    ⟨rest, draft, behind, head, membersRead, completed⟩ | ⟨rest, behind, head, _⟩
  · rw [opened] at head
    have inside : (encode payload).tail = rest := (Prod.mk.inj (Except.ok.inj head)).2
    rw [← inside] at membersRead
    have kept := checksum_of_readMembers (Nat.le_refl _) membersRead
    rw [(complete_ok completed).1] at kept
    exact Option.some.inj kept
  · rw [opened] at head
    cases head

/-! ## Evidence -/

/-- A payload that is accepted has the checksum that its envelope carries. -/
theorem validate_ok
    {envelope : Envelope} {payload : Json} (accepted : envelope.validate = .ok payload) :
    payload = envelope.payload ∧ checksumOf payload = envelope.checksum := by
  unfold validate at accepted
  dsimp only at accepted
  split at accepted
  · cases accepted
  split at accepted
  · cases accepted
  split at accepted
  · cases accepted
  · rename_i unchanged
    cases accepted
    exact ⟨rfl, not_not.mp unchanged⟩

/-- Values in normal form with one checksum are the same, unless the hash collides on them. -/
theorem eq_of_checksumOf
    {value accepted : Json}
    (normal : value.WellFormed)
    (acceptedNormal : accepted.WellFormed)
    (distinguished :
      Blake3.Distinguishes (Utf8.encode accepted.canonical) (Utf8.encode value.canonical))
    (checksums : checksumOf accepted = checksumOf value) :
    accepted = value := by
  have digests :
      Blake3.hexDigest (Utf8.encode accepted.canonical) =
        Blake3.hexDigest (Utf8.encode value.canonical) :=
    String.ofList_injective checksums
  have texts : Utf8.encode accepted.canonical = Utf8.encode value.canonical :=
    distinguished (Blake3.hash_eq_of_hexDigest digests)
  exact acceptedNormal.eq_of_canonical normal (Utf8.encode_injective texts)

/-- Octets that carry the checksum of a value are accepted with that value only. -/
theorem accepted_eq
    {value accepted : Json} {text : List UInt8} {envelope : Envelope}
    (normal : value.WellFormed)
    (distinguished :
      Blake3.Distinguishes (Utf8.encode accepted.canonical) (Utf8.encode value.canonical))
    (done : read text = .ok envelope)
    (carried : envelope.checksum = checksumOf value)
    (decoded : decode text = .ok accepted) :
    accepted = value := by
  rw [decode, done] at decoded
  rcases validate_ok decoded with ⟨payload, checksum⟩
  have acceptedNormal : accepted.WellFormed := by
    rw [payload]
    exact read_wellFormed done
  exact eq_of_checksumOf normal acceptedNormal distinguished (checksum.trans carried)

/--
Values have one canonical text if and only if they are the same up to the order of members.  So
octets that carry the checksum of a value are accepted with no other value, unless the hash
collides on the two canonical texts; and written octets always carry the checksum of what was
written, even if that cannot be read back.
-/
theorem tamper_evidence :
    (∀ left right : Json,
      left.canonical = right.canonical ↔ left.normalize = right.normalize) ∧
    (∀ left right : Json, left.WellFormed → right.WellFormed →
      (left.canonical = right.canonical ↔ left = right)) ∧
    ∀ value accepted : Json, value.WellFormed →
      Blake3.Distinguishes (Utf8.encode accepted.canonical) (Utf8.encode value.canonical) →
        (∀ (text : List UInt8) (envelope : Envelope), read text = .ok envelope →
          envelope.checksum = checksumOf value → decode text = .ok accepted →
            accepted = value) ∧
        (decode (encode value) = .ok accepted → accepted = value) := by
  refine ⟨Json.canonical_eq_iff, ?_, ?_⟩
  · intro left right leftNormal rightNormal
    constructor
    · exact leftNormal.eq_of_canonical rightNormal
    · intro equal
      rw [equal]
  · intro value accepted normal distinguished
    constructor
    · intro text envelope done carried decoded
      exact accepted_eq normal distinguished done carried decoded
    · intro decoded
      cases done : read (encode value) with
      | error cause =>
          rw [decode, done] at decoded
          cases decoded
      | ok envelope =>
          exact
            accepted_eq normal distinguished done (checksum_of_read_encode done) decoded

/--
The integer 1 is not the string "1", before or after sealing, and an object that is accepted for
another one differs from it in the order of its members at most.
-/
theorem tamper_evidence_one :
    Json.canonical (.number (.integer 1)) ≠ Json.canonical (.string "1") ∧
      decode (encode (.number (.integer 1))) ≠ .ok (.string "1") ∧
      decode (encode (.object [("a", .null), ("b", .null)])) =
        .ok (Json.ofMembers [("b", .null), ("a", .null)]) ∧
      Json.ofMembers [("b", .null), ("a", .null)] = .object [("a", .null), ("b", .null)] := by
  have distinguished :
      Blake3.Distinguishes (Utf8.encode (Json.canonical (.string "1")))
        (Utf8.encode (Json.canonical (.number (.integer 1)))) := by
    intro collides
    exact absurd collides (by decide +kernel)
  have sealed :
      Spells (encode (.object [("a", .null), ("b", .null)]))
        (around (.object [("a", .null), ("b", .null)])) :=
    spells_encode (by decide) ⟨trivial, trivial, trivial⟩
  have decoded :
      decode (encode (.object [("a", .null), ("b", .null)])) =
        .ok (Json.ofMembers [("b", .null), ("a", .null)]) := by
    rw [sealed.decode, validate_around]
    rfl
  refine ⟨?_, ?_, decoded, ?_⟩
  · intro equal
    exact nomatch (tamper_evidence.2.1 _ _ (by decide) (by decide)).mp equal
  · intro accepted
    exact nomatch (tamper_evidence.2.2 _ _ (by decide) distinguished).2 accepted
  · exact
      (tamper_evidence.2.2 _ _ (by decide) (fun _ => rfl)).1 _ _ sealed.read rfl decoded

end RunArchive.Envelope
