import RunArchive.Envelope.Codec
import RunArchive.Proofs.Json.Escaping
import RunArchive.Proofs.Json.Reading
import RunArchive.Proofs.Json.Skipping
import RunArchive.Proofs.Json.Typed

/-!
# Layouts of envelopes

An envelope may be laid out in many ways.  Its four fields may come in any order, blanks may stand
between any two tokens, members with other names may stand anywhere, and the payload may have any
spelling.  `Spells` admits all of these texts.

What is read does not depend on the layout: `read` gives the envelope that is spelled, or finds the
payload too deep, and `decode` judges that envelope alone.  The step lemma is
`readMember_field`, which says what one member does to the draft; the run lemma is
`readMembers_fields`, by induction on the members that are left.
-/

namespace RunArchive.Envelope

open RunArchive.Json (Blanks Separates SpellsQuoted SpellsColon IsText Delimited octet)

/-- A field of an envelope. -/
inductive Field where
  | format (tag : String)
  | version (number : UInt32)
  | checksum (digest : String)
  | payload (value : Json)

namespace Field

/-- The name of a field. -/
def name : Field → String
  | .format _ => "format"
  | .version _ => "version"
  | .checksum _ => "checksum"
  | .payload _ => "payload"

/-- The value of a field. -/
def json : Field → Json
  | .format tag => .string tag
  | .version number => .number (.integer number.toNat)
  | .checksum digest => .string digest
  | .payload value => value

/-- A field as a member of an object. -/
def member (field : Field) : String × Json := (field.name, field.json)

end Field

/-- The names that an envelope does not pass over. -/
def fieldNames : List String := ["format", "version", "checksum", "payload"]

/-- The fields of an envelope. -/
def fields (envelope : Envelope) : List Field :=
  [.format envelope.format, .version envelope.version, .checksum envelope.checksum,
    .payload envelope.payload]

/--
The spellings of fields behind the opening brace, in the order in which they are written.  Members
with other names may stand between them; their values need not denote anything.
-/
inductive SpellsFields : Bool → List UInt8 → List Field → Prop where
  | done {blanks : List UInt8} (first : Bool) (blank : Blanks blanks) :
      SpellsFields first (blanks ++ [octet '\x7d']) []
  | field {separator keyText colon text rest : List UInt8} {first : Bool}
      {field : Field} {fields : List Field}
      (separated : Separates first separator)
      (named : SpellsQuoted keyText field.name)
      (assigned : SpellsColon colon)
      (head : Json.Spells text (.value field.json))
      (tail : SpellsFields false rest fields) :
      SpellsFields first (separator ++ octet '"' :: (keyText ++ (colon ++ (text ++ rest))))
        (field :: fields)
  | other {separator keyText colon text rest : List UInt8} {first : Bool}
      {key : String} {fields : List Field}
      (separated : Separates first separator)
      (named : SpellsQuoted keyText key)
      (foreign : key ∉ fieldNames)
      (assigned : SpellsColon colon)
      (head : IsText text .value)
      (tail : SpellsFields false rest fields) :
      SpellsFields first (separator ++ octet '"' :: (keyText ++ (colon ++ (text ++ rest))))
        fields

/-- The spellings of an envelope: an object with each of its fields once, in any order. -/
inductive Spells : List UInt8 → Envelope → Prop where
  | intro {before text after : List UInt8} {envelope : Envelope} {written : List Field}
      (blankBefore : Blanks before)
      (inside : SpellsFields true text written)
      (rearranged : written.Perm envelope.fields)
      (blankAfter : Blanks after) :
      Spells (before ++ octet '\x7b' :: (text ++ after)) envelope

/-! ## Drafts -/

/-- Adds a field to a draft. -/
def Draft.put (draft : Draft) : Field → Draft
  | .format tag => { draft with format := some tag }
  | .version number => { draft with version := some number }
  | .checksum digest => { draft with checksum := some digest }
  | .payload value => { draft with payload := some value }

/-- Whether a draft does not have a field of this name yet. -/
def Draft.Lacks (draft : Draft) : Field → Prop
  | .format _ => draft.format = none
  | .version _ => draft.version = none
  | .checksum _ => draft.checksum = none
  | .payload _ => draft.payload = none

theorem Draft.empty_lacks (field : Field) : Draft.empty.Lacks field := by
  cases field <;> rfl

theorem Draft.Lacks.put
    {draft : Draft} {field added : Field}
    (lacks : draft.Lacks field)
    (different : added.name ≠ field.name) :
    (draft.put added).Lacks field := by
  cases added <;> cases field <;> first | exact lacks | exact absurd rfl different

/-- The fields of an envelope have different names. -/
theorem fields_distinct (envelope : Envelope) :
    envelope.fields.Pairwise fun left right => left.name ≠ right.name := by
  simp [fields, Field.name]

/-- In whatever order its fields are added, the same envelope results. -/
theorem foldl_put_fields
    {written : List Field} {envelope : Envelope}
    (rearranged : written.Perm envelope.fields) :
    (written.foldl Draft.put .empty).complete = .ok envelope := by
  have commutes :
      ∀ left ∈ envelope.fields, ∀ right ∈ envelope.fields, ∀ draft : Draft,
        (draft.put left).put right = (draft.put right).put left := by
    intro left leftMember right rightMember draft
    simp only [fields, List.mem_cons, List.not_mem_nil, or_false] at leftMember rightMember
    rcases leftMember with rfl | rfl | rfl | rfl <;>
      rcases rightMember with rfl | rfl | rfl | rfl <;> rfl
  rw [← List.Perm.foldl_eq' rearranged.symm commutes .empty]
  rfl

theorem nesting_fields (envelope : Envelope) :
    Json.nestingMembers (envelope.fields.map Field.member) = envelope.payload.nesting := by
  simp [fields, Field.member, Field.json, Json.nestingMembers, Json.nesting]

/-! ## Reading the fields -/

theorem readString_spelled
    {blanks text rest : List UInt8} {value : String}
    (blank : Blanks blanks)
    (spelled : Json.Spells text (.value (.string value)))
    (delimited : Delimited rest) :
    readString (blanks ++ (text ++ rest)) = .ok (value, rest) := by
  rw [readString, Json.scanHead_blanks blank, Json.scanHead_scalar spelled rfl delimited]
  rfl

theorem readVersion_spelled
    {blanks text rest : List UInt8} {number : UInt32}
    (blank : Blanks blanks)
    (spelled : Json.Spells text (.value (.number (.integer number.toNat))))
    (delimited : Delimited rest) :
    readVersion (blanks ++ (text ++ rest)) = .ok (number, rest) := by
  rw [readVersion, Json.scanHead_blanks blank, Json.scanHead_scalar spelled rfl delimited,
    ok_bind]
  simp only [Json.shape, Json.asUInt32_toNat]
  rfl

/-- A spelled field is added to a draft that does not have it, unless it is nested too deep. -/
theorem readMember_field
    {fuel : Nat} {field : Field} {draft : Draft} {colon text rest : List UInt8}
    (lacks : draft.Lacks field)
    (assigned : SpellsColon colon)
    (spelled : Json.Spells text (.value field.json))
    (enough : text.length ≤ fuel)
    (delimited : Delimited rest) :
    readMember fuel field.name draft (colon ++ (text ++ rest)) =
      if field.json.nesting ≤ payloadDepth then .ok (draft.put field, rest)
      else .error .tooDeep := by
  rcases Json.scanColon_spelled (text ++ rest) assigned with ⟨behind, blank, colonRead⟩
  cases field with
  | format tag =>
      have absent : draft.format = none := lacks
      rw [readMember, Field.name, if_pos rfl, absent, colonRead, once, ok_bind, ok_bind,
        readString_spelled blank spelled delimited]
      rfl
  | version number =>
      have absent : draft.version = none := lacks
      rw [readMember, Field.name, if_neg (by decide), if_pos rfl, absent, colonRead, once,
        ok_bind, ok_bind, readVersion_spelled blank spelled delimited]
      rfl
  | checksum digest =>
      have absent : draft.checksum = none := lacks
      rw [readMember, Field.name, if_neg (by decide), if_neg (by decide), if_pos rfl, absent,
        colonRead, once, ok_bind, ok_bind, readString_spelled blank spelled delimited]
      rfl
  | payload value =>
      have absent : draft.payload = none := lacks
      rw [readMember, Field.name, if_neg (by decide), if_neg (by decide), if_neg (by decide),
        if_pos rfl, absent, colonRead, once, ok_bind, ok_bind,
        Json.readValue_blanks fuel payloadDepth blank,
        Json.readValue_spelled payloadDepth spelled enough delimited]
      rw [Field.json]
      split <;> rfl

/-- A member with another name leaves the draft as it is. -/
theorem readMember_other
    (fuel : Nat) {key : String} (draft : Draft) {colon text rest : List UInt8}
    (foreign : key ∉ fieldNames)
    (assigned : SpellsColon colon)
    (formed : IsText text .value)
    (delimited : Delimited rest) :
    readMember fuel key draft (colon ++ (text ++ rest)) = .ok (draft, rest) := by
  rcases Json.scanColon_spelled (text ++ rest) assigned with ⟨behind, blank, colonRead⟩
  simp only [fieldNames, List.mem_cons, List.not_mem_nil, or_false, not_or] at foreign
  rcases foreign with ⟨notFormat, notVersion, notChecksum, notPayload⟩
  rw [readMember, if_neg notFormat, if_neg notVersion, if_neg notChecksum, if_neg notPayload,
    colonRead, ok_bind, Json.skipValue_text blank formed delimited]
  rfl

theorem SpellsFields.delimited
    {text : List UInt8} {fields : List Field}
    (spelled : SpellsFields false text fields) (rest : List UInt8) :
    Delimited (text ++ rest) := by
  cases spelled with
  | done _ blank =>
      rw [List.append_assoc]
      exact Json.delimited_of_blanks blank (Json.delimited_brace _)
  | field separated _ _ _ _ =>
      rw [List.append_assoc]
      exact separated.delimited _
  | other separated _ _ _ _ _ =>
      rw [List.append_assoc]
      exact separated.delimited _

/-- One turn of the loop over members adds a field, unless that is nested too deep. -/
theorem readMembers_turn
    {first : Bool} {separator keyText colon text rest : List UInt8}
    {fuel : Nat} (turns : Nat) {field : Field} {draft : Draft}
    (separated : Separates first separator)
    (named : SpellsQuoted keyText field.name)
    (assigned : SpellsColon colon)
    (spelled : Json.Spells text (.value field.json))
    (lacks : draft.Lacks field)
    (enough : text.length ≤ fuel)
    (delimited : Delimited rest) :
    Json.readMembers (readMember fuel) (turns + 1) first draft
        (separator ++ octet '"' :: (keyText ++ (colon ++ (text ++ rest)))) =
      if field.json.nesting ≤ payloadDepth then
        Json.readMembers (readMember fuel) turns false (draft.put field) rest
      else .error .tooDeep := by
  rw [Json.readMembers, Json.nextKey_separated _ separated]
  simp only [ok_bind, Json.scanString_quoted _ named,
    readMember_field lacks assigned spelled enough delimited]
  by_cases shallow : field.json.nesting ≤ payloadDepth
  · simp only [shallow, if_true, ok_bind]
  · simp only [shallow, if_false, error_bind]

/-- Fields of different names are added one by one, unless one of them is nested too deep. -/
theorem readMembers_fields
    {first : Bool} {text : List UInt8} {fields : List Field}
    (spelled : SpellsFields first text fields)
    {fuel : Nat} (turns : Nat) (draft : Draft) (rest : List UInt8)
    (enoughFuel : text.length ≤ fuel)
    (enough : text.length ≤ turns)
    (lacks : ∀ field ∈ fields, draft.Lacks field)
    (distinct : fields.Pairwise fun left right => left.name ≠ right.name) :
    Json.readMembers (readMember fuel) turns first draft (text ++ rest) =
      if Json.nestingMembers (fields.map Field.member) ≤ payloadDepth then
        .ok (fields.foldl Draft.put draft, rest)
      else .error .tooDeep := by
  induction spelled generalizing turns draft with
  | done first blank =>
      cases turns with
      | zero =>
          rw [List.length_append, List.length_singleton] at enough
          omega
      | succ turns =>
          rw [Json.readMembers, List.append_assoc, List.singleton_append,
            Json.nextKey_end first rest blank]
          rfl
  | @field separator keyText colon text tailText first field fields separated named assigned
      head tail ih =>
      simp only [List.length_append, List.length_cons] at enoughFuel enough
      have apart := List.pairwise_cons.mp distinct
      have tailLacks : ∀ other ∈ fields, (draft.put field).Lacks other := by
        intro other member
        exact (lacks other (List.mem_cons_of_mem _ member)).put (apart.1 other member)
      cases turns with
      | zero => omega
      | succ turns =>
          have turn :=
            readMembers_turn turns separated named assigned head (lacks field List.mem_cons_self)
              (show text.length ≤ fuel by omega) (tail.delimited rest)
          simp only [List.append_assoc, List.cons_append, turn, List.map_cons, Field.member,
            Json.nestingMembers, Nat.max_le]
          by_cases shallow : field.json.nesting ≤ payloadDepth
          · simp only [shallow, if_true, true_and,
              ih turns (draft.put field) (by omega) (by omega) tailLacks apart.2, List.foldl_cons]
          · simp only [shallow, if_false, false_and]
  | @other separator keyText colon text tailText first key fields separated named foreign
      assigned head tail ih =>
      simp only [List.length_append, List.length_cons] at enoughFuel enough
      cases turns with
      | zero => omega
      | succ turns =>
          rw [Json.readMembers, List.append_assoc, List.cons_append,
            Json.nextKey_separated _ separated]
          simp only [ok_bind, List.append_assoc, Json.scanString_quoted _ named,
            readMember_other fuel draft foreign assigned head (tail.delimited rest),
            ih turns draft (by omega) (by omega) lacks distinct]

/-- Every layout of an envelope is read as that envelope, unless its payload is too deep. -/
theorem Spells.read
    {text : List UInt8} {envelope : Envelope}
    (spelled : Spells text envelope) :
    read text =
      if envelope.payload.nesting ≤ payloadDepth then .ok envelope else .error .tooDeep := by
  rcases spelled with ⟨blankBefore, inside, rearranged, blankAfter⟩
  rename_i before text after written
  have distinct : written.Pairwise fun left right => left.name ≠ right.name :=
    List.Pairwise.perm envelope.fields_distinct rearranged.symm Ne.symm
  have depth :
      Json.nestingMembers (written.map Field.member) = envelope.payload.nesting := by
    rw [Json.nestingMembers_perm (rearranged.map Field.member), nesting_fields]
  have enough : text.length ≤ (before ++ octet '\x7b' :: (text ++ after)).length := by
    simp only [List.length_append, List.length_cons]
    omega
  have members :=
    readMembers_fields inside _ .empty after enough enough
      (fun field _ => Draft.empty_lacks field) distinct
  rw [Envelope.read, Json.scanHead_blanks blankBefore, Json.scanHead_object, ok_bind]
  simp only [members, depth]
  by_cases shallow : envelope.payload.nesting ≤ payloadDepth
  · simp only [shallow, if_true, ok_bind, foldl_put_fields rearranged,
      Json.scanEnd_blanks blankAfter]
    rfl
  · simp only [shallow, if_false, error_bind]

/-! ## Judging an envelope -/

/-- Every layout of an envelope is judged by what it spells, unless its payload is too deep. -/
theorem Spells.decode
    {text : List UInt8} {envelope : Envelope}
    (spelled : Spells text envelope) :
    decode text =
      if envelope.payload.nesting ≤ payloadDepth then envelope.validate
      else .error (.malformed .tooDeep) := by
  rw [Envelope.decode, spelled.read]
  by_cases shallow : envelope.payload.nesting ≤ payloadDepth
  · simp only [if_pos shallow]
  · simp only [if_neg shallow]

/-- The version that is written is the only one that is understood. -/
theorem unsupported_iff (version : UInt32) :
    (version = 0 ∨ formatVersion < version) ↔ version ≠ 1 := by
  rw [formatVersion, UInt32.lt_iff_toNat_lt, Ne, ← UInt32.toNat_inj, ← UInt32.toNat_inj]
  change version.toNat = 0 ∨ 1 < version.toNat ↔ version.toNat ≠ 1
  omega

/--
What `decode` answers depends on the tag, the version, the checksum and the payload that a text
spells, and on nothing else about the text.
-/
theorem decode_layout
    {text : List UInt8} {tag : String} {version : UInt32} {checksum : String} {payload : Json}
    (spelled : Spells text ⟨tag, version, checksum, payload⟩)
    (shallow : payload.nesting ≤ 126) :
    decode text =
      if tag ≠ formatTag then .error (.unknownFormat tag)
      else if version ≠ 1 then .error (.unsupportedVersion version)
      else if checksum ≠ checksumOf payload then
        .error (.checksumMismatch checksum (checksumOf payload))
      else .ok payload := by
  have mismatch :
      (checksumOf payload ≠ checksum) = (checksum ≠ checksumOf payload) :=
    propext ⟨Ne.symm, Ne.symm⟩
  have within :
      (Envelope.mk tag version checksum payload).payload.nesting ≤ payloadDepth :=
    shallow
  rw [spelled.decode, if_pos within, validate]
  simp only [unsupported_iff, mismatch]

/-- A member that nobody asks for comes first, and the fields follow in reverse order. -/
theorem decode_layout_reversed :
    decode
        (Json.octets
            "\n\x7b\"note\":[[]],\"payload\" :\x7b\"b\":[],\"a\":true\x7d,\"checksum\":\"".toList ++
          (Json.quotedText (checksumOf (.object [("a", .bool true), ("b", .array [])])) ++
            Json.octets ",\"version\":1,\"format\":\"lattice-artifact\"\x7d".toList)) =
      .ok (.object [("a", .bool true), ("b", .array [])]) := by
  have named := Json.spellsQuoted_quotedText
  have newLine : Blanks [octet '\n'] := by decide
  have space : Blanks [octet ' '] := by decide
  have colon := Json.spellsColon_tight
  have comma := Json.separates_tight
  have note : IsText (Json.octets "[[]]".toList) .value :=
    .array
      (.item (.first Json.blanks_nil) (.array (.noItems true Json.blanks_nil))
        (.noItems false Json.blanks_nil))
  have payload :
      Json.Spells (Json.octets "\x7b\"b\":[],\"a\":true\x7d".toList)
        (.value (Field.payload (.object [("a", .bool true), ("b", .array [])])).json) :=
    .object
      (.member (.first Json.blanks_nil) (named "b") colon (.array (.noItems true Json.blanks_nil))
        (.member comma (named "a") colon (.bool true) (.noMembers false Json.blanks_nil)))
      (.swap _ _ _)
      (by decide)
  have version : Json.Spells [octet '1'] (.value (Field.version 1).json) := by
    have digits : Json.WholeDigits [octet '1'] := by decide
    have numeral : Json.SpellsNumeral _ ⟨false, [octet '1'], none, none⟩ :=
      .intro .absent digits .absent .absent
    exact .number numeral rfl
  have spelled (digest : String) :
      Spells
        (Json.octets
            "\n\x7b\"note\":[[]],\"payload\" :\x7b\"b\":[],\"a\":true\x7d,\"checksum\":\"".toList ++
          (Json.quotedText digest ++
            Json.octets ",\"version\":1,\"format\":\"lattice-artifact\"\x7d".toList))
        ⟨formatTag, 1, digest, .object [("a", .bool true), ("b", .array [])]⟩ := by
    have checksum : Json.Spells _ (.value (Field.checksum digest).json) :=
      .string (named digest)
    have format : Json.Spells _ (.value (Field.format formatTag).json) :=
      .string (named formatTag)
    have inside :=
      SpellsFields.other (.first Json.blanks_nil) (named "note") (by decide) colon note
        (.field comma (named "payload") (.intro space Json.blanks_nil) payload
          (.field comma (named "checksum") colon checksum
            (.field comma (named "version") colon version
              (.field comma (named "format") colon format (.done false Json.blanks_nil)))))
    have whole :=
      Spells.intro newLine inside
        (List.reverse_perm
          (fields ⟨formatTag, 1, digest, .object [("a", .bool true), ("b", .array [])]⟩))
        Json.blanks_nil
    -- What follows the digest must stand to the right of it before the two texts can be compared.
    simp only [List.append_assoc, List.cons_append, List.append_nil] at whole
    exact whole
  rw [decode_layout (spelled _) (by decide)]
  simp

end RunArchive.Envelope
