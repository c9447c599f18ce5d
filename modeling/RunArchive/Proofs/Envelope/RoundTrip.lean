import RunArchive.Proofs.Envelope.Layout
import RunArchive.Proofs.Json.Printing

/-!
# Sealed payloads are read back

What `encode` writes is one of the layouts of the envelope around a payload, the one without blanks
and with the fields in the order of their declaration.  So everything that is known about layouts
applies: the payload is read back, or it is nested too deep to be read at all.
-/

namespace RunArchive.Envelope

open RunArchive.Json (octet)

/-- The texts of fields, one behind the other, spell these fields. -/
theorem spellsFields_compact
    (first : Bool) {fields : List Field}
    (spelled :
      ∀ field ∈ fields,
        Json.Spells (Utf8.encode field.json.compact) (.value field.json)) :
    SpellsFields first
      (Utf8.encode (Json.listed first (Json.compactMembers (fields.map Field.member))) ++
        [octet '\x7d'])
      fields := by
  induction fields generalizing first with
  | nil => exact .done first Json.blanks_nil
  | cons field rest ih =>
      have head := spelled field List.mem_cons_self
      have tail := ih false fun other member => spelled other (List.mem_cons_of_mem _ member)
      have whole :=
        SpellsFields.field (Json.separates_listed first)
          (Json.spellsQuoted_quotedText field.name) Json.spellsColon_tight head tail
      rw [List.map_cons, Field.member, Json.compactMembers, Json.listed, Utf8.encode_append,
        Utf8.encode_append, Json.encode_memberText]
      simp only [List.append_assoc, List.cons_append] at whole ⊢
      exact whole

/-- What is written for a payload: its envelope without blanks, the fields in their order. -/
theorem encode_eq (payload : Json) :
    encode payload =
      octet '\x7b' ::
        (Utf8.encode
            (Json.listed true (Json.compactMembers ((around payload).fields.map Field.member))) ++
          [octet '\x7d']) := by
  have written : (around payload).toJson = .object ((around payload).fields.map Field.member) :=
    rfl
  rw [encode, Envelope.text, written, Json.encode_object]

theorem fits_version (version : UInt32) : Json.FitsInteger version.toNat := by
  have := version.toNat_lt
  unfold Json.FitsInteger
  omega

/-- What is written for a payload is a layout of the envelope around it. -/
theorem spells_encode
    {payload : Json} (normal : payload.WellFormed) (stable : payload.Stable) :
    Spells (encode payload) (around payload) := by
  have spelled :
      ∀ field ∈ (around payload).fields,
        Json.Spells (Utf8.encode field.json.compact) (.value field.json) := by
    intro field member
    simp only [fields, List.mem_cons, List.not_mem_nil, or_false] at member
    rcases member with rfl | rfl | rfl | rfl
    · exact Json.spells_compact _ trivial trivial
    · exact Json.spells_compact _ (fits_version _) trivial
    · exact Json.spells_compact _ trivial trivial
    · exact Json.spells_compact payload normal stable
  have whole :=
    Spells.intro Json.blanks_nil (spellsFields_compact true spelled) (.refl _) Json.blanks_nil
  rw [List.append_nil, List.nil_append, ← encode_eq] at whole
  exact whole

/-- The envelope around a payload is valid. -/
theorem validate_around (payload : Json) : (around payload).validate = .ok payload := by
  simp [validate, around, formatVersion]

/-- A payload that is not too deep is got back from its envelope. -/
theorem opens_shallow
    {payload : Json} (normal : payload.WellFormed) (stable : payload.Stable)
    (shallow : payload.nesting ≤ 126) :
    Codec.sealing.decode (encode payload) = .ok payload := by
  have decoded := (spells_encode normal stable).decode
  have within : (around payload).payload.nesting ≤ payloadDepth := shallow
  rw [if_pos within, validate_around] at decoded
  exact congrArg (Except.mapError Fault.reported) decoded

/--
Every payload can be sealed.  Opening it again gives that payload, integers and floats as they
were, if it is nested at most 126 deep, and otherwise reports that it is too deep.
-/
theorem round_trip
    {payload : Json} (normal : payload.WellFormed) (stable : payload.Stable) :
    Codec.sealing.encode payload = .ok (encode payload) ∧
      (payload.nesting ≤ 126 → Codec.sealing.decode (encode payload) = .ok payload) ∧
      (126 < payload.nesting →
        Codec.sealing.decode (encode payload) =
          .error (.malformed (Json.Fault.message .tooDeep))) := by
  refine ⟨rfl, opens_shallow normal stable, ?_⟩
  intro deep
  have decoded := (spells_encode normal stable).decode
  have beyond : ¬ (around payload).payload.nesting ≤ payloadDepth := Nat.not_le.mpr deep
  rw [if_neg beyond] at decoded
  exact congrArg (Except.mapError Fault.reported) decoded

/-- The float 1.5. -/
def threeHalves : Double := ⟨false, ⟨0x3FF8000000000000, by decide⟩⟩

theorem readsBack_threeHalves : Json.ReadsBack threeHalves := by
  have one : Json.WholeDigits [octet '1'] := by decide
  have five : Json.Digits [octet '5'] := by decide
  have spelled := Json.spellsNumeral_parts one (.present five) .absent
  have text : Utf8.encode threeHalves.text = [octet '1'] ++ ([octet '.', octet '5'] ++ []) := by
    decide +kernel
  rw [← text] at spelled
  have fifteen : Magnitude.ofRatio 15 1 = some ⟨0x402E000000000000, by decide⟩ := by
    decide +kernel
  have tenth :
      Json.scaleDown ⟨0x402E000000000000, by decide⟩ 1 = some threeHalves.magnitude := by
    rw [Json.scaleDown]
    decide +kernel
  have value : Json.scaled false 15 (-1) = .ok (.float threeHalves) := by
    have negative : (-1 : Int) < 0 := by decide
    simp only [Json.scaled, fifteen, Option.bind_eq_bind, Option.bind_some, if_pos negative]
    have steps : (-1 : Int).natAbs = 1 := rfl
    rw [steps, tenth]
    rfl
  exact (Json.readsBack_iff spelled).mpr value

/-- A float, an escaped character and a nested object come back as they were. -/
theorem round_trip_nested :
    Codec.sealing.decode
        (encode
          (.object
            [("a\n", .array [.number (.float threeHalves), .null]),
              ("b", .object [("x", .number (.integer (-1)))])])) =
      .ok
        (.object
          [("a\n", .array [.number (.float threeHalves), .null]),
            ("b", .object [("x", .number (.integer (-1)))])]) := by
  have stable :
      Json.Stable
        (.object
          [("a\n", .array [.number (.float threeHalves), .null]),
            ("b", .object [("x", .number (.integer (-1)))])]) :=
    ⟨⟨readsBack_threeHalves, trivial, trivial⟩, ⟨trivial, trivial⟩, trivial⟩
  exact (round_trip (by decide) stable).2.1 (by decide)

end RunArchive.Envelope
