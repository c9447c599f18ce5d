import RunArchive.Json.Record
import RunArchive.Proofs.Json.NormalForm
import RunArchive.Proofs.Json.Scanning
import RunArchive.Proofs.Json.Typed

/-!
# Reading spelled records

A record whose members are spelled, in any order and with blanks wherever they may stand, is read to
the values of its fields.  The same holds of the object that the text denotes: the values found by
`readFields` are those found in the text, so it does not matter which way a record is read.

The step lemma is `readMembers_turn`, one turn of the loop over members, and the run lemma
`readMembers_known` follows by induction on the members that are left.
-/

namespace RunArchive.Json

/-! ## Fields -/

/-- A field takes a value from any of its spellings. -/
def TextField.Reads (field : TextField) (value : Json) : Prop :=
  ∀ {blanks text rest : List UInt8},
    Blanks blanks → Spells text (.value value) → Delimited rest →
      field.read (blanks ++ (text ++ rest)) = .ok (value, rest)

/-- A scalar shows completely what it is. -/
theorem value_shape {value : Json} (flat : value.nesting = 0) : value.shape.value = value := by
  cases value with
  | array _ => exact absurd flat (Nat.succ_ne_zero _)
  | object _ => exact absurd flat (Nat.succ_ne_zero _)
  | _ => rfl

theorem reads_scalar
    {α : Type} {reader : Json → Except Mismatch α} {value : Json} {meaning : α} (name : String)
    (flat : value.nesting = 0) (accepted : reader value = .ok meaning) :
    (TextField.scalar name reader).Reads value := by
  intro blanks text rest blank spelled delimited
  simp only [TextField.scalar, readScalar, scanHead_blanks blank,
    scanHead_scalar spelled flat delimited, ok_bind, value_shape flat, accepted, orFault]
  rfl

theorem reads_named
    {α : Type} {admitted : List (String × α)} {text : String} {meaning : α} (name : String)
    (accepted : readName admitted (.string text) = .ok meaning) :
    (TextField.named name admitted).Reads (.string text) := by
  intro blanks octets rest blank spelled _
  cases spelled with
  | string quoted =>
      change scanName admitted _ = _
      rw [scanName, skipBlanks_append blank, List.cons_append, skipBlanks_cons (by decide)]
      simp only [if_true, scanString_quoted rest quoted, ok_bind, accepted, orFault]
      rfl

/-! ## Members -/

/-- A member is a field that accepts its value and takes it from a text. -/
def Known (fields : List TextField) (member : String × Json) : Prop :=
  ∃ field : TextField, fields.find? (·.name == member.1) = some field ∧
    field.check member.2 = .ok () ∧ field.Reads member.2

theorem known_scalar
    {α : Type} {fields : List TextField} {key name : String}
    {reader : Json → Except Mismatch α} {value : Json} {meaning : α}
    (isField : fields.find? (·.name == key) = some (.scalar name reader))
    (flat : value.nesting = 0) (accepted : reader value = .ok meaning) :
    Known fields (key, value) :=
  ⟨_, isField, check_of name accepted, reads_scalar name flat accepted⟩

theorem known_named
    {α : Type} {fields : List TextField} {key name : String}
    {admitted : List (String × α)} {text : String} {meaning : α}
    (isField : fields.find? (·.name == key) = some (.named name admitted))
    (accepted : readName admitted (.string text) = .ok meaning) :
    Known fields (key, .string text) :=
  ⟨_, isField, check_of name accepted, reads_named name accepted⟩

section Members

variable {fields : List TextField} {found : List (String × Json)} {key : String} {value : Json}

/-- A field that has not come before is added to those found. -/
theorem readFieldMember_known
    {colon text rest : List UInt8}
    (known : Known fields (key, value)) (fresh : lookup key found = none)
    (assigned : SpellsColon colon) (spelled : Spells text (.value value))
    (delimited : Delimited rest) :
    readFieldMember fields key found (colon ++ (text ++ rest)) =
      .ok ((key, value) :: found, rest) := by
  rcases known with ⟨field, isField, -, reads⟩
  rcases scanColon_spelled (text ++ rest) assigned with ⟨behind, blank, colonRead⟩
  simp only [readFieldMember, isField, fresh, colonRead, ok_bind,
    reads blank spelled delimited]
  rfl

/-- One turn of the loop over members adds a field. -/
theorem readMembers_turn
    {first : Bool} {separator keyText colon text rest : List UInt8} (turns : Nat)
    (known : Known fields (key, value)) (fresh : lookup key found = none)
    (separated : Separates first separator) (named : SpellsQuoted keyText key)
    (assigned : SpellsColon colon) (spelled : Spells text (.value value))
    (delimited : Delimited rest) :
    readMembers (readFieldMember fields) (turns + 1) first found
        (separator ++ octet '"' :: (keyText ++ (colon ++ (text ++ rest)))) =
      readMembers (readFieldMember fields) turns false ((key, value) :: found) rest := by
  rw [readMembers, nextKey_separated _ separated]
  simp only [ok_bind, scanString_quoted _ named,
    readFieldMember_known known fresh assigned spelled delimited]

end Members

/-- Fields with different keys are found one by one. -/
theorem readMembers_known
    {fields : List TextField} {members : List (String × Json)}
    (known : ∀ member ∈ members, Known fields member)
    (distinct : DistinctKeys members)
    {first : Bool} {text : List UInt8} (spelled : Spells text (.members first members))
    {turns : Nat} (enough : text.length ≤ turns)
    {found : List (String × Json)} (fresh : ∀ member ∈ members, lookup member.1 found = none)
    (rest : List UInt8) :
    readMembers (readFieldMember fields) turns first found (text ++ rest) =
      .ok (members.reverse ++ found, rest) := by
  induction members generalizing first text turns found with
  | nil =>
      cases spelled with
      | noMembers _ blank =>
          cases turns with
          | zero =>
              rw [List.length_append, List.length_singleton] at enough
              omega
          | succ turns =>
              rw [readMembers, List.append_assoc, List.singleton_append,
                nextKey_end first rest blank]
              rfl
  | cons member members ih =>
      rcases member with ⟨key, value⟩
      have apart := List.pairwise_cons.mp distinct
      cases spelled with
      | @member separator keyText colon text tailText _ _ _ _ separated named assigned head tail =>
          simp only [List.length_append, List.length_cons] at enough
          have tailFresh :
              ∀ other ∈ members, lookup other.1 ((key, value) :: found) = none := by
            intro other later
            rw [lookup, if_neg (apart.1 other later)]
            exact fresh other (List.mem_cons_of_mem _ later)
          cases turns with
          | zero => omega
          | succ turns =>
              have turn :=
                readMembers_turn turns (known _ List.mem_cons_self) (fresh _ List.mem_cons_self)
                  separated named assigned head (tail.delimited_members rest)
              simp only [List.append_assoc, List.cons_append, turn]
              rw [ih (fun other later => known other (List.mem_cons_of_mem _ later)) apart.2 tail
                (by omega) tailFresh, List.reverse_cons, List.append_assoc, List.singleton_append]

/-- A spelled record is read to what becomes of its fields. -/
theorem readRecord_object
    {α : Type} (record : String) {fields : List TextField}
    {complete : List (String × Json) → Except Mismatch α} {members : List (String × Json)}
    {meaning : α}
    (known : ∀ member ∈ members, Known fields member)
    (distinct : DistinctKeys members)
    (completed : complete members.reverse = .ok meaning)
    {before text after : List UInt8} (blankBefore : Blanks before) (blankAfter : Blanks after)
    (spelled : Spells text (.members true members)) :
    readRecord record fields complete (before ++ octet '\x7b' :: (text ++ after)) =
      .ok meaning := by
  have enough : text.length ≤ (before ++ octet '\x7b' :: (text ++ after)).length := by
    simp only [List.length_append, List.length_cons]
    omega
  have fresh : ∀ member ∈ members, lookup member.1 [] = none := fun _ _ => rfl
  rw [readRecord, scanHead_blanks blankBefore, scanHead_object, ok_bind]
  simp only [readMembers_known known distinct spelled enough fresh after, ok_bind,
    List.append_nil, completed, orFault, scanEnd_blanks blankAfter]
  rfl

/-! ## Records as values -/

/-- All members of an object that are fields are found. -/
theorem checkMembers_known
    {fields : List TextField} {members : List (String × Json)}
    (known : ∀ member ∈ members, Known fields member) :
    checkMembers (fields.map TextField.toField) members = .ok members := by
  induction members with
  | nil => rfl
  | cons member members ih =>
      rcases member with ⟨key, value⟩
      rcases known _ List.mem_cons_self with ⟨field, isField, accepts, -⟩
      have same :
          (fields.map TextField.toField).find? (·.name == key) = some field.toField := by
        rw [List.find?_map]
        exact congrArg (Option.map TextField.toField) isField
      have rest := ih fun other later => known other (List.mem_cons_of_mem _ later)
      simp only [checkMembers, same, accepts, ok_bind, rest]
      rfl

end RunArchive.Json
