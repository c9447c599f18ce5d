import RunArchive.Proofs.Json.NumberText
import RunArchive.Proofs.Json.Reading

/-!
# Printed values are spellings

The compact text of a value in normal form spells that value.  For null values, booleans, integers
and strings this is so whatever they are.  A float need not be read back from its own text, since
reading rounds twice; `Stable` values are those all of whose floats are.

The proof is one recursion over the tree.  It uses another form of the text of a list, `listed`, in
which every comma belongs to the item behind it.
-/

namespace RunArchive.Json

/-! ## Stable floats -/

/-- A float that reading its text gives back. -/
def ReadsBack (float : Double) : Prop :=
  read 0 (Utf8.encode float.text) = .ok (.number (.float float))

mutual

/-- Whether all floats of a tree are read back from their texts. -/
def Stable : Json → Prop
  | .null => True
  | .bool _ => True
  | .number (.integer _) => True
  | .number (.float value) => ReadsBack value
  | .string _ => True
  | .array items => StableItems items
  | .object members => StableMembers members

/-- Whether all floats of an array are read back from their texts. -/
def StableItems : List Json → Prop
  | [] => True
  | item :: rest => Stable item ∧ StableItems rest

/-- Whether all floats of an object are read back from their texts. -/
def StableMembers : List (String × Json) → Prop
  | [] => True
  | (_, value) :: rest => Stable value ∧ StableMembers rest

end

/-- A numeral is read to the value that it has, if it has one. -/
theorem read_numeral
    {text : List UInt8} {numeral : Numeral}
    (spelled : SpellsNumeral text numeral) :
    read 0 text = numeral.number >>= fun number => .ok (.number number) := by
  have scanned := scanHead_numeral spelled delimited_nil
  rw [List.append_nil] at scanned
  rw [read, readValue_eq, scanned]
  cases numeral.number <;> rfl

/-- A float is read back if and only if it is the value of the numeral that its text spells. -/
theorem readsBack_iff
    {float : Double} {numeral : Numeral}
    (spelled : SpellsNumeral (Utf8.encode float.text) numeral) :
    ReadsBack float ↔ numeral.number = .ok (.float float) := by
  rw [ReadsBack, read_numeral spelled]
  cases numeral.number with
  | error fault => simp
  | ok number => simp

theorem spells_integer
    {value : Int} (fits : FitsInteger value) :
    Spells (Utf8.encode (signedDigitsOf value)) (.value (.number (.integer value))) :=
  .number (integer_spelled value) (number_integer fits)

theorem spells_float
    {value : Double} (readsBack : ReadsBack value) :
    Spells (Utf8.encode value.text) (.value (.number (.float value))) := by
  rcases float_spelled value with ⟨numeral, spelled, _⟩
  exact .number spelled ((readsBack_iff spelled).mp readsBack)

theorem spells_string (text : String) :
    Spells (Utf8.encode (stringText text)) (.value (.string text)) := by
  rw [encode_stringText]
  exact .string (spellsQuoted_quotedText text)

/-! ## Lists of texts -/

/-- Texts of which each has a comma before it, except for one that comes first. -/
def listed (first : Bool) : List (List Char) → List Char
  | [] => []
  | text :: rest => (if first then [] else [',']) ++ (text ++ listed false rest)

theorem commaSeparated_eq (texts : List (List Char)) :
    commaSeparated texts = listed true texts := by
  induction texts with
  | nil => rfl
  | cons text rest ih =>
      cases rest with
      | nil =>
          rw [commaSeparated, listed, listed, List.append_nil]
          rfl
      | cons next rest =>
          rw [commaSeparated, ih]
          · rfl
          · exact List.cons_ne_nil _ _

theorem listed_false_append (texts more : List (List Char)) :
    listed false (texts ++ more) = listed false texts ++ listed false more := by
  induction texts with
  | nil => rfl
  | cons text texts ih =>
      rw [List.cons_append, listed, ih, listed, List.append_assoc, List.append_assoc]

/-- A list of texts that is not empty can be continued by others. -/
theorem listed_append
    (first : Bool) (text : List Char) (texts more : List (List Char)) :
    listed first (text :: texts ++ more) = listed first (text :: texts) ++ listed false more := by
  rw [List.cons_append, listed, listed_false_append, listed, List.append_assoc, List.append_assoc]

theorem separates_listed (first : Bool) :
    Separates first (Utf8.encode (if first then [] else [','])) := by
  cases first with
  | false => exact separates_tight
  | true => exact .first blanks_nil

theorem encode_memberText (key : String) (text : List Char) :
    Utf8.encode (memberText (key, text)) =
      octet '"' :: (quotedText key ++ ([octet ':'] ++ Utf8.encode text)) := by
  rw [memberText, Utf8.encode_append, encode_stringText]
  rfl

theorem encode_array (items : List Json) :
    Utf8.encode (compact (.array items)) =
      octet '[' :: (Utf8.encode (listed true (compactItems items)) ++ [octet ']']) := by
  rw [compact, commaSeparated_eq, Utf8.encode_cons, Utf8.encode_append]
  rfl

theorem encode_object (members : List (String × Json)) :
    Utf8.encode (compact (.object members)) =
      octet '\x7b' :: (Utf8.encode (listed true (compactMembers members)) ++ [octet '\x7d']) := by
  rw [compact, commaSeparated_eq, Utf8.encode_cons, Utf8.encode_append]
  rfl

/-! ## The recursion -/

mutual

/-- The compact text of a value spells that value. -/
theorem spells_compact :
    (value : Json) → value.WellFormed → value.Stable →
      Spells (Utf8.encode value.compact) (.value value)
  | .null, _, _ => .null
  | .bool true, _, _ => .bool true
  | .bool false, _, _ => .bool false
  | .number (.integer _), fits, _ => spells_integer fits
  | .number (.float _), _, stable => spells_float stable
  | .string text, _, _ => spells_string text
  | .array items, normal, stable => by
      rw [encode_array]
      exact .array (spells_compactItems true items normal stable)
  | .object members, normal, stable => by
      rw [encode_object]
      exact .object (spells_compactMembers true members normal.2 stable) (.refl _) normal.1

theorem spells_compactItems (first : Bool) :
    (items : List Json) → WellFormedItems items → StableItems items →
      Spells (Utf8.encode (listed first (compactItems items)) ++ [octet ']'])
        (.items first items)
  | [], _, _ => .noItems first blanks_nil
  | item :: rest, normal, stable => by
      have head := spells_compact item normal.1 stable.1
      have tail := spells_compactItems false rest normal.2 stable.2
      rw [compactItems, listed, Utf8.encode_append, Utf8.encode_append, List.append_assoc,
        List.append_assoc]
      exact .item (separates_listed first) head tail

theorem spells_compactMembers (first : Bool) :
    (members : List (String × Json)) → WellFormedMembers members → StableMembers members →
      Spells (Utf8.encode (listed first (compactMembers members)) ++ [octet '\x7d'])
        (.members first members)
  | [], _, _ => .noMembers first blanks_nil
  | (key, value) :: rest, normal, stable => by
      have head := spells_compact value normal.1 stable.1
      have tail := spells_compactMembers false rest normal.2 stable.2
      have spelled :=
        Spells.member (separates_listed first) (spellsQuoted_quotedText key) spellsColon_tight
          head tail
      rw [compactMembers, listed, Utf8.encode_append, Utf8.encode_append, encode_memberText]
      simp only [List.append_assoc, List.cons_append] at spelled ⊢
      exact spelled

end

end RunArchive.Json
