import RunArchive.Proofs.Json.Printing

/-!
# Values printed on several lines are spellings

The text of a value on several lines spells that value, as its compact text does; only the blanks
between its tokens are others.

Here too the text of a list has another form, `lined`, in which the line break and the comma before
an item belong to the item.
-/

namespace RunArchive.Json

/-! ## Lines -/

theorem blanks_newLine (depth : Nat) : Blanks (Utf8.encode (newLine depth)) := by
  rw [newLine, Utf8.encode_cons]
  induction 2 * depth with
  | zero => decide
  | succ count ih =>
      intro o member
      rw [List.replicate_succ, Utf8.encode_cons] at member
      rcases List.mem_append.mp member with line | rest
      · exact ih o (List.mem_append_left _ line)
      rcases List.mem_append.mp rest with space | spaces
      · rw [List.mem_singleton.mp space]
        decide
      · exact ih o (List.mem_append_right _ spaces)

/-- Texts on lines of their own, of which each has a comma before it, except for a first one. -/
def lined (depth : Nat) (first : Bool) : List (List Char) → List Char
  | [] => []
  | text :: rest =>
    ((if first then [] else [',']) ++ newLine depth) ++ (text ++ lined depth false rest)

theorem lines_eq (depth : Nat) (texts : List (List Char)) :
    lines depth texts = lined depth true texts := by
  induction texts with
  | nil => rfl
  | cons text rest ih =>
      cases rest with
      | nil =>
          rw [lines, lined, lined, List.append_nil]
          rfl
      | cons next rest =>
          rw [lines, ih]
          · simp [lined]
          · exact List.cons_ne_nil _ _

theorem separates_lined (depth : Nat) (first : Bool) :
    Separates first (Utf8.encode ((if first then [] else [',']) ++ newLine depth)) := by
  cases first with
  | false => exact .later blanks_nil (blanks_newLine depth)
  | true => exact .first (blanks_newLine depth)

/-- A block that is not empty. -/
theorem block_cons
    (opening closing : Char) (depth : Nat) (text : List Char) (texts : List (List Char)) :
    Utf8.encode (block opening closing depth (text :: texts)) =
      String.utf8EncodeChar opening ++
        (Utf8.encode (lined (depth + 1) true (text :: texts)) ++
          (Utf8.encode (newLine depth) ++ String.utf8EncodeChar closing)) := by
  have single : Utf8.encode [closing] = String.utf8EncodeChar closing := by
    rw [Utf8.encode_cons, Utf8.encode_nil, List.append_nil]
  rw [block, List.isEmpty_cons, if_neg Bool.false_ne_true, lines_eq, Utf8.encode_cons,
    Utf8.encode_append, Utf8.encode_append, single, List.append_assoc]

/-! ## The recursion -/

mutual

/-- The text of a value on several lines spells that value. -/
theorem spells_prettyAt (depth : Nat) :
    (value : Json) → value.WellFormed → value.Stable →
      Spells (Utf8.encode (value.prettyAt depth)) (.value value)
  | .null, _, _ => .null
  | .bool true, _, _ => .bool true
  | .bool false, _, _ => .bool false
  | .number (.integer _), fits, _ => spells_integer fits
  | .number (.float _), _, stable => spells_float stable
  | .string text, _, _ => spells_string text
  | .array [], _, _ => .array (.noItems true blanks_nil)
  | .array (item :: rest), normal, stable => by
      rw [prettyAt, prettyItems, block_cons]
      exact .array (spells_prettyItems (depth + 1) (blanks_newLine depth) true _ normal stable)
  | .object [], _, _ => .object (.noMembers true blanks_nil) (.refl _) .nil
  | .object ((key, value) :: rest), normal, stable => by
      rw [prettyAt, prettyMembers, block_cons]
      exact .object
        (spells_prettyMembers (depth + 1) (blanks_newLine depth) true _ normal.2 stable)
        (.refl _) normal.1

theorem spells_prettyItems
    (depth : Nat) {blanks : List UInt8} (blank : Blanks blanks) (first : Bool) :
    (items : List Json) → WellFormedItems items → StableItems items →
      Spells
        (Utf8.encode (lined depth first (prettyItems depth items)) ++ (blanks ++ [octet ']']))
        (.items first items)
  | [], _, _ => .noItems first blank
  | item :: rest, normal, stable => by
      have head := spells_prettyAt depth item normal.1 stable.1
      have tail := spells_prettyItems depth blank false rest normal.2 stable.2
      rw [prettyItems, lined, Utf8.encode_append, Utf8.encode_append _ (lined _ _ _),
        List.append_assoc, List.append_assoc]
      exact .item (separates_lined depth first) head tail

theorem spells_prettyMembers
    (depth : Nat) {blanks : List UInt8} (blank : Blanks blanks) (first : Bool) :
    (members : List (String × Json)) → WellFormedMembers members → StableMembers members →
      Spells
        (Utf8.encode (lined depth first (prettyMembers depth members)) ++
          (blanks ++ [octet '\x7d']))
        (.members first members)
  | [], _, _ => .noMembers first blank
  | (key, value) :: rest, normal, stable => by
      have head := spells_prettyAt depth value normal.1 stable.1
      have tail := spells_prettyMembers depth blank false rest normal.2 stable.2
      have colon : SpellsColon [octet ':', octet ' '] := .intro blanks_nil (by decide)
      have spelled :=
        Spells.member (separates_lined depth first) (spellsQuoted_quotedText key) colon head tail
      have named (text : List Char) :
          Utf8.encode (stringText key ++ ':' :: ' ' :: text) =
            octet '"' :: (quotedText key ++ ([octet ':', octet ' '] ++ Utf8.encode text)) := by
        rw [Utf8.encode_append, encode_stringText]
        rfl
      rw [prettyMembers, lined, Utf8.encode_append, Utf8.encode_append _ (lined _ _ _), named]
      simp only [List.append_assoc, List.cons_append] at spelled ⊢
      exact spelled

end

end RunArchive.Json
