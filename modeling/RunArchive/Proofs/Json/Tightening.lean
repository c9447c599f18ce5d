import Mathlib.Data.Bool.AllAny
import RunArchive.Proofs.Json.Canonical

/-!
# Texts without blanks

Blanks may stand between the tokens of a JSON text.  `tight` leaves them out and keeps everything
else: it goes through the text from left to right and knows at every character whether it is in a
string.

The indented text of a tree differs from the compact one in such blanks only, so both *show* the
same value, the normal form of the tree.  A text shows one value at most, since a compact text
belongs to one tree.  Nothing is read here, so all this holds for floats that reading would not
give back and for values that are nested too deep to be read.
-/

namespace RunArchive.Json

/-! ## Leaving blanks out -/

/-- Where in a text a character stands. -/
inductive Place where
  | outside
  /-- In a string. -/
  | inside
  /-- Behind a backslash in a string. -/
  | escape
deriving DecidableEq

/-- The place behind a character. -/
def Place.behind (place : Place) (character : Char) : Place :=
  match place with
  | .outside => if character = '"' then .inside else .outside
  | .inside =>
    if character = '"' then .outside else if character = '\\' then .escape else .inside
  | .escape => .inside

/-- Whether a character is a blank between tokens. -/
def isSpace (character : Char) : Bool :=
  character == ' ' || character == '\n' || character == '\t' || character == '\r'

/-- A text from this place on, without the blanks outside of strings. -/
def tightFrom (place : Place) : List Char → List Char
  | [] => []
  | character :: rest =>
    if place = .outside ∧ isSpace character then tightFrom place rest
    else character :: tightFrom (place.behind character) rest

/-- A text without the blanks outside of strings. -/
def tight (text : List Char) : List Char := tightFrom .outside text

/-- Without blanks a text becomes another one, whatever stands behind it. -/
def Tightens (text result : List Char) : Prop :=
  ∀ rest, tight (text ++ rest) = result ++ tight rest

theorem Tightens.tight_eq
    {text result : List Char} (tightens : Tightens text result) :
    tight text = result := by
  have whole := tightens []
  rw [List.append_nil] at whole
  rw [whole]
  exact List.append_nil result

theorem tightens_nil : Tightens [] [] := fun _ => rfl

theorem Tightens.append
    {left leftResult right rightResult : List Char}
    (first : Tightens left leftResult) (second : Tightens right rightResult) :
    Tightens (left ++ right) (leftResult ++ rightResult) := by
  intro rest
  rw [List.append_assoc, first, second, List.append_assoc]

theorem Tightens.cons
    {character : Char} {text result : List Char}
    (first : Tightens [character] [character]) (second : Tightens text result) :
    Tightens (character :: text) (character :: result) :=
  first.append second

/-- A blank disappears. -/
theorem Tightens.skip
    (character : Char) {text result : List Char}
    (space : isSpace character = true) (second : Tightens text result) :
    Tightens (character :: text) result := by
  intro rest
  rw [List.cons_append, tight, tightFrom, if_pos ⟨rfl, space⟩]
  exact second rest

/-- Whether a character is neither a blank nor a quote. -/
def Solid (character : Char) : Prop := isSpace character = false ∧ character ≠ '"'

instance (character : Char) : Decidable (Solid character) :=
  inferInstanceAs (Decidable (_ ∧ _))

theorem Solid.tightens
    {character : Char} (solid : Solid character) :
    Tightens [character] [character] := by
  intro rest
  have stays : ¬ (Place.outside = .outside ∧ isSpace character = true) := by
    rw [solid.1]
    exact fun both => nomatch both.2
  rw [List.singleton_append, tight, tightFrom, if_neg stays, Place.behind, if_neg solid.2]
  rfl

theorem tightens_solid
    {text : List Char} (solid : ∀ character ∈ text, Solid character) :
    Tightens text text := by
  induction text with
  | nil => exact tightens_nil
  | cons character text ih =>
      have tail := ih fun other member => solid other (List.mem_cons_of_mem _ member)
      exact (solid character List.mem_cons_self).tightens.cons tail

/-! ## Tokens -/

theorem behind_hexDigit
    {value : Nat} (small : value < 16) :
    Place.inside.behind (hexDigit value) = .inside := by
  have table : ∀ value : Fin 16, Place.inside.behind (hexDigit value.val) = .inside := by decide
  exact table ⟨value, small⟩

/-- Nothing is left out of a written character, and the string goes on behind it. -/
theorem tightFrom_escaped (character : Char) (rest : List Char) :
    tightFrom .inside (escaped character ++ rest) =
      escaped character ++ tightFrom .inside rest := by
  rw [escaped.eq_def]
  split
  case h_8 notQuote notBackslash _ _ _ _ _ =>
    split
    · rename_i control
      change '\\' :: 'u' :: '0' :: '0' :: hexDigit (character.toNat / 16) ::
          tightFrom (Place.inside.behind (hexDigit (character.toNat / 16)))
            (hexDigit (character.toNat % 16) :: rest) =
        _
      rw [behind_hexDigit (by omega)]
      change '\\' :: 'u' :: '0' :: '0' :: hexDigit (character.toNat / 16) ::
          hexDigit (character.toNat % 16) ::
            tightFrom (Place.inside.behind (hexDigit (character.toNat % 16))) rest =
        _
      rw [behind_hexDigit (by omega)]
      rfl
    · change character :: tightFrom (Place.inside.behind character) rest = _
      rw [Place.behind, if_neg notQuote, if_neg notBackslash]
      rfl
  all_goals rfl

theorem tightFrom_characters (characters rest : List Char) :
    tightFrom .inside (characters.flatMap escaped ++ rest) =
      characters.flatMap escaped ++ tightFrom .inside rest := by
  induction characters with
  | nil => rfl
  | cons character characters ih =>
      rw [List.flatMap_cons, List.append_assoc, tightFrom_escaped, ih, List.append_assoc]

/-- Nothing is left out of a written string. -/
theorem tightens_stringText (text : String) :
    Tightens (stringText text) (stringText text) := by
  intro rest
  rw [stringText, List.cons_append, List.append_assoc]
  change '"' :: tightFrom .inside (text.toList.flatMap escaped ++ (['"'] ++ rest)) = _
  rw [tightFrom_characters]
  change _ = '"' :: (text.toList.flatMap escaped ++ ['"'] ++ tight rest)
  rw [List.append_assoc]
  rfl

/-- The octets that numerals are made of. -/
def isNumeralOctet (o : UInt8) : Bool :=
  isDigit o || o == octet '-' || o == octet '+' || o == octet '.' || o == octet 'e' ||
    o == octet 'E'

theorem Digits.isNumeralOctet
    {digits : List UInt8} (digital : Digits digits) :
    ∀ o ∈ digits, isNumeralOctet o = true := by
  intro o member
  rw [Json.isNumeralOctet, digital.2 o member]
  rfl

theorem SpellsNumeral.isNumeralOctet
    {text : List UInt8} {numeral : Numeral} (spelled : SpellsNumeral text numeral) :
    ∀ o ∈ text, isNumeralOctet o = true := by
  rcases numeral with ⟨negative, wholeDigits, fractionDigits, exponentDigits⟩
  rcases spelled with ⟨signed, whole, fractional, scaled⟩
  simp only [List.forall_mem_append]
  refine ⟨?_, whole.1.isNumeralOctet, ?_, ?_⟩
  · cases signed with
    | absent => exact List.forall_mem_nil _
    | present => exact List.forall_mem_singleton.mpr rfl
  · cases fractional with
    | absent => exact List.forall_mem_nil _
    | present digital => exact List.forall_mem_cons.mpr ⟨rfl, digital.isNumeralOctet⟩
  · cases scaled with
    | absent => exact List.forall_mem_nil _
    | present marked scaleSigned digital =>
        refine List.forall_mem_cons.mpr
          ⟨?_, List.forall_mem_append.mpr ⟨?_, digital.isNumeralOctet⟩⟩
        · rcases marked with rfl | rfl <;> rfl
        · cases scaleSigned with
          | absent => exact List.forall_mem_nil _
          | plus => exact List.forall_mem_singleton.mpr rfl
          | minus => exact List.forall_mem_singleton.mpr rfl

/-- No character of a written number is a blank or a quote. -/
theorem solid_number
    (number : Number) :
    ∀ character ∈ number.text, Solid character := by
  rcases number_spelled number with ⟨numeral, spelled, _⟩
  intro character member
  have absent (other : Char) (ascii : other.toNat ≤ 0x7F)
      (foreign : isNumeralOctet (octet other) = false) :
      character ≠ other := by
    rintro rfl
    have within : octet character ∈ Utf8.encode number.text := by
      refine List.mem_flatMap.mpr ⟨character, member, ?_⟩
      rw [encodeChar_eq_octet ascii]
      exact List.mem_singleton_self _
    rw [spelled.isNumeralOctet _ within] at foreign
    cases foreign
  have noSpace : isSpace character = false := by
    simp [isSpace, absent ' ' (by decide) (by decide), absent '\n' (by decide) (by decide),
      absent '\t' (by decide) (by decide), absent '\r' (by decide) (by decide)]
  exact ⟨noSpace, absent '"' (by decide) (by decide)⟩

/-! ## Lists -/

/-- Texts with commas between them, on lines of their own or not. -/
theorem tightens_commaSeparated
    {texts results : List (List Char)} (tighten : List.Forall₂ Tightens texts results) :
    Tightens (commaSeparated texts) (commaSeparated results) := by
  induction tighten with
  | nil => exact tightens_nil
  | cons head tail ih =>
      cases tail with
      | nil => exact head
      | cons next others =>
          have comma : Tightens [','] [','] := Solid.tightens (by decide)
          exact head.append (comma.cons ih)

theorem tightens_newLine (depth : Nat) : Tightens (newLine depth) [] := by
  apply Tightens.skip '\n' rfl
  induction 2 * depth with
  | zero => exact tightens_nil
  | succ count ih => exact ih.skip ' ' rfl

theorem tightens_lines
    (depth : Nat) {texts results : List (List Char)}
    (tighten : List.Forall₂ Tightens texts results) :
    Tightens (lines depth texts) (commaSeparated results) := by
  induction tighten with
  | nil => exact tightens_nil
  | cons head tail ih =>
      have first := (tightens_newLine depth).append head
      cases tail with
      | nil => exact first
      | cons next others =>
          have comma : Tightens [','] [','] := Solid.tightens (by decide)
          exact first.append (comma.cons ih)

section Brackets

variable {opening closing : Char} (opens : Solid opening) (closes : Solid closing)
  {texts results : List (List Char)} (tighten : List.Forall₂ Tightens texts results)
include opens closes tighten

theorem tightens_bracketed :
    Tightens (opening :: (commaSeparated texts ++ [closing]))
      (opening :: (commaSeparated results ++ [closing])) :=
  opens.tightens.cons ((tightens_commaSeparated tighten).append closes.tightens)

theorem tightens_block (depth : Nat) :
    Tightens (block opening closing depth texts)
      (opening :: (commaSeparated results ++ [closing])) := by
  unfold block
  cases tighten with
  | nil => exact opens.tightens.cons closes.tightens
  | cons head tail =>
      rw [List.isEmpty_cons, if_neg Bool.false_ne_true]
      have inside := tightens_lines (depth + 1) (.cons head tail)
      have behind := (tightens_newLine depth).append closes.tightens
      have whole := opens.tightens.cons (inside.append behind)
      rw [List.nil_append, ← List.append_assoc] at whole
      exact whole

end Brackets

/-! ## Values -/

theorem solid_nullText : ∀ character ∈ nullText, Solid character :=
  List.all_iff_forall_prop.mp (by decide)

theorem solid_boolText
    (value : Bool) :
    ∀ character ∈ boolText value, Solid character := by
  cases value with
  | true => exact List.all_iff_forall_prop.mp (by decide)
  | false => exact List.all_iff_forall_prop.mp (by decide)

mutual

/-- A compact text has no blanks outside of strings. -/
theorem tightens_compact :
    (value : Json) → Tightens value.compact value.compact
  | .null => tightens_solid solid_nullText
  | .bool value => tightens_solid (solid_boolText value)
  | .number value => tightens_solid (solid_number value)
  | .string text => tightens_stringText text
  | .array items => tightens_bracketed (by decide) (by decide) (tightens_compactItems items)
  | .object members =>
      tightens_bracketed (by decide) (by decide) (tightens_compactMembers members)

theorem tightens_compactItems :
    (items : List Json) → List.Forall₂ Tightens (compactItems items) (compactItems items)
  | [] => .nil
  | item :: rest => .cons (tightens_compact item) (tightens_compactItems rest)

theorem tightens_compactMembers :
    (members : List (String × Json)) →
      List.Forall₂ Tightens (compactMembers members) (compactMembers members)
  | [] => .nil
  | (key, value) :: rest =>
      have colon : Tightens [':'] [':'] := Solid.tightens (by decide)
      .cons ((tightens_stringText key).append (colon.cons (tightens_compact value)))
        (tightens_compactMembers rest)

end

mutual

/-- Without blanks an indented text is the compact one. -/
theorem tightens_prettyAt (depth : Nat) :
    (value : Json) → Tightens (value.prettyAt depth) value.compact
  | .null => tightens_solid solid_nullText
  | .bool value => tightens_solid (solid_boolText value)
  | .number value => tightens_solid (solid_number value)
  | .string text => tightens_stringText text
  | .array items =>
      tightens_block (by decide) (by decide) (tightens_prettyItems (depth + 1) items) depth
  | .object members =>
      tightens_block (by decide) (by decide) (tightens_prettyMembers (depth + 1) members) depth

theorem tightens_prettyItems (depth : Nat) :
    (items : List Json) → List.Forall₂ Tightens (prettyItems depth items) (compactItems items)
  | [] => .nil
  | item :: rest => .cons (tightens_prettyAt depth item) (tightens_prettyItems depth rest)

theorem tightens_prettyMembers (depth : Nat) :
    (members : List (String × Json)) →
      List.Forall₂ Tightens (prettyMembers depth members) (compactMembers members)
  | [] => .nil
  | (key, value) :: rest =>
      have colon : Tightens [':'] [':'] := Solid.tightens (by decide)
      have behind := (tightens_prettyAt depth value).skip ' ' rfl
      .cons ((tightens_stringText key).append (colon.cons behind))
        (tightens_prettyMembers depth rest)

end

/-! ## What a text shows -/

/-- A text shows a value: without blanks it is the compact text of a tree that denotes the value. -/
def Shows (text : String) (value : Json) : Prop :=
  ∃ tree : Json, tight text.toList = tree.compact ∧ tree.normalize = value

/-- The end of a line behind a text makes no difference. -/
theorem shows_line
    {text : List Char} {value : Json} (tightens : Tightens text value.compact) :
    Shows (String.ofList text ++ "\n") value.normalize := by
  refine ⟨value, ?_, rfl⟩
  have whole := (tightens.append (tightens_nil.skip '\n' rfl)).tight_eq
  rw [List.append_nil] at whole
  rw [String.toList_append, String.toList_ofList]
  exact whole

theorem shows_pretty (value : Json) :
    Shows (String.ofList value.pretty ++ "\n") value.normalize :=
  shows_line (tightens_prettyAt 0 value)

theorem shows_compact (value : Json) :
    Shows (String.ofList value.compact ++ "\n") value.normalize :=
  shows_line (tightens_compact value)

end RunArchive.Json
