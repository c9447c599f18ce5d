import RunArchive.Json.Printer
import RunArchive.Proofs.Json.Spelling
import RunArchive.Proofs.Text.Utf8

/-!
# Written strings are spellings

A written string spells the string that it was written for.  A character that must not stand in a
JSON string is escaped by a letter of its own or, if it is another control character, by four
hexadecimal digits; every other character stands for itself.
-/

namespace RunArchive.Json

/-! ## ASCII texts -/

/-- A text has ASCII characters only. -/
def Ascii (text : List Char) : Prop := ∀ character ∈ text, character.toNat ≤ 0x7F

instance (text : List Char) : Decidable (Ascii text) :=
  List.decidableBAll _ text

theorem Ascii.append
    {left right : List Char}
    (leftAscii : Ascii left) (rightAscii : Ascii right) :
    Ascii (left ++ right) := by
  intro character member
  rcases List.mem_append.mp member with inLeft | inRight
  · exact leftAscii character inLeft
  · exact rightAscii character inRight

theorem Ascii.cons
    {character : Char} {text : List Char}
    (headAscii : character.toNat ≤ 0x7F) (tailAscii : Ascii text) :
    Ascii (character :: text) := by
  intro other member
  rcases List.mem_cons.mp member with equal | later
  · rw [equal]
    exact headAscii
  · exact tailAscii other later

theorem Ascii.of_sublist
    {part text : List Char}
    (ascii : Ascii text) (within : part.Sublist text) :
    Ascii part :=
  fun character member => ascii character (within.subset member)

/-- The octet of an ASCII character is its encoding. -/
theorem encodeChar_eq_octet
    {character : Char} (ascii : character.toNat ≤ 0x7F) :
    String.utf8EncodeChar character = [octet character] :=
  Utf8.utf8EncodeChar_one ascii

theorem encode_eq_octets
    {text : List Char} (ascii : Ascii text) :
    Utf8.encode text = octets text := by
  induction text with
  | nil => rfl
  | cons character text ih =>
      have tailAscii : Ascii text := ascii.of_sublist (List.sublist_cons_self _ _)
      rw [Utf8.encode_cons, encodeChar_eq_octet (ascii character List.mem_cons_self),
        ih tailAscii]
      rfl

/-! ## Characters and strings -/

/-- The four digits of a control character are those of its code. -/
theorem codeUnit?_hexDigit
    {code : Nat} (control : code < 0x20) :
    codeUnit? (octet '0') (octet '0') (octet (hexDigit (code / 16)))
        (octet (hexDigit (code % 16))) =
      some code := by
  have table :
      ∀ code : Fin 0x20,
        codeUnit? (octet '0') (octet '0') (octet (hexDigit (code.val / 16)))
            (octet (hexDigit (code.val % 16))) =
          some code.val := by
    decide
  exact table ⟨code, control⟩

theorem hexDigit_ascii
    {value : Nat} (small : value < 16) :
    (hexDigit value).toNat ≤ 0x7F := by
  have table : ∀ value : Fin 16, (hexDigit value.val).toNat ≤ 0x7F := by decide
  exact table ⟨value, small⟩

/-- A control character is spelled by the four digits of its code. -/
theorem spellsCharacter_control
    {character : Char} (control : character.toNat < 0x20) :
    SpellsCharacter
      (Utf8.encode
        ['\\', 'u', '0', '0', hexDigit (character.toNat / 16), hexDigit (character.toNat % 16)])
      character := by
  have high : (hexDigit (character.toNat / 16)).toNat ≤ 0x7F := hexDigit_ascii (by omega)
  have low : (hexDigit (character.toNat % 16)).toNat ≤ 0x7F := hexDigit_ascii (by omega)
  have text :
      Utf8.encode
          ['\\', 'u', '0', '0', hexDigit (character.toNat / 16),
            hexDigit (character.toNat % 16)] =
        [octet '\\', octet 'u', octet '0', octet '0', octet (hexDigit (character.toNat / 16)),
          octet (hexDigit (character.toNat % 16))] := by
    apply encode_eq_octets
    intro other member
    simp only [List.mem_cons, List.not_mem_nil, or_false] at member
    rcases member with rfl | rfl | rfl | rfl | rfl | rfl
    · decide
    · decide
    · decide
    · decide
    · exact high
    · exact low
  have notLead : isLead character.toNat = false := by
    simp only [isLead, Bool.and_eq_false_iff, decide_eq_false_iff_not]
    omega
  have notTrail : isTrail character.toNat = false := by
    simp only [isTrail, Bool.and_eq_false_iff, decide_eq_false_iff_not]
    omega
  have spelled := SpellsCharacter.unit (codeUnit?_hexDigit control) notLead notTrail
  rw [Char.ofNat_toNat] at spelled
  rw [text]
  exact spelled

/-- A character is spelled by the letter of its own escape. -/
theorem spellsCharacter_letter
    {character : Char} (letter : Char)
    (known : shortEscape? (octet letter) = some character) :
    SpellsCharacter [octet '\\', octet letter] character :=
  .short known

/-- However a character is written inside quotes, it spells that character. -/
theorem spellsCharacter_escaped (character : Char) :
    SpellsCharacter (Utf8.encode (escaped character)) character := by
  rw [escaped.eq_def]
  split
  · exact spellsCharacter_letter '"' (by decide)
  · exact spellsCharacter_letter '\\' (by decide)
  · exact spellsCharacter_letter 'b' (by decide)
  · exact spellsCharacter_letter 't' (by decide)
  · exact spellsCharacter_letter 'n' (by decide)
  · exact spellsCharacter_letter 'f' (by decide)
  · exact spellsCharacter_letter 'r' (by decide)
  · rename_i notQuote notBackslash _ _ _ _ _
    split
    · rename_i control
      exact spellsCharacter_control control
    · rename_i visible
      rw [Utf8.encode_cons, Utf8.encode_nil, List.append_nil]
      exact .plain (Nat.le_of_not_lt visible) notQuote notBackslash

theorem spellsCharacters_escaped (characters : List Char) :
    SpellsCharacters (Utf8.encode (characters.flatMap escaped)) characters := by
  induction characters with
  | nil => exact .nil
  | cons character characters ih =>
      rw [List.flatMap_cons, Utf8.encode_append]
      exact .cons (spellsCharacter_escaped character) ih

/-- The octets of a written string behind its opening quote. -/
def quotedText (text : String) : List UInt8 :=
  Utf8.encode (text.toList.flatMap escaped) ++ [octet '"']

theorem encode_stringText (text : String) :
    Utf8.encode (stringText text) = octet '"' :: quotedText text := by
  rw [stringText, Utf8.encode_cons, Utf8.encode_append]
  rfl

/-- A written string spells itself. -/
theorem spellsQuoted_quotedText (text : String) :
    SpellsQuoted (quotedText text) text :=
  .intro (spellsCharacters_escaped text.toList)

end RunArchive.Json
