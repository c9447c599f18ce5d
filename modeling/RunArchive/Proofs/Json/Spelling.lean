import RunArchive.Json.Basic
import RunArchive.Json.Numeral
import RunArchive.Json.Printer
import RunArchive.Json.QuotedText

/-!
# Spellings of JSON values

Which octets spell which value, said without a scanner.  A value has many spellings: blanks may
stand between tokens, a character may be escaped or stand for itself, the members of an object may
come in any order, and a number may be any numeral with its value.

`Spells` relates octets to a `Phrase`: a value, or what is left of an array or an object behind its
opening bracket.  Of the latter, `first` says that nothing but blanks has come yet, so that no
comma is due.

`IsText` describes the same texts without asking what they denote.  It admits every nesting, every
number and every escape, whether or not a value can be made of them.
-/

namespace RunArchive.Json

/-- The octets of ASCII characters. -/
def octets (text : List Char) : List UInt8 := text.map octet

/-- Octets that may stand between two tokens. -/
def Blanks (text : List UInt8) : Prop := ∀ o ∈ text, isBlank o = true

instance (text : List UInt8) : Decidable (Blanks text) :=
  List.decidableBAll _ text

/-! ## Strings -/

/-- The spellings of a character inside quotes. -/
inductive SpellsCharacter : List UInt8 → Char → Prop where
  /-- A character that stands for itself. -/
  | plain {character : Char}
      (visible : 0x20 ≤ character.toNat)
      (notQuote : character ≠ '"')
      (notBackslash : character ≠ '\\') :
      SpellsCharacter (String.utf8EncodeChar character) character
  /-- An escape of a single letter. -/
  | short {letter : UInt8} {character : Char}
      (known : shortEscape? letter = some character) :
      SpellsCharacter [octet '\\', letter] character
  /-- An escape of one code unit, which is no surrogate. -/
  | unit {a b c d : UInt8} {unit : Nat}
      (digits : codeUnit? a b c d = some unit)
      (notLead : isLead unit = false)
      (notTrail : isTrail unit = false) :
      SpellsCharacter [octet '\\', octet 'u', a, b, c, d] (Char.ofNat unit)
  /-- The escapes of a surrogate pair. -/
  | pair {a b c d e f g h : UInt8} {lead trail : Nat}
      (first : codeUnit? a b c d = some lead)
      (second : codeUnit? e f g h = some trail)
      (leads : isLead lead = true)
      (trails : isTrail trail = true) :
      SpellsCharacter
        [octet '\\', octet 'u', a, b, c, d, octet '\\', octet 'u', e, f, g, h]
        (ofPair lead trail)

/-- The spellings of characters inside quotes. -/
inductive SpellsCharacters : List UInt8 → List Char → Prop where
  | nil : SpellsCharacters [] []
  | cons {text rest : List UInt8} {character : Char} {characters : List Char}
      (head : SpellsCharacter text character)
      (tail : SpellsCharacters rest characters) :
      SpellsCharacters (text ++ rest) (character :: characters)

/-- The spellings of a string, behind its opening quote. -/
inductive SpellsQuoted : List UInt8 → String → Prop where
  | intro {text : List UInt8} {value : String}
      (inside : SpellsCharacters text value.toList) :
      SpellsQuoted (text ++ [octet '"']) value

/-! ## Numbers -/

/-- One or more digits. -/
def Digits (digits : List UInt8) : Prop :=
  digits ≠ [] ∧ ∀ o ∈ digits, isDigit o = true

instance (digits : List UInt8) : Decidable (Digits digits) :=
  @instDecidableAnd _ _ inferInstance (List.decidableBAll _ digits)

/-- The digits before the point: more than one of them do not start with a zero. -/
def WholeDigits (digits : List UInt8) : Prop :=
  Digits digits ∧ (digits.head? = some (octet '0') → digits = [octet '0'])

instance (digits : List UInt8) : Decidable (WholeDigits digits) :=
  inferInstanceAs (Decidable (_ ∧ _))

/-- The spellings of a minus sign, or of its absence. -/
inductive SpellsMinus : List UInt8 → Bool → Prop where
  | absent : SpellsMinus [] false
  | present : SpellsMinus [octet '-'] true

/-- The spellings of the digits behind the point. -/
inductive SpellsFraction : List UInt8 → Option (List UInt8) → Prop where
  | absent : SpellsFraction [] none
  | present {digits : List UInt8} (digital : Digits digits) :
      SpellsFraction (octet '.' :: digits) (some digits)

/-- The spellings of the sign of an exponent. -/
inductive SpellsSign : List UInt8 → Bool → Prop where
  | absent : SpellsSign [] false
  | plus : SpellsSign [octet '+'] false
  | minus : SpellsSign [octet '-'] true

/-- The spellings of an exponent. -/
inductive SpellsExponent : List UInt8 → Option (Bool × List UInt8) → Prop where
  | absent : SpellsExponent [] none
  | present {mark : UInt8} {sign digits : List UInt8} {negative : Bool}
      (marked : mark = octet 'e' ∨ mark = octet 'E')
      (signed : SpellsSign sign negative)
      (digital : Digits digits) :
      SpellsExponent (mark :: (sign ++ digits)) (some (negative, digits))

/-- The spellings of a numeral. -/
inductive SpellsNumeral : List UInt8 → Numeral → Prop where
  | intro {minus fraction exponent : List UInt8} {numeral : Numeral}
      (signed : SpellsMinus minus numeral.negative)
      (whole : WholeDigits numeral.whole)
      (fractional : SpellsFraction fraction numeral.fraction)
      (scaled : SpellsExponent exponent numeral.exponent) :
      SpellsNumeral (minus ++ (numeral.whole ++ (fraction ++ exponent))) numeral

/-! ## Values -/

/-- What stands before an item or a key: blanks, and a comma among them unless it is the first. -/
inductive Separates : Bool → List UInt8 → Prop where
  | first {blanks : List UInt8} (blank : Blanks blanks) : Separates true blanks
  | later {before behind : List UInt8}
      (blankBefore : Blanks before)
      (blankBehind : Blanks behind) :
      Separates false (before ++ octet ',' :: behind)

/-- What stands between a key and its value. -/
inductive SpellsColon : List UInt8 → Prop where
  | intro {before behind : List UInt8}
      (blankBefore : Blanks before)
      (blankBehind : Blanks behind) :
      SpellsColon (before ++ octet ':' :: behind)

/-- A part of a JSON text that has a meaning of its own. -/
inductive Phrase where
  /-- A value. -/
  | value (value : Json)
  /-- The items that an array still has. -/
  | items (first : Bool) (items : List Json)
  /-- The members that an object still has, in the order in which they are written. -/
  | members (first : Bool) (members : List (String × Json))

/-- The spellings of a phrase. -/
inductive Spells : List UInt8 → Phrase → Prop where
  | null : Spells (octets nullText) (.value .null)
  | bool (value : Bool) : Spells (octets (boolText value)) (.value (.bool value))
  | number {text : List UInt8} {numeral : Numeral} {number : Number}
      (spelled : SpellsNumeral text numeral)
      (meaning : numeral.number = .ok number) :
      Spells text (.value (.number number))
  | string {text : List UInt8} {value : String}
      (spelled : SpellsQuoted text value) :
      Spells (octet '"' :: text) (.value (.string value))
  | array {text : List UInt8} {items : List Json}
      (inside : Spells text (.items true items)) :
      Spells (octet '[' :: text) (.value (.array items))
  /-- An object has its members in increasing order, wherever they are written. -/
  | object {text : List UInt8} {written members : List (String × Json)}
      (inside : Spells text (.members true written))
      (rearranged : written.Perm members)
      (increasing : Increasing members) :
      Spells (octet '\x7b' :: text) (.value (.object members))
  | noItems {blanks : List UInt8} (first : Bool) (blank : Blanks blanks) :
      Spells (blanks ++ [octet ']']) (.items first [])
  | item {separator text rest : List UInt8} {first : Bool} {item : Json} {items : List Json}
      (separated : Separates first separator)
      (head : Spells text (.value item))
      (tail : Spells rest (.items false items)) :
      Spells (separator ++ (text ++ rest)) (.items first (item :: items))
  | noMembers {blanks : List UInt8} (first : Bool) (blank : Blanks blanks) :
      Spells (blanks ++ [octet '\x7d']) (.members first [])
  | member {separator keyText colon text rest : List UInt8} {first : Bool}
      {key : String} {value : Json} {members : List (String × Json)}
      (separated : Separates first separator)
      (named : SpellsQuoted keyText key)
      (assigned : SpellsColon colon)
      (head : Spells text (.value value))
      (tail : Spells rest (.members false members)) :
      Spells (separator ++ octet '"' :: (keyText ++ (colon ++ (text ++ rest))))
        (.members first ((key, value) :: members))

/-! ## Texts of any value -/

/-- The texts of a character inside quotes, surrogates without partner included. -/
inductive IsCharacter : List UInt8 → Prop where
  | plain {o : UInt8}
      (visible : ¬ o < 0x20)
      (notQuote : o ≠ octet '"')
      (notBackslash : o ≠ octet '\\') :
      IsCharacter [o]
  | short {letter : UInt8} (known : (shortEscape? letter).isSome = true) :
      IsCharacter [octet '\\', letter]
  | unit {a b c d : UInt8} (digits : (codeUnit? a b c d).isSome = true) :
      IsCharacter [octet '\\', octet 'u', a, b, c, d]

/-- The texts of a string behind its opening quote. -/
inductive IsQuoted : List UInt8 → Prop where
  | closed : IsQuoted [octet '"']
  | character {text rest : List UInt8}
      (head : IsCharacter text)
      (tail : IsQuoted rest) :
      IsQuoted (text ++ rest)

/-- The parts of which a JSON text consists. -/
inductive Part where
  | value
  | items (first : Bool)
  | members (first : Bool)

/-- The texts of a part, whatever it denotes. -/
inductive IsText : List UInt8 → Part → Prop where
  | null : IsText (octets nullText) .value
  | bool (value : Bool) : IsText (octets (boolText value)) .value
  | number {text : List UInt8} {numeral : Numeral} (spelled : SpellsNumeral text numeral) :
      IsText text .value
  | string {text : List UInt8} (quoted : IsQuoted text) : IsText (octet '"' :: text) .value
  | array {text : List UInt8} (inside : IsText text (.items true)) :
      IsText (octet '[' :: text) .value
  | object {text : List UInt8} (inside : IsText text (.members true)) :
      IsText (octet '\x7b' :: text) .value
  | noItems {blanks : List UInt8} (first : Bool) (blank : Blanks blanks) :
      IsText (blanks ++ [octet ']']) (.items first)
  | item {separator text rest : List UInt8} {first : Bool}
      (separated : Separates first separator)
      (head : IsText text .value)
      (tail : IsText rest (.items false)) :
      IsText (separator ++ (text ++ rest)) (.items first)
  | noMembers {blanks : List UInt8} (first : Bool) (blank : Blanks blanks) :
      IsText (blanks ++ [octet '\x7d']) (.members first)
  | member {separator keyText colon text rest : List UInt8} {first : Bool}
      (separated : Separates first separator)
      (named : IsQuoted keyText)
      (assigned : SpellsColon colon)
      (head : IsText text .value)
      (tail : IsText rest (.members false)) :
      IsText (separator ++ octet '"' :: (keyText ++ (colon ++ (text ++ rest))))
        (.members first)

end RunArchive.Json
