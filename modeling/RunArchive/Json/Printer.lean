import RunArchive.Json.Basic
import RunArchive.Json.FloatText

/-!
# Writing JSON

Three written forms of a value.

* `compact` has no blank outside strings and writes the members of an object in the order in which
the tree lists them. * `pretty` puts every item and member on a line of its own, two blanks deeper
than the bracket around it. * `canonical` is compact too, but sorts the members of every object
itself.  It is the form over which checksums are taken, and it is the same for two trees that
denote the same value.
-/

namespace RunArchive.Json

/-- A hexadecimal digit of a number below sixteen. -/
def hexDigit (value : Nat) : Char := Nat.digitChar value

/-- A character inside a JSON string. -/
def escaped (character : Char) : List Char :=
  match character with
  | '"' => ['\\', '"']
  | '\\' => ['\\', '\\']
  | '\x08' => ['\\', 'b']
  | '\t' => ['\\', 't']
  | '\n' => ['\\', 'n']
  | '\x0c' => ['\\', 'f']
  | '\r' => ['\\', 'r']
  | _ =>
    if character.toNat < 0x20 then
      ['\\', 'u', '0', '0', hexDigit (character.toNat / 16), hexDigit (character.toNat % 16)]
    else [character]

/-- A JSON string with its quotes. -/
def stringText (text : String) : List Char := '"' :: (text.toList.flatMap escaped ++ ['"'])

/-- A JSON number. -/
def Number.text : Number → List Char
  | .integer value => signedDigitsOf value
  | .float value => value.text

/-- A JSON boolean. -/
def boolText (value : Bool) : List Char :=
  if value then ['t', 'r', 'u', 'e'] else ['f', 'a', 'l', 's', 'e']

/-- The word for the null value. -/
def nullText : List Char := ['n', 'u', 'l', 'l']

/-- Texts with a comma between them. -/
def commaSeparated : List (List Char) → List Char
  | [] => []
  | [text] => text
  | text :: rest => text ++ ',' :: commaSeparated rest

/-- The text of one member. -/
def memberText (member : String × List Char) : List Char :=
  stringText member.1 ++ ':' :: member.2

mutual

/-- The form without blanks, members in the order of the tree. -/
def compact : Json → List Char
  | .null => nullText
  | .bool value => boolText value
  | .number value => value.text
  | .string text => stringText text
  | .array items => '[' :: (commaSeparated (compactItems items) ++ [']'])
  | .object members => '{' :: (commaSeparated (compactMembers members) ++ ['}'])

/-- The compact texts of the items of an array. -/
def compactItems : List Json → List (List Char)
  | [] => []
  | item :: rest => compact item :: compactItems rest

/-- The compact texts of the members of an object. -/
def compactMembers : List (String × Json) → List (List Char)
  | [] => []
  | (key, value) :: rest => memberText (key, compact value) :: compactMembers rest

end

mutual

/-- The form without blanks, the members of every object sorted by their keys. -/
def canonical : Json → List Char
  | .null => nullText
  | .bool value => boolText value
  | .number value => value.text
  | .string text => stringText text
  | .array items => '[' :: (commaSeparated (canonicalItems items) ++ [']'])
  | .object members =>
    '{' :: (commaSeparated ((sortMembers (canonicalMembers members)).map memberText) ++ ['}'])

/-- The canonical texts of the items of an array. -/
def canonicalItems : List Json → List (List Char)
  | [] => []
  | item :: rest => canonical item :: canonicalItems rest

/-- The keys of an object with the canonical texts of their values. -/
def canonicalMembers : List (String × Json) → List (String × List Char)
  | [] => []
  | (key, value) :: rest => (key, canonical value) :: canonicalMembers rest

end

/-- The start of a line at this depth. -/
def newLine (depth : Nat) : List Char := '\n' :: List.replicate (2 * depth) ' '

/-- Texts on lines of their own, a comma behind every one but the last. -/
def lines (depth : Nat) : List (List Char) → List Char
  | [] => []
  | [text] => newLine depth ++ text
  | text :: rest => newLine depth ++ text ++ ',' :: lines depth rest

/-- Texts between brackets that stand at this depth; without any, the two brackets touch. -/
def block (opening closing : Char) (depth : Nat) (texts : List (List Char)) : List Char :=
  if texts.isEmpty then [opening, closing]
  else opening :: (lines (depth + 1) texts ++ newLine depth ++ [closing])

mutual

/-- The form on several lines, for a value whose first line stands at this depth. -/
def prettyAt (depth : Nat) : Json → List Char
  | .null => nullText
  | .bool value => boolText value
  | .number value => value.text
  | .string text => stringText text
  | .array items => block '[' ']' depth (prettyItems (depth + 1) items)
  | .object members => block '{' '}' depth (prettyMembers (depth + 1) members)

/-- The texts of the items of an array, which stand at this depth. -/
def prettyItems (depth : Nat) : List Json → List (List Char)
  | [] => []
  | item :: rest => prettyAt depth item :: prettyItems depth rest

/-- The texts of the members of an object, which stand at this depth. -/
def prettyMembers (depth : Nat) : List (String × Json) → List (List Char)
  | [] => []
  | (key, value) :: rest =>
    (stringText key ++ ':' :: ' ' :: prettyAt depth value) :: prettyMembers depth rest

end

/-- The form on several lines. -/
def pretty (value : Json) : List Char := prettyAt 0 value

end RunArchive.Json
