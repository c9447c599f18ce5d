import RunArchive.Json.Typed

/-!
# Run identifiers

A run is identified by 128 bits, written as 32 lower-case hexadecimal digits in five groups:
`6f1c2a94-3e0b-4d4f-9a57-0c8e2b7d1f10`.  `ofText?` accepts this form only, in either case of its
letters.  In JSON values the groups may also stand in braces or behind `urn:uuid:`, or the digits
without hyphens.
-/

namespace RunArchive

/-- How many identifiers there are: as many as 32 hexadecimal digits can spell. -/
def RunId.count : Nat := 0x100000000000000000000000000000000

/-- The identifier of a run. -/
structure RunId where
  bits : Fin RunId.count
deriving DecidableEq

namespace RunId

/-- The hexadecimal digit with this number, the first one being the highest. -/
def digit (id : RunId) (place : Nat) : Char :=
  Nat.digitChar (id.bits.val / Nat.pow 16 (31 - place) % 16)

/-- The digits from one place up to before another one. -/
def group (id : RunId) (start stop : Nat) : List Char :=
  (List.range' start (stop - start)).map id.digit

/-- The 32 digits. -/
def digits (id : RunId) : List Char := id.group 0 32

/-- The written form. -/
def chars (id : RunId) : List Char :=
  id.group 0 8 ++ '-' :: id.group 8 12 ++ '-' :: id.group 12 16 ++ '-' :: id.group 16 20 ++
    '-' :: id.group 20 32

/-- The written form. -/
def text (id : RunId) : String := String.ofList id.chars

/-- The value of a hexadecimal digit of either case. -/
def hexValue? (character : Char) : Option Nat :=
  if character.isDigit then some (character.toNat - '0'.toNat)
  else if 'a' ≤ character ∧ character ≤ 'f' then some (character.toNat - 'a'.toNat + 10)
  else if 'A' ≤ character ∧ character ≤ 'F' then some (character.toNat - 'A'.toNat + 10)
  else none

/-- The number that hexadecimal digits denote behind the ones already read. -/
def hexNumber? (value : Nat) : List Char → Option Nat
  | [] => some value
  | character :: rest => do hexNumber? (value * 16 + (← hexValue? character)) rest

/-- The identifier of 32 digits. -/
def ofDigits? (digits : List Char) : Option RunId := do
  let value ← hexNumber? 0 digits
  if fits : digits.length = 32 ∧ value < count then some ⟨⟨value, fits.2⟩⟩ else none

/-- The digits of a text with hyphens in their four places. -/
def withoutHyphens? (text : List Char) : Option (List Char) :=
  if text.length = 36 ∧ text[8]? = some '-' ∧ text[13]? = some '-' ∧ text[18]? = some '-' ∧
      text[23]? = some '-' then
    some (text.take 8 ++ (text.drop 9).take 4 ++ (text.drop 14).take 4 ++ (text.drop 19).take 4 ++
      text.drop 24)
  else none

/-- The identifier of digits in groups, in either case of their letters. -/
def ofChars? (text : List Char) : Option RunId := do ofDigits? (← withoutHyphens? text)

/-- The scheme of identifiers written as uniform resource names. -/
def scheme : List Char := ['u', 'r', 'n', ':', 'u', 'u', 'i', 'd', ':']

/-- The identifier that a text denotes in any of the forms that JSON values may use. -/
def ofAnyForm? (text : List Char) : Option RunId :=
  if text.length = 32 then ofDigits? text
  else if text.length = 38 ∧ text.head? = some '{' ∧ text.getLast? = some '}' then
    ofChars? ((text.drop 1).take 36)
  else if text.length = 45 ∧ (text.take 9).map Char.toLower = scheme then ofChars? (text.drop 9)
  else ofChars? text

/--
The identifier with this written form, in either case of its letters.  Of all forms in which a text
may denote an identifier, this is the one in which the identifier itself is written.
-/
def ofText? (text : String) : Option RunId := do
  let id ← ofAnyForm? text.toList
  if id.chars = text.toList.map Char.toLower then some id else none

def ofJson (value : Json) : Except Json.Mismatch RunId := do
  let text ← Json.asString "a formatted UUID string" value.shape
  match ofAnyForm? text.toList with
  | some id => return id
  | none => .error (.malformedText "UUID parsing failed")

def toJson (id : RunId) : Json := .string id.text

/-- The order of identifiers. -/
def Before (left right : RunId) : Prop := left.bits < right.bits

instance (left right : RunId) : Decidable (left.Before right) :=
  inferInstanceAs (Decidable (left.bits < right.bits))

/-- Puts an identifier into an increasing list that does not have it yet. -/
def insert (id : RunId) : List RunId → List RunId
  | [] => [id]
  | other :: rest =>
    if id = other then other :: rest
    else if id.Before other then id :: other :: rest
    else other :: insert id rest

/-- Identifiers in increasing order, each one once. -/
def sorted (ids : List RunId) : List RunId := ids.foldl (fun result id => insert id result) []

end RunId

end RunArchive
