import RunArchive.Json.Numeral
import RunArchive.Json.QuotedText

/-!
# Scanning JSON octets

The tokens of a JSON text, read from the octets that remain.  Every scanner returns what it read
together with the octets behind it, or a `Fault`.
-/

namespace RunArchive.Json

/-! ## Blanks and words -/

/-- The octets from the first one on that is no blank. -/
def skipBlanks (input : List UInt8) : List UInt8 := input.dropWhile isBlank

/-- Reads the rest of a word whose first letter has been read. -/
def scanWord : List Char → List UInt8 → Except Fault (List UInt8)
  | [], input => .ok input
  | _ :: _, [] => .error .endInValue
  | letter :: letters, o :: input =>
    if o = octet letter then scanWord letters input else .error .expectedWord

/-! ## The head of a value -/

/--
Reads a value as far as it shows what it is: a scalar completely, a list or an object up to its
opening bracket.
-/
def scanHead (input : List UInt8) : Except Fault (Shape × List UInt8) :=
  match skipBlanks input with
  | [] => .error .endInValue
  | o :: rest =>
    if o = octet 'n' then do return (.null, ← scanWord ['u', 'l', 'l'] rest)
    else if o = octet 't' then do return (.bool true, ← scanWord ['r', 'u', 'e'] rest)
    else if o = octet 'f' then do return (.bool false, ← scanWord ['a', 'l', 's', 'e'] rest)
    else if o = octet '"' then do
      let (text, rest) ← scanString [] rest
      return (.string text, rest)
    else if o = octet '-' || isDigit o then do
      let (numeral, rest) ← scanNumeral .endInValue (o :: rest)
      return (.number (← numeral.number), rest)
    else if o = octet '[' then .ok (.list, rest)
    else if o = octet '\x7b' then .ok (.object, rest)
    else .error .expectedValue

/-! ## Items and members -/

/-- Moves to the next item of a list (`true`), or behind its closing bracket (`false`). -/
def nextItem (first : Bool) (input : List UInt8) : Except Fault (Bool × List UInt8) :=
  match skipBlanks input with
  | [] => .error .endInList
  | o :: rest =>
    if o = octet ']' then .ok (false, rest)
    else if first then .ok (true, o :: rest)
    else if o = octet ',' then
      match skipBlanks rest with
      | [] => .error .endInValue
      | next :: rest => if next = octet ']' then .error .trailingComma else .ok (true, next :: rest)
    else .error .expectedListCommaOrEnd

/--
Moves behind the opening quote of the next key of an object (`true`), or behind its closing brace
(`false`).
-/
def nextKey (first : Bool) (input : List UInt8) : Except Fault (Bool × List UInt8) :=
  match skipBlanks input with
  | [] => .error .endInObject
  | o :: rest =>
    if o = octet '\x7d' then .ok (false, rest)
    else if first then
      if o = octet '"' then .ok (true, rest) else .error .expectedKey
    else if o = octet ',' then
      match skipBlanks rest with
      | [] => .error .endInValue
      | next :: rest =>
        if next = octet '"' then .ok (true, rest)
        else if next = octet '\x7d' then .error .trailingComma
        else .error .expectedKey
    else .error .expectedObjectCommaOrEnd

/-- Moves behind the colon between a key and its value. -/
def scanColon (input : List UInt8) : Except Fault (List UInt8) :=
  match skipBlanks input with
  | [] => .error .endInObject
  | o :: rest => if o = octet ':' then .ok rest else .error .expectedColon

/-- Accepts the end of a text: nothing but blanks may be left. -/
def scanEnd (input : List UInt8) : Except Fault Unit :=
  match skipBlanks input with
  | [] => .ok ()
  | _ :: _ => .error .trailingCharacters

end RunArchive.Json
