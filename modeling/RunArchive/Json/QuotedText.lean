import RunArchive.Json.Fault
import RunArchive.Json.Octet

/-!
# Quoted texts

The spellings of strings in a JSON text.  Octets need not be UTF-8: whether those of a string are
is found out at its closing quote.  An escape with four digits is a code unit of UTF-16, and the
two units of a surrogate pair must stand side by side.
-/

namespace RunArchive.Json

/-- The code unit of four hexadecimal digits. -/
def codeUnit? (a b c d : UInt8) : Option Nat := do
  return (((← hexValue? a) * 16 + (← hexValue? b)) * 16 + (← hexValue? c)) * 16 + (← hexValue? d)

/-- Whether a code unit opens a surrogate pair. -/
def isLead (unit : Nat) : Bool := 0xD800 ≤ unit && unit ≤ 0xDBFF

/-- Whether a code unit closes a surrogate pair. -/
def isTrail (unit : Nat) : Bool := 0xDC00 ≤ unit && unit ≤ 0xDFFF

/-- The character of a surrogate pair. -/
def ofPair (lead trail : Nat) : Char :=
  Char.ofNat ((lead - 0xD800) * 0x400 + (trail - 0xDC00) + 0x10000)

/-- The character of an escape that consists of a single letter. -/
def shortEscape? (o : UInt8) : Option Char :=
  if o = octet '"' then some '"'
  else if o = octet '\\' then some '\\'
  else if o = octet '/' then some '/'
  else if o = octet 'b' then some '\x08'
  else if o = octet 'f' then some '\x0c'
  else if o = octet 'n' then some '\n'
  else if o = octet 'r' then some '\r'
  else if o = octet 't' then some '\t'
  else none

/-- Puts the octets of a character on top of octets kept in reverse. -/
def pushCharacter (character : Char) (done : List UInt8) : List UInt8 :=
  (String.utf8EncodeChar character).reverse ++ done

/-- The string of octets kept in reverse. -/
def finishString (done : List UInt8) : Except Fault String :=
  match Utf8.decode done.reverse with
  | .ok text => .ok (String.ofList text)
  | .error _ => .error .invalidCodePoint

/-- Reads a string behind its opening quote; `done` holds its octets so far, the last one first. -/
def scanString (done : List UInt8) : List UInt8 → Except Fault (String × List UInt8)
  | [] => .error .endInString
  | o :: input =>
    if o = octet '"' then do return (← finishString done, input)
    else if o = octet '\\' then
      match input with
      | [] => .error .endInString
      | letter :: input =>
        if letter = octet 'u' then
          match input with
          | a :: b :: c :: d :: input =>
            match codeUnit? a b c d with
            | none => .error .invalidEscape
            | some unit =>
              if isTrail unit then .error .loneSurrogate
              else if isLead unit then
                match input with
                | [] => .error .endInString
                | slash :: input =>
                  if slash = octet '\\' then
                    match input with
                    | [] => .error .endInString
                    | letter :: input =>
                      if letter = octet 'u' then
                        match input with
                        | a :: b :: c :: d :: input =>
                          match codeUnit? a b c d with
                          | none => .error .invalidEscape
                          | some second =>
                            if isTrail second then
                              scanString (pushCharacter (ofPair unit second) done) input
                            else .error .loneSurrogate
                        | _ => .error .endInString
                      else .error .unpairedSurrogate
                  else .error .unpairedSurrogate
              else scanString (pushCharacter (Char.ofNat unit) done) input
          | _ => .error .endInString
        else
          match shortEscape? letter with
          | some character => scanString (pushCharacter character done) input
          | none => .error .invalidEscape
    else if o < 0x20 then .error .controlCharacter
    else scanString (o :: done) input

end RunArchive.Json
