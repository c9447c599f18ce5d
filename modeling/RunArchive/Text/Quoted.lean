import RunArchive.Text.Unprintable
import RunArchive.Text.Combining
import RunArchive.Text.Utf8

/-!
# Quoted texts in messages

The form in which a message shows a text that came from outside: in double quotes, with everything
that could be mistaken for the message itself, or that would not show, written as an escape.  Octets
that should be a text are shown in the same way, with the octets of every fault as escapes.
-/

namespace RunArchive.Text

/-- A character inside a quoted text. -/
def quotedCharacter (character : Char) : List Char :=
  match character with
  | '\x00' => ['\\', '0']
  | '\t' => ['\\', 't']
  | '\n' => ['\\', 'n']
  | '\r' => ['\\', 'r']
  | '"' => ['\\', '"']
  | '\\' => ['\\', '\\']
  | _ =>
    if isCombining character || isUnprintable character then
      ['\\', 'u', '{'] ++ Nat.toDigits 16 character.toNat ++ ['}']
    else [character]

/-- A text in double quotes. -/
def quoted (text : String) : String :=
  String.ofList ('"' :: text.toList.flatMap quotedCharacter ++ ['"'])

/-- A character inside quoted octets, where single quotes are escapes as well. -/
def quotedStrictly (character : Char) : List Char :=
  if character = '\x27' then ['\\', '\x27'] else quotedCharacter character

/-- An octet of a fault, which has two hexadecimal digits. -/
def quotedOctet (octet : UInt8) : List Char :=
  ['\\', 'x'] ++ (Nat.toDigits 16 octet.toNat).map Char.toUpper

/-- Octets in double quotes. -/
def quotedOctets (octets : List UInt8) : String :=
  String.ofList
    ('"' ::
      ((Utf8.chunks octets).flatMap fun chunk =>
        chunk.text.flatMap quotedStrictly ++ chunk.fault.flatMap quotedOctet) ++
      ['"'])

end RunArchive.Text
