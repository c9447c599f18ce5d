/-!
# UTF-8

Texts as octets.  `encode` writes each character in one to four octets; `decode` reads a whole
octet sequence back and otherwise says where it stops being UTF-8: an `invalid` fault names the
length of the malformed start of a character, an `incomplete` one means that the octets end inside
a character.  `chunks` reads on behind every fault, for texts that are only to be shown.
-/

namespace RunArchive.Utf8

/-- The octets of a text. -/
def encode (text : List Char) : List UInt8 := text.flatMap String.utf8EncodeChar

/-- The octets of a string. -/
def ofString (text : String) : List UInt8 := encode text.toList

/-- Why octets are not UTF-8; indices count octets before the faulty character. -/
inductive Fault where
  /-- These many octets cannot start any character. -/
  | invalid (length : Nat) (index : Nat)
  /-- The octets end before the character does. -/
  | incomplete (index : Nat)
deriving DecidableEq

def Fault.message : Fault → String
  | .invalid length index => s!"invalid utf-8 sequence of {length} bytes from index {index}"
  | .incomplete index => s!"incomplete utf-8 byte sequence from index {index}"

/-- Whether an octet continues a character. -/
def isTail (octet : UInt8) : Bool := 0x80 ≤ octet && octet ≤ 0xBF

/-- Whether an octet can come second after this first one, for characters of three octets. -/
def isSecondOfThree (first second : UInt8) : Bool :=
  if first = 0xE0 then 0xA0 ≤ second && second ≤ 0xBF
  else if first = 0xED then 0x80 ≤ second && second ≤ 0x9F
  else isTail second

/-- Whether an octet can come second after this first one, for characters of four octets. -/
def isSecondOfFour (first second : UInt8) : Bool :=
  if first = 0xF0 then 0x90 ≤ second && second ≤ 0xBF
  else if first = 0xF4 then 0x80 ≤ second && second ≤ 0x8F
  else isTail second

/-- The six payload bits of an octet that continues a character. -/
def payload (octet : UInt8) : Nat := octet.toNat - 0x80

/-- The character of two octets. -/
def ofTwo (first second : UInt8) : Char :=
  Char.ofNat ((first.toNat - 0xC0) * 64 + payload second)

/-- The character of three octets. -/
def ofThree (first second third : UInt8) : Char :=
  Char.ofNat ((first.toNat - 0xE0) * 4096 + payload second * 64 + payload third)

/-- The character of four octets. -/
def ofFour (first second third fourth : UInt8) : Char :=
  Char.ofNat ((first.toNat - 0xF0) * 262144 + payload second * 4096 + payload third * 64 +
    payload fourth)

/-- Reads octets from `index` on; `done` holds the characters before it, the last one first. -/
def decodeFrom (index : Nat) (done : List Char) : List UInt8 → Except Fault (List Char)
  | [] => .ok done.reverse
  | a :: rest =>
    if a < 0x80 then decodeFrom (index + 1) (Char.ofNat a.toNat :: done) rest
    else if 0xC2 ≤ a && a ≤ 0xDF then
      match rest with
      | [] => .error (.incomplete index)
      | b :: rest =>
        if isTail b then decodeFrom (index + 2) (ofTwo a b :: done) rest
        else .error (.invalid 1 index)
    else if 0xE0 ≤ a && a ≤ 0xEF then
      match rest with
      | [] => .error (.incomplete index)
      | b :: rest =>
        if isSecondOfThree a b then
          match rest with
          | [] => .error (.incomplete index)
          | c :: rest =>
            if isTail c then decodeFrom (index + 3) (ofThree a b c :: done) rest
            else .error (.invalid 2 index)
        else .error (.invalid 1 index)
    else if 0xF0 ≤ a && a ≤ 0xF4 then
      match rest with
      | [] => .error (.incomplete index)
      | b :: rest =>
        if isSecondOfFour a b then
          match rest with
          | [] => .error (.incomplete index)
          | c :: rest =>
            if isTail c then
              match rest with
              | [] => .error (.incomplete index)
              | d :: rest =>
                if isTail d then decodeFrom (index + 4) (ofFour a b c d :: done) rest
                else .error (.invalid 3 index)
            else .error (.invalid 2 index)
        else .error (.invalid 1 index)
    else .error (.invalid 1 index)

/-- The text that octets spell, or the first fault. -/
def decode (octets : List UInt8) : Except Fault (List Char) := decodeFrom 0 [] octets

/-- The string of octets, if they are a text. -/
def text? (octets : List UInt8) : Option String := (decode octets).toOption.map String.ofList

/-- A text, and behind it the octets of a fault, if there is one. -/
structure Chunk where
  text : List Char
  fault : List UInt8

/-- The text before a fault. -/
def before (index : Nat) (octets : List UInt8) : List Char :=
  (decode (octets.take index)).toOption.getD []

/-- Octets cut behind every fault. -/
def chunks : List UInt8 → List Chunk
  | [] => []
  | first :: rest =>
    let octets := first :: rest
    match decode octets with
    | .ok text => [⟨text, []⟩]
    | .error (.incomplete index) => [⟨before index octets, octets.drop index⟩]
    | .error (.invalid length index) =>
      -- A fault is one octet long at least, so reading goes on in `rest`.
      ⟨before index octets, (octets.drop index).take length⟩ ::
        chunks (rest.drop (index + length - 1))
termination_by octets => octets.length
decreasing_by
  rw [List.length_drop, List.length_cons]
  omega

/-- The character that is shown for a fault. -/
def replacement : Char := '\uFFFD'

/-- What is shown of octets, whether they are a text or not. -/
def lossy (octets : List UInt8) : List Char :=
  (chunks octets).flatMap fun chunk =>
    if chunk.fault = [] then chunk.text else chunk.text ++ [replacement]

end RunArchive.Utf8
