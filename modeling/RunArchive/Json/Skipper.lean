import RunArchive.Json.Scanner

/-!
# Skipping JSON values

A value that nobody wants is passed over without being built.  Skipping checks the shape of the
text only: any nesting is allowed, numbers may be out of range, and strings need not be UTF-8 nor
their escapes characters.  What is open at a point is a stack of frames, the innermost one first.
-/

namespace RunArchive.Json

/-- An open list or object. -/
inductive Frame where
  | list
  | object

/-- The bracket that closes a frame. -/
def Frame.closing : Frame → UInt8
  | .list => octet ']'
  | .object => octet '\x7d'

/-- The fault of a text that ends inside a frame. -/
def Frame.cut : Frame → Fault
  | .list => .endInList
  | .object => .endInObject

/-- The fault of a value in a frame that neither a comma nor the closing bracket follows. -/
def Frame.unseparated : Frame → Fault
  | .list => .expectedListCommaOrEnd
  | .object => .expectedObjectCommaOrEnd

/-- Passes over a string behind its opening quote. -/
def skipString : List UInt8 → Except Fault (List UInt8)
  | [] => .error .endInString
  | o :: input =>
    if o = octet '"' then .ok input
    else if o = octet '\\' then
      match input with
      | [] => .error .endInString
      | letter :: input =>
        if letter = octet 'u' then
          match input with
          | a :: b :: c :: d :: input =>
            if (codeUnit? a b c d).isSome then skipString input else .error .invalidEscape
          | _ => .error .endInString
        else if (shortEscape? letter).isSome then skipString input
        else .error .invalidEscape
    else if o < 0x20 then .error .controlCharacter
    else skipString input

/-- Passes over a scalar, or over an opening bracket and returns its frame. -/
def skipHead (input : List UInt8) : Except Fault ((Option Frame) × List UInt8) :=
  match skipBlanks input with
  | [] => .error .endInValue
  | o :: rest =>
    if o = octet 'n' then do return (none, ← scanWord ['u', 'l', 'l'] rest)
    else if o = octet 't' then do return (none, ← scanWord ['r', 'u', 'e'] rest)
    else if o = octet 'f' then do return (none, ← scanWord ['a', 'l', 's', 'e'] rest)
    else if o = octet '"' then do return (none, ← skipString rest)
    else if o = octet '-' || isDigit o then do
      let (_, rest) ← scanNumeral .invalidNumber (o :: rest)
      return (none, rest)
    else if o = octet '[' then .ok (some .list, rest)
    else if o = octet '\x7b' then .ok (some .object, rest)
    else .error .expectedValue

/--
Closes the frames that end here and moves to where the next value, or in an object the next key,
must stand.  An empty stack means that the skipped value is complete.  `separated` says whether a
comma must come before that value.
-/
def settle (separated : Bool) : List Frame → List UInt8 → Except Fault (List Frame × List UInt8)
  | [], input => .ok ([], input)
  | frame :: frames, input =>
    match skipBlanks input with
    | [] => .error frame.cut
    | o :: rest =>
      if separated && o == octet ',' then .ok (frame :: frames, rest)
      else if o = frame.closing then settle true frames rest
      else if separated then .error frame.unseparated
      else .ok (frame :: frames, o :: rest)

/-- Passes over a key and its colon. -/
def skipKey (input : List UInt8) : Except Fault (List UInt8) :=
  match skipBlanks input with
  | [] => .error .endInObject
  | o :: rest => if o = octet '"' then do scanColon (← skipString rest) else .error .expectedKey

/-- Passes over values until the frames around them are closed. -/
def skipFrom : (fuel : Nat) → List Frame → List UInt8 → Except Fault (List UInt8)
  | 0, _, _ => .error .endInValue
  | fuel + 1, frames, input => do
    let (opened, rest) ← skipHead input
    let (frames, rest) ←
      match opened with
      | some frame => settle false (frame :: frames) rest
      | none => settle true frames rest
    match frames with
    | [] => return rest
    | .list :: _ => skipFrom fuel frames rest
    | .object :: _ => skipFrom fuel frames (← skipKey rest)

/-- Passes over one value. -/
def skipValue (input : List UInt8) : Except Fault (List UInt8) :=
  skipFrom (input.length + 1) [] input

end RunArchive.Json
