import RunArchive.Json.Scanner

/-!
# Reading JSON values

`readValue` reads one value from the octets that remain.  Its depth says how many more lists and
objects may be open at once, and a bracket that would exceed it is refused before anything behind
it is looked at.

The loops over items and members take a fuel, for which the number of octets of the text is always
enough: every turn reads at least one.  `read` supplies it and shows none.
-/

namespace RunArchive.Json

/--
Reads the items of a list behind its opening bracket; `done` holds the items so far, the last one
first.
-/
def readItems (readItem : List UInt8 → Except Fault (Json × List UInt8)) :
    (fuel : Nat) → (first : Bool) → (done : List Json) → List UInt8 →
      Except Fault (List Json × List UInt8)
  | 0, _, _, _ => .error .endInList
  | fuel + 1, first, done, input => do
    match ← nextItem first input with
    | (false, rest) => return (done.reverse, rest)
    | (true, rest) =>
      let (item, rest) ← readItem rest
      readItems readItem fuel false (item :: done) rest

/--
Reads the members of an object behind its opening brace.  `readMember` receives a key, what the
members before it amounted to, and the octets from the colon on.
-/
def readMembers {State : Type}
    (readMember : String → State → List UInt8 → Except Fault (State × List UInt8)) :
    (fuel : Nat) → (first : Bool) → State → List UInt8 → Except Fault (State × List UInt8)
  | 0, _, _, _ => .error .endInObject
  | fuel + 1, first, state, input => do
    match ← nextKey first input with
    | (false, rest) => return (state, rest)
    | (true, rest) =>
      let (key, rest) ← scanString [] rest
      let (state, rest) ← readMember key state rest
      readMembers readMember fuel false state rest

/-- Reads a member and puts it on top of the ones before it. -/
def readPlainMember (readItem : List UInt8 → Except Fault (Json × List UInt8)) (key : String)
    (done : List (String × Json)) (input : List UInt8) :
    Except Fault (List (String × Json) × List UInt8) := do
  let (value, rest) ← readItem (← scanColon input)
  return ((key, value) :: done, rest)

/-- Reads a value in which at most this many lists and objects are open at once. -/
def readValue (fuel : Nat) : (depth : Nat) → List UInt8 → Except Fault (Json × List UInt8)
  | depth, input => do
    match ← scanHead input with
    | (.null, rest) => return (.null, rest)
    | (.bool value, rest) => return (.bool value, rest)
    | (.number value, rest) => return (.number value, rest)
    | (.string value, rest) => return (.string value, rest)
    | (.list, rest) =>
      match depth with
      | 0 => .error .tooDeep
      | depth + 1 =>
        let (items, rest) ← readItems (readValue fuel depth) fuel true [] rest
        return (.array items, rest)
    | (.object, rest) =>
      match depth with
      | 0 => .error .tooDeep
      | depth + 1 =>
        let (members, rest) ←
          readMembers (readPlainMember (readValue fuel depth)) fuel true [] rest
        return (ofMembers members.reverse, rest)

/-- Reads a text that consists of one value. -/
def read (depth : Nat) (text : List UInt8) : Except Fault Json := do
  let (value, rest) ← readValue text.length depth text
  scanEnd rest
  return value

end RunArchive.Json
