import RunArchive.Decimal.Unsigned
import RunArchive.Text.Blank
import RunArchive.Time.Instant

/-!
# Timestamps

The text of an instant.  It is written as date and time of day in UTC, `2024-05-02T09:30:00.500Z`:
years outside four digits carry a sign, the fraction has 0, 3, 6 or 9 digits, as few as are exact,
and a leap second has the number behind that of its second: the second 60 at the end of a minute.

Reading is more liberal.  The parts may be separated by blanks, month, day and time need no
padding, a year with a sign may have any number of digits, date and time may be joined by `T`, `t`
or a space, digits of a fraction beyond the ninth are ignored, and the offset from UTC may be `Z`,
`z`, `UTC` in any case, or hours and minutes with or without colons between them.
-/

namespace RunArchive.Timestamp

/-- The decimal digits of a number, padded with zeros to a width. -/
def padded (width value : Nat) : List Char :=
  let digits := Nat.toDigits 10 value
  List.replicate (width - digits.length) '0' ++ digits

/-- A year: four digits, behind a sign where they are not enough. -/
def yearText (year : Int) : List Char :=
  if 0 ≤ year ∧ year ≤ 9999 then padded 4 year.toNat
  else (if year < 0 then '-' else '+') :: padded 4 year.natAbs

/-- The fraction of a second. -/
def fractionText (nanos : Nat) : List Char :=
  if nanos = 0 then []
  else if nanos % 1000000 = 0 then '.' :: padded 3 (nanos / 1000000)
  else if nanos % 1000 = 0 then '.' :: padded 6 (nanos / 1000)
  else '.' :: padded 9 nanos

/-- The text of an instant. -/
def text (instant : Instant) : List Char :=
  let date := Date.ofDays (instant.seconds / Instant.day)
  let time := instant.secondOfDay.toNat
  let second := if instant.isLeap then time % 60 + 1 else time % 60
  yearText date.year ++ '-' :: padded 2 date.month ++ '-' :: padded 2 date.day ++
    'T' :: padded 2 (time / 3600) ++ ':' :: padded 2 (time / 60 % 60) ++ ':' :: padded 2 second ++
    fractionText (instant.nanos % Instant.second) ++ ['Z']

/-! ## Reading -/

/-- Reads a number of at least one and at most this many digits. -/
def readNumber (most : Nat) (input : List Char) : Option (Nat × List Char) :=
  let digits := (input.take most).takeWhile Char.isDigit
  if digits.isEmpty then none else some (Unsigned.valueOf digits, input.drop digits.length)

/-- Reads a year. -/
def readYear (input : List Char) : Option (Int × List Char) :=
  match Text.trimStart input with
  | '-' :: rest => do
    let (year, rest) ← readNumber rest.length rest
    return (-(year : Int), rest)
  | '+' :: rest => do
    let (year, rest) ← readNumber rest.length rest
    return (year, rest)
  | rest => do
    let (year, rest) ← readNumber 4 rest
    return (year, rest)

/-- Reads one or two digits behind blanks. -/
def readPart (input : List Char) : Option (Nat × List Char) :=
  readNumber 2 (Text.trimStart input)

/-- Reads a separator behind blanks. -/
def readMark (mark : Char) (input : List Char) : Option (List Char) :=
  match Text.trimStart input with
  | character :: rest => if character = mark then some rest else none
  | [] => none

/-- Reads the fraction of a second, if there is one, as nanoseconds. -/
def readFraction (input : List Char) : Option (Nat × List Char) :=
  match input with
  | '.' :: rest => do
    let digits := (rest.take 9).takeWhile Char.isDigit
    let (value, rest) ← readNumber 9 rest
    return (value * Nat.pow 10 (9 - digits.length), rest.dropWhile Char.isDigit)
  | _ => some (0, input)

/-- Reads exactly two digits, the first one at most this. -/
def readPair (most : Char) : List Char → Option (Nat × List Char)
  | first :: second :: rest =>
    if first.isDigit ∧ second.isDigit ∧ first ≤ most then
      some (Unsigned.valueOf [first, second], rest)
    else none
  | _ => none

/-- Reads the hours and minutes of an offset behind its sign, as seconds. -/
def readOffsetTime (input : List Char) : Option (Int × List Char) := do
  let (hours, rest) ← readPair '9' input
  let rest := rest.dropWhile fun character => character == ':' || Text.isBlank character
  let (minutes, rest) ← readPair '5' rest
  return (hours * 3600 + minutes * 60, rest)

/-- Whether a text starts with the name of universal time. -/
def startsWithUtc : List Char → Bool
  | u :: t :: c :: _ => u.toUpper == 'U' && t.toUpper == 'T' && c.toUpper == 'C'
  | _ => false

/-- Reads an offset from UTC, as seconds. -/
def readOffset (input : List Char) : Option (Int × List Char) :=
  if startsWithUtc input then some (0, input.drop 3)
  else
    match input with
    | 'Z' :: rest | 'z' :: rest => some (0, rest)
    | '+' :: rest => readOffsetTime rest
    | '-' :: rest | '−' :: rest => do
      let (seconds, rest) ← readOffsetTime rest
      return (-seconds, rest)
    | _ => none

/-- The instant of a date, a time of day and an offset; the second 60 is a leap second. -/
def assemble (date : Date) (hour minute second nanos : Nat) (offset : Int) : Option Instant :=
  if date.Exists ∧ hour ≤ 23 ∧ minute ≤ 59 ∧ second ≤ 60 ∧ -Instant.day < offset ∧
      offset < Instant.day then
    let clock : Int := (hour * 60 + minute) * 60 + (min second 59 : Nat)
    let leap := if second = 60 then Instant.second else 0
    Instant.of? (date.toDays * Instant.day + clock - offset) (nanos + leap)
  else none

/-- The instant that a text denotes. -/
def read? (input : List Char) : Option Instant := do
  let (year, rest) ← readYear input
  let (month, rest) ← readPart (← readMark '-' rest)
  let (day, rest) ← readPart (← readMark '-' rest)
  let rest ←
    match rest with
    | 'T' :: rest | 't' :: rest | ' ' :: rest => some rest
    | _ => none
  let (hour, rest) ← readPart rest
  let (minute, rest) ← readPart (← readMark ':' rest)
  let (second, rest) ← readPart (← readMark ':' rest)
  let (nanos, rest) ← readFraction rest
  let (offset, rest) ← readOffset (Text.trimStart rest)
  if (Text.trimStart rest).isEmpty then
    assemble ⟨year, month, day⟩ hour minute second nanos offset
  else none

end RunArchive.Timestamp
