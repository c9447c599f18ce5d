import RunArchive.Time.Calendar

/-!
# Instants

Points in time with nanoseconds.  An instant counts whole seconds from the beginning of 1970; days
have 86400 of them, and a leap second is the second of its predecessor with a thousand million
nanoseconds more.  It may follow any second, not only the last one of a minute: nothing that changes
the nanoseconds of an instant looks at its second.
-/

namespace RunArchive

/-- The first second that is kept: the beginning of the year -262143. -/
def Instant.firstSecond : Int := -8334601228800

/-- The last second that is kept: the end of the year 262142. -/
def Instant.lastSecond : Int := 8210266876799

/-- Nanoseconds in a second. -/
def Instant.second : Nat := 1000000000

/-- Whether a count of seconds and nanoseconds is an instant. -/
def Instant.Valid (seconds : Int) (nanos : Nat) : Prop :=
  firstSecond ≤ seconds ∧ seconds ≤ lastSecond ∧ nanos < 2 * second

instance (seconds : Int) (nanos : Nat) : Decidable (Instant.Valid seconds nanos) :=
  inferInstanceAs (Decidable (_ ∧ _ ∧ _))

/-- A point in time. -/
structure Instant where
  /-- Whole seconds from the beginning of 1970. -/
  seconds : Int
  /-- Nanoseconds in that second, those of a leap second included. -/
  nanos : Nat
  valid : Instant.Valid seconds nanos
deriving DecidableEq

namespace Instant

/-- The instant with these seconds and nanoseconds. -/
def of? (seconds : Int) (nanos : Nat) : Option Instant :=
  if valid : Valid seconds nanos then some ⟨seconds, nanos, valid⟩ else none

/-- The beginning of 1970. -/
def epoch : Instant := ⟨0, 0, by decide⟩

/-- Whether an instant comes before another one. -/
def Before (left right : Instant) : Prop :=
  left.seconds < right.seconds ∨ left.seconds = right.seconds ∧ left.nanos < right.nanos

instance (left right : Instant) : Decidable (left.Before right) :=
  inferInstanceAs (Decidable (_ ∨ _ ∧ _))

/-- Seconds in a day. -/
def day : Int := 86400

/-- The second of its day. -/
def secondOfDay (instant : Instant) : Int := instant.seconds % day

/-- Whether an instant lies in a leap second. -/
def isLeap (instant : Instant) : Bool := second ≤ instant.nanos

/--
The second that a leap second adds between two instants.  It counts when the earlier time of day
lies in the leap second; where only the times of day agree, the nanoseconds already tell the
difference.
-/
def leapBetween (later earlier : Instant) : Int :=
  if earlier.secondOfDay < later.secondOfDay then if earlier.isLeap then 1 else 0
  else if later.secondOfDay < earlier.secondOfDay then if later.isLeap then -1 else 0
  else 0

/-- The nanoseconds from one instant to another, negative if that comes first. -/
def since (later earlier : Instant) : Int :=
  (later.seconds - earlier.seconds + leapBetween later earlier) * second +
    ((later.nanos : Int) - (earlier.nanos : Int))

end Instant

end RunArchive
