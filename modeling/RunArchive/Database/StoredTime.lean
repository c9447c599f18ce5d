import RunArchive.Time.Instant

/-!
# Stored times

The database keeps a point in time as a count of microseconds.  Its counts reach beyond the range
of instants on both sides, so a stored time need not be an instant.  A leap second cannot be
stored: it becomes the second that follows.
-/

namespace RunArchive

/-- A point in time as the database keeps it. -/
structure StoredTime where
  /-- Whole microseconds from the beginning of 1970. -/
  micros : Int
deriving DecidableEq

namespace StoredTime

/-- Microseconds in a second. -/
def second : Nat := 1000000

/-- Nanoseconds in a microsecond. -/
def microsecond : Nat := 1000

/-- What is stored for a count of seconds and nanoseconds; what is left of a microsecond is lost. -/
def ofSeconds (seconds : Int) (nanos : Nat) : StoredTime :=
  ⟨seconds * second + (nanos / microsecond : Nat)⟩

/-- What is stored for an instant. -/
def ofInstant (instant : Instant) : StoredTime := ofSeconds instant.seconds instant.nanos

/-- The instant that is stored, unless it is out of range. -/
def instant? (time : StoredTime) : Option Instant :=
  Instant.of? (time.micros / second) ((time.micros % second).toNat * microsecond)

end StoredTime

end RunArchive
