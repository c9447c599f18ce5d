import Mathlib.Tactic.SplitIfs
import RunArchive.Time.Instant

/-!
# Instants on a line

Outside of leap seconds the instants lie on a line, and `sinceEpoch` is their place on it: the order
of instants is the order of these numbers, and the nanoseconds from one instant to another are their
difference.  Going forward from an instant by the nanoseconds to a later one leads there.

In leap seconds none of this is true.  What holds of all instants is that the nanoseconds between
two of them can be counted in whole milliseconds with 64 bits.

The calendar knows leap seconds at the end of a minute only.  Any other one is *misplaced*, and
`aligned` takes it for the second that follows.
-/

namespace RunArchive.Instant

/-- The nanoseconds from the beginning of 1970. -/
def sinceEpoch (instant : Instant) : Int := instant.seconds * second + instant.nanos

/-- The instant that comes so many nanoseconds later. -/
def plus? (instant : Instant) (nanos : Nat) : Option Instant :=
  of? ((instant.sinceEpoch + nanos) / second) ((instant.sinceEpoch + nanos) % second).toNat

/-- The greatest number of nanoseconds between two instants that can be counted. -/
def greatestSpan : Nat := 9223372036854775807 * 1000000

/-- A leap second that does not follow the last second of a minute. -/
def Misplaced (instant : Instant) : Prop :=
  second ≤ instant.nanos ∧ instant.seconds % 60 ≠ 59

instance (instant : Instant) : Decidable instant.Misplaced :=
  inferInstanceAs (Decidable (_ ∧ _))

/-- The last second that is kept is the last one of its minute, so another one follows. -/
theorem Misplaced.next_valid {instant : Instant} (misplaced : instant.Misplaced) :
    Valid (instant.seconds + 1) (instant.nanos - second) := by
  rcases misplaced with ⟨_, early⟩
  rcases instant.valid with ⟨low, high, small⟩
  unfold Valid
  unfold lastSecond second at *
  omega

/-- The instant, or the second that follows if it is in a misplaced leap second. -/
def aligned (instant : Instant) : Instant :=
  if misplaced : instant.Misplaced then
    ⟨instant.seconds + 1, instant.nanos - second, misplaced.next_valid⟩
  else instant

theorem aligned_placed {instant : Instant} (placed : ¬ instant.Misplaced) :
    instant.aligned = instant :=
  dif_neg placed

theorem aligned_misplaced {instant : Instant} (misplaced : instant.Misplaced) :
    instant.aligned = ⟨instant.seconds + 1, instant.nanos - second, misplaced.next_valid⟩ :=
  dif_pos misplaced

theorem aligned_eq_iff (instant : Instant) : instant.aligned = instant ↔ ¬ instant.Misplaced := by
  refine ⟨fun same misplaced => ?_, aligned_placed⟩
  rw [aligned_misplaced misplaced] at same
  have next : instant.seconds + 1 = instant.seconds := congrArg Instant.seconds same
  omega

theorem not_misplaced_aligned (instant : Instant) : ¬ instant.aligned.Misplaced := by
  by_cases misplaced : instant.Misplaced
  · rw [aligned_misplaced misplaced]
    rintro ⟨late, _⟩
    have small := instant.valid.2.2
    dsimp only at late
    unfold second at *
    omega
  · rw [aligned_placed misplaced]
    exact misplaced

theorem nanos_lt {instant : Instant} (plain : instant.isLeap = false) : instant.nanos < second :=
  Nat.lt_of_not_le (of_decide_eq_false plain)

/-- An instant is determined by its place on the line. -/
theorem of?_sinceEpoch {instant : Instant} (plain : instant.isLeap = false) :
    of? (instant.sinceEpoch / second) (instant.sinceEpoch % second).toNat = some instant := by
  have small := nanos_lt plain
  have seconds : instant.sinceEpoch / second = instant.seconds := by
    unfold sinceEpoch second at *
    omega
  have nanos : (instant.sinceEpoch % second).toNat = instant.nanos := by
    unfold sinceEpoch second at *
    omega
  rw [seconds, nanos]
  exact dif_pos instant.valid

/-- Going forward by the difference of two places leads from one to the other. -/
theorem plus?_eq_some
    {earlier later : Instant} (plain : later.isLeap = false)
    {nanos : Nat} (reaches : earlier.sinceEpoch + nanos = later.sinceEpoch) :
    earlier.plus? nanos = some later := by
  rw [plus?, reaches]
  exact of?_sinceEpoch plain

section Plain

variable {earlier later : Instant}
  (plainEarlier : earlier.isLeap = false) (plainLater : later.isLeap = false)
include plainEarlier plainLater

theorem leapBetween_plain : later.leapBetween earlier = 0 := by
  rw [leapBetween, plainEarlier, plainLater]
  simp

theorem since_plain : later.since earlier = later.sinceEpoch - earlier.sinceEpoch := by
  rw [since, leapBetween_plain plainEarlier plainLater, sinceEpoch, sinceEpoch]
  unfold second
  omega

theorem before_iff : later.Before earlier ↔ later.sinceEpoch < earlier.sinceEpoch := by
  have smallEarlier := nanos_lt plainEarlier
  have smallLater := nanos_lt plainLater
  unfold Before sinceEpoch
  unfold second at *
  omega

end Plain

theorem leapBetween_range (later earlier : Instant) :
    -1 ≤ later.leapBetween earlier ∧ later.leapBetween earlier ≤ 1 := by
  unfold leapBetween
  split_ifs <;> omega

/-- No two instants are too far apart for their distance to be counted. -/
theorem natAbs_since_le (later earlier : Instant) :
    (later.since earlier).natAbs ≤ greatestSpan := by
  rcases later.valid with ⟨laterLow, laterHigh, laterNanos⟩
  rcases earlier.valid with ⟨earlierLow, earlierHigh, earlierNanos⟩
  rcases leapBetween_range later earlier with ⟨leapLow, leapHigh⟩
  unfold since greatestSpan
  unfold firstSecond at laterLow earlierLow
  unfold lastSecond at laterHigh earlierHigh
  unfold second at *
  omega

end RunArchive.Instant
