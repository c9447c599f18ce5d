import Mathlib.Data.Int.Order.Basic
import RunArchive.Database.Row
import RunArchive.Proofs.Outcome
import RunArchive.Proofs.Run.Names
import RunArchive.Proofs.Run.Validity
import RunArchive.Proofs.Time.Instant

/-!
# Which columns make a summary

Columns are *sound* if their state has a name, their counts are not negative and no more electrons
are completed than there are, and if the run does not end before it starts.  These are exactly the
columns that make a summary, whenever it is made.  The summary says what the columns say, and its
runtime is the time up to the end of the run, or up to now while it has none.
-/

namespace RunArchive

/-! ## Runtimes -/

namespace Summary

variable {startedAt : Instant} (plainStart : startedAt.isLeap = false)
include plainStart

/-- A runtime is a difference of places on the line, or zero where that is negative. -/
theorem runtimeUntil_eq
    (endedAt : Option Instant) (now : Instant) (plainEnd : (endedAt.getD now).isLeap = false) :
    (runtimeUntil startedAt endedAt now : Int) =
      max 0 ((endedAt.getD now).sinceEpoch - startedAt.sinceEpoch) := by
  rw [runtimeUntil, Instant.since_plain plainStart plainEnd]
  omega

/-- The runtime of a run without an end does not decrease. -/
theorem runtimeUntil_mono
    {now later : Instant} (plainNow : now.isLeap = false) (plainLater : later.isLeap = false)
    (ordered : ¬ later.Before now) :
    runtimeUntil startedAt none now ≤ runtimeUntil startedAt none later := by
  have before := runtimeUntil_eq plainStart none now plainNow
  have behind := runtimeUntil_eq plainStart none later plainLater
  rw [Instant.before_iff plainNow plainLater] at ordered
  rw [Option.getD_none] at before behind
  omega

/-- A run that has ended, and not before it started, ended after its runtime. -/
theorem plus?_runtimeUntil
    {ended : Instant} (plainEnd : ended.isLeap = false) (ordered : ¬ ended.Before startedAt)
    (now : Instant) :
    startedAt.plus? (runtimeUntil startedAt (some ended) now) = some ended := by
  have runtime := runtimeUntil_eq plainStart (some ended) now plainEnd
  rw [Instant.before_iff plainStart plainEnd] at ordered
  rw [Option.getD_some] at runtime
  exact Instant.plus?_eq_some plainEnd (by omega)

end Summary

/-! ## Columns -/

namespace SummaryColumns

/-- Columns that make sense together. -/
structure Sound (columns : SummaryColumns) : Prop where
  named : ∃ status : RunStatus, status.name = columns.status
  electrons : 0 ≤ columns.electrons.toInt
  completed : 0 ≤ columns.completedElectrons.toInt
  counted : columns.completedElectrons.toInt ≤ columns.electrons.toInt
  ordered : ∀ ended, columns.completedAt = some ended → ¬ ended.Before columns.startedAt

/-- A summary says what the columns say. -/
structure Says (columns : SummaryColumns) (summary : Summary) : Prop where
  id : summary.id = columns.id
  status : summary.status.name = columns.status
  total : (summary.total.toNat : Int) = columns.electrons.toInt
  completed : (summary.completed.toNat : Int) = columns.completedElectrons.toInt
  startedAt : summary.startedAt = columns.startedAt
  endedAt : summary.endedAt = columns.completedAt
  directory : summary.directory = .ofText columns.directory

variable {columns : SummaryColumns} {now : Instant} {summary : Summary}

/-- A count is read exactly if it is not negative, and as the number that it is. -/
theorem count_eq_ok_iff {id : RunId} {column : String} {value : Int32} {number : UInt32} :
    count id column value = .ok number ↔ (number.toNat : Int) = value.toInt := by
  have bound : value.toInt < 2 ^ 31 := value.toInt_lt
  rw [count]
  by_cases negative : value.toInt < 0
  · rw [if_pos negative]
    constructor
    · intro refused
      cases refused
    · intro same
      omega
  · rw [if_neg negative, Except.ok.injEq, ← UInt32.toNat_inj, UInt32.toNat_ofNat']
    omega

theorem readStatus_eq_ok_iff {status : RunStatus} :
    columns.readStatus = .ok status ↔ status.name = columns.status := by
  rw [← RunStatus.ofName?_eq_some_iff, readStatus, RunStatus.parse]
  cases RunStatus.ofName? columns.status <;> simp

/-- What becomes of columns: a valid summary that says what they say, with its runtime. -/
theorem summary_eq_ok_iff :
    columns.summary now = .ok summary ↔
      columns.Says summary ∧ summary.Valid ∧
        summary.runtime = Summary.runtimeUntil columns.startedAt columns.completedAt now := by
  constructor
  · intro made
    rcases bind_eq_ok made with ⟨status, named, made⟩
    rcases bind_eq_ok made with ⟨total, electrons, made⟩
    rcases bind_eq_ok made with ⟨completed, completedElectrons, made⟩
    dsimp only at made
    split at made
    · rename_i accepted outcome
      rcases Summary.validated_eq_ok_iff.mp outcome with ⟨rfl, valid⟩
      cases made
      exact
        ⟨⟨rfl, readStatus_eq_ok_iff.mp named, count_eq_ok_iff.mp electrons,
          count_eq_ok_iff.mp completedElectrons, rfl, rfl, rfl⟩, valid, rfl⟩
    · cases made
  · rintro ⟨told, valid, runtime⟩
    rcases summary with ⟨id, status, total, completed, startedAt, endedAt, directory, time⟩
    rcases told with ⟨rfl, named, electrons, completedElectrons, rfl, rfl, rfl⟩
    subst runtime
    rw [SummaryColumns.summary, readStatus_eq_ok_iff.mpr named, ok_bind,
      count_eq_ok_iff.mpr electrons, ok_bind, count_eq_ok_iff.mpr completedElectrons, ok_bind]
    dsimp only
    rw [Summary.validated_valid valid]

/-! ## Refusals -/

variable {error : DatabaseError}

theorem count_error
    {id : RunId} {column : String} {value : Int32}
    (refused : count id column value = .error error) :
    ∃ description, error = .corrupt description := by
  rw [count] at refused
  split at refused
  · exact ⟨_, (Except.error.inj refused).symm⟩
  · cases refused

theorem readStatus_error
    (refused : columns.readStatus = .error error) :
    ∃ description, error = .corrupt description := by
  rw [readStatus] at refused
  cases parsed : RunStatus.parse columns.status with
  | ok status =>
      rw [parsed] at refused
      cases refused
  | error cause =>
      rw [parsed] at refused
      exact ⟨_, (Except.error.inj refused).symm⟩

/-- Columns that make no summary cannot be true. -/
theorem summary_error
    (failed : columns.summary now = .error error) :
    ∃ description, error = .corrupt description := by
  rcases bind_eq_error failed with failed | ⟨status, _, failed⟩
  · exact readStatus_error failed
  rcases bind_eq_error failed with failed | ⟨total, _, failed⟩
  · exact count_error failed
  rcases bind_eq_error failed with failed | ⟨completed, _, failed⟩
  · exact count_error failed
  dsimp only at failed
  split at failed
  · cases failed
  · exact ⟨_, (Except.error.inj failed).symm⟩

/-! ## Sound columns -/

/-- Every number that is not negative is a count. -/
theorem exists_count {value : Int32} (positive : 0 ≤ value.toInt) :
    ∃ number : UInt32, (number.toNat : Int) = value.toInt := by
  have bound : value.toInt < 2 ^ 31 := value.toInt_lt
  refine ⟨UInt32.ofNat value.toInt.toNat, ?_⟩
  rw [UInt32.toNat_ofNat']
  omega

/-- Sound columns and no others make a summary. -/
theorem summary_iff_sound (now : Instant) :
    (∃ summary, columns.summary now = .ok summary) ↔ columns.Sound := by
  constructor
  · rintro ⟨summary, made⟩
    rcases summary_eq_ok_iff.mp made with ⟨told, ⟨counted, ordered⟩, _⟩
    have total := told.total
    have completed := told.completed
    rw [UInt32.le_iff_toNat_le] at counted
    rw [told.endedAt, told.startedAt] at ordered
    exact ⟨⟨summary.status, told.status⟩, by omega, by omega, by omega, ordered⟩
  · rintro ⟨⟨status, named⟩, electrons, completedElectrons, counted, ordered⟩
    rcases exists_count electrons with ⟨total, same⟩
    rcases exists_count completedElectrons with ⟨completed, sameCompleted⟩
    have fits : completed ≤ total := by
      rw [UInt32.le_iff_toNat_le]
      omega
    exact
      ⟨⟨columns.id, status, total, completed, columns.startedAt, columns.completedAt,
        .ofText columns.directory, _⟩,
        summary_eq_ok_iff.mpr
          ⟨⟨rfl, named, same, sameCompleted, rfl, rfl, rfl⟩, ⟨fits, ordered⟩, rfl⟩⟩

/--
Columns make a summary exactly if they are sound, at any time, and otherwise they count as corrupt.
The time that is measured can always be counted.

The summary is valid and says what the columns say.  Outside of leap seconds its runtime is the time
from the start to the end, or to now while there is none, and zero if that comes first: the run
ended after its runtime, and while it has not ended the runtime does not decrease.
-/
theorem summary_exact (columns : SummaryColumns) :
    (∀ now, (∃ summary, columns.summary now = .ok summary) ↔ columns.Sound) ∧
    (¬ columns.Sound →
      ∀ now, ∃ description, columns.summary now = .error (.corrupt description)) ∧
    (∀ now,
      ((columns.completedAt.getD now).since columns.startedAt).natAbs ≤ Instant.greatestSpan) ∧
    ∀ now summary, columns.summary now = .ok summary →
      summary.check = .ok () ∧ columns.Says summary ∧
      (columns.startedAt.isLeap = false →
        ((columns.completedAt.getD now).isLeap = false →
          (summary.runtime : Int) =
            max 0 ((columns.completedAt.getD now).sinceEpoch - columns.startedAt.sinceEpoch)) ∧
        (∀ ended, columns.completedAt = some ended → ended.isLeap = false →
          columns.startedAt.plus? summary.runtime = some ended) ∧
        (columns.completedAt = none → now.isLeap = false →
          ∀ later, later.isLeap = false → ¬ later.Before now →
            ∃ grown, columns.summary later = .ok grown ∧ summary.runtime ≤ grown.runtime)) := by
  refine ⟨summary_iff_sound, ?_, fun now => Instant.natAbs_since_le _ _, ?_⟩
  · intro unsound now
    cases outcome : columns.summary now with
    | ok summary => exact absurd ((summary_iff_sound now).mp ⟨summary, outcome⟩) unsound
    | error error =>
        rcases summary_error outcome with ⟨description, rfl⟩
        exact ⟨description, rfl⟩
  intro now summary made
  rcases summary_eq_ok_iff.mp made with ⟨told, valid, runtime⟩
  have sound := (summary_iff_sound now).mp ⟨summary, made⟩
  refine ⟨Summary.check_valid valid, told, ?_⟩
  intro plainStart
  rw [runtime]
  refine ⟨Summary.runtimeUntil_eq plainStart _ now, ?_, ?_⟩
  · intro ended finished plainEnd
    rw [finished]
    exact Summary.plus?_runtimeUntil plainStart plainEnd (sound.ordered ended finished) now
  · intro running plainNow later plainLater ordered
    rcases (summary_iff_sound later).mpr sound with ⟨grown, remade⟩
    refine ⟨grown, remade, ?_⟩
    rw [(summary_eq_ok_iff.mp remade).2.2, running]
    exact Summary.runtimeUntil_mono plainStart plainNow plainLater ordered

/-- A run that ended with fewer nanoseconds in its second than it started with. -/
def briefColumns : SummaryColumns where
  id := ⟨8, by decide⟩
  status := "COMPLETED"
  electrons := 2147483647
  completedElectrons := 2147483647
  directory := "/runs/8"
  startedAt := ⟨100, 999999999, by decide⟩
  completedAt := some ⟨102, 1, by decide⟩

/-- The second that is borrowed for the nanoseconds is not counted. -/
theorem summary_exact_brief :
    ∃ summary, briefColumns.summary .epoch = .ok summary ∧ summary.runtime = 1000000002 ∧
      briefColumns.startedAt.plus? summary.runtime = some ⟨102, 1, by decide⟩ := by
  rcases summary_exact briefColumns with ⟨accepts, _, _, exactly⟩
  have sound : briefColumns.Sound :=
    ⟨⟨.completed, rfl⟩, by decide, by decide, by decide, by rintro ended ⟨rfl⟩; decide⟩
  rcases (accepts .epoch).mpr sound with ⟨summary, made⟩
  rcases exactly .epoch summary made with ⟨_, _, plain⟩
  rcases plain (by decide) with ⟨runtime, ends, _⟩
  refine ⟨summary, made, ?_, ends _ rfl (by decide)⟩
  have measured := runtime (by decide)
  have places :
      max 0 ((briefColumns.completedAt.getD .epoch).sinceEpoch -
        briefColumns.startedAt.sinceEpoch) = 1000000002 := by decide
  omega

end SummaryColumns

end RunArchive
