import Mathlib.Data.List.Basic
import RunArchive.Database.Retry

/-!
# Which attempt is final

A unit of work whose outcomes form a sequence is attempted until one of them may not pass, at most
four times.  `settledAt` is the number of the final attempt.  `attempt_settled` follows the attempts
from any of them on, whatever the unit of work keeps as its state.  `ofOutcomes_eq` says of a script
that it has the outcome of that attempt, how many attempts there have been and which pauses lay
between them.
-/

namespace RunArchive.Retry

/--
The number of the final attempt from one on with a number of repetitions to go: the first one
whose outcome does not pass, or the last one that there can be.
-/
def settledFrom (passes : Nat → Bool) (first left : Nat) : Nat :=
  ((List.range' first left).find? fun attempt => !passes attempt).getD (first + left)

/-- The number of the final attempt, counted from zero. -/
def settledAt (passes : Nat → Bool) : Nat := settledFrom passes 0 mostRepetitions

/-- The pauses between two attempts and all attempts in between, the last one first. -/
def pausesBetween (first last : Nat) : List Nat :=
  ((List.range' (first + 1) (last - first)).map pauseAfter).reverse

/-- What an action comes to if nothing has happened yet. -/
def outcomeOf {α : Type} (action : StateM History α) : α := (StateT.run action .empty).run.1

variable {α : Type} {passes : Nat → Bool} {first left : Nat}

theorem settledFrom_zero (passes : Nat → Bool) (first : Nat) :
    settledFrom passes first 0 = first := rfl

theorem settledFrom_final (final : passes first = false) :
    settledFrom passes first (left + 1) = first := by
  rw [settledFrom, List.range'_succ, List.find?_cons, final]
  rfl

theorem settledFrom_passing (passing : passes first = true) :
    settledFrom passes first (left + 1) = settledFrom passes (first + 1) left := by
  rw [settledFrom, List.range'_succ, List.find?_cons, passing, settledFrom]
  exact congrArg _ (by omega)

/-- The pause after the last attempt comes before all others. -/
theorem pausesBetween_succ {last : Nat} (later : first ≤ last) :
    pausesBetween first (last + 1) = pauseAfter (last + 1) :: pausesBetween first last := by
  have count : last + 1 - first = last - first + 1 := by omega
  have place : first + 1 + (last - first) = last + 1 := by omega
  rw [pausesBetween, count, List.range'_1_concat, place, List.map_append, List.reverse_append]
  rfl

/--
Attempts that are known one by one come to the outcome of the final one, and to the state behind
it.  A state of the unit of work lies before each attempt, and the pause after a failed attempt
leads from the state behind it to the one before the next.
-/
theorem attempt_settled
    {State : Type} {pause : Nat → StateM State Unit}
    {work : StateM State (Except DatabaseError α)}
    {outcomes : Nat → Except DatabaseError α} {before behind : Nat → State}
    (works : ∀ attempt, work.run (before attempt) = pure (outcomes attempt, behind attempt))
    (pauses :
      ∀ attempt,
        (pause (pauseAfter (attempt + 1))).run (behind attempt) =
          pure ((), before (attempt + 1)))
    {failed settled : Nat}
    (final : settledFrom (fun attempt => mayPass (outcomes attempt)) failed left = settled) :
    (attempt pause work left failed).run (before failed) =
      pure (outcomes settled, behind settled) := by
  -- One repetition less to go is one failed attempt more.
  induction left generalizing failed with
  | zero =>
      rw [settledFrom_zero] at final
      rw [← final]
      exact works failed
  | succ left ih =>
      rw [attempt, StateT.run_bind, works, pure_bind]
      cases passing : mayPass (outcomes failed) with
      | false =>
          rw [settledFrom_final passing] at final
          rw [← final]
          rfl
      | true =>
          rw [settledFrom_passing passing] at final
          rw [if_pos rfl, StateT.run_bind, pauses, pure_bind]
          exact ih final

/-- A script comes to the outcome of its final attempt. -/
theorem ofOutcomes_eq
    (outcomes : Nat → Except DatabaseError α) {settled : Nat}
    (final : settledAt (fun attempt => mayPass (outcomes attempt)) = settled) :
    ofOutcomes outcomes = (outcomes settled, ⟨settled + 1, pausesBetween 0 settled⟩) := by
  have works (attempt : Nat) :
      StateT.run (scripted outcomes) ⟨attempt, pausesBetween 0 attempt⟩ =
        pure (outcomes attempt, ⟨attempt + 1, pausesBetween 0 attempt⟩) := rfl
  have pauses (attempt : Nat) :
      StateT.run (notedPause (pauseAfter (attempt + 1)))
          ⟨attempt + 1, pausesBetween 0 attempt⟩ =
        pure ((), ⟨attempt + 1, pausesBetween 0 (attempt + 1)⟩) := by
    rw [pausesBetween_succ (Nat.zero_le attempt)]
    rfl
  exact attempt_settled works pauses final

end RunArchive.Retry
