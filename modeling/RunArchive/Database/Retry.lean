import RunArchive.Database.Error

/-!
# Repeated attempts

Some failures of a database pass by themselves.  A unit of work that fails so is repeated after a
short pause, at most three times, and each pause is longer than the one before.  Any other outcome
is final the first time it appears, and so is the outcome of the fourth attempt.
-/

namespace RunArchive.Retry

/-- How often a unit of work is repeated at most. -/
def mostRepetitions : Nat := 3

/-- The pause after this many failed attempts, in milliseconds. -/
def pauseAfter (failed : Nat) : Nat := 15 * failed

/-- Whether an outcome is a failure that may pass. -/
def mayPass {α : Type} : Except DatabaseError α → Bool
  | .ok _ => false
  | .error error => error.isRetryable

/-- Attempts a unit of work behind `failed` failed attempts, with `left` repetitions to go. -/
def attempt {m : Type → Type} [Monad m] {α : Type} (pause : Nat → m Unit)
    (work : m (Except DatabaseError α)) : (left failed : Nat) → m (Except DatabaseError α)
  | 0, _ => work
  | left + 1, failed => do
    let outcome ← work
    if mayPass outcome then
      pause (pauseAfter (failed + 1))
      attempt pause work left (failed + 1)
    else
      return outcome

/-- Runs a unit of work until its outcome is final. -/
def run {m : Type → Type} [Monad m] {α : Type} (pause : Nat → m Unit)
    (work : m (Except DatabaseError α)) : m (Except DatabaseError α) :=
  attempt pause work mostRepetitions 0

/-- What has happened so far: how many attempts there were, and which pauses, the last one first. -/
structure History where
  attempts : Nat
  pauses : List Nat
deriving DecidableEq

/-- The history in which nothing has happened. -/
def History.empty : History := ⟨0, []⟩

/-- A pause that is only noted. -/
def notedPause (milliseconds : Nat) : StateM History Unit :=
  modify fun history => { history with pauses := milliseconds :: history.pauses }

/-- The action that comes to the next one of a sequence of outcomes every time. -/
def scripted {Outcome : Type} (outcomes : Nat → Outcome) : StateM History Outcome :=
  modifyGet fun history =>
    (outcomes history.attempts, { history with attempts := history.attempts + 1 })

/-- What becomes of a sequence of outcomes, and what has happened in the end. -/
def ofOutcomes {α : Type} (outcomes : Nat → Except DatabaseError α) :
    Except DatabaseError α × History :=
  (run notedPause (scripted outcomes)).run .empty

end RunArchive.Retry
