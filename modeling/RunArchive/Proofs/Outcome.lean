/-!
# Chains of outcomes

How a chain of steps that may fail comes to its end: a step that succeeds hands its result on, one
that fails ends the chain, and a chain that succeeds has a result at every step.
-/

namespace RunArchive

variable {Fault Value Result : Type}

@[simp]
theorem ok_bind
    (value : Value) (continuation : Value → Except Fault Result) :
    (Except.ok value >>= continuation) = continuation value := rfl

@[simp]
theorem error_bind
    (fault : Fault) (continuation : Value → Except Fault Result) :
    (Except.error fault >>= continuation) = Except.error fault := rfl

/-- A chain that succeeds has succeeded in its first step. -/
theorem bind_eq_ok
    {outcome : Except Fault Value}
    {continuation : Value → Except Fault Result}
    {result : Result}
    (succeeds : (outcome >>= continuation) = .ok result) :
    ∃ value, outcome = .ok value ∧ continuation value = .ok result := by
  cases outcome with
  | error fault =>
      rw [error_bind] at succeeds
      exact absurd succeeds (by simp)
  | ok value =>
      exact ⟨value, rfl, succeeds⟩

/-- A chain that fails has failed in its first step or behind it. -/
theorem bind_eq_error
    {outcome : Except Fault Value}
    {continuation : Value → Except Fault Result}
    {fault : Fault}
    (fails : (outcome >>= continuation) = .error fault) :
    outcome = .error fault ∨
      ∃ value, outcome = .ok value ∧ continuation value = .error fault := by
  cases outcome with
  | error earlier =>
      rw [error_bind] at fails
      exact Or.inl (congrArg Except.error (Except.error.inj fails))
  | ok value =>
      exact Or.inr ⟨value, rfl, fails⟩

end RunArchive
