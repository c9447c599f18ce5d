import Mathlib.Order.Bounds.Defs
import RunArchive.Proofs.Database.Retry

/-!
# The course of repeated attempts

What happens from the first attempt at a unit of work to the last one, step by step: every attempt
comes to an outcome, and between two attempts there is a pause.  Nothing is assumed of the unit of
work.  It may keep a state of its own and come to another outcome every time; its outcomes are those
that it would come to if it were attempted for ever.

`run_course` says where the attempts end: at the first outcome that does not pass by itself, or at
the fourth outcome if this comes earlier.
-/

namespace RunArchive.Retry

/-- A step of the attempts at a unit of work. -/
inductive Step (Outcome : Type) where
  /-- The unit of work is attempted, and this comes of it. -/
  | attempted (outcome : Outcome)
  | paused (milliseconds : Nat)
deriving DecidableEq

/-- How far the attempts at a unit of work have come. -/
structure Progress (State Outcome : Type) where
  state : State
  /-- The steps so far in their order. -/
  steps : List (Step Outcome)
deriving DecidableEq

section Actions

variable {State Outcome : Type}

/-- Attempts a unit of work and notes it. -/
def attempting (work : StateM State Outcome) : StateM (Progress State Outcome) Outcome :=
  fun progress => do
    let (outcome, next) ← work.run progress.state
    return (outcome, ⟨next, progress.steps ++ [.attempted outcome]⟩)

/-- A pause that is only noted as a step. -/
def pausing (milliseconds : Nat) : StateM (Progress State Outcome) Unit :=
  modify fun progress => { progress with steps := progress.steps ++ [.paused milliseconds] }

/-- What the attempts come to from a state of the unit of work on, and how far they come. -/
def follow {Result : Type} (course : StateM (Progress State Outcome) Result) (start : State) :
    Result × Progress State Outcome :=
  (course.run ⟨start, []⟩).run

/-- The state behind these many attempts. -/
def stateAfter (work : StateM State Outcome) (start : State) : Nat → State
  | 0 => start
  | attempts + 1 => (work.run (stateAfter work start attempts)).run.2

/-- What the attempts at a unit of work come to, one after the other. -/
def outcomes (work : StateM State Outcome) (start : State) (attempt : Nat) : Outcome :=
  (work.run (stateAfter work start attempt)).run.1

/--
The steps before an attempt: each attempt so far is followed by a pause, and each pause is by 15
milliseconds longer than the one before.
-/
def stepsBefore (outcomes : Nat → Outcome) (attempt : Nat) : List (Step Outcome) :=
  (List.range attempt).flatMap fun earlier =>
    [.attempted (outcomes earlier), .paused (15 * (earlier + 1))]

/-- The steps to a last attempt, which is followed by no pause. -/
def stepsTo (outcomes : Nat → Outcome) (last : Nat) : List (Step Outcome) :=
  stepsBefore outcomes last ++ [.attempted (outcomes last)]

theorem stepsBefore_succ (outcomes : Nat → Outcome) (attempt : Nat) :
    stepsBefore outcomes (attempt + 1) =
      stepsTo outcomes attempt ++ [.paused (15 * (attempt + 1))] := by
  rw [stepsBefore, List.range_succ, List.flatMap_append, stepsTo, List.append_assoc]
  rfl

end Actions

/-! ## Which attempt is the last one -/

/--
An attempt is the last one from a first one on, with a number of repetitions to go: no outcome
before it is final, and its own is unless there is no repetition left.
-/
structure IsLast (passes : Nat → Bool) (first left last : Nat) : Prop where
  first_le : first ≤ last
  last_le : last ≤ first + left
  passing : ∀ attempt, first ≤ attempt → attempt < last → passes attempt = true
  final : last < first + left → passes last = false

variable {passes : Nat → Bool}

theorem isLast_settledFrom (passes : Nat → Bool) (first left : Nat) :
    IsLast passes first left (settledFrom passes first left) := by
  induction left generalizing first with
  | zero =>
      rw [settledFrom_zero]
      constructor <;> omega
  | succ left ih =>
      cases passing : passes first with
      | false =>
          rw [settledFrom_final passing]
          refine ⟨Nat.le_refl first, Nat.le_add_right first _, ?_, fun _ => passing⟩
          intro attempt behind before
          exact absurd behind (Nat.not_le.mpr before)
      | true =>
          rw [settledFrom_passing passing]
          have last := ih (first + 1)
          refine ⟨Nat.le_of_succ_le last.first_le, by have := last.last_le; omega, ?_, ?_⟩
          · intro attempt behind before
            rcases Nat.eq_or_lt_of_le behind with same | later
            · rw [← same]
              exact passing
            · exact last.passing attempt later before
          · intro before
            exact last.final (by omega)

/-- The last one of four attempts is the first that is final, or the fourth. -/
theorem IsLast.eq_min
    {last first : Nat} (isLast : IsLast passes 0 3 last)
    (least : IsLeast {attempt | passes attempt = false} first) :
    last + 1 = min 4 (first + 1) := by
  have notBefore : ¬ first < last := by
    intro before
    have passing := isLast.passing first (Nat.zero_le first) before
    have final : passes first = false := least.1
    rw [final] at passing
    exact Bool.false_ne_true passing
  have bound := isLast.last_le
  by_cases fourth : last < 3
  · have behind : first ≤ last := least.2 (isLast.final (by omega))
    omega
  · omega

/-- If no outcome is final, the fourth attempt is the last one. -/
theorem IsLast.eq_four
    {last : Nat} (isLast : IsLast passes 0 3 last)
    (always : ∀ attempt, passes attempt = true) :
    last + 1 = 4 := by
  have bound := isLast.last_le
  by_contra other
  have final := isLast.final (by omega)
  rw [always] at final
  exact Bool.noConfusion final

/-! ## Runs -/

section Runs

variable {State α : Type} (work : StateM State (Except DatabaseError α)) (start : State)

/--
A unit of work is attempted until it comes to a success or to a failure that does not pass, and at
most four times.

The number of attempts is the smaller one of four and the position of the first such outcome, or
four if there is none.  What is returned is the outcome of the last attempt.  Each attempt before
it is followed by a pause of 15 milliseconds times its number, and the last one by none; the unit of
work is left in the state that these attempts have brought it to.
-/
theorem run_course :
    ∃ last,
      (∀ first, IsLeast {attempt | mayPass (outcomes work start attempt) = false} first →
        last + 1 = min 4 (first + 1)) ∧
      ((∀ attempt, mayPass (outcomes work start attempt) = true) → last + 1 = 4) ∧
      follow (run pausing (attempting work)) start =
        (outcomes work start last,
          ⟨stateAfter work start (last + 1), stepsTo (outcomes work start) last⟩) := by
  let passes attempt := mayPass (outcomes work start attempt)
  have isLast : IsLast passes 0 3 (settledAt passes) := isLast_settledFrom passes 0 3
  refine ⟨settledAt passes, fun first => isLast.eq_min, isLast.eq_four, ?_⟩
  have works (attempt : Nat) :
      (attempting work).run
          ⟨stateAfter work start attempt, stepsBefore (outcomes work start) attempt⟩ =
        pure
          (outcomes work start attempt,
            ⟨stateAfter work start (attempt + 1), stepsTo (outcomes work start) attempt⟩) := rfl
  have pauses (attempt : Nat) :
      (pausing (pauseAfter (attempt + 1))).run
          ⟨stateAfter work start (attempt + 1), stepsTo (outcomes work start) attempt⟩ =
        pure
          ((), ⟨stateAfter work start (attempt + 1),
            stepsBefore (outcomes work start) (attempt + 1)⟩) := by
    rw [stepsBefore_succ]
    rfl
  exact congrArg Id.run (attempt_settled works pauses rfl)

end Runs

/-- The unit of work that goes through a sequence of outcomes, and counts its attempts. -/
def counted {Outcome : Type} (sequence : Nat → Outcome) : StateM Nat Outcome :=
  fun attempts => (sequence attempts, attempts + 1)

/-- Any sequence is that of the outcomes of some unit of work. -/
theorem outcomes_counted {Outcome : Type} (sequence : Nat → Outcome) :
    outcomes (counted sequence) 0 = sequence := by
  have behind (attempts : Nat) : stateAfter (counted sequence) 0 attempts = attempts := by
    induction attempts with
    | zero => rfl
    | succ attempts ih =>
        rw [stateAfter, ih]
        rfl
  funext attempt
  rw [outcomes, behind]
  rfl

/-- A conflict, a lost connection and a success, and conflicts ever after. -/
def bumpySequence : Nat → Except DatabaseError Nat
  | 1 => .error (.transient "reset")
  | 2 => .ok 7
  | _ => .error .conflict

/-- The success in the third attempt is returned, and what would come behind it is not tried. -/
theorem run_course_bumpy :
    follow (run pausing (attempting (counted bumpySequence))) 0 =
      (.ok 7,
        ⟨3,
          [.attempted (.error .conflict), .paused 15, .attempted (.error (.transient "reset")),
            .paused 30, .attempted (.ok 7)]⟩) := by
  rcases run_course (counted bumpySequence) 0 with ⟨last, least, _, followed⟩
  rw [outcomes_counted] at least followed
  have first : IsLeast {attempt | mayPass (bumpySequence attempt) = false} 2 := by
    refine ⟨rfl, ?_⟩
    intro attempt final
    match attempt, final with
    | 0, final => cases final
    | 1, final => cases final
    | attempt + 2, _ => exact Nat.le_add_left 2 attempt
  have third : last = 2 := Nat.succ.inj (least 2 first)
  rw [followed, third]
  rfl

end RunArchive.Retry
