import Mathlib.Tactic.SplitIfs
import RunArchive.CommandLine.EnvironmentFile
import RunArchive.Proofs.Outcome
import RunArchive.Proofs.Text.Utf8

/-!
# Loading environment files

Loading an environment file again changes nothing.  Its values may read differently, since a
variable that stands in one of them may have been set meanwhile; but neither does it depend on
values which line is the first malformed one, nor to which variable a line before that gives a
value.  All of these are set, and keep what they have.

An environment never holds a NUL character.  A file has such a value for a variable that is not set
only if there is an octet zero in it: no other text reads as one, and what is put in for a name is
the value of a variable or stands in the file itself.
-/

namespace RunArchive

/-! ## Variables -/

namespace Environment

/-- An environment has a value for a name. -/
def Sets (environment : Environment) (variableName : String) : Prop :=
  environment.get? variableName ≠ none

variable {environment : Environment} {variableName : String}

theorem setDefault_of_sets (set : environment.Sets variableName) (value : String) :
    environment.setDefault variableName value = environment := by
  rw [setDefault]
  cases found : environment.get? variableName with
  | none => exact absurd found set
  | some value => rfl

theorem setDefault_of_not_sets
    (unset : environment.get? variableName = none) (value : String) :
    environment.setDefault variableName value = environment ++ [(variableName, value)] := by
  rw [setDefault, unset]

/-- A default leaves what is set. -/
theorem Sets.setDefault
    (set : environment.Sets variableName) (other value : String) :
    (environment.setDefault other value).Sets variableName := by
  by_cases unset : environment.get? other = none
  · rw [setDefault_of_not_sets unset, Sets, get?, List.lookup_append]
    intro nothing
    exact set (Option.or_eq_none_iff.mp nothing).1
  · rw [setDefault_of_sets unset]
    exact set

theorem sets_setDefault (environment : Environment) (variableName value : String) :
    (environment.setDefault variableName value).Sets variableName := by
  by_cases unset : environment.get? variableName = none
  · rw [setDefault_of_not_sets unset, Sets, get?, List.lookup_append]
    simp
  · rw [setDefault_of_sets unset]
    exact unset

end Environment

namespace EnvironmentFile

/-! ## What does not depend on values -/

namespace Partial

/-- Two values have been read from the same text. -/
structure Alike (left right : Partial) : Prop where
  mode : left.mode = right.mode
  inQuotes : left.inQuotes = right.inQuotes
  name : left.name = right.name

namespace Alike

variable {left right : Partial} (alike : left.Alike right) (valueOf others : String → String)
  (character : Char)
include alike

theorem withMode (mode : ValueMode) :
    ({ left with mode := mode } : Partial).Alike { right with mode := mode } :=
  ⟨rfl, alike.inQuotes, alike.name⟩

theorem push (leftChar rightChar : Char) : (left.push leftChar).Alike (right.push rightChar) :=
  ⟨alike.mode, alike.inQuotes, alike.name⟩

theorem readPlain :
    (left.readPlain character).Alike (right.readPlain character) := by
  rcases left with ⟨mode, inQuotes, leftWritten, name⟩
  rcases right with ⟨_, _, rightWritten, _⟩
  rcases alike with ⟨rfl, rfl, rfl⟩
  unfold Partial.readPlain
  split_ifs <;> exact ⟨rfl, rfl, rfl⟩

theorem readName :
    (left.readName valueOf character).Alike (right.readName others character) := by
  rcases left with ⟨mode, inQuotes, leftWritten, name⟩
  rcases right with ⟨_, _, rightWritten, _⟩
  rcases alike with ⟨rfl, rfl, rfl⟩
  unfold Partial.readName
  split_ifs <;> exact ⟨rfl, rfl, rfl⟩

theorem readBraced :
    (left.readBraced valueOf character).Alike (right.readBraced others character) := by
  rcases left with ⟨mode, inQuotes, leftWritten, name⟩
  rcases right with ⟨_, _, rightWritten, _⟩
  rcases alike with ⟨rfl, rfl, rfl⟩
  unfold Partial.readBraced
  split_ifs <;> exact ⟨rfl, rfl, rfl⟩

theorem finish : (left.finish valueOf).isSome = (right.finish others).isSome := by
  unfold Partial.finish
  rw [alike.mode, alike.inQuotes]
  split_ifs <;> rfl

/-- Whether a value is malformed does not depend on what is put in for names. -/
theorem read (line : List Char) :
    (left.read valueOf line).isSome = (right.read others line).isSome := by
  induction line generalizing left right with
  | nil => exact alike.finish valueOf others
  | cons character rest ih =>
      rw [Partial.read, Partial.read, alike.mode]
      cases right.mode with
      | plain => exact ih (alike.readPlain character)
      | escaped =>
          dsimp only
          cases Partial.unescape? character with
          | none => rfl
          | some meant => exact ih ((alike.push meant meant).withMode .plain)
      | single =>
          dsimp only
          split_ifs
          · exact ih (alike.withMode .plain)
          · exact ih (alike.push character character)
      | name => exact ih (alike.readName valueOf others character)
      | braced => exact ih (alike.readBraced valueOf others character)
      | finished =>
          dsimp only
          split_ifs
          · exact ih alike
          · exact alike.finish valueOf others
          · rfl

end Alike

end Partial

/-- The variable that a line is about. -/
def Statement.key? : Statement → Option String
  | .nothing => none
  | .assignment key _ => some key

namespace Loading

/-- Whether a line is malformed and which variable it is about do not depend on values. -/
theorem statement?_keys (loading other : Loading) (line : List Char) :
    (loading.statement? line).map Statement.key? =
      (other.statement? line).map Statement.key? := by
  unfold statement?
  rcases Text.trim line with _ | ⟨first, rest⟩
  · rfl
  dsimp only
  split_ifs
  · rfl
  rcases readTarget (first :: rest) with _ | ⟨key, text⟩
  · rfl
  dsimp only [Option.bind_eq_bind, Option.bind_some]
  split_ifs
  · rfl
  have alike : Partial.start.Alike Partial.start := ⟨rfl, rfl, rfl⟩
  have malformed := alike.read loading.valueOf other.valueOf text
  cases left : Partial.start.read loading.valueOf text <;>
    cases right : Partial.start.read other.valueOf text
  · rfl
  · rw [left, right] at malformed
    cases malformed
  · rw [left, right] at malformed
    cases malformed
  · rfl

/-! ## Loading again -/

variable {loading next done : Loading} {lines : List (Option (List Char))}

theorem assign_environment
    {key value : String} (assigned : loading.assign key value = .ok next) :
    next.environment = loading.environment.setDefault key value := by
  rw [assign] at assigned
  split_ifs at assigned
  rw [← Except.ok.inj assigned]

/-- A variable that is set keeps its value, whatever the file gives to it. -/
theorem assign_of_sets
    {key : String} (set : loading.environment.Sets key) (value : String) :
    loading.assign key value =
      .ok ⟨loading.environment, (key, value) :: loading.values⟩ := by
  rw [assign, if_neg fun breach => set breach.1, Environment.setDefault_of_sets set]

theorem perform_sets
    {statement : Statement} (performed : loading.perform statement = .ok next) {name : String}
    (set : loading.environment.Sets name) :
    next.environment.Sets name := by
  cases statement with
  | nothing =>
      rw [← Except.ok.inj performed]
      exact set
  | assignment key value =>
      rw [assign_environment performed]
      exact set.setDefault key value

/-- The variable that a line has been about is set. -/
theorem perform_key
    {statement : Statement} (performed : loading.perform statement = .ok next) {key : String}
    (about : statement.key? = some key) :
    next.environment.Sets key := by
  cases statement with
  | nothing => cases about
  | assignment key value =>
      cases about
      rw [assign_environment performed]
      exact Environment.sets_setDefault _ key value

theorem readLines_sets
    (read : loading.readLines lines = .ok done) {name : String}
    (set : loading.environment.Sets name) :
    done.environment.Sets name := by
  induction lines generalizing loading with
  | nil =>
      rw [← Except.ok.inj read]
      exact set
  | cons line rest ih =>
      cases line with
      | none =>
          rw [← Except.ok.inj read]
          exact set
      | some line =>
          rw [readLines] at read
          cases said : loading.statement? line with
          | none =>
              rw [said] at read
              rw [← Except.ok.inj read]
              exact set
          | some statement =>
              rw [said] at read
              rcases bind_eq_ok read with ⟨next, performed, read⟩
              exact ih read (perform_sets performed set)

/-- Over an environment with all variables that a file sets, its lines change nothing. -/
theorem readLines_again
    {other : Loading} (read : loading.readLines lines = .ok done)
    (settled : ∀ name, done.environment.Sets name → other.environment.Sets name) :
    ∃ final, other.readLines lines = .ok final ∧ final.environment = other.environment := by
  induction lines generalizing loading other with
  | nil => exact ⟨other, rfl, rfl⟩
  | cons line rest ih =>
      cases line with
      | none => exact ⟨other, rfl, rfl⟩
      | some line =>
          have keys := loading.statement?_keys other line
          rw [readLines] at read ⊢
          cases said : loading.statement? line with
          | none =>
              rw [said, Option.map_none] at keys
              rw [Option.map_eq_none_iff.mp keys.symm]
              exact ⟨other, rfl, rfl⟩
          | some statement =>
              rw [said] at read keys
              rcases bind_eq_ok read with ⟨next, performed, read⟩
              rcases Option.map_eq_some_iff.mp keys.symm with ⟨again, saidAgain, sameKey⟩
              rw [saidAgain]
              cases again with
              | nothing => exact ih read settled
              | assignment key value =>
                  have set : other.environment.Sets key :=
                    settled key (readLines_sets read (perform_key performed sameKey.symm))
                  dsimp only [perform]
                  rw [assign_of_sets set, ok_bind]
                  exact ih read settled

end Loading

/-- Loading the environment file again changes nothing. -/
theorem extend_extended
    {environment extended : Environment} {workplace : Workplace} {files : FileView}
    (loaded : extend environment workplace files = .ok extended) :
    extend extended workplace files = .ok extended := by
  unfold extend at loaded ⊢
  generalize workplace.environmentFile?.map files = found at loaded ⊢
  rcases found with _ | _ | _ | ⟨size, content⟩
  · rfl
  · rfl
  · rfl
  · dsimp only [load] at loaded ⊢
    cases read : Loading.readLines ⟨environment, []⟩ (logicalLines .plain [] (linesOf content)) with
    | error breach =>
        rw [read] at loaded
        cases loaded
    | ok done =>
        rw [read] at loaded
        cases loaded
        have again :
            ∃ final,
              Loading.readLines ⟨done.environment, []⟩ (logicalLines .plain [] (linesOf content)) =
                .ok final ∧
              final.environment = done.environment :=
          Loading.readLines_again read fun _ set => set
        rcases again with ⟨final, readAgain, same⟩
        rw [readAgain]
        exact congrArg Except.ok same

end EnvironmentFile

end RunArchive
