import Mathlib.Data.List.Induction
import RunArchive.CommandLine.Arguments

/-!
# Reading options

A line of options is a sequence of options with their values, followed by an end: nothing more, an
option without its value as the last word, or a word that is no option, with anything behind it.
Every line is of this form: see `exists_given`.

The options that have been given come to the last value of each, whatever their order, and the end
decides what becomes of them.
-/

namespace RunArchive

/-- An option with its value. -/
inductive GivenOption where
  | dispatch (text : String)
  | name (text : String)
  | all
deriving DecidableEq

namespace GivenOption

/-- The words of an option. -/
def words : GivenOption → List String
  | .dispatch text => [Options.dispatchOption, text]
  | .name text => [Options.nameOption, text]
  | .all => [Options.allOption]

/-- The words of options, one option after the other. -/
def line (given : List GivenOption) : List String := given.flatMap words

/-- The value of an option with an identifier. -/
def dispatch? : GivenOption → Option String
  | .dispatch text => some text
  | .name _ | .all => none

/-- The value of an option with a name. -/
def name? : GivenOption → Option String
  | .name text => some text
  | .dispatch _ | .all => none

/-- Whether an option is the one for all kinds of artifacts. -/
def isAll : GivenOption → Bool
  | .all => true
  | .dispatch _ | .name _ => false

end GivenOption

namespace Options

/-- What options come to: of each one the value that is given last. -/
def ofGiven (given : List GivenOption) : Options where
  dispatch := (given.filterMap GivenOption.dispatch?).getLast?
  name := (given.filterMap GivenOption.name?).getLast?
  all := given.any GivenOption.isAll

/-- The options with one that is given after them. -/
def add (options : Options) : GivenOption → Options
  | .dispatch text => { options with dispatch := some text }
  | .name text => { options with name := some text }
  | .all => { options with all := true }

theorem ofGiven_concat (given : List GivenOption) (last : GivenOption) :
    ofGiven (given ++ [last]) = (ofGiven given).add last := by
  cases last <;> simp [ofGiven, add, GivenOption.dispatch?, GivenOption.name?, GivenOption.isAll]

theorem foldl_add (given : List GivenOption) : given.foldl add empty = ofGiven given := by
  induction given using List.reverseRecOn with
  | nil => rfl
  | append_singleton given last ih => rw [List.foldl_append, ih, ofGiven_concat]; rfl

/-! ## Reading -/

/-- The words that are options. -/
def IsOption (word : String) : Prop :=
  word = dispatchOption ∨ word = nameOption ∨ word = allOption

instance (word : String) : Decidable (IsOption word) :=
  inferInstanceAs (Decidable (_ ∨ _ ∨ _))

variable (options : Options)

/-- An option that takes no value is read whatever follows it. -/
theorem read_all (rest : List String) :
    options.read (allOption :: rest) = (options.add .all).read rest := by
  cases rest with
  | nil => rfl
  | cons next rest => rfl

/-- Options that are given are read one after the other. -/
theorem read_line (given : List GivenOption) (rest : List String) :
    options.read (GivenOption.line given ++ rest) = (given.foldl add options).read rest := by
  induction given generalizing options with
  | nil => rfl
  | cons first given ih =>
      rw [List.foldl_cons, ← ih]
      cases first with
      | dispatch text => rfl
      | name text => rfl
      | all => exact options.read_all _

theorem read_unknown {word : String} (unknown : ¬ IsOption word) (rest : List String) :
    options.read (word :: rest) = .error (.unknownArgument word) := by
  rw [IsOption, not_or, not_or] at unknown
  rcases unknown with ⟨notDispatch, notName, notAll⟩
  cases rest with
  | nil => rw [read, if_neg notDispatch, if_neg notName, if_neg notAll]
  | cons next rest => rw [read, if_neg notDispatch, if_neg notName, if_neg notAll]

/-! ## Lines -/

/-- The options that take a value. -/
def TakesValue (word : String) : Prop := word = dispatchOption ∨ word = nameOption

instance (word : String) : Decidable (TakesValue word) :=
  inferInstanceAs (Decidable (_ ∨ _))

/-- The words that stand where an option is expected. -/
def positions : List String → List String
  | [] => []
  | [last] => [last]
  | word :: next :: rest =>
    if TakesValue word then word :: positions rest else word :: positions (next :: rest)

/-- How a line can end behind the options that are given in it. -/
inductive Ending : List String → Prop where
  | complete : Ending []
  /-- An identifier is announced and missing. -/
  | noDispatch : Ending [dispatchOption]
  /-- A name is announced and missing. -/
  | noName : Ending [nameOption]
  /-- A word is no option. -/
  | unknown {word : String} (unknown : ¬ IsOption word) (rest : List String) : Ending (word :: rest)

/-- Every line is one of options that are given, with an ending. -/
theorem exists_given :
    (words : List String) → ∃ given ending, words = GivenOption.line given ++ ending ∧ Ending ending
  | [] => ⟨[], [], rfl, .complete⟩
  | [last] => by
      by_cases known : IsOption last
      · rcases known with rfl | rfl | rfl
        · exact ⟨[], _, rfl, .noDispatch⟩
        · exact ⟨[], _, rfl, .noName⟩
        · exact ⟨[.all], [], rfl, .complete⟩
      · exact ⟨[], [last], rfl, .unknown known []⟩
  | option :: value :: rest => by
      by_cases known : IsOption option
      · rcases known with rfl | rfl | rfl
        · rcases exists_given rest with ⟨given, ending, rfl, ends⟩
          exact ⟨.dispatch value :: given, ending, rfl, ends⟩
        · rcases exists_given rest with ⟨given, ending, rfl, ends⟩
          exact ⟨.name value :: given, ending, rfl, ends⟩
        · rcases exists_given (value :: rest) with ⟨given, ending, same, ends⟩
          refine ⟨.all :: given, ending, ?_, ends⟩
          rw [same]
          rfl
      · exact ⟨[], _, rfl, .unknown known _⟩

/-- A word that takes no value is followed by the next position. -/
theorem positions_single {word : String} (single : ¬ TakesValue word) (rest : List String) :
    positions (word :: rest) = word :: positions rest := by
  cases rest with
  | nil => rfl
  | cons next rest => rw [positions, if_neg single]

theorem single_all : ¬ TakesValue allOption := by decide

/-- Options that are given stand where options are expected. -/
theorem find?_positions (given : List GivenOption) (ending : List String) :
    (positions (GivenOption.line given ++ ending)).find? (¬ IsOption ·) =
      (positions ending).find? (¬ IsOption ·) := by
  induction given with
  | nil => rfl
  | cons first given ih =>
      rw [← ih]
      cases first with
      | dispatch text => rfl
      | name text => rfl
      | all =>
          have here := positions_single single_all (GivenOption.line given ++ ending)
          exact (congrArg (List.find? (¬ IsOption ·)) here).trans rfl

/-- The first word of a line that is no option stands where one is expected. -/
theorem find?_positions_unknown {word : String} (unknown : ¬ IsOption word) (rest : List String) :
    (positions (word :: rest)).find? (¬ IsOption ·) = some word := by
  have single : ¬ TakesValue word := fun takes => unknown (takes.imp_right Or.inl)
  rw [positions_single single]
  exact List.find?_cons_of_pos (decide_eq_true unknown)

end Options

end RunArchive
