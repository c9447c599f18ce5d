import Mathlib.Data.List.DropRight
import RunArchive.Text.Blank

/-!
# Trimmed texts

Trimming leaves what stands between the blanks at the two ends of a text.  A part that starts and
ends with characters that are no blanks is left as it is, whatever blanks are put around it; and
around what is left of a text there is nothing but blanks.
-/

namespace RunArchive.Text

variable {text before core after : List Char}

/-- A text of nothing but blanks. -/
def Blank (text : List Char) : Prop := ∀ character ∈ text, isBlank character = true

instance (text : List Char) : Decidable (Blank text) :=
  List.decidableBAll _ text

theorem Blank.append (blankBefore : Blank before) (blankAfter : Blank after) :
    Blank (before ++ after) := by
  intro character member
  rcases List.mem_append.mp member with earlier | later
  · exact blankBefore character earlier
  · exact blankAfter character later

/-- A text that starts and ends with characters that are no blanks. -/
structure Visible (text : List Char) : Prop where
  nonempty : text ≠ []
  start : isBlank (text.head nonempty) = false
  ending : isBlank (text.getLast nonempty) = false

/-- A text without any blanks is visible, unless it is empty. -/
theorem visible_of_forall
    (nonempty : text ≠ [])
    (visible : ∀ character ∈ text, isBlank character = false) :
    Visible text where
  nonempty := nonempty
  start := visible _ (List.head_mem nonempty)
  ending := visible _ (List.getLast_mem nonempty)

/-- Something is visible in a text that is. -/
theorem Visible.not_blank (visible : Visible text) : ¬ Blank text := by
  intro blank
  have hidden := blank _ (List.head_mem visible.nonempty)
  rw [visible.start] at hidden
  cases hidden

/-! ## One end -/

theorem trimStart_blank (blank : Blank before) (text : List Char) :
    trimStart (before ++ text) = trimStart text :=
  List.dropWhile_append_of_pos blank

theorem trimStart_visible (visible : Visible core) (text : List Char) :
    trimStart (core ++ text) = core ++ text := by
  rcases visible with ⟨nonempty, start, _⟩
  cases core with
  | nil => exact absurd rfl nonempty
  | cons first rest => exact List.dropWhile_cons_of_neg (by simpa using start)

/-- Trimming the end of a text is dropping blanks from the right. -/
theorem trimEnd_eq (text : List Char) : trimEnd text = text.rdropWhile isBlank := rfl

theorem trimEnd_blank (blank : Blank after) (text : List Char) :
    trimEnd (text ++ after) = trimEnd text := by
  have reversed : Blank after.reverse := fun character member =>
    blank character (List.mem_reverse.mp member)
  rw [trimEnd, List.reverse_append, List.dropWhile_append_of_pos reversed, trimEnd]

theorem trimEnd_visible (visible : Visible core) : trimEnd core = core := by
  apply List.rdropWhile_eq_self_iff.mpr
  intro nonempty
  simp [visible.ending]

/-! ## Both ends -/

/-- Blanks around a visible text are trimmed away. -/
theorem trim_padded
    (blankBefore : Blank before) (visible : Visible core) (blankAfter : Blank after) :
    trim (before ++ (core ++ after)) = core := by
  rw [trim, trimStart_blank blankBefore, trimStart_visible visible, trimEnd_blank blankAfter,
    trimEnd_visible visible]

/-- Only blanks are trimmed away. -/
theorem exists_blank_trim (text : List Char) :
    ∃ before after, Blank before ∧ Blank after ∧ text = before ++ (trim text ++ after) := by
  refine ⟨text.takeWhile isBlank, (trimStart text).rtakeWhile isBlank, ?_, ?_, ?_⟩
  · exact fun _ => List.mem_takeWhile_imp
  · exact fun _ => List.mem_rtakeWhile_imp
  · rw [trim, trimEnd_eq, List.rdropWhile_append_rtakeWhile]
    exact List.takeWhile_append_dropWhile.symm

/-- Nothing is left of a text exactly if it has nothing but blanks. -/
theorem trim_eq_nil_iff : trim text = [] ↔ Blank text := by
  constructor
  · intro empty
    rcases exists_blank_trim text with ⟨before, after, blankBefore, blankAfter, same⟩
    rw [empty, List.nil_append] at same
    rw [same]
    exact blankBefore.append blankAfter
  · intro blank
    have start : trimStart text = [] := List.dropWhile_eq_nil_iff.mpr blank
    rw [trim, start]
    rfl

end RunArchive.Text
