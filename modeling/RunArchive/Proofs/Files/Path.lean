import Mathlib.Data.List.Basic
import RunArchive.Files.Path
import RunArchive.Proofs.Text.Validity

/-!
# Paths that stay in their directory

Which paths are contained, said of their octets, and where such a path leads in a directory.  A
text can be had back from its path, and is what is shown of it.

The moves of a path are those of its segments, behind the root if it starts there.  A contained
path has none but names among its moves, so in a directory it makes the moves of the directory
first and then enters one name after the other.
-/

namespace RunArchive

namespace Path

/-! ## Texts -/

/-- A path that is a text is spelled by it and by no other. -/
theorem text?_eq_some_iff {path : Path} {text : String} :
    path.text? = some text ↔ path = ofText text := by
  rcases path with ⟨octets⟩
  rw [text?, Utf8.text?_eq_some_iff, ofText, Path.mk.injEq]

@[simp]
theorem text?_ofText (text : String) : (ofText text).text? = some text :=
  text?_eq_some_iff.mpr rfl

/-- A path that is a text is shown as that text. -/
theorem shown_ofText (text : String) : (ofText text).shown = text := by
  rw [shown, ofText, Utf8.ofString, Utf8.lossy_encode, String.ofList_toList]

/-! ## Segments -/

theorem segments_ne_nil (octets : List UInt8) : segments octets ≠ [] := by
  cases octets with
  | nil => simp [segments]
  | cons octet rest =>
      rw [segments]
      split
      · exact List.cons_ne_nil _ _
      · split <;> exact List.cons_ne_nil _ _

theorem segments_slash (rest : List UInt8) : segments (slash :: rest) = [] :: segments rest :=
  if_pos rfl

theorem segments_letter
    {octet : UInt8} (letter : octet ≠ slash)
    {rest first : List UInt8} {others : List (List UInt8)}
    (parts : segments rest = first :: others) :
    segments (octet :: rest) = (octet :: first) :: others := by
  rw [segments, if_neg letter, parts]

/-- A slash separates the segments on its two sides. -/
theorem segments_append (left right : List UInt8) :
    segments (left ++ slash :: right) = segments left ++ segments right := by
  induction left with
  | nil => exact segments_slash right
  | cons octet left ih =>
      by_cases separates : octet = slash
      · subst separates
        rw [List.cons_append, segments_slash, segments_slash, ih]
        rfl
      · obtain ⟨first, others, parts⟩ := List.exists_cons_of_ne_nil (segments_ne_nil left)
        rw [parts] at ih
        rw [List.cons_append, segments_letter separates ih, segments_letter separates parts]
        rfl

/-- A slash at the end adds an empty segment. -/
theorem segments_concat (octets : List UInt8) :
    segments (octets ++ [slash]) = segments octets ++ [[]] :=
  segments_append octets []

/-! ## Moves -/

/-- The moves of a path that lead somewhere. -/
def moves (path : Path) : List Component :=
  path.components.filter (· ≠ .here)

/-- Where a path starts, if that is the root. -/
def rooted (octets : List UInt8) : List Component :=
  if octets.head? = some slash then [.root] else []

theorem move?_ne_here (segment : List UInt8) : move? segment ≠ some .here := by
  rw [move?]
  split
  · nofun
  · split <;> nofun

theorem move?_ne_root (segment : List UInt8) : move? segment ≠ some .root := by
  rw [move?]
  split
  · nofun
  · split <;> nofun

theorem move?_eq_above {segment : List UInt8} :
    move? segment = some .above ↔ segment = above := by
  rw [move?]
  split
  · rename_i nowhere
    constructor
    · nofun
    · rintro rfl
      exact absurd nowhere (by decide)
  · split
    · rename_i climbs
      exact ⟨fun _ => climbs, fun _ => rfl⟩
    · rename_i climbs
      exact ⟨nofun, fun same => absurd same climbs⟩

/-- The moves of a path are those of its segments, behind the root if it starts there. -/
theorem moves_eq (path : Path) :
    path.moves = rooted path.octets ++ (segments path.octets).filterMap move? := by
  have opened : path.opening.filter (· ≠ .here) = rooted path.octets := by
    rw [opening, rooted]
    split
    · rfl
    · split <;> rfl
  have led :
      ((segments path.octets).filterMap move?).filter (· ≠ .here) =
        (segments path.octets).filterMap move? := by
    rw [List.filter_eq_self]
    intro component member
    obtain ⟨segment, -, leads⟩ := List.mem_filterMap.mp member
    rw [decide_eq_true_eq]
    rintro rfl
    exact move?_ne_here segment leads
  rw [moves, components, List.filter_append, opened, led]

/-! ## Contained paths -/

/-- Whether a path is not empty, does not start with a slash and has no segment that leads above. -/
def Descends (path : Path) : Prop :=
  path.octets ≠ [] ∧ path.octets.head? ≠ some slash ∧ above ∉ segments path.octets

instance (path : Path) : Decidable path.Descends :=
  inferInstanceAs (Decidable (_ ∧ _ ∧ _))

/-- The segments of a path that name something. -/
def names (path : Path) : List (List UInt8) :=
  (segments path.octets).filter fun segment => segment ≠ [] ∧ segment ≠ here

theorem opening_stays {path : Path} :
    (∀ component ∈ path.opening, component.Stays) ↔ path.octets.head? ≠ some slash := by
  rw [opening]
  by_cases rooted : path.octets.head? = some slash
  · rw [if_pos rooted]
    simp [rooted, Component.Stays]
  · rw [if_neg rooted]
    split <;> simp [rooted, Component.Stays]

theorem segments_stay {octets : List UInt8} :
    (∀ component ∈ (segments octets).filterMap move?, component.Stays) ↔
      above ∉ segments octets := by
  constructor
  · intro stay member
    exact stay .above (List.mem_filterMap.mpr ⟨above, member, rfl⟩)
  · intro absent component member
    obtain ⟨segment, inside, leads⟩ := List.mem_filterMap.mp member
    cases component with
    | here => trivial
    | name _ => trivial
    | root => exact absurd leads (move?_ne_root segment)
    | above =>
        rw [move?_eq_above.mp leads] at inside
        exact absurd inside absent

/-- A path is contained if and only if it descends. -/
theorem contained_iff {path : Path} : path.Contained ↔ path.Descends := by
  rw [Contained, Descends, components, List.forall_mem_append, opening_stays, segments_stay]

/-- Segments that do not lead above enter what they name, and the others do not move. -/
theorem filterMap_move?
    {parts : List (List UInt8)} (absent : above ∉ parts) :
    parts.filterMap move? =
      (parts.filter fun segment => segment ≠ [] ∧ segment ≠ here).map .name := by
  induction parts with
  | nil => rfl
  | cons segment parts ih =>
      rw [List.mem_cons, not_or] at absent
      rw [List.filterMap_cons, ih absent.2, List.filter_cons, move?]
      by_cases nowhere : segment = [] ∨ segment = here
      · rw [if_pos nowhere, if_neg]
        rcases nowhere with rfl | rfl <;> simp
      · rw [if_neg nowhere, if_neg (Ne.symm absent.1), if_pos]
        · rfl
        · simpa [not_or] using nowhere

/-! ## Joined paths -/

theorem separator_slash
    {directory : Path} (ended : directory.octets.getLast? = some slash) :
    directory.separator = [] := by
  rw [separator, ended]
  exact if_pos rfl

theorem separator_letter
    {directory : Path} {last : UInt8}
    (ended : directory.octets.getLast? = some last) (letter : last ≠ slash) :
    directory.separator = [slash] := by
  rw [separator, ended]
  exact if_neg letter

/-- What a joined path is made of, with a slash in between where there is none yet. -/
theorem octets_join
    (directory : Path) {path : Path} (relative : path.octets.head? ≠ some slash) :
    (directory.join path).octets = directory.octets ++ (directory.separator ++ path.octets) := by
  rw [join, if_neg relative, List.append_assoc]

theorem rooted_append {front : List UInt8} (filled : front ≠ []) (rest : List UInt8) :
    rooted (front ++ rest) = rooted front := by
  rw [rooted, List.head?_append_of_ne_nil _ filled, rooted]

/-- The moves of a relative path follow those of the directory in which it is. -/
theorem moves_join
    (directory : Path) {path : Path} (relative : path.octets.head? ≠ some slash) :
    (directory.join path).moves =
      directory.moves ++ (segments path.octets).filterMap move? := by
  rw [moves_eq, moves_eq, octets_join directory relative]
  rcases List.eq_nil_or_concat' directory.octets with empty | ⟨front, last, split⟩
  · have unrooted : rooted path.octets = [] := if_neg relative
    have apart : directory.separator = [] := by rw [separator, empty]; rfl
    rw [apart, empty]
    change rooted path.octets ++ _ = _
    rw [unrooted]
    rfl
  · have filled : front ++ [last] ≠ [] := List.append_ne_nil_of_right_ne_nil _ (by simp)
    have ended : directory.octets.getLast? = some last := by rw [split, List.getLast?_concat]
    rw [split, rooted_append filled]
    by_cases slashed : last = slash
    · subst slashed
      rw [separator_slash ended, List.nil_append, List.append_assoc, List.singleton_append,
        segments_append, segments_concat, List.filterMap_append, List.filterMap_append,
        List.append_assoc, List.append_assoc]
      rfl
    · rw [separator_letter ended slashed, List.singleton_append, segments_append,
        List.filterMap_append, List.append_assoc]

end Path

end RunArchive
