import RunArchive.Proofs.Json.Canonical

/-!
# The order of members

Two descriptions of canonical texts.  One says what such a text looks like: `SortedText` is the
grammar of JSON texts without blanks in which every object lists its keys in increasing order, and
a canonical text is of that form whatever the tree is.  The other says what the text does not
depend on: `Rearranged` trees differ in the order of the members of their objects, at any depth,
and they have one normal form, so one canonical text.
-/

namespace RunArchive.Json

/-! ## Sorted texts -/

/-- A text of JSON without blanks between its tokens, the keys of every object increasing. -/
inductive SortedText : List Char → Prop where
  | null : SortedText nullText
  | bool (value : Bool) : SortedText (boolText value)
  | number (value : Number) : SortedText value.text
  | string (text : String) : SortedText (stringText text)
  | array {items : List (List Char)} (sorted : ∀ item ∈ items, SortedText item) :
      SortedText ('[' :: (commaSeparated items ++ [']']))
  | object {members : List (String × List Char)}
      (increasing : Increasing members)
      (sorted : ∀ member ∈ members, SortedText member.2) :
      SortedText ('{' :: (commaSeparated (members.map memberText) ++ ['}']))

mutual

/-- In a canonical text every object at every depth is sorted. -/
theorem sortedText_canonical : (tree : Json) → SortedText tree.canonical
  | .null => .null
  | .bool value => .bool value
  | .number value => .number value
  | .string text => .string text
  | .array items => .array (sortedText_canonicalItems items)
  | .object members =>
      .object (increasing_sortMembers _) fun member present =>
        sortedText_canonicalMembers members member (mem_of_mem_sortMembers present)

theorem sortedText_canonicalItems :
    (items : List Json) → ∀ text ∈ canonicalItems items, SortedText text
  | [] => List.forall_mem_nil _
  | item :: rest =>
      List.forall_mem_cons.mpr ⟨sortedText_canonical item, sortedText_canonicalItems rest⟩

theorem sortedText_canonicalMembers :
    (members : List (String × Json)) →
      ∀ member ∈ canonicalMembers members, SortedText member.2
  | [] => List.forall_mem_nil _
  | (_, value) :: rest =>
      List.forall_mem_cons.mpr ⟨sortedText_canonical value, sortedText_canonicalMembers rest⟩

end

/-! ## Rearranged trees -/

/-- Trees that differ in the order of members only, in one object after another. -/
inductive Rearranged : Json → Json → Prop where
  | refl (tree : Json) : Rearranged tree tree
  | trans {first second third : Json}
      (left : Rearranged first second)
      (right : Rearranged second third) :
      Rearranged first third
  /-- The members of an object in another order. -/
  | members {left right : List (String × Json)}
      (distinct : DistinctKeys left)
      (permuted : left.Perm right) :
      Rearranged (.object left) (.object right)
  /-- An item of an array is rearranged. -/
  | item (before behind : List Json) {left right : Json}
      (inside : Rearranged left right) :
      Rearranged (.array (before ++ left :: behind)) (.array (before ++ right :: behind))
  /-- The value of a member of an object is rearranged. -/
  | value (before behind : List (String × Json)) (key : String) {left right : Json}
      (inside : Rearranged left right) :
      Rearranged (.object (before ++ (key, left) :: behind))
        (.object (before ++ (key, right) :: behind))

theorem normalizeItems_eq (items : List Json) : normalizeItems items = items.map normalize := by
  induction items with
  | nil => rfl
  | cons item rest ih =>
      rw [normalizeItems, ih]
      rfl

/-- Members with distinct keys are sorted alike, whatever order they come in. -/
theorem sortMembers_eq_of_perm
    {Value : Type} {left right : List (String × Value)}
    (distinct : DistinctKeys left) (permuted : left.Perm right) :
    sortMembers left = sortMembers right := by
  have sorted := (sortMembers_perm (distinct.perm permuted)).symm
  exact sortMembers_of_perm (permuted.trans sorted) (increasing_sortMembers right)

/-- Rearranged trees have one normal form. -/
theorem Rearranged.normalize_eq
    {left right : Json} (rearranged : left.Rearranged right) :
    left.normalize = right.normalize := by
  induction rearranged with
  | refl tree => rfl
  | trans left right first second => exact first.trans second
  | members distinct permuted =>
      -- Normalizing the values keeps the keys, so they can be sorted first.
      rw [normalize, normalize, ofMembers, ofMembers, normalizeMembers_eq, normalizeMembers_eq,
        sortMembers_mapMembers, sortMembers_mapMembers, sortMembers_eq_of_perm distinct permuted]
  | item before behind inside ih =>
      rw [normalize, normalize, normalizeItems_eq, normalizeItems_eq, List.map_append,
        List.map_append, List.map_cons, List.map_cons, ih]
  | value before behind key inside ih =>
      rw [normalize, normalize, normalizeMembers_eq, normalizeMembers_eq, mapMembers, mapMembers,
        List.map_append, List.map_append, List.map_cons, List.map_cons, ih]

/-- Rearranged trees have one canonical text. -/
theorem Rearranged.canonical_eq
    {left right : Json} (rearranged : left.Rearranged right) :
    left.canonical = right.canonical :=
  (canonical_eq_iff left right).mpr rearranged.normalize_eq

end RunArchive.Json
