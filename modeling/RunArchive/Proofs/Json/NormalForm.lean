import RunArchive.Json.Basic
import RunArchive.Proofs.Text.Utf8

/-!
# Normal forms of JSON values

The keys of a normal object increase strictly in the order of their octets.  That order is total,
so an object has one normal order only: `sortMembers` brings the members of distinct keys into it
from any other order, and it leaves members alone that are in it already.

A whole tree in normal form is its own normal form.
-/

namespace RunArchive.Json

variable {Value : Type}

/-! ## The order of keys -/

theorem not_keyBefore_self (key : String) : ¬ KeyBefore key key :=
  List.lt_irrefl _

theorem KeyBefore.trans
    {first second third : String}
    (left : KeyBefore first second)
    (right : KeyBefore second third) :
    KeyBefore first third :=
  List.lt_trans left right

theorem KeyBefore.ne
    {left right : String}
    (before : KeyBefore left right) :
    left ≠ right := by
  intro equal
  subst equal
  exact not_keyBefore_self left before

/-- Of two different keys one comes first. -/
theorem keyBefore_of_not
    {left right : String}
    (different : left ≠ right)
    (notBefore : ¬ KeyBefore left right) :
    KeyBefore right left := by
  have octetsDiffer : Utf8.ofString right ≠ Utf8.ofString left := by
    intro equal
    apply different
    apply String.toList_inj.mp
    exact Utf8.encode_injective equal.symm
  rcases List.le_iff_lt_or_eq.mp (List.not_lt.mp notBefore) with before | equal
  · exact before
  · exact absurd equal octetsDiffer

instance (members : List (String × Value)) : Decidable (Increasing members) :=
  inferInstanceAs
    (Decidable (members.Pairwise fun left right => KeyBefore left.1 right.1))

/-! ## Sorting members -/

theorem mem_insertMember
    {key : String} {value : Value}
    {members : List (String × Value)} {member : String × Value}
    (present : member ∈ insertMember key value members) :
    member = (key, value) ∨ member ∈ members := by
  induction members with
  | nil =>
      exact Or.inl (List.mem_singleton.mp present)
  | cons head rest ih =>
      rw [insertMember] at present
      split at present
      · exact Or.inr present
      · split at present
        · exact List.mem_cons.mp present
        · rcases List.mem_cons.mp present with equal | later
          · exact Or.inr (List.mem_cons.mpr (Or.inl equal))
          · rcases ih later with inserted | old
            · exact Or.inl inserted
            · exact Or.inr (List.mem_cons_of_mem _ old)

theorem increasing_insertMember
    (key : String) (value : Value)
    {members : List (String × Value)}
    (increasing : Increasing members) :
    Increasing (insertMember key value members) := by
  induction members with
  | nil =>
      exact List.pairwise_singleton _ _
  | cons head rest ih =>
      have ordered := List.pairwise_cons.mp increasing
      rw [insertMember]
      split
      · exact increasing
      · rename_i different
        split
        · rename_i before
          apply List.pairwise_cons.mpr
          refine ⟨?_, increasing⟩
          intro member present
          rcases List.mem_cons.mp present with equal | later
          · subst equal
            exact before
          · exact before.trans (ordered.1 member later)
        · rename_i notBefore
          apply List.pairwise_cons.mpr
          refine ⟨?_, ih ordered.2⟩
          intro member present
          rcases mem_insertMember present with equal | old
          · subst equal
            exact keyBefore_of_not different notBefore
          · exact ordered.1 member old

theorem increasing_sortMembers
    (members : List (String × Value)) :
    Increasing (sortMembers members) := by
  induction members with
  | nil =>
      exact List.Pairwise.nil
  | cons head rest ih =>
      exact increasing_insertMember head.1 head.2 ih

theorem mem_of_mem_sortMembers
    {members : List (String × Value)} {member : String × Value}
    (present : member ∈ sortMembers members) :
    member ∈ members := by
  induction members with
  | nil =>
      exact present
  | cons head rest ih =>
      rcases mem_insertMember present with equal | old
      · exact List.mem_cons.mpr (Or.inl equal)
      · exact List.mem_cons_of_mem _ (ih old)

/-- A member with a new key is added to the others. -/
theorem insertMember_perm
    {key : String} (value : Value)
    {members : List (String × Value)}
    (fresh : ∀ member ∈ members, key ≠ member.1) :
    (insertMember key value members).Perm ((key, value) :: members) := by
  induction members with
  | nil =>
      exact List.Perm.refl _
  | cons head rest ih =>
      have headFresh : key ≠ head.1 := fresh head List.mem_cons_self
      have restFresh : ∀ member ∈ rest, key ≠ member.1 :=
        fun member present => fresh member (List.mem_cons_of_mem _ present)
      rw [insertMember, if_neg headFresh]
      split
      · exact List.Perm.refl _
      · exact ((ih restFresh).cons head).trans (List.Perm.swap _ _ _)

/-- The members of a list have distinct keys. -/
def DistinctKeys (members : List (String × Value)) : Prop :=
  members.Pairwise fun left right => left.1 ≠ right.1

theorem Increasing.distinctKeys
    {members : List (String × Value)}
    (increasing : Increasing members) :
    DistinctKeys members :=
  increasing.imp KeyBefore.ne

theorem DistinctKeys.perm
    {left right : List (String × Value)}
    (distinct : DistinctKeys left)
    (rearranged : left.Perm right) :
    DistinctKeys right :=
  List.Pairwise.perm distinct rearranged Ne.symm

theorem sortMembers_perm
    {members : List (String × Value)}
    (distinct : DistinctKeys members) :
    (sortMembers members).Perm members := by
  induction members with
  | nil =>
      exact List.Perm.refl _
  | cons head rest ih =>
      have apart := List.pairwise_cons.mp distinct
      have fresh : ∀ member ∈ sortMembers rest, head.1 ≠ member.1 :=
        fun member present => apart.1 member (mem_of_mem_sortMembers present)
      exact (insertMember_perm head.2 fresh).trans ((ih apart.2).cons head)

/-- Members can be in increasing order in one way only. -/
theorem Increasing.eq_of_perm
    {left right : List (String × Value)}
    (leftIncreasing : Increasing left)
    (rightIncreasing : Increasing right)
    (rearranged : left.Perm right) :
    left = right := by
  apply List.Perm.eq_of_pairwise _ leftIncreasing rightIncreasing rearranged
  intro first second _ _ before after
  exact absurd (before.trans after) (not_keyBefore_self first.1)

/-- Members in any order are sorted into the increasing one. -/
theorem sortMembers_of_perm
    {written sorted : List (String × Value)}
    (rearranged : written.Perm sorted)
    (increasing : Increasing sorted) :
    sortMembers written = sorted := by
  have distinct : DistinctKeys written :=
    increasing.distinctKeys.perm rearranged.symm
  exact
    (increasing_sortMembers written).eq_of_perm increasing
      ((sortMembers_perm distinct).trans rearranged)

theorem sortMembers_of_increasing
    {members : List (String × Value)}
    (increasing : Increasing members) :
    sortMembers members = members :=
  sortMembers_of_perm (List.Perm.refl members) increasing

/-! ## Values under a map -/

section Map

variable {Result : Type} (transform : Value → Result)

/-- Members with their values transformed. -/
def mapMembers (members : List (String × Value)) : List (String × Result) :=
  members.map fun member => (member.1, transform member.2)

theorem insertMember_mapMembers
    (key : String) (value : Value)
    (members : List (String × Value)) :
    insertMember key (transform value) (mapMembers transform members) =
      mapMembers transform (insertMember key value members) := by
  induction members with
  | nil => rfl
  | cons head rest ih =>
      rw [mapMembers, List.map_cons, ← mapMembers, insertMember, insertMember, ih]
      split
      · rfl
      · split <;> rfl

/-- Sorting looks at keys only. -/
theorem sortMembers_mapMembers
    (members : List (String × Value)) :
    sortMembers (mapMembers transform members) =
      mapMembers transform (sortMembers members) := by
  induction members with
  | nil => rfl
  | cons head rest ih =>
      rw [mapMembers, List.map_cons, ← mapMembers, sortMembers, ih,
        insertMember_mapMembers, sortMembers]

end Map

/-! ## Trees -/

mutual

/-- Whether a tree is in normal form can be decided. -/
def decWellFormed : (value : Json) → Decidable value.WellFormed
  | .null => .isTrue trivial
  | .bool _ => .isTrue trivial
  | .number (.integer value) => inferInstanceAs (Decidable (FitsInteger value))
  | .number (.float _) => .isTrue trivial
  | .string _ => .isTrue trivial
  | .array items => decWellFormedItems items
  | .object members => @instDecidableAnd _ _ inferInstance (decWellFormedMembers members)

/-- Whether all items are in normal form can be decided. -/
def decWellFormedItems : (items : List Json) → Decidable (WellFormedItems items)
  | [] => .isTrue trivial
  | item :: rest => @instDecidableAnd _ _ (decWellFormed item) (decWellFormedItems rest)

/-- Whether the values of all members are in normal form can be decided. -/
def decWellFormedMembers :
    (members : List (String × Json)) → Decidable (WellFormedMembers members)
  | [] => .isTrue trivial
  | (_, value) :: rest => @instDecidableAnd _ _ (decWellFormed value) (decWellFormedMembers rest)

end

instance (value : Json) : Decidable value.WellFormed := decWellFormed value

theorem wellFormedItems_iff
    (items : List Json) :
    WellFormedItems items ↔ ∀ item ∈ items, item.WellFormed := by
  induction items with
  | nil => simp [WellFormedItems]
  | cons item rest ih => simp [WellFormedItems, ih]

theorem wellFormedMembers_iff
    (members : List (String × Json)) :
    WellFormedMembers members ↔ ∀ member ∈ members, member.2.WellFormed := by
  induction members with
  | nil => simp [WellFormedMembers]
  | cons member rest ih => simp [WellFormedMembers, ih]

/-- An object of normal values is normal once its members are sorted. -/
theorem wellFormed_ofMembers
    {members : List (String × Json)}
    (normal : ∀ member ∈ members, member.2.WellFormed) :
    (ofMembers members).WellFormed := by
  refine ⟨increasing_sortMembers members, (wellFormedMembers_iff _).mpr ?_⟩
  intro member present
  exact normal member (mem_of_mem_sortMembers present)

mutual

/-- A tree in normal form is its own normal form. -/
theorem normalize_of_wellFormed :
    (value : Json) → value.WellFormed → value.normalize = value
  | .null, _ => rfl
  | .bool _, _ => rfl
  | .number _, _ => rfl
  | .string _, _ => rfl
  | .array items, normal => by
      rw [normalize, normalizeItems_of_wellFormed items normal]
  | .object members, normal => by
      rw [normalize, normalizeMembers_of_wellFormed members normal.2, ofMembers,
        sortMembers_of_increasing normal.1]

/-- Items in normal form are their own normal forms. -/
theorem normalizeItems_of_wellFormed :
    (items : List Json) → WellFormedItems items → normalizeItems items = items
  | [], _ => rfl
  | item :: rest, normal => by
      rw [normalizeItems, normalize_of_wellFormed item normal.1,
        normalizeItems_of_wellFormed rest normal.2]

/-- Members with values in normal form are their own normal forms. -/
theorem normalizeMembers_of_wellFormed :
    (members : List (String × Json)) → WellFormedMembers members →
      normalizeMembers members = members
  | [], _ => rfl
  | (key, value) :: rest, normal => by
      rw [normalizeMembers, normalize_of_wellFormed value normal.1,
        normalizeMembers_of_wellFormed rest normal.2]

end

theorem normalizeMembers_eq
    (members : List (String × Json)) :
    normalizeMembers members = mapMembers normalize members := by
  induction members with
  | nil => rfl
  | cons member rest ih =>
      rw [normalizeMembers, ih]
      rfl

mutual

/-- A normal form is its own normal form, whatever integers are in it. -/
theorem normalize_normalize :
    (value : Json) → value.normalize.normalize = value.normalize
  | .null => rfl
  | .bool _ => rfl
  | .number _ => rfl
  | .string _ => rfl
  | .array items => by
      rw [normalize, normalize, normalizeItems_normalizeItems items]
  | .object members => by
      have again := normalizeMembers_normalizeMembers members
      rw [normalize, ofMembers, normalize, ofMembers, normalizeMembers_eq (sortMembers _),
        ← sortMembers_mapMembers, ← normalizeMembers_eq, again,
        sortMembers_of_increasing (increasing_sortMembers _)]

theorem normalizeItems_normalizeItems :
    (items : List Json) → normalizeItems (normalizeItems items) = normalizeItems items
  | [] => rfl
  | item :: rest => by
      rw [normalizeItems, normalizeItems, normalize_normalize item,
        normalizeItems_normalizeItems rest]

theorem normalizeMembers_normalizeMembers :
    (members : List (String × Json)) →
      normalizeMembers (normalizeMembers members) = normalizeMembers members
  | [] => rfl
  | (_, value) :: rest => by
      rw [normalizeMembers, normalizeMembers, normalize_normalize value,
        normalizeMembers_normalizeMembers rest]

end

/-! ## Looking members up -/

/-- Of members with distinct keys each one is found under its key. -/
theorem lookup_eq_some
    {members : List (String × Json)} (distinct : DistinctKeys members)
    {key : String} {value : Json} :
    lookup key members = some value ↔ (key, value) ∈ members := by
  induction members with
  | nil => simp [lookup]
  | cons first rest ih =>
      rcases first with ⟨otherKey, other⟩
      have apart := List.pairwise_cons.mp distinct
      rw [lookup, List.mem_cons, Prod.mk.injEq]
      split
      · rename_i same
        have absent : (key, value) ∉ rest := fun later => apart.1 _ later same
        simp [same, absent, eq_comm]
      · rename_i different
        simp [Ne.symm different, ih apart.2]

/-- Looking a member up does not depend on the order of members with distinct keys. -/
theorem lookup_sortMembers
    {members : List (String × Json)} (distinct : DistinctKeys members) (key : String) :
    lookup key (sortMembers members) = lookup key members := by
  ext value
  rw [lookup_eq_some (increasing_sortMembers members).distinctKeys, lookup_eq_some distinct]
  exact (sortMembers_perm distinct).mem_iff

end RunArchive.Json
