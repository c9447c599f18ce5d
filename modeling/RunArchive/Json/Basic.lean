import RunArchive.Decimal.Magnitude
import RunArchive.Text.Utf8

/-!
# JSON values

A JSON value is a tree of scalars, arrays and objects.  Numbers keep the distinction that their
spelling makes: an integer is never a float, however close.

An object is a list of members in the order in which they are written.  The *value* that an object
denotes does not depend on that order, so values are compared through their normal form:
`WellFormed` trees have every object in strictly increasing key order, and integers that fit 64
bits.  Keys are ordered by their UTF-8 octets.  `ofMembers` builds a normal object from members in
any order, the last of two equal keys winning, and `normalize` brings a whole tree into normal
form.
-/

namespace RunArchive

/-- A JSON number. -/
inductive Json.Number where
  /-- A number spelled without fraction and exponent that fits 64 bits. -/
  | integer (value : Int)
  /-- Any other number. -/
  | float (value : Double)
deriving DecidableEq

/-- A JSON value, its objects as they are written. -/
inductive Json where
  | null
  | bool (value : Bool)
  | number (value : Json.Number)
  | string (value : String)
  | array (items : List Json)
  | object (members : List (String × Json))

namespace Json

/-- The value of a natural number. -/
def ofNat (value : Nat) : Json := .number (.integer value)

/-- The value of an integer. -/
def ofInt (value : Int) : Json := .number (.integer value)

/-- The value of an optional text. -/
def ofText? : Option String → Json
  | none => .null
  | some text => .string text

mutual

/-- Equality of trees is decidable. -/
def decEq : (left right : Json) → Decidable (left = right)
  | .null, .null => .isTrue rfl
  | .bool left, .bool right => decidable_of_iff (left = right) (by simp)
  | .number left, .number right => decidable_of_iff (left = right) (by simp)
  | .string left, .string right => decidable_of_iff (left = right) (by simp)
  | .array left, .array right =>
    match decEqItems left right with
    | .isTrue same => .isTrue (congrArg _ same)
    | .isFalse different => .isFalse fun same => different (Json.array.inj same)
  | .object left, .object right =>
    match decEqMembers left right with
    | .isTrue same => .isTrue (congrArg _ same)
    | .isFalse different => .isFalse fun same => different (Json.object.inj same)
  | .null, .bool _ | .null, .number _ | .null, .string _ | .null, .array _ | .null, .object _
  | .bool _, .null | .bool _, .number _ | .bool _, .string _ | .bool _, .array _
  | .bool _, .object _
  | .number _, .null | .number _, .bool _ | .number _, .string _ | .number _, .array _
  | .number _, .object _ | .string _, .null | .string _, .bool _ | .string _, .number _
  | .string _, .array _ | .string _, .object _ | .array _, .null | .array _, .bool _
  | .array _, .number _ | .array _, .string _ | .array _, .object _ | .object _, .null
  | .object _, .bool _ | .object _, .number _ | .object _, .string _ | .object _, .array _ =>
    .isFalse nofun

/-- Equality of lists of items is decidable. -/
def decEqItems : (left right : List Json) → Decidable (left = right)
  | [], [] => .isTrue rfl
  | [], _ :: _ | _ :: _, [] => .isFalse nofun
  | left :: lefts, right :: rights =>
    match decEq left right, decEqItems lefts rights with
    | .isTrue head, .isTrue tail => .isTrue (head ▸ tail ▸ rfl)
    | .isFalse different, _ => .isFalse fun same => different (List.cons.inj same).1
    | _, .isFalse different => .isFalse fun same => different (List.cons.inj same).2

/-- Equality of lists of members is decidable. -/
def decEqMembers : (left right : List (String × Json)) → Decidable (left = right)
  | [], [] => .isTrue rfl
  | [], _ :: _ | _ :: _, [] => .isFalse nofun
  | (leftKey, left) :: lefts, (rightKey, right) :: rights =>
    if sameKey : leftKey = rightKey then
      match decEq left right, decEqMembers lefts rights with
      | .isTrue head, .isTrue tail => .isTrue (sameKey ▸ head ▸ tail ▸ rfl)
      | .isFalse different, _ =>
        .isFalse fun same => different (Prod.mk.inj (List.cons.inj same).1).2
      | _, .isFalse different => .isFalse fun same => different (List.cons.inj same).2
    else .isFalse fun same => sameKey (Prod.mk.inj (List.cons.inj same).1).1

end

instance : DecidableEq Json := decEq

/-- The order of keys: by their UTF-8 octets, an initial part before the longer key. -/
def KeyBefore (left right : String) : Prop := Utf8.ofString left < Utf8.ofString right

instance (left right : String) : Decidable (KeyBefore left right) :=
  inferInstanceAs (Decidable (Utf8.ofString left < Utf8.ofString right))

/-- Puts a member into a list with increasing keys, unless its key is there already. -/
def insertMember {Value : Type} (key : String) (value : Value) :
    List (String × Value) → List (String × Value)
  | [] => [(key, value)]
  | (otherKey, other) :: rest =>
    if key = otherKey then (otherKey, other) :: rest
    else if KeyBefore key otherKey then (key, value) :: (otherKey, other) :: rest
    else (otherKey, other) :: insertMember key value rest

/-- Members in increasing key order; of members with one key the last one given stays. -/
def sortMembers {Value : Type} : List (String × Value) → List (String × Value)
  | [] => []
  | (key, value) :: rest => insertMember key value (sortMembers rest)

/-- The object with these members, in normal order. -/
def ofMembers (members : List (String × Json)) : Json := .object (sortMembers members)

mutual

/-- The normal form of a tree. -/
def normalize : Json → Json
  | .null => .null
  | .bool value => .bool value
  | .number value => .number value
  | .string value => .string value
  | .array items => .array (normalizeItems items)
  | .object members => ofMembers (normalizeMembers members)

/-- The normal forms of the items of an array. -/
def normalizeItems : List Json → List Json
  | [] => []
  | item :: rest => normalize item :: normalizeItems rest

/-- The members of an object, their values in normal form. -/
def normalizeMembers : List (String × Json) → List (String × Json)
  | [] => []
  | (key, value) :: rest => (key, normalize value) :: normalizeMembers rest

end

/-- Whether an integer fits 64 bits: with a sign if it is negative, without one if not. -/
def FitsInteger (value : Int) : Prop :=
  -0x8000000000000000 ≤ value ∧ value ≤ 0xFFFFFFFFFFFFFFFF

instance (value : Int) : Decidable (FitsInteger value) :=
  inferInstanceAs (Decidable (_ ∧ _))

/-- Whether the keys of a list of members increase strictly. -/
def Increasing {Value : Type} (members : List (String × Value)) : Prop :=
  members.Pairwise fun left right => KeyBefore left.1 right.1

mutual

/-- Whether a tree is in normal form. -/
def WellFormed : Json → Prop
  | .null => True
  | .bool _ => True
  | .number (.integer value) => FitsInteger value
  | .number (.float _) => True
  | .string _ => True
  | .array items => WellFormedItems items
  | .object members => Increasing members ∧ WellFormedMembers members

/-- Whether all items of an array are in normal form. -/
def WellFormedItems : List Json → Prop
  | [] => True
  | item :: rest => WellFormed item ∧ WellFormedItems rest

/-- Whether the values of all members of an object are in normal form. -/
def WellFormedMembers : List (String × Json) → Prop
  | [] => True
  | (_, value) :: rest => WellFormed value ∧ WellFormedMembers rest

end

mutual

/-- How deep arrays and objects are nested in a tree: none in a scalar, one in an empty array. -/
def nesting : Json → Nat
  | .null => 0
  | .bool _ => 0
  | .number _ => 0
  | .string _ => 0
  | .array items => nestingItems items + 1
  | .object members => nestingMembers members + 1

/-- The deepest nesting among the items of an array. -/
def nestingItems : List Json → Nat
  | [] => 0
  | item :: rest => max (nesting item) (nestingItems rest)

/-- The deepest nesting among the members of an object. -/
def nestingMembers : List (String × Json) → Nat
  | [] => 0
  | (_, value) :: rest => max (nesting value) (nestingMembers rest)

end

/-- The value of the member with this key; of several such members the first. -/
def lookup (key : String) : List (String × Json) → Option Json
  | [] => none
  | (otherKey, value) :: rest => if otherKey = key then some value else lookup key rest

/-- The value of a member of an object, and nothing where there is no such member or no object. -/
def member? (key : String) : Json → Option Json
  | .object members => lookup key members
  | _ => none

end Json

end RunArchive
