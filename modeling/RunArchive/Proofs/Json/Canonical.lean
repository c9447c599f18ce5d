import RunArchive.Proofs.Json.Printing

/-!
# Canonical texts tell values apart

The canonical text of a value is the compact text of its normal form, and compact texts of
different trees differ.  So two values have one canonical text if and only if they have one normal
form, which is to say that they differ at most in the order of members.

Nothing is read here: the texts of floats need not give them back.  It is enough that a text shows
where its parts end.  Two trees are compared from left to right along one text, with anything
behind it that does not go on like a numeral; the first octet tells which kind of value comes, and
the scanners of strings and numerals tell where it ends.
-/

namespace RunArchive.Json

/-! ## Kinds of values -/

/-- What the first octet of a text says about its value. -/
inductive Kind where
  | null
  | bool (value : Bool)
  | number
  | string
  | array
  | object

/-- The kind of a value. -/
def kind : Json → Kind
  | .null => .null
  | .bool value => .bool value
  | .number _ => .number
  | .string _ => .string
  | .array _ => .array
  | .object _ => .object

/-- The kind of the values whose texts start with this octet. -/
def kindOf? (o : UInt8) : Option Kind :=
  if o = octet 'n' then some .null
  else if o = octet 't' then some (.bool true)
  else if o = octet 'f' then some (.bool false)
  else if o = octet '"' then some .string
  else if o = octet '[' then some .array
  else if o = octet '\x7b' then some .object
  else if o = octet '-' || isDigit o then some .number
  else none

theorem StartsNumeral.kindOf?
    {o : UInt8} (starts : StartsNumeral o) :
    kindOf? o = some .number := by
  have isStart : (o = octet '-' || isDigit o) = true := by
    simpa [StartsNumeral] using starts
  unfold Json.kindOf?
  rw [if_neg (starts.ne _ (by decide) (by decide)), if_neg (starts.ne _ (by decide) (by decide)),
    if_neg (starts.ne _ (by decide) (by decide)), if_neg (starts.ne _ (by decide) (by decide)),
    if_neg (starts.ne _ (by decide) (by decide)), if_neg (starts.ne _ (by decide) (by decide)),
    if_pos isStart]

/-- The text of a value starts with an octet of its kind. -/
theorem first_octet (value : Json) :
    ∃ o tail, Utf8.encode value.compact = o :: tail ∧ kindOf? o = some value.kind := by
  cases value with
  | null => exact ⟨octet 'n', _, rfl, rfl⟩
  | bool value =>
      cases value with
      | false => exact ⟨octet 'f', _, rfl, rfl⟩
      | true => exact ⟨octet 't', _, rfl, rfl⟩
  | number number =>
      rcases number_spelled number with ⟨numeral, spelled, _⟩
      rcases spelled.starts with ⟨o, tail, text, starts⟩
      exact ⟨o, tail, text, starts.kindOf?⟩
  | string text => exact ⟨octet '"', _, rfl, rfl⟩
  | array items => exact ⟨octet '[', _, rfl, rfl⟩
  | object members => exact ⟨octet '\x7b', _, rfl, rfl⟩

theorem kind_eq
    {left right : Json} {leftRest rightRest : List UInt8}
    (equal :
      Utf8.encode left.compact ++ leftRest = Utf8.encode right.compact ++ rightRest) :
    left.kind = right.kind := by
  rcases first_octet left with ⟨leftOctet, leftTail, leftText, leftKind⟩
  rcases first_octet right with ⟨rightOctet, rightTail, rightText, rightKind⟩
  rw [leftText, rightText] at equal
  have octets : leftOctet = rightOctet := (List.cons.inj equal).1
  rw [octets, rightKind] at leftKind
  exact (Option.some.inj leftKind).symm

/-! ## What stands behind a value -/

/-- What stands behind an item or a member does not go on like a numeral. -/
theorem delimited_listed
    (texts : List (List Char)) {rest : List UInt8} (delimited : Delimited rest) :
    Delimited (Utf8.encode (listed false texts) ++ rest) := by
  cases texts with
  | nil => exact delimited
  | cons text texts =>
      rw [listed, Utf8.encode_append, List.append_assoc]
      exact delimited_comma _

/-- Where a list goes on, it does not end. -/
theorem listed_ne_closing
    {closing : UInt8} (first : Bool) {text : List Char} (texts : List (List Char))
    (notComma : octet ',' ≠ closing)
    (opens : ∃ o tail, Utf8.encode text = o :: tail ∧ o ≠ closing)
    (rest behind : List UInt8) :
    Utf8.encode (listed first (text :: texts)) ++ rest ≠ closing :: behind := by
  intro equal
  rw [listed, Utf8.encode_append, Utf8.encode_append] at equal
  cases first with
  | false => exact notComma (List.cons.inj equal).1
  | true =>
      rcases opens with ⟨o, tail, spelled, different⟩
      rw [spelled] at equal
      exact different (List.cons.inj equal).1

theorem items_ne_closing
    (first : Bool) (item : Json) (items : List Json) (rest behind : List UInt8) :
    Utf8.encode (listed first (compactItems (item :: items))) ++ rest ≠
      octet ']' :: behind := by
  apply listed_ne_closing first _ (by decide)
  rcases first_octet item with ⟨o, tail, spelled, known⟩
  refine ⟨o, tail, spelled, ?_⟩
  intro closing
  have unknown : kindOf? (octet ']') = none := rfl
  rw [closing, unknown] at known
  exact absurd known (by simp)

theorem members_ne_closing
    (first : Bool) (member : String × Json) (members : List (String × Json))
    (rest behind : List UInt8) :
    Utf8.encode (listed first (compactMembers (member :: members))) ++ rest ≠
      octet '\x7d' :: behind := by
  apply listed_ne_closing first _ (by decide)
  rw [encode_memberText]
  exact ⟨octet '"', _, rfl, by decide⟩

/-! ## Cancelling texts -/

theorem number_cancel
    {left right : Number} {leftRest rightRest : List UInt8}
    (leftDelimited : Delimited leftRest)
    (rightDelimited : Delimited rightRest)
    (equal : Utf8.encode left.text ++ leftRest = Utf8.encode right.text ++ rightRest) :
    left = right ∧ leftRest = rightRest := by
  rcases number_spelled left with ⟨leftNumeral, leftSpelled, leftWrites⟩
  rcases number_spelled right with ⟨rightNumeral, rightSpelled, rightWrites⟩
  have scanned := scanNumeral_spelled .endInValue leftSpelled leftDelimited
  rw [equal, scanNumeral_spelled .endInValue rightSpelled rightDelimited] at scanned
  rcases Prod.mk.inj (Except.ok.inj scanned) with ⟨numerals, rests⟩
  rw [numerals] at rightWrites
  exact ⟨leftWrites.unique rightWrites, rests.symm⟩

theorem quoted_cancel
    {left right : String} {leftRest rightRest : List UInt8}
    (equal : quotedText left ++ leftRest = quotedText right ++ rightRest) :
    left = right ∧ leftRest = rightRest := by
  have scanned := scanString_quoted leftRest (spellsQuoted_quotedText left)
  rw [equal, scanString_quoted rightRest (spellsQuoted_quotedText right)] at scanned
  rcases Prod.mk.inj (Except.ok.inj scanned) with ⟨strings, rests⟩
  exact ⟨strings.symm, rests.symm⟩

mutual

/-- Texts of values at the start of equal octets belong to equal values. -/
theorem compact_cancel :
    (left right : Json) → {leftRest rightRest : List UInt8} →
      Delimited leftRest → Delimited rightRest →
      Utf8.encode left.compact ++ leftRest = Utf8.encode right.compact ++ rightRest →
      left = right ∧ leftRest = rightRest
  | .null, right, _, _, _, _, equal => by
      have kinds := kind_eq equal
      cases right with
      | null => exact ⟨rfl, List.append_cancel_left equal⟩
      | _ => exact nomatch kinds
  | .bool leftValue, right, _, _, _, _, equal => by
      have kinds := kind_eq equal
      cases right with
      | bool rightValue =>
          have values : leftValue = rightValue := Kind.bool.inj kinds
          subst values
          exact ⟨rfl, List.append_cancel_left equal⟩
      | _ => exact nomatch kinds
  | .number leftNumber, right, _, _, leftDelimited, rightDelimited, equal => by
      have kinds := kind_eq equal
      cases right with
      | number rightNumber =>
          rcases number_cancel leftDelimited rightDelimited equal with ⟨numbers, rests⟩
          rw [numbers]
          exact ⟨rfl, rests⟩
      | _ => exact nomatch kinds
  | .string leftText, right, _, _, _, _, equal => by
      have kinds := kind_eq equal
      cases right with
      | string rightText =>
          rw [compact, compact, encode_stringText, encode_stringText] at equal
          rcases quoted_cancel (List.cons.inj equal).2 with ⟨strings, rests⟩
          rw [strings]
          exact ⟨rfl, rests⟩
      | _ => exact nomatch kinds
  | .array leftItems, right, _, _, _, _, equal => by
      have kinds := kind_eq equal
      cases right with
      | array rightItems =>
          rw [encode_array, encode_array] at equal
          simp only [List.cons_append, List.append_assoc] at equal
          rcases items_cancel true leftItems rightItems (List.cons.inj equal).2 with ⟨items, rests⟩
          rw [items]
          exact ⟨rfl, rests⟩
      | _ => exact nomatch kinds
  | .object leftMembers, right, _, _, _, _, equal => by
      have kinds := kind_eq equal
      cases right with
      | object rightMembers =>
          rw [encode_object, encode_object] at equal
          simp only [List.cons_append, List.append_assoc] at equal
          rcases members_cancel true leftMembers rightMembers (List.cons.inj equal).2 with
            ⟨members, rests⟩
          rw [members]
          exact ⟨rfl, rests⟩
      | _ => exact nomatch kinds

theorem items_cancel (first : Bool) :
    (left right : List Json) → {leftRest rightRest : List UInt8} →
      Utf8.encode (listed first (compactItems left)) ++ octet ']' :: leftRest =
        Utf8.encode (listed first (compactItems right)) ++ octet ']' :: rightRest →
      left = right ∧ leftRest = rightRest
  | [], [], _, _, equal => ⟨rfl, (List.cons.inj equal).2⟩
  | [], item :: items, _, _, equal =>
      absurd equal.symm (items_ne_closing first item items _ _)
  | item :: items, [], _, _, equal =>
      absurd equal (items_ne_closing first item items _ _)
  | leftItem :: leftItems, rightItem :: rightItems, leftRest, rightRest, equal => by
      rw [compactItems, compactItems, listed, listed, Utf8.encode_append, Utf8.encode_append,
        Utf8.encode_append, Utf8.encode_append] at equal
      simp only [List.append_assoc] at equal
      rcases compact_cancel leftItem rightItem (delimited_listed _ (delimited_bracket _))
            (delimited_listed _ (delimited_bracket _)) (List.append_cancel_left equal) with
        ⟨heads, tails⟩
      rcases items_cancel false leftItems rightItems tails with ⟨items, rests⟩
      rw [heads, items]
      exact ⟨rfl, rests⟩

theorem members_cancel (first : Bool) :
    (left right : List (String × Json)) → {leftRest rightRest : List UInt8} →
      Utf8.encode (listed first (compactMembers left)) ++ octet '\x7d' :: leftRest =
        Utf8.encode (listed first (compactMembers right)) ++ octet '\x7d' :: rightRest →
      left = right ∧ leftRest = rightRest
  | [], [], _, _, equal => ⟨rfl, (List.cons.inj equal).2⟩
  | [], member :: members, _, _, equal =>
      absurd equal.symm (members_ne_closing first member members _ _)
  | member :: members, [], _, _, equal =>
      absurd equal (members_ne_closing first member members _ _)
  | (leftKey, leftValue) :: leftMembers, (rightKey, rightValue) :: rightMembers,
      leftRest, rightRest, equal => by
      rw [compactMembers, compactMembers, listed, listed, Utf8.encode_append, Utf8.encode_append,
        Utf8.encode_append, Utf8.encode_append, encode_memberText, encode_memberText] at equal
      simp only [List.append_assoc, List.cons_append] at equal
      rcases quoted_cancel (List.cons.inj (List.append_cancel_left equal)).2 with ⟨keys, behindKeys⟩
      rcases compact_cancel leftValue rightValue (delimited_listed _ (delimited_brace _))
            (delimited_listed _ (delimited_brace _)) (List.cons.inj behindKeys).2 with
        ⟨heads, tails⟩
      rcases members_cancel false leftMembers rightMembers tails with ⟨members, rests⟩
      rw [keys, heads, members]
      exact ⟨rfl, rests⟩

end

/-- Different trees have different compact texts. -/
theorem compact_injective : Function.Injective compact := by
  intro left right equal
  exact (compact_cancel left right delimited_nil delimited_nil (by rw [equal])).1

/-! ## Canonical texts -/

theorem compactMembers_eq (members : List (String × Json)) :
    compactMembers members = (mapMembers compact members).map memberText := by
  induction members with
  | nil => rfl
  | cons member rest ih =>
      rw [compactMembers, ih]
      rfl

mutual

/-- The canonical text of a value is the compact text of its normal form. -/
theorem canonical_eq : (value : Json) → value.canonical = value.normalize.compact
  | .null => rfl
  | .bool _ => rfl
  | .number _ => rfl
  | .string _ => rfl
  | .array items => by
      rw [canonical, normalize, compact, canonicalItems_eq items]
  | .object members => by
      rw [canonical, normalize, ofMembers, compact, canonicalMembers_eq members,
        sortMembers_mapMembers, compactMembers_eq]

theorem canonicalItems_eq :
    (items : List Json) → canonicalItems items = compactItems (normalizeItems items)
  | [] => rfl
  | item :: rest => by
      rw [canonicalItems, normalizeItems, compactItems, canonical_eq item, canonicalItems_eq rest]

theorem canonicalMembers_eq :
    (members : List (String × Json)) →
      canonicalMembers members = mapMembers compact (normalizeMembers members)
  | [] => rfl
  | (key, value) :: rest => by
      rw [canonicalMembers, normalizeMembers, canonical_eq value, canonicalMembers_eq rest]
      rfl

end

/-- Values have one canonical text if and only if they have one normal form. -/
theorem canonical_eq_iff (left right : Json) :
    left.canonical = right.canonical ↔ left.normalize = right.normalize := by
  rw [canonical_eq, canonical_eq]
  exact compact_injective.eq_iff

/-- Values in normal form are the same if their canonical texts are. -/
theorem WellFormed.eq_of_canonical
    {left right : Json}
    (leftNormal : left.WellFormed)
    (rightNormal : right.WellFormed)
    (equal : left.canonical = right.canonical) :
    left = right := by
  have forms := (canonical_eq_iff left right).mp equal
  rw [normalize_of_wellFormed left leftNormal, normalize_of_wellFormed right rightNormal] at forms
  exact forms

end RunArchive.Json
