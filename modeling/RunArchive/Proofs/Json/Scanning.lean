import RunArchive.Json.Skipper
import RunArchive.Proofs.Json.Tokens

/-!
# Scanning the parts of a spelled text

What the scanners between the tokens do with a spelled text: the head of a value is recognized,
separators lead to the next item or key, and closing brackets end their array or object.  Every
statement leaves open what stands behind the part that is scanned.
-/

namespace RunArchive.Json

/-! ## First octets -/

/-- Octets that start with one that can start a value, and so with no closing bracket. -/
inductive Opens : List UInt8 → Prop where
  | intro {o : UInt8} {rest : List UInt8}
      (visible : isBlank o = false)
      (notClosing : o ≠ octet ']') :
      Opens (o :: rest)

theorem Opens.append
    {text : List UInt8} (opens : Opens text) (rest : List UInt8) :
    Opens (text ++ rest) := by
  rcases opens with ⟨visible, notClosing⟩
  exact .intro visible notClosing

/-- The octets with which a numeral can start. -/
def StartsNumeral (o : UInt8) : Prop := o = octet '-' ∨ isDigit o = true

theorem StartsNumeral.ne
    {o : UInt8}
    (starts : StartsNumeral o)
    (other : UInt8)
    (notMinus : octet '-' ≠ other)
    (notDigit : isDigit other = false) :
    o ≠ other := by
  rcases starts with rfl | digit
  · exact notMinus
  · exact ne_of_isDigit digit notDigit

theorem StartsNumeral.visible
    {o : UInt8} (starts : StartsNumeral o) :
    isBlank o = false := by
  simp only [isBlank, Bool.or_eq_false_iff, beq_eq_false_iff_ne]
  exact
    ⟨⟨⟨starts.ne _ (by decide) (by decide), starts.ne _ (by decide) (by decide)⟩,
      starts.ne _ (by decide) (by decide)⟩, starts.ne _ (by decide) (by decide)⟩

theorem SpellsNumeral.starts
    {text : List UInt8} {numeral : Numeral}
    (spelled : SpellsNumeral text numeral) :
    ∃ o rest, text = o :: rest ∧ StartsNumeral o := by
  rcases numeral with ⟨negative, wholeDigits, fractionDigits, exponentDigits⟩
  rcases spelled with ⟨signed, whole, _, _⟩
  cases signed with
  | present =>
      exact ⟨octet '-', _, rfl, Or.inl rfl⟩
  | absent =>
      rcases whole with ⟨⟨nonempty, digital⟩, _⟩
      cases wholeDigits with
      | nil => exact absurd rfl nonempty
      | cons o digits =>
          exact ⟨o, _, rfl, Or.inr (digital o List.mem_cons_self)⟩

theorem SpellsNumeral.opens
    {text : List UInt8} {numeral : Numeral}
    (spelled : SpellsNumeral text numeral) :
    Opens text := by
  rcases spelled.starts with ⟨o, rest, rfl, starts⟩
  exact .intro starts.visible (starts.ne _ (by decide) (by decide))

theorem Spells.opens
    {text : List UInt8} {value : Json}
    (spelled : Spells text (.value value)) :
    Opens text := by
  cases spelled with
  | null => exact .intro (by decide) (by decide)
  | bool value => cases value <;> exact .intro (by decide) (by decide)
  | number spelled _ => exact spelled.opens
  | string _ => exact .intro (by decide) (by decide)
  | array _ => exact .intro (by decide) (by decide)
  | object _ _ _ => exact .intro (by decide) (by decide)

theorem IsText.opens
    {text : List UInt8}
    (formed : IsText text .value) :
    Opens text := by
  cases formed with
  | null => exact .intro (by decide) (by decide)
  | bool value => cases value <;> exact .intro (by decide) (by decide)
  | number spelled => exact spelled.opens
  | string _ => exact .intro (by decide) (by decide)
  | array _ => exact .intro (by decide) (by decide)
  | object _ => exact .intro (by decide) (by decide)

/-! ## Delimiters -/

theorem delimited_of_blanks
    {blanks rest : List UInt8}
    (blank : Blanks blanks)
    (delimited : Delimited rest) :
    Delimited (blanks ++ rest) := by
  cases blanks with
  | nil => exact delimited
  | cons o blanks =>
      have isBlank := blank o List.mem_cons_self
      simp only [Json.isBlank, Bool.or_eq_true, beq_iff_eq] at isBlank
      rcases isBlank with ((space | line) | tab) | carriage
      · subst space
        exact delimited_cons (by decide) (by decide) (by decide) (by decide) _
      · subst line
        exact delimited_cons (by decide) (by decide) (by decide) (by decide) _
      · subst tab
        exact delimited_cons (by decide) (by decide) (by decide) (by decide) _
      · subst carriage
        exact delimited_cons (by decide) (by decide) (by decide) (by decide) _

theorem delimited_comma (rest : List UInt8) : Delimited (octet ',' :: rest) :=
  delimited_cons (by decide) (by decide) (by decide) (by decide) rest

theorem delimited_bracket (rest : List UInt8) : Delimited (octet ']' :: rest) :=
  delimited_cons (by decide) (by decide) (by decide) (by decide) rest

theorem delimited_brace (rest : List UInt8) : Delimited (octet '\x7d' :: rest) :=
  delimited_cons (by decide) (by decide) (by decide) (by decide) rest

theorem Separates.delimited
    {separator : List UInt8}
    (separated : Separates false separator) (rest : List UInt8) :
    Delimited (separator ++ rest) := by
  cases separated with
  | later blankBefore _ =>
      rw [List.append_assoc]
      exact delimited_of_blanks blankBefore (delimited_comma _)

/-- What follows an item ends a numeral. -/
theorem Spells.delimited_items
    {text : List UInt8} {items : List Json}
    (spelled : Spells text (.items false items)) (rest : List UInt8) :
    Delimited (text ++ rest) := by
  cases spelled with
  | noItems _ blank =>
      rw [List.append_assoc]
      exact delimited_of_blanks blank (delimited_bracket _)
  | item separated _ _ =>
      rw [List.append_assoc]
      exact separated.delimited _

/-- What follows a member ends a numeral. -/
theorem Spells.delimited_members
    {text : List UInt8} {members : List (String × Json)}
    (spelled : Spells text (.members false members)) (rest : List UInt8) :
    Delimited (text ++ rest) := by
  cases spelled with
  | noMembers _ blank =>
      rw [List.append_assoc]
      exact delimited_of_blanks blank (delimited_brace _)
  | member separated _ _ _ _ =>
      rw [List.append_assoc]
      exact separated.delimited _

/-! ## The heads of values -/

theorem scanHead_null (rest : List UInt8) :
    scanHead (octets nullText ++ rest) = .ok (.null, rest) := rfl

theorem scanHead_bool (value : Bool) (rest : List UInt8) :
    scanHead (octets (boolText value) ++ rest) = .ok (.bool value, rest) := by
  cases value <;> rfl

theorem scanHead_list (rest : List UInt8) :
    scanHead (octet '[' :: rest) = .ok (.list, rest) := rfl

theorem scanHead_object (rest : List UInt8) :
    scanHead (octet '\x7b' :: rest) = .ok (.object, rest) := rfl

theorem scanHead_string
    {text : List UInt8} {value : String} (rest : List UInt8)
    (spelled : SpellsQuoted text value) :
    scanHead (octet '"' :: (text ++ rest)) = .ok (.string value, rest) := by
  have head :
      scanHead (octet '"' :: (text ++ rest)) =
        (scanString [] (text ++ rest) >>= fun read => .ok (.string read.1, read.2)) := rfl
  rw [head, scanString_quoted rest spelled, ok_bind]

/-- A numeral is recognized completely; whether it has a value is another question. -/
theorem scanHead_numeral
    {text rest : List UInt8} {numeral : Numeral}
    (spelled : SpellsNumeral text numeral)
    (delimited : Delimited rest) :
    scanHead (text ++ rest) =
      numeral.number >>= fun number => .ok (.number number, rest) := by
  have scanned := scanNumeral_spelled .endInValue spelled delimited
  rcases spelled.starts with ⟨o, tail, rfl, starts⟩
  have isStart : (o = octet '-' || isDigit o) = true := by
    simpa [StartsNumeral] using starts
  rw [List.cons_append] at scanned ⊢
  rw [scanHead, skipBlanks_cons starts.visible]
  simp only [if_neg (starts.ne (octet 'n') (by decide) (by decide)),
    if_neg (starts.ne (octet 't') (by decide) (by decide)),
    if_neg (starts.ne (octet 'f') (by decide) (by decide)),
    if_neg (starts.ne (octet '"') (by decide) (by decide)),
    if_pos isStart, scanned, ok_bind]
  rfl

theorem scanHead_number
    {text rest : List UInt8} {numeral : Numeral} {number : Number}
    (spelled : SpellsNumeral text numeral)
    (meaning : numeral.number = .ok number)
    (delimited : Delimited rest) :
    scanHead (text ++ rest) = .ok (.number number, rest) := by
  rw [scanHead_numeral spelled delimited, meaning, ok_bind]

/-- A scalar is recognized completely. -/
theorem scanHead_scalar
    {text rest : List UInt8} {value : Json}
    (spelled : Spells text (.value value))
    (flat : value.nesting = 0)
    (delimited : Delimited rest) :
    scanHead (text ++ rest) = .ok (value.shape, rest) := by
  cases spelled with
  | null => exact scanHead_null rest
  | bool value => exact scanHead_bool value rest
  | number spelled meaning => exact scanHead_number spelled meaning delimited
  | string spelled => exact scanHead_string rest spelled
  | array _ => exact absurd flat (Nat.succ_ne_zero _)
  | object _ _ _ => exact absurd flat (Nat.succ_ne_zero _)

/-! ## Between the items of an array -/

theorem nextItem_end
    (first : Bool) {blanks : List UInt8} (rest : List UInt8)
    (blank : Blanks blanks) :
    nextItem first (blanks ++ octet ']' :: rest) = .ok (false, rest) := by
  rw [nextItem, skipBlanks_append blank]
  rfl

theorem nextItem_separated
    {first : Bool} {separator text : List UInt8}
    (separated : Separates first separator)
    (opens : Opens text) :
    nextItem first (separator ++ text) = .ok (true, text) := by
  rcases opens with ⟨visible, notClosing⟩
  cases separated with
  | first blank =>
      rw [nextItem, skipBlanks_append blank, skipBlanks_cons visible]
      simp only [if_neg notClosing, if_true]
  | later blankBefore blankBehind =>
      have notBracket : octet ',' ≠ octet ']' := by decide
      rw [nextItem, List.append_assoc, skipBlanks_append blankBefore, List.cons_append,
        skipBlanks_cons (by decide)]
      simp only [if_neg notBracket, Bool.false_eq_true, if_false, if_true,
        skipBlanks_append blankBehind, skipBlanks_cons visible, if_neg notClosing]

/-! ## Between the members of an object -/

theorem nextKey_end
    (first : Bool) {blanks : List UInt8} (rest : List UInt8)
    (blank : Blanks blanks) :
    nextKey first (blanks ++ octet '\x7d' :: rest) = .ok (false, rest) := by
  rw [nextKey, skipBlanks_append blank]
  rfl

theorem nextKey_separated
    {first : Bool} {separator : List UInt8} (text : List UInt8)
    (separated : Separates first separator) :
    nextKey first (separator ++ octet '"' :: text) = .ok (true, text) := by
  cases separated with
  | first blank =>
      rw [nextKey, skipBlanks_append blank]
      rfl
  | later blankBefore blankBehind =>
      have notBrace : octet ',' ≠ octet '\x7d' := by decide
      rw [nextKey, List.append_assoc, skipBlanks_append blankBefore, List.cons_append,
        skipBlanks_cons (by decide)]
      simp only [if_neg notBrace, Bool.false_eq_true, if_false, if_true,
        skipBlanks_append blankBehind]
      rfl

theorem scanColon_spelled
    {colon : List UInt8} (text : List UInt8)
    (assigned : SpellsColon colon) :
    ∃ behind, Blanks behind ∧ scanColon (colon ++ text) = .ok (behind ++ text) := by
  rcases assigned with ⟨blankBefore, blankBehind⟩
  rename_i before behind
  refine ⟨behind, blankBehind, ?_⟩
  rw [scanColon, List.append_assoc, skipBlanks_append blankBefore]
  rfl

theorem scanEnd_blanks
    {blanks : List UInt8} (blank : Blanks blanks) :
    scanEnd blanks = .ok () := by
  have skipped := skipBlanks_append blank []
  rw [List.append_nil] at skipped
  rw [scanEnd, skipped]
  rfl

/-- Blanks in front of a value do not matter to its head. -/
theorem scanHead_blanks
    {blanks : List UInt8} (blank : Blanks blanks) (text : List UInt8) :
    scanHead (blanks ++ text) = scanHead text := by
  rw [scanHead, scanHead, skipBlanks_append blank]

end RunArchive.Json
