import RunArchive.Proofs.Json.Printing
import RunArchive.Proofs.Run.Hexadecimal
import RunArchive.Run.Error

/-!
# The canonical form of run identifiers

A text from outside is an identifier if and only if it is `Canonical`: 36 characters, of which four
are hyphens at their places and all others hexadecimal digits.  The reader decides this in another
way.  It takes the text in any form in which JSON values may have an identifier, writes the
identifier that is denoted, and compares this with the text.

Between the two stands `Grouped`, the five groups of digits that a canonical text consists of.  The
digits of an identifier can be put into groups in one way only, so the written form of what is read
is known from its digits; that these are the digits of the text in lower case is what
`digits_of_ofDigits?` says.
-/

namespace RunArchive.RunId

/-! ## Groups of digits -/

/-- Five groups of digits with hyphens between them, and the digits alone. -/
inductive Grouped : List Char → List Char → Prop where
  | intro {a b c d e : List Char}
      (first : a.length = 8) (second : b.length = 4) (third : c.length = 4) (fourth : d.length = 4)
      (fifth : e.length = 12) :
      Grouped (a ++ '-' :: (b ++ '-' :: (c ++ '-' :: (d ++ '-' :: e))))
        (a ++ (b ++ (c ++ (d ++ e))))

/-- A text with a hyphen at some place behind a front falls apart there. -/
theorem drop_hyphen
    {text : List Char} (front : Nat) {place : Nat} (hyphen : text[front + place]? = some '-') :
    text.drop front = (text.drop front).take place ++ '-' :: text.drop (front + place + 1) := by
  rcases List.getElem?_eq_some_iff.mp hyphen with ⟨inside, same⟩
  have behind : '-' :: text.drop (front + place + 1) = (text.drop front).drop place := by
    rw [← same, ← List.drop_eq_getElem_cons inside, List.drop_drop]
  rw [behind, List.take_append_drop]

theorem withoutHyphens?_eq_some_iff {text digits : List Char} :
    withoutHyphens? text = some digits ↔ Grouped text digits := by
  rw [withoutHyphens?, Option.ite_none_right_eq_some, Option.some.injEq]
  constructor
  · rintro ⟨⟨length, first, second, third, fourth⟩, rfl⟩
    have split :
        text = text.take 8 ++ '-' :: ((text.drop 9).take 4 ++ '-' :: ((text.drop 14).take 4 ++
          '-' :: ((text.drop 19).take 4 ++ '-' :: text.drop 24))) := by
      rw [← drop_hyphen 19 fourth, ← drop_hyphen 14 third, ← drop_hyphen 9 second]
      exact drop_hyphen 0 first
    have grouped :=
      Grouped.intro (a := text.take 8) (b := (text.drop 9).take 4) (c := (text.drop 14).take 4)
        (d := (text.drop 19).take 4) (e := text.drop 24) (by simp [length]) (by simp [length])
        (by simp [length]) (by simp [length]) (by simp [length])
    rw [← split] at grouped
    simpa only [List.append_assoc] using grouped
  · rintro ⟨first, second, third, fourth, fifth⟩
    simp [first, second, third, fourth, fifth, List.drop_append, List.drop_eq_nil_of_le]

namespace Grouped

variable {text other digits : List Char}

theorem length (grouped : Grouped text digits) : text.length = 36 ∧ digits.length = 32 := by
  rcases grouped with ⟨first, second, third, fourth, fifth⟩
  simp [first, second, third, fourth, fifth]

/-- Characters may be exchanged for others as long as hyphens stay what they are. -/
theorem map (grouped : Grouped text digits) {change : Char → Char} (kept : change '-' = '-') :
    Grouped (text.map change) (digits.map change) := by
  rcases grouped with ⟨first, second, third, fourth, fifth⟩
  simp only [List.map_append, List.map_cons, kept]
  refine .intro ?_ ?_ ?_ ?_ ?_ <;> rw [List.length_map] <;> assumption

/-- There is one way to put digits into groups. -/
theorem unique (grouped : Grouped text digits) (otherGrouped : Grouped other digits) :
    text = other := by
  rcases grouped with @⟨a, b, c, d, e, first, second, third, fourth, fifth⟩
  generalize same : a ++ (b ++ (c ++ (d ++ e))) = digits at otherGrouped
  rcases otherGrouped with ⟨otherFirst, otherSecond, otherThird, otherFourth, otherFifth⟩
  rcases List.append_inj same (first.trans otherFirst.symm) with ⟨rfl, behindFirst⟩
  rcases List.append_inj behindFirst (second.trans otherSecond.symm) with ⟨rfl, behindSecond⟩
  rcases List.append_inj behindSecond (third.trans otherThird.symm) with ⟨rfl, behindThird⟩
  rcases List.append_inj behindThird (fourth.trans otherFourth.symm) with ⟨rfl, rfl⟩
  rfl

/-- As many digits as an identifier has can be put into groups. -/
theorem exists_text (length : digits.length = 32) : ∃ text, Grouped text digits := by
  have split :
      digits =
        digits.take 8 ++ ((digits.drop 8).take 4 ++ ((digits.drop 12).take 4 ++
          ((digits.drop 16).take 4 ++ digits.drop 20))) := by
    have rejoin (start count : Nat) :
        (digits.drop start).take count ++ digits.drop (start + count) = digits.drop start := by
      rw [← List.drop_drop, List.take_append_drop]
    rw [rejoin 16 4, rejoin 12 4, rejoin 8 4, List.take_append_drop]
  rw [split]
  refine ⟨_, .intro ?_ ?_ ?_ ?_ ?_⟩ <;> simp [length]

end Grouped

/-! ## Canonical texts -/

/-- The places of the hyphens. -/
def hyphenPlaces : List Nat := [8, 13, 18, 23]

/-- A text of digits with hyphens at their places. -/
structure Canonical (text : List Char) : Prop where
  length : text.length = 36
  hyphens : ∀ place ∈ hyphenPlaces, text[place]? = some '-'
  digits :
    ∀ place character, text[place]? = some character → place ∉ hyphenPlaces → IsHexDigit character

theorem mem_slice_iff {text : List Char} {character : Char} (start count : Nat) :
    character ∈ (text.drop start).take count ↔
      ∃ place, start ≤ place ∧ place < start + count ∧ text[place]? = some character := by
  rw [List.mem_iff_getElem?]
  constructor
  · rintro ⟨offset, found⟩
    rw [List.getElem?_take, List.getElem?_drop, Option.ite_none_right_eq_some] at found
    exact ⟨start + offset, Nat.le_add_right _ _, Nat.add_lt_add_left found.1 _, found.2⟩
  · rintro ⟨place, behind, before, found⟩
    refine ⟨place - start, ?_⟩
    rw [List.getElem?_take, List.getElem?_drop, if_pos (by omega), Nat.add_sub_cancel' behind]
    exact found

/-- The digits of a text are the characters that do not stand at the place of a hyphen. -/
theorem Grouped.mem_iff {text digits : List Char} (grouped : Grouped text digits) (digit : Char) :
    digit ∈ digits ↔ ∃ place, text[place]? = some digit ∧ place ∉ hyphenPlaces := by
  have length := grouped.length.1
  rw [← withoutHyphens?_eq_some_iff, withoutHyphens?, Option.ite_none_right_eq_some,
    Option.some.injEq] at grouped
  have front : text.take 8 = (text.drop 0).take 8 := rfl
  have back : text.drop 24 = (text.drop 24).take 12 := by
    rw [List.take_of_length_le]
    simp [length]
  rw [← grouped.2, front, back]
  simp only [List.mem_append, mem_slice_iff, hyphenPlaces, List.mem_cons, List.not_mem_nil,
    or_false]
  constructor
  · rintro ((((found | found) | found) | found) | found) <;>
      rcases found with ⟨place, behind, before, found⟩ <;>
      exact ⟨place, found, by omega⟩
  · rintro ⟨place, found, other⟩
    have inside : place < 36 := by
      rw [← length]
      exact (List.getElem?_eq_some_iff.mp found).1
    by_cases first : place < 8
    · exact .inl (.inl (.inl (.inl ⟨place, by omega, by omega, found⟩)))
    by_cases second : place < 13
    · exact .inl (.inl (.inl (.inr ⟨place, by omega, by omega, found⟩)))
    by_cases third : place < 18
    · exact .inl (.inl (.inr ⟨place, by omega, by omega, found⟩))
    by_cases fourth : place < 23
    · exact .inl (.inr ⟨place, by omega, by omega, found⟩)
    · exact .inr ⟨place, by omega, by omega, found⟩

/-- A text is canonical if and only if it consists of groups of digits. -/
theorem canonical_iff {text : List Char} :
    Canonical text ↔ ∃ digits, Grouped text digits ∧ ∀ digit ∈ digits, IsHexDigit digit := by
  constructor
  · rintro ⟨length, hyphens, allDigits⟩
    have hyphen (place : Nat) (member : place ∈ hyphenPlaces) := hyphens place member
    have separated : ∃ digits, withoutHyphens? text = some digits :=
      ⟨_, if_pos
        ⟨length, hyphen 8 (by decide), hyphen 13 (by decide), hyphen 18 (by decide),
          hyphen 23 (by decide)⟩⟩
    rcases separated with ⟨digits, separated⟩
    have grouped := withoutHyphens?_eq_some_iff.mp separated
    refine ⟨digits, grouped, ?_⟩
    intro digit member
    rcases (grouped.mem_iff digit).mp member with ⟨place, found, other⟩
    exact allDigits place digit found other
  · rintro ⟨digits, grouped, allDigits⟩
    have separated := withoutHyphens?_eq_some_iff.mpr grouped
    rw [withoutHyphens?, Option.ite_none_right_eq_some] at separated
    rcases separated.1 with ⟨length, first, second, third, fourth⟩
    refine ⟨length, ?_, ?_⟩
    · simp only [hyphenPlaces, List.forall_mem_cons]
      exact ⟨first, second, third, fourth, nofun⟩
    · intro place digit found other
      exact allDigits digit ((grouped.mem_iff digit).mpr ⟨place, found, other⟩)

/-! ## Reading -/

theorem ofChars?_eq_some_iff {text : List Char} {id : RunId} :
    ofChars? text = some id ↔ ∃ digits, Grouped text digits ∧ ofDigits? digits = some id := by
  rw [ofChars?, Option.bind_eq_bind, Option.bind_eq_some_iff]
  simp only [withoutHyphens?_eq_some_iff]

theorem exists_ofChars?_iff {text : List Char} :
    (∃ id, ofChars? text = some id) ↔ Canonical text := by
  rw [canonical_iff]
  constructor
  · rintro ⟨id, read⟩
    rcases ofChars?_eq_some_iff.mp read with ⟨digits, grouped, made⟩
    exact ⟨digits, grouped, ((exists_ofDigits?_iff digits).mp ⟨id, made⟩).2⟩
  · rintro ⟨digits, grouped, allDigits⟩
    rcases (exists_ofDigits?_iff digits).mpr ⟨grouped.length.2, allDigits⟩ with ⟨id, made⟩
    exact ⟨id, ofChars?_eq_some_iff.mpr ⟨digits, grouped, made⟩⟩

/-- The written form of the identifier that is read is the text in lower case. -/
theorem chars_of_ofChars?
    {text : List Char} {id : RunId} (read : ofChars? text = some id) :
    id.chars = text.map Char.toLower := by
  rcases ofChars?_eq_some_iff.mp read with ⟨digits, grouped, made⟩
  have own : Grouped id.chars id.digits :=
    withoutHyphens?_eq_some_iff.mp (withoutHyphens?_chars id)
  rw [digits_of_ofDigits? made] at own
  exact own.unique (grouped.map rfl)

theorem chars_injective : Function.Injective chars := by
  intro left right same
  have read := congrArg ofChars? same
  rw [ofChars?_chars, ofChars?_chars] at read
  exact Option.some.inj read

theorem withoutHyphens?_lower (text : List Char) :
    withoutHyphens? (text.map Char.toLower) =
      (withoutHyphens? text).map (List.map Char.toLower) := by
  have hyphen (place : Nat) :
      (text.map Char.toLower)[place]? = some '-' ↔ text[place]? = some '-' := by
    rw [List.getElem?_map]
    cases text[place]? with
    | none => exact ⟨nofun, nofun⟩
    | some character =>
        rw [Option.map_some, Option.some.injEq, Option.some.injEq]
        exact toLower_eq_hyphen_iff character
  simp only [withoutHyphens?, List.length_map, hyphen]
  split <;> simp [List.map_take, List.map_drop]

/-- The case of letters makes no difference. -/
theorem ofChars?_lower (text : List Char) : ofChars? (text.map Char.toLower) = ofChars? text := by
  rw [ofChars?, ofChars?, withoutHyphens?_lower]
  cases withoutHyphens? text with
  | none => rfl
  | some digits => exact ofDigits?_lower digits

theorem ofAnyForm?_of_length
    {text : List Char} (length : text.length = 36) : ofAnyForm? text = ofChars? text := by
  rw [ofAnyForm?, length, if_neg (by decide), if_neg (by simp), if_neg (by simp)]

/-- The form that is accepted is the one with groups. -/
theorem ofText?_eq (text : String) : ofText? text = ofChars? text.toList := by
  ext id
  rw [ofText?, Option.bind_eq_bind, Option.bind_eq_some_iff]
  simp only [Option.ite_none_right_eq_some]
  constructor
  · rintro ⟨other, read, same, own⟩
    cases own
    have length : text.toList.length = 36 := by
      rw [← List.length_map (f := Char.toLower), ← same]
      rfl
    rw [← ofAnyForm?_of_length length]
    exact read
  · intro read
    have length := (exists_ofChars?_iff.mp ⟨id, read⟩).length
    refine ⟨id, ?_, chars_of_ofChars? read, rfl⟩
    rw [ofAnyForm?_of_length length]
    exact read

theorem parse_eq_ok_iff {text : String} {id : RunId} :
    parse text = .ok id ↔ ofChars? text.toList = some id := by
  rw [parse, ofText?_eq]
  cases ofChars? text.toList with
  | none => exact ⟨nofun, nofun⟩
  | some other => rw [Except.ok.injEq, Option.some.injEq]

/-- A text that is not canonical is refused as it stands. -/
theorem parse_refused {text : String} (other : ¬ Canonical text.toList) :
    parse text = .error (.invalidId text) := by
  rw [← exists_ofChars?_iff] at other
  rw [parse, ofText?_eq]
  cases read : ofChars? text.toList with
  | none => rfl
  | some id => exact absurd ⟨id, read⟩ other

theorem ofJson_string {text : String} {id : RunId} (read : ofAnyForm? text.toList = some id) :
    ofJson (.string text) = .ok id := by
  have string : Json.asString "a formatted UUID string" (Json.string text).shape = .ok text := rfl
  rw [ofJson, string, ok_bind, read]
  rfl

/-! ## Other forms -/

/--
The forms other than the written one in which JSON values may have an identifier: the digits alone,
and the groups in braces or behind the name of the scheme, in either case of its letters.
-/
inductive OtherForm (text digits : List Char) : List Char → Prop where
  | plain : OtherForm text digits digits
  | braced : OtherForm text digits ('{' :: (text ++ ['}']))
  | named {front : List Char} (named : front.map Char.toLower = scheme) :
      OtherForm text digits (front ++ text)

theorem length_of_named {front : List Char} (named : front.map Char.toLower = scheme) :
    front.length = 9 := by
  rw [← List.length_map (f := Char.toLower), named]
  rfl

section OtherForms

variable {text digits other : List Char} (form : OtherForm text digits other)
  (grouped : Grouped text digits)
include form grouped

theorem OtherForm.not_canonical : ¬ Canonical other := by
  intro canonical
  have length := canonical.length
  cases form with
  | plain => exact absurd (grouped.length.2.symm.trans length) (by decide)
  | braced => simp [grouped.length.1] at length
  | named named => simp [grouped.length.1, length_of_named named] at length

/-- All forms denote the identifier of their digits. -/
theorem OtherForm.ofAnyForm? {id : RunId} (made : ofDigits? digits = some id) :
    RunId.ofAnyForm? other = some id := by
  have read : ofChars? text = some id := ofChars?_eq_some_iff.mpr ⟨digits, grouped, made⟩
  have length := grouped.length.1
  cases form with
  | plain =>
      rw [RunId.ofAnyForm?, if_pos grouped.length.2]
      exact made
  | braced =>
      have inner : (('{' :: (text ++ ['}'])).drop 1).take 36 = text := by
        rw [List.drop_one, List.tail_cons, List.take_left' length]
      have last : ('{' :: (text ++ ['}'])).getLast? = some '}' := by
        rw [← List.cons_append, List.getLast?_concat]
      rw [RunId.ofAnyForm?, if_neg (by simp [length]), if_pos ⟨by simp [length], rfl, last⟩, inner]
      exact read
  | @named front named =>
      have nine := length_of_named named
      have scheme : ((front ++ text).take 9).map Char.toLower = scheme := by
        rw [List.take_left' nine, named]
      rw [RunId.ofAnyForm?, if_neg (by simp [length, nine]), if_neg (by simp [length, nine]),
        if_pos ⟨by simp [length, nine], scheme⟩, List.drop_left' nine]
      exact read

end OtherForms

/-! ## Exactness -/

/--
A text from outside is accepted if and only if it is canonical.

Its identifier is then written as the text in lower case, is also that of the text with other cases
of letters, and is what a JSON string of this text denotes.  Any other text is refused as it stands.
In particular, whatever 32 digits there are, the forms of them that only JSON values may have are
refused, while JSON strings of these texts denote the identifier of the digits.

Each identifier is what its written form and its JSON text are read as, and no other identifier has
the same written form.
-/
theorem parse_canonical :
    (∀ text : String,
      ((∃ id, parse text = .ok id) ↔ Canonical text.toList) ∧
      (¬ Canonical text.toList → parse text = .error (.invalidId text)) ∧
      ∀ id, parse text = .ok id →
        id.text.toList = text.toList.map Char.toLower ∧
        (∀ other : String, other.toList.map Char.toLower = text.toList.map Char.toLower →
          parse other = .ok id) ∧
        ofJson (.string text) = .ok id) ∧
    (∀ digits : List Char, digits.length = 32 → (∀ digit ∈ digits, IsHexDigit digit) →
      ∃ text id, Grouped text digits ∧ parse (String.ofList text) = .ok id ∧
        ∀ other : String, OtherForm text digits other.toList →
          parse other = .error (.invalidId other) ∧ ofJson (.string other) = .ok id) ∧
    ∀ id : RunId,
      parse id.text = .ok id ∧
      Json.read 127 (Utf8.encode id.toJson.compact) = .ok id.toJson ∧ ofJson id.toJson = .ok id ∧
      ∀ other : RunId, other.text = id.text → other = id := by
  refine ⟨?_, ?_, ?_⟩
  · intro text
    refine ⟨?_, parse_refused, ?_⟩
    · simp only [parse_eq_ok_iff]
      exact exists_ofChars?_iff
    · intro id parsed
      have read := parse_eq_ok_iff.mp parsed
      have canonical := exists_ofChars?_iff.mp ⟨id, read⟩
      refine ⟨?_, ?_, ?_⟩
      · rw [RunId.text, String.toList_ofList]
        exact chars_of_ofChars? read
      · intro other same
        rw [parse_eq_ok_iff, ← ofChars?_lower, same, ofChars?_lower]
        exact read
      · apply ofJson_string
        rw [ofAnyForm?_of_length canonical.length]
        exact read
  · intro digits length allDigits
    rcases Grouped.exists_text length with ⟨text, grouped⟩
    rcases (exists_ofDigits?_iff digits).mpr ⟨length, allDigits⟩ with ⟨id, made⟩
    refine ⟨text, id, grouped, ?_, ?_⟩
    · rw [parse_eq_ok_iff, String.toList_ofList]
      exact ofChars?_eq_some_iff.mpr ⟨digits, grouped, made⟩
    · intro other form
      exact ⟨parse_refused (form.not_canonical grouped),
        ofJson_string (form.ofAnyForm? grouped made)⟩
  · intro id
    refine ⟨?_, ?_, ofJson_toJson id, ?_⟩
    · rw [parse_eq_ok_iff, RunId.text, String.toList_ofList]
      exact ofChars?_chars id
    · have read := Json.read_spelled (Json.spells_string id.text) Json.blanks_nil (Nat.zero_le 127)
      rw [List.append_nil] at read
      exact read
    · intro other same
      exact chars_injective (String.ofList_injective same)

/-- Capital letters are read as small ones; digits without hyphens are refused. -/
theorem parse_canonical_capital :
    ∃ id, parse "6F1C2A94-3E0B-4D4F-9A57-0C8E2B7D1F10" = .ok id ∧
      id.text.toList = "6f1c2a94-3e0b-4d4f-9a57-0c8e2b7d1f10".toList ∧
      parse "6f1C2a94-3e0B-4d4f-9a57-0c8e2b7d1f10" = .ok id ∧
      parse "6F1C2A943E0B4D4F9A570C8E2B7D1F10" =
        .error (.invalidId "6F1C2A943E0B4D4F9A570C8E2B7D1F10") := by
  have each := parse_canonical.1
  have read : ∃ id, parse "6F1C2A94-3E0B-4D4F-9A57-0C8E2B7D1F10" = .ok id :=
    ⟨⟨⟨0x6F1C2A943E0B4D4F9A570C8E2B7D1F10, by decide⟩⟩, by decide +kernel⟩
  rcases read with ⟨id, parsed⟩
  rcases (each _).2.2 id parsed with ⟨written, alike, _⟩
  refine ⟨id, parsed, written.trans (by decide), alike _ (by decide), (each _).2.1 ?_⟩
  intro canonical
  exact absurd canonical.length (by decide)

end RunArchive.RunId
