import RunArchive.Json.Scanner
import RunArchive.Proofs.Json.Spelling
import RunArchive.Proofs.Outcome
import RunArchive.Proofs.Text.Utf8

/-!
# Scanning spelled tokens

The scanners of strings, numerals and blanks read every spelling of what they look for, and stop
where it ends.  A string and a word end by themselves.  A numeral does not: what stands behind it
must be `Delimited`, that is, must not go on like a numeral.
-/

namespace RunArchive.Json

/-! ## Blanks -/

@[simp]
theorem skipBlanks_append
    {blanks : List UInt8} (blank : Blanks blanks) (rest : List UInt8) :
    skipBlanks (blanks ++ rest) = skipBlanks rest := by
  exact List.dropWhile_append_of_pos blank

@[simp]
theorem skipBlanks_cons
    {o : UInt8} (visible : isBlank o = false) (rest : List UInt8) :
    skipBlanks (o :: rest) = o :: rest := by
  rw [skipBlanks, List.dropWhile_cons_of_neg]
  simp [visible]

theorem blanks_nil : Blanks [] := by
  intro o member
  exact absurd member List.not_mem_nil

/-- A colon needs no blanks around it. -/
theorem spellsColon_tight : SpellsColon [octet ':'] :=
  .intro blanks_nil blanks_nil

/-- A comma needs no blanks around it. -/
theorem separates_tight : Separates false [octet ','] :=
  .later blanks_nil blanks_nil

/-! ## Strings -/

/-- An octet of a string that stands for itself. -/
def IsPlain (o : UInt8) : Prop :=
  ¬ o < 0x20 ∧ o ≠ octet '"' ∧ o ≠ octet '\\'

instance (o : UInt8) : Decidable (IsPlain o) := inferInstanceAs (Decidable (_ ∧ _))

theorem isPlain_of_mem_encodeChar
    {character : Char} {o : UInt8}
    (visible : 0x20 ≤ character.toNat)
    (notQuote : character ≠ '"')
    (notBackslash : character ≠ '\\')
    (member : o ∈ String.utf8EncodeChar character) :
    IsPlain o := by
  by_cases ascii : character.toNat ≤ 0x7F
  · rw [Utf8.utf8EncodeChar_one ascii] at member
    have equal := List.mem_singleton.mp member
    subst equal
    have code : (UInt8.ofNat character.toNat).toNat = character.toNat :=
      Utf8.toNat_octet (by omega)
    have differs :
        ∀ other : Char, other.toNat < 0x80 → character ≠ other →
          UInt8.ofNat character.toNat ≠ octet other := by
      intro other otherAscii different equal
      apply different
      apply Char.toNat_inj.mp
      have codes := congrArg UInt8.toNat equal
      rw [code, octet, Utf8.toNat_octet (by omega)] at codes
      exact codes
    refine ⟨?_, differs '"' (by decide) notQuote, differs '\\' (by decide) notBackslash⟩
    rw [UInt8.lt_iff_toNat_lt, code]
    exact Nat.not_lt.mpr visible
  · have high : 0x80 ≤ o.toNat :=
      Utf8.le_of_mem_encodeChar (by omega) member
    refine ⟨?_, ?_, ?_⟩
    · rw [UInt8.lt_iff_toNat_lt]
      exact Nat.not_lt.mpr (Nat.le_trans (by decide) high)
    · intro equal
      rw [equal] at high
      exact absurd high (by decide)
    · intro equal
      rw [equal] at high
      exact absurd high (by decide)

theorem scanString_plain
    (done : List UInt8) {o : UInt8} (input : List UInt8)
    (plain : IsPlain o) :
    scanString done (o :: input) = scanString (o :: done) input := by
  rcases plain with ⟨visible, notQuote, notBackslash⟩
  rw [scanString.eq_def]
  simp only [if_neg notQuote, if_neg notBackslash, if_neg visible]

theorem scanString_plains
    (done text rest : List UInt8)
    (plain : ∀ o ∈ text, IsPlain o) :
    scanString done (text ++ rest) = scanString (text.reverse ++ done) rest := by
  induction text generalizing done with
  | nil => rfl
  | cons o text ih =>
      have tailPlain : ∀ other ∈ text, IsPlain other :=
        fun other member => plain other (List.mem_cons_of_mem _ member)
      rw [List.cons_append, scanString_plain done _ (plain o List.mem_cons_self),
        ih (o :: done) tailPlain, List.reverse_cons, List.append_assoc, List.singleton_append]

theorem scanString_short
    (done : List UInt8) {letter : UInt8} {character : Char} (input : List UInt8)
    (known : shortEscape? letter = some character) :
    scanString done (octet '\\' :: letter :: input) =
      scanString (pushCharacter character done) input := by
  have notUnit : letter ≠ octet 'u' := by
    intro equal
    have unknown : shortEscape? (octet 'u') = none := by decide
    rw [equal, unknown] at known
    exact absurd known (by simp)
  have notQuote : octet '\\' ≠ octet '"' := by decide
  rw [scanString.eq_def]
  simp only [if_neg notQuote, if_true, if_neg notUnit, known]

theorem scanString_unit
    (done : List UInt8) {a b c d : UInt8} {unit : Nat} (input : List UInt8)
    (digits : codeUnit? a b c d = some unit)
    (notLead : isLead unit = false)
    (notTrail : isTrail unit = false) :
    scanString done (octet '\\' :: octet 'u' :: a :: b :: c :: d :: input) =
      scanString (pushCharacter (Char.ofNat unit) done) input := by
  have notQuote : octet '\\' ≠ octet '"' := by decide
  rw [scanString.eq_def]
  simp only [if_neg notQuote, if_true, digits, notLead, notTrail, Bool.false_eq_true, if_false]

theorem scanString_pair
    (done : List UInt8) {a b c d e f g h : UInt8} {lead trail : Nat} (input : List UInt8)
    (first : codeUnit? a b c d = some lead)
    (second : codeUnit? e f g h = some trail)
    (leads : isLead lead = true)
    (trails : isTrail trail = true) :
    scanString done
        (octet '\\' :: octet 'u' :: a :: b :: c :: d ::
          octet '\\' :: octet 'u' :: e :: f :: g :: h :: input) =
      scanString (pushCharacter (ofPair lead trail) done) input := by
  have notQuote : octet '\\' ≠ octet '"' := by decide
  have notTrail : isTrail lead = false := by
    simp only [isLead, isTrail, Bool.and_eq_true, decide_eq_true_eq, Bool.and_eq_false_iff,
      decide_eq_false_iff_not] at leads ⊢
    omega
  rw [scanString.eq_def]
  simp only [if_neg notQuote, if_true, first, second, leads, trails, notTrail,
    Bool.false_eq_true, if_false]

/-- Scanning passes over any spelling of a character and has that character. -/
theorem scanString_character
    (done : List UInt8) {text : List UInt8} {character : Char} (rest : List UInt8)
    (spelled : SpellsCharacter text character) :
    scanString done (text ++ rest) =
      scanString (pushCharacter character done) rest := by
  cases spelled with
  | plain visible notQuote notBackslash =>
      exact
        scanString_plains done _ rest fun o member =>
          isPlain_of_mem_encodeChar visible notQuote notBackslash member
  | short known =>
      exact scanString_short done rest known
  | unit digits notLead notTrail =>
      exact scanString_unit done rest digits notLead notTrail
  | pair first second leads trails =>
      exact scanString_pair done rest first second leads trails

theorem scanString_characters
    (done : List UInt8) {text : List UInt8} {characters : List Char} (rest : List UInt8)
    (spelled : SpellsCharacters text characters) :
    scanString done (text ++ rest) =
      scanString ((Utf8.encode characters).reverse ++ done) rest := by
  induction spelled generalizing done with
  | nil => rfl
  | cons head tail ih =>
      rw [List.append_assoc, scanString_character done _ head, ih, pushCharacter,
        Utf8.encode_cons, List.reverse_append, List.append_assoc]

/-- A spelled string is read up to its closing quote. -/
theorem scanString_quoted
    {text : List UInt8} {value : String} (rest : List UInt8)
    (spelled : SpellsQuoted text value) :
    scanString [] (text ++ rest) = .ok (value, rest) := by
  rcases spelled with ⟨inside⟩
  rw [List.append_assoc, scanString_characters [] _ inside, List.singleton_append,
    scanString.eq_def]
  simp only [List.append_nil, if_true, finishString, List.reverse_reverse, Utf8.decode_encode,
    String.ofList_toList]
  rfl

/-! ## Numerals -/

/-- A digit is none of the octets that are no digits. -/
theorem ne_of_isDigit
    {o other : UInt8}
    (digit : isDigit o = true)
    (notDigit : isDigit other = false) :
    o ≠ other := by
  intro equal
  rw [equal, notDigit] at digit
  exact Bool.noConfusion digit

/-- Octets that do not go on like a numeral. -/
def Delimited (rest : List UInt8) : Prop :=
  ∀ o ∈ rest.head?,
    isDigit o = false ∧ o ≠ octet '.' ∧ o ≠ octet 'e' ∧ o ≠ octet 'E'

theorem delimited_nil : Delimited [] := by
  intro o member
  exact absurd member (by simp)

theorem delimited_cons
    {o : UInt8}
    (notDigit : isDigit o = false)
    (notPoint : o ≠ octet '.')
    (notSmall : o ≠ octet 'e')
    (notLarge : o ≠ octet 'E')
    (rest : List UInt8) :
    Delimited (o :: rest) := by
  intro other member
  have equal : o = other := Option.some.inj member
  subst equal
  exact ⟨notDigit, notPoint, notSmall, notLarge⟩

/-- Octets that do not go on like a run of digits. -/
def NoDigit (rest : List UInt8) : Prop := ∀ o ∈ rest.head?, isDigit o = false

theorem Delimited.noDigit
    {rest : List UInt8} (delimited : Delimited rest) : NoDigit rest :=
  fun o member => (delimited o member).1

theorem takeWhile_digits
    {digits rest : List UInt8}
    (digital : ∀ o ∈ digits, isDigit o = true)
    (ended : NoDigit rest) :
    (digits ++ rest).takeWhile isDigit = digits := by
  rw [List.takeWhile_append_of_pos digital]
  cases rest with
  | nil => simp
  | cons o rest =>
      have notDigit := ended o rfl
      rw [List.takeWhile_cons_of_neg (by simp [notDigit]), List.append_nil]

theorem dropWhile_digits
    {digits rest : List UInt8}
    (digital : ∀ o ∈ digits, isDigit o = true)
    (ended : NoDigit rest) :
    (digits ++ rest).dropWhile isDigit = rest := by
  rw [List.dropWhile_append_of_pos digital]
  cases rest with
  | nil => rfl
  | cons o rest =>
      have notDigit := ended o rfl
      exact List.dropWhile_cons_of_neg (by simp [notDigit])

theorem scanDigits_digits
    (cut : Fault) {digits rest : List UInt8}
    (digital : Digits digits)
    (ended : NoDigit rest) :
    scanDigits cut (digits ++ rest) = .ok (digits, rest) := by
  rcases digital with ⟨nonempty, all⟩
  have taken := takeWhile_digits all ended
  have dropped := dropWhile_digits all ended
  cases digits with
  | nil => exact absurd rfl nonempty
  | cons o digits =>
      rw [List.cons_append] at taken dropped ⊢
      rw [scanDigits, if_pos (all o List.mem_cons_self), taken, dropped]

theorem scanWhole_digits
    (cut : Fault) {digits rest : List UInt8}
    (whole : WholeDigits digits)
    (ended : NoDigit rest) :
    scanWhole cut (digits ++ rest) = .ok (digits, rest) := by
  rcases whole with ⟨digital, alone⟩
  cases digits with
  | nil => exact absurd rfl digital.1
  | cons o digits =>
      by_cases zero : o = octet '0'
      · subst zero
        have single := List.cons.inj (alone rfl)
        rw [single.2]
        rw [List.singleton_append, scanWhole.eq_def]
        cases rest with
        | nil => rfl
        | cons next rest =>
            have notDigit := ended next rfl
            simp only [if_true, notDigit, Bool.false_eq_true, if_false]
      · have scanned := scanDigits_digits cut digital ended
        rw [List.cons_append] at scanned ⊢
        rw [scanWhole.eq_def]
        simp only [if_neg zero, scanned]

theorem scanFraction_spelled
    (cut : Fault) {text rest : List UInt8} {fraction : Option (List UInt8)}
    (spelled : SpellsFraction text fraction)
    (ended : NoDigit rest)
    (notPoint : ∀ o ∈ rest.head?, o ≠ octet '.') :
    scanFraction cut (text ++ rest) = .ok (fraction, rest) := by
  cases spelled with
  | absent =>
      cases rest with
      | nil => rfl
      | cons o rest =>
          rw [List.nil_append, scanFraction, if_neg (notPoint o rfl)]
  | present digital =>
      rw [List.cons_append, scanFraction, if_pos rfl, scanDigits_digits cut digital ended]
      rfl

theorem scanSign_spelled
    {text digits : List UInt8} {negative : Bool} (rest : List UInt8)
    (spelled : SpellsSign text negative)
    (digital : Digits digits) :
    scanSign (text ++ (digits ++ rest)) = (negative, digits ++ rest) := by
  cases spelled with
  | absent =>
      cases digits with
      | nil => exact absurd rfl digital.1
      | cons o digits =>
          have digit := digital.2 o List.mem_cons_self
          have notPlus : o ≠ octet '+' := ne_of_isDigit digit rfl
          have notMinus : o ≠ octet '-' := ne_of_isDigit digit rfl
          rw [List.nil_append, List.cons_append, scanSign, if_neg notPlus, if_neg notMinus]
  | plus => rfl
  | minus => rfl

theorem scanExponent_spelled
    (cut : Fault) {text rest : List UInt8} {exponent : Option (Bool × List UInt8)}
    (spelled : SpellsExponent text exponent)
    (delimited : Delimited rest) :
    scanExponent cut (text ++ rest) = .ok (exponent, rest) := by
  cases spelled with
  | absent =>
      cases rest with
      | nil => rfl
      | cons o rest =>
          rcases delimited o rfl with ⟨_, _, notSmall, notLarge⟩
          have unmarked : ¬ ((o = octet 'e' || o = octet 'E') = true) := by
            simp [notSmall, notLarge]
          rw [List.nil_append, scanExponent, if_neg unmarked]
  | @present mark sign digits negative marked signed digital =>
      have isMark : (mark = octet 'e' || mark = octet 'E') = true := by
        simpa using marked
      rw [List.cons_append, List.append_assoc, scanExponent, if_pos isMark,
        scanSign_spelled rest signed digital]
      simp only [scanDigits_digits cut digital delimited.noDigit]
      rfl

theorem head?_append_of_spellsExponent
    {text rest : List UInt8} {exponent : Option (Bool × List UInt8)} {o : UInt8}
    (spelled : SpellsExponent text exponent)
    (delimited : Delimited rest)
    (member : o ∈ (text ++ rest).head?) :
    isDigit o = false ∧ o ≠ octet '.' := by
  cases spelled with
  | absent =>
      exact ⟨(delimited o member).1, (delimited o member).2.1⟩
  | present marked signed digital =>
      have equal := Option.some.inj member
      rcases marked with rfl | rfl <;> subst equal <;> exact ⟨by decide, by decide⟩

theorem head?_append_of_spellsFraction
    {text rest : List UInt8} {fraction : Option (List UInt8)}
    (spelled : SpellsFraction text fraction)
    (ended : NoDigit rest) :
    NoDigit (text ++ rest) := by
  cases spelled with
  | absent => exact ended
  | present digital =>
      intro o member
      have equal := Option.some.inj member
      subst equal
      decide

/-- A spelled numeral is read completely, and nothing of what stands behind it. -/
theorem scanNumeral_spelled
    (cut : Fault) {text rest : List UInt8} {numeral : Numeral}
    (spelled : SpellsNumeral text numeral)
    (delimited : Delimited rest) :
    scanNumeral cut (text ++ rest) = .ok (numeral, rest) := by
  rcases spelled with ⟨signed, whole, fractional, scaled⟩
  rename_i minus fraction exponent
  have endedExponent : ∀ o ∈ (exponent ++ rest).head?, isDigit o = false ∧ o ≠ octet '.' :=
    fun o member => head?_append_of_spellsExponent scaled delimited member
  have fractionEnds : NoDigit (exponent ++ rest) := fun o member => (endedExponent o member).1
  have wholeRead :
      scanWhole cut (numeral.whole ++ (fraction ++ (exponent ++ rest))) =
        .ok (numeral.whole, fraction ++ (exponent ++ rest)) :=
    scanWhole_digits cut whole (head?_append_of_spellsFraction fractional fractionEnds)
  have fractionRead :
      scanFraction cut (fraction ++ (exponent ++ rest)) =
        .ok (numeral.fraction, exponent ++ rest) :=
    scanFraction_spelled cut fractional fractionEnds fun o member => (endedExponent o member).2
  have exponentRead : scanExponent cut (exponent ++ rest) = .ok (numeral.exponent, rest) :=
    scanExponent_spelled cut scaled delimited
  rcases numeral with ⟨negative, wholeDigits, fractionDigits, exponentDigits⟩
  rw [List.append_assoc, List.append_assoc, List.append_assoc]
  cases signed with
  | absent =>
      rcases whole with ⟨⟨nonempty, digital⟩, _⟩
      cases wholeDigits with
      | nil => exact absurd rfl nonempty
      | cons o digits =>
          have notMinus : o ≠ octet '-' :=
            ne_of_isDigit (digital o List.mem_cons_self) rfl
          rw [List.cons_append] at wholeRead
          rw [List.nil_append, List.cons_append, scanNumeral.eq_def]
          simp only [if_neg notMinus, wholeRead, ok_bind, fractionRead, exponentRead]
          rfl
  | present =>
      rw [List.singleton_append, scanNumeral.eq_def]
      simp only [if_true, wholeRead, ok_bind, fractionRead, exponentRead]
      rfl

end RunArchive.Json
