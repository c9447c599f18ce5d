import RunArchive.Proofs.Json.Passing
import RunArchive.Proofs.Json.Reading

/-!
# What is read is valid

Whatever is read into strings, numbers or values is UTF-8: octets in front of which something has
been read are valid if and only if those behind it are.  Outside of strings that is so because there
are ASCII characters only.  In a string it is so because the octets between its quotes, escapes
replaced by their characters, are checked at the closing quote, and an escape stands where a
character may be cut off and put in.

Values that are passed over instead of being read are another matter.  The loop over members leaves
room for them: `Keeps` says of the state what else must hold of the octets so far.
-/

namespace RunArchive.Json

open Utf8 (Valid Boundary)

/-! ## Strings -/

theorem ascii_of_hexValue? {o : UInt8} {value : Nat} (known : hexValue? o = some value) :
    o < 0x80 := by
  rw [hexValue?] at known
  split at known
  · rename_i digit
    exact ascii_of_isDigit digit
  split at known
  · rename_i lower
    rw [Bool.and_eq_true, decide_eq_true_eq, decide_eq_true_eq] at lower
    exact UInt8.lt_of_le_of_lt lower.2 (by decide)
  split at known
  · rename_i upper
    rw [Bool.and_eq_true, decide_eq_true_eq, decide_eq_true_eq] at upper
    exact UInt8.lt_of_le_of_lt upper.2 (by decide)
  · cases known

/-- The digits of a code unit are ASCII characters. -/
theorem asciiUpTo_codeUnit
    {a b c d : UInt8} {unit : Nat} (known : codeUnit? a b c d = some unit) (rest : List UInt8) :
    AsciiUpTo (a :: b :: c :: d :: rest) rest := by
  rcases Option.bind_eq_some_iff.mp known with ⟨_, first, known⟩
  rcases Option.bind_eq_some_iff.mp known with ⟨_, second, known⟩
  rcases Option.bind_eq_some_iff.mp known with ⟨_, third, known⟩
  rcases Option.bind_eq_some_iff.mp known with ⟨_, fourth, _⟩
  exact
    .next (ascii_of_hexValue? first) (.next (ascii_of_hexValue? second)
      (.next (ascii_of_hexValue? third) (.next (ascii_of_hexValue? fourth) (.here rest))))

theorem ascii_of_shortEscape?
    {letter : UInt8} {character : Char} (known : shortEscape? letter = some character) :
    letter < 0x80 := by
  have table :
      ∀ code : Fin 256,
        (shortEscape? (UInt8.ofNat code)).isSome = true → UInt8.ofNat code < 0x80 := by
    decide +kernel
  have ascii := table ⟨letter.toNat, letter.toNat_lt⟩
  rw [UInt8.ofNat_toNat, known] at ascii
  exact ascii rfl

/-- An escape makes the same difference as the character it stands for, which is none. -/
theorem valid_pushCharacter
    (done : List UInt8) (character : Char) {escape input : List UInt8}
    (ascii : AsciiUpTo escape input) :
    Valid (done.reverse ++ octet '\\' :: escape) ↔
      Valid ((pushCharacter character done).reverse ++ input) := by
  rw [pushCharacter, List.reverse_append, List.reverse_reverse, List.append_assoc,
    Utf8.valid_append_iff (Utf8.boundary_ascii (by decide) escape),
    Utf8.valid_append_iff (Utf8.boundary_encodeChar character input),
    Utf8.valid_encodeChar_append, Utf8.valid_ascii (by decide), ascii.valid_iff]

theorem finishString_valid
    {done : List UInt8} {text : String} (finished : finishString done = .ok text) :
    Valid done.reverse := by
  rw [finishString] at finished
  split at finished
  · rename_i characters decoded
    exact ⟨characters, Utf8.decode_eq_ok_iff.mp decoded⟩
  · cases finished

/-- A string is read of valid octets only; those that have been read already are in reverse. -/
theorem scanString_valid
    {done input rest : List UInt8} {text : String}
    (read : scanString done input = .ok (text, rest)) :
    Valid (done.reverse ++ input) ↔ Valid rest := by
  have unitLetter : octet 'u' < 0x80 := by decide
  -- One case is the closing quote, three are escapes and one is an octet that stands for itself.
  fun_induction scanString done input with
  | case2 done input =>
      rcases bind_eq_ok read with ⟨_, finished, ends⟩
      cases ends
      rw [Utf8.valid_append_iff (Utf8.boundary_ascii (by decide) _), Utf8.valid_ascii (by decide)]
      exact and_iff_right (finishString_valid finished)
  | case9 done a b c d lead first _ _ e f g h input trail second _ _ ih =>
      have trailing :
          AsciiUpTo (octet '\\' :: octet 'u' :: e :: f :: g :: h :: input) input :=
        .next (by decide) (.next (by decide) (asciiUpTo_codeUnit second input))
      have escape := AsciiUpTo.next unitLetter ((asciiUpTo_codeUnit first _).trans trailing)
      exact (valid_pushCharacter done _ escape).trans (ih read)
  | case14 done a b c d input unit known _ _ _ ih =>
      have escape := AsciiUpTo.next unitLetter (asciiUpTo_codeUnit known input)
      exact (valid_pushCharacter done _ escape).trans (ih read)
  | case16 done letter input _ character known _ ih =>
      have escape := AsciiUpTo.next (ascii_of_shortEscape? known) (.here input)
      exact (valid_pushCharacter done _ escape).trans (ih read)
  | case19 done o input _ _ _ ih =>
      have same := ih read
      rw [List.reverse_cons, List.append_assoc, List.singleton_append] at same
      exact same
  | _ => cases read

theorem scanString_valid_iff
    {input rest : List UInt8} {text : String} (read : scanString [] input = .ok (text, rest)) :
    Valid input ↔ Valid rest :=
  scanString_valid read

/-! ## Heads of values -/

theorem scanHead_valid
    {input rest : List UInt8} {shape : Shape} (read : scanHead input = .ok (shape, rest)) :
    Valid input ↔ Valid rest := by
  rw [scanHead] at read
  split at read
  · cases read
  rename_i o behind found
  split at read
  · rename_i letter
    rcases bind_eq_ok read with ⟨_, wordRead, ends⟩
    cases ends
    exact (asciiUpTo_word found letter (by decide) wordRead).valid_iff
  split at read
  · rename_i letter
    rcases bind_eq_ok read with ⟨_, wordRead, ends⟩
    cases ends
    exact (asciiUpTo_word found letter (by decide) wordRead).valid_iff
  split at read
  · rename_i letter
    rcases bind_eq_ok read with ⟨_, wordRead, ends⟩
    cases ends
    exact (asciiUpTo_word found letter (by decide) wordRead).valid_iff
  split at read
  · rename_i quote
    rcases bind_eq_ok read with ⟨⟨_, _⟩, stringRead, ends⟩
    cases ends
    have first := asciiUpTo_token found quote (by decide)
    exact first.valid_iff.trans (scanString_valid_iff stringRead)
  split at read
  · rcases bind_eq_ok read with ⟨⟨_, _⟩, numeralRead, goesOn⟩
    rcases bind_eq_ok goesOn with ⟨_, _, ends⟩
    cases ends
    exact ((asciiUpTo_visible found).trans (asciiUpTo_scanNumeral numeralRead)).valid_iff
  split at read
  · rename_i bracket
    cases read
    exact (asciiUpTo_token found bracket (by decide)).valid_iff
  split at read
  · rename_i brace
    cases read
    exact (asciiUpTo_token found brace (by decide)).valid_iff
  · cases read

/-! ## Loops -/

/-- Items are valid if one item is. -/
theorem readItems_valid
    {readItem : List UInt8 → Except Fault (Json × List UInt8)}
    (step : ∀ {input item rest}, readItem input = .ok (item, rest) → (Valid input ↔ Valid rest))
    {turns : Nat} {first : Bool} {done items : List Json} {input rest : List UInt8}
    (read : readItems readItem turns first done input = .ok (items, rest)) :
    Valid input ↔ Valid rest := by
  induction turns generalizing first done input with
  | zero => cases read
  | succ turns ih =>
      rw [readItems] at read
      rcases bind_eq_ok read with ⟨⟨more, behind⟩, moved, goesOn⟩
      have separated := (asciiUpTo_nextItem moved).valid_iff
      cases more with
      | false =>
          cases goesOn
          exact separated
      | true =>
          rcases bind_eq_ok goesOn with ⟨⟨item, tail⟩, itemRead, tailRead⟩
          exact separated.trans ((step itemRead).trans (ih tailRead))

theorem boundary_of_nextKey
    {first more : Bool} {input rest : List UInt8}
    (read : nextKey first input = .ok (more, rest)) :
    Boundary input := by
  cases input with
  | nil => exact .ends
  | cons o input =>
      by_cases visible : isBlank o = false
      · rw [nextKey, skipBlanks_cons visible] at read
        dsimp only at read
        split at read
        · rename_i closing
          rw [closing]
          exact Utf8.boundary_ascii (by decide) input
        split at read
        · split at read
          · rename_i quote
            rw [quote]
            exact Utf8.boundary_ascii (by decide) input
          · cases read
        split at read
        · rename_i comma
          rw [comma]
          exact Utf8.boundary_ascii (by decide) input
        · cases read
      · have blank : isBlank o = true := Bool.not_eq_false _ |>.mp visible
        exact Utf8.boundary_ascii (ascii_of_isBlank blank) input

/-- What one member keeps of the octets so far is kept by all. -/
theorem readMembers_valid
    {State : Type} {Keeps : State → Prop}
    {readMember : String → State → List UInt8 → Except Fault (State × List UInt8)}
    (step :
      ∀ {key state input next rest},
        readMember key state input = .ok (next, rest) → Boundary rest →
          (Keeps state ∧ Valid input ↔ Keeps next ∧ Valid rest))
    {turns : Nat} {first : Bool} {state final : State} {input rest : List UInt8}
    (read : readMembers readMember turns first state input = .ok (final, rest)) :
    Boundary input ∧ (Keeps state ∧ Valid input ↔ Keeps final ∧ Valid rest) := by
  induction turns generalizing first state input with
  | zero => cases read
  | succ turns ih =>
      rw [readMembers] at read
      rcases bind_eq_ok read with ⟨⟨more, behind⟩, moved, goesOn⟩
      refine ⟨boundary_of_nextKey moved, ?_⟩
      rw [(asciiUpTo_nextKey moved).valid_iff]
      cases more with
      | false =>
          cases goesOn
          exact Iff.rfl
      | true =>
          rcases bind_eq_ok goesOn with ⟨⟨key, colon⟩, keyRead, goesOn⟩
          rcases bind_eq_ok goesOn with ⟨⟨next, tail⟩, memberRead, tailRead⟩
          rcases ih tailRead with ⟨boundary, kept⟩
          rw [scanString_valid_iff keyRead]
          exact (step memberRead boundary).trans kept

/-! ## Values -/

theorem readPlainMember_valid
    {readItem : List UInt8 → Except Fault (Json × List UInt8)}
    (step : ∀ {input item rest}, readItem input = .ok (item, rest) → (Valid input ↔ Valid rest))
    {key : String} {done members : List (String × Json)} {input rest : List UInt8}
    (read : readPlainMember readItem key done input = .ok (members, rest)) :
    Valid input ↔ Valid rest := by
  rcases bind_eq_ok read with ⟨behind, colonRead, goesOn⟩
  rcases bind_eq_ok goesOn with ⟨⟨value, tail⟩, valueRead, ends⟩
  cases ends
  exact (asciiUpTo_scanColon colonRead).valid_iff.trans (step valueRead)

/-- A value is read of valid octets only. -/
theorem readValue_valid
    {fuel depth : Nat} {input rest : List UInt8} {value : Json}
    (read : readValue fuel depth input = .ok (value, rest)) :
    Valid input ↔ Valid rest := by
  induction depth using Nat.strongRecOn generalizing input rest value with
  | ind depth ih =>
      rw [readValue_eq] at read
      rcases bind_eq_ok read with ⟨⟨shape, behind⟩, headRead, goesOn⟩
      refine (scanHead_valid headRead).trans ?_
      cases shape with
      | null =>
          cases goesOn
          exact Iff.rfl
      | bool value =>
          cases goesOn
          exact Iff.rfl
      | number number =>
          cases goesOn
          exact Iff.rfl
      | string text =>
          cases goesOn
          exact Iff.rfl
      | list =>
          cases depth with
          | zero => cases goesOn
          | succ depth =>
              rcases bind_eq_ok goesOn with ⟨⟨items, tail⟩, itemsRead, ends⟩
              cases ends
              exact readItems_valid (ih depth (Nat.lt_succ_self depth)) itemsRead
      | object =>
          cases depth with
          | zero => cases goesOn
          | succ depth =>
              rcases bind_eq_ok goesOn with ⟨⟨members, tail⟩, membersRead, ends⟩
              cases ends
              -- Members that are all read leave nothing to be kept.
              have step {key : String} {done members : List (String × Json)}
                  {input rest : List UInt8}
                  (memberRead :
                    readPlainMember (readValue fuel depth) key done input = .ok (members, rest))
                  (_ : Boundary rest) :
                  True ∧ Valid input ↔ True ∧ Valid rest :=
                and_congr_right fun _ =>
                  readPlainMember_valid (ih depth (Nat.lt_succ_self depth)) memberRead
              have kept := (readMembers_valid step membersRead).2
              rw [true_and, true_and] at kept
              exact kept

end RunArchive.Json
