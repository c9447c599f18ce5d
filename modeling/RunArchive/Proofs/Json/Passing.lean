import RunArchive.Json.Record
import RunArchive.Proofs.Json.Skipping
import RunArchive.Proofs.Text.Boundaries

/-!
# What scanners pass over

Nothing is assumed of the text here.  Between the tokens of a JSON text, and in its words, numerals
and brackets, every octet that a scanner has passed over is an ASCII character: `AsciiUpTo` relates
the octets before a scanner to those behind it.  The skipper of values passes over other octets as
well, those of strings; all that is known of what it leaves is that it is the end of what it was
given.
-/

namespace RunArchive.Json

/-- Between these octets and a later point of the same text there are ASCII characters only. -/
inductive AsciiUpTo : List UInt8 → List UInt8 → Prop where
  | here (rest : List UInt8) : AsciiUpTo rest rest
  | next {o : UInt8} {input rest : List UInt8}
      (ascii : o < 0x80)
      (behind : AsciiUpTo input rest) :
      AsciiUpTo (o :: input) rest

theorem AsciiUpTo.trans
    {input middle rest : List UInt8}
    (first : AsciiUpTo input middle) (second : AsciiUpTo middle rest) :
    AsciiUpTo input rest := by
  induction first with
  | here _ => exact second
  | next ascii _ ih => exact .next ascii (ih second)

theorem AsciiUpTo.suffix
    {input rest : List UInt8} (passed : AsciiUpTo input rest) :
    rest <:+ input := by
  induction passed with
  | here rest => exact List.suffix_rfl
  | @next o input rest _ _ ih => exact ih.trans (List.suffix_cons o input)

/-- ASCII characters in front of octets make no difference to their validity. -/
theorem AsciiUpTo.valid_iff
    {input rest : List UInt8} (passed : AsciiUpTo input rest) :
    Utf8.Valid input ↔ Utf8.Valid rest := by
  induction passed with
  | here _ => exact Iff.rfl
  | next ascii _ ih => exact (Utf8.valid_ascii ascii).trans ih

/-! ## Classes of octets -/

theorem ascii_of_isBlank {o : UInt8} (blank : isBlank o = true) : o < 0x80 := by
  simp only [isBlank, Bool.or_eq_true, beq_iff_eq] at blank
  rcases blank with ((rfl | rfl) | rfl) | rfl <;> decide

theorem ascii_of_isDigit {o : UInt8} (digit : isDigit o = true) : o < 0x80 := by
  rw [isDigit, Bool.and_eq_true, decide_eq_true_eq, decide_eq_true_eq] at digit
  exact UInt8.lt_of_le_of_lt digit.2 (by decide)

theorem asciiUpTo_dropWhile
    {accepted : UInt8 → Bool} (ascii : ∀ {o}, accepted o = true → o < 0x80)
    (input : List UInt8) :
    AsciiUpTo input (input.dropWhile accepted) := by
  induction input with
  | nil => exact .here []
  | cons o input ih =>
      rw [List.dropWhile_cons]
      split
      · rename_i taken
        exact .next (ascii taken) ih
      · exact .here _

theorem asciiUpTo_skipBlanks (input : List UInt8) : AsciiUpTo input (skipBlanks input) :=
  asciiUpTo_dropWhile ascii_of_isBlank input

section Tokens

variable {input rest : List UInt8} {o : UInt8} (found : skipBlanks input = o :: rest)
include found

theorem asciiUpTo_visible : AsciiUpTo input (o :: rest) := by
  rw [← found]
  exact asciiUpTo_skipBlanks input

/-- Blanks and one more ASCII character. -/
theorem asciiUpTo_token
    {character : Char} (same : o = octet character) (ascii : octet character < 0x80) :
    AsciiUpTo input rest := by
  rw [← same] at ascii
  exact (asciiUpTo_visible found).trans (.next ascii (.here rest))

end Tokens

/-! ## Words and numerals -/

theorem asciiUpTo_scanWord
    {letters : List Char} (ascii : (letters.all fun letter => octet letter < 0x80) = true)
    {input rest : List UInt8} (read : scanWord letters input = .ok rest) :
    AsciiUpTo input rest := by
  induction letters generalizing input with
  | nil =>
      cases read
      exact .here _
  | cons letter letters ih =>
      rw [List.all_cons, Bool.and_eq_true, decide_eq_true_eq] at ascii
      rcases ascii with ⟨head, tail⟩
      cases input with
      | nil => cases read
      | cons o input =>
          rw [scanWord] at read
          split at read
          · rename_i same
            rw [same]
            exact .next head (ih tail read)
          · cases read

/-- Blanks and a word. -/
theorem asciiUpTo_word
    {input behind rest : List UInt8} {o : UInt8} {letter : Char} {letters : List Char}
    (found : skipBlanks input = o :: behind)
    (same : o = octet letter)
    (ascii : ((letter :: letters).all fun letter => octet letter < 0x80) = true)
    (read : scanWord letters behind = .ok rest) :
    AsciiUpTo input rest := by
  rw [List.all_cons, Bool.and_eq_true, decide_eq_true_eq] at ascii
  exact (asciiUpTo_token found same ascii.1).trans (asciiUpTo_scanWord ascii.2 read)

section Numerals

variable {cut : Fault} {input rest : List UInt8}

theorem asciiUpTo_scanDigits
    {digits : List UInt8} (read : scanDigits cut input = .ok (digits, rest)) :
    AsciiUpTo input rest := by
  cases input with
  | nil => cases read
  | cons o input =>
      rw [scanDigits] at read
      split at read
      · cases read
        exact asciiUpTo_dropWhile ascii_of_isDigit (o :: input)
      · cases read

theorem asciiUpTo_scanWhole
    {digits : List UInt8} (read : scanWhole cut input = .ok (digits, rest)) :
    AsciiUpTo input rest := by
  cases input with
  | nil => cases read
  | cons o input =>
      rw [scanWhole.eq_def] at read
      dsimp only at read
      split at read
      · rename_i zero
        have ascii : o < 0x80 := by
          rw [zero]
          decide
        have behind : AsciiUpTo (o :: input) input := .next ascii (.here input)
        cases input with
        | nil =>
            cases read
            exact behind
        | cons next input =>
            dsimp only at read
            split at read
            · cases read
            · cases read
              exact behind
      · exact asciiUpTo_scanDigits read

theorem asciiUpTo_scanFraction
    {digits : Option (List UInt8)} (read : scanFraction cut input = .ok (digits, rest)) :
    AsciiUpTo input rest := by
  cases input with
  | nil =>
      cases read
      exact .here []
  | cons o input =>
      rw [scanFraction] at read
      split at read
      · rename_i point
        rcases bind_eq_ok read with ⟨⟨_, _⟩, digitsRead, ends⟩
        cases ends
        rw [point]
        exact .next (by decide) (asciiUpTo_scanDigits digitsRead)
      · cases read
        exact .here _

theorem asciiUpTo_scanSign (input : List UInt8) : AsciiUpTo input (scanSign input).2 := by
  cases input with
  | nil => exact .here []
  | cons o input =>
      rw [scanSign]
      split
      · rename_i plus
        rw [plus]
        exact .next (by decide) (.here input)
      split
      · rename_i minus
        rw [minus]
        exact .next (by decide) (.here input)
      · exact .here _

theorem asciiUpTo_scanExponent
    {digits : Option (Bool × List UInt8)} (read : scanExponent cut input = .ok (digits, rest)) :
    AsciiUpTo input rest := by
  cases input with
  | nil =>
      cases read
      exact .here []
  | cons o input =>
      rw [scanExponent] at read
      split at read
      · rename_i marked
        have ascii : o < 0x80 := by
          rw [Bool.or_eq_true, decide_eq_true_eq, decide_eq_true_eq] at marked
          rcases marked with rfl | rfl <;> decide
        rcases bind_eq_ok read with ⟨⟨_, _⟩, digitsRead, ends⟩
        cases ends
        exact .next ascii ((asciiUpTo_scanSign input).trans (asciiUpTo_scanDigits digitsRead))
      · cases read
        exact .here _

theorem asciiUpTo_scanNumeral
    {numeral : Numeral} (read : scanNumeral cut input = .ok (numeral, rest)) :
    AsciiUpTo input rest := by
  rw [scanNumeral.eq_def] at read
  rcases bind_eq_ok read with ⟨⟨_, _⟩, wholeRead, goesOn⟩
  rcases bind_eq_ok goesOn with ⟨⟨_, _⟩, fractionRead, goesOn⟩
  rcases bind_eq_ok goesOn with ⟨⟨_, _⟩, exponentRead, ends⟩
  cases ends
  have behindSign :=
    (asciiUpTo_scanWhole wholeRead).trans
      ((asciiUpTo_scanFraction fractionRead).trans (asciiUpTo_scanExponent exponentRead))
  cases input with
  | nil => exact behindSign
  | cons o input =>
      dsimp only at behindSign
      split at behindSign
      · rename_i minus
        rw [minus]
        exact .next (by decide) behindSign
      · exact behindSign

end Numerals

/-! ## Between values -/

theorem asciiUpTo_scanColon
    {input rest : List UInt8} (read : scanColon input = .ok rest) :
    AsciiUpTo input rest := by
  rw [scanColon] at read
  split at read
  · cases read
  · rename_i o behind found
    split at read
    · rename_i colon
      cases read
      exact asciiUpTo_token found colon (by decide)
    · cases read

theorem asciiUpTo_nextItem
    {first more : Bool} {input rest : List UInt8}
    (read : nextItem first input = .ok (more, rest)) :
    AsciiUpTo input rest := by
  rw [nextItem] at read
  split at read
  · cases read
  rename_i o behind found
  split at read
  · rename_i closing
    cases read
    exact asciiUpTo_token found closing (by decide)
  split at read
  · cases read
    exact asciiUpTo_visible found
  split at read
  · rename_i comma
    have separated := asciiUpTo_token found comma (by decide)
    split at read
    · cases read
    rename_i next tail foundNext
    split at read
    · cases read
    · cases read
      exact separated.trans (asciiUpTo_visible foundNext)
  · cases read

theorem asciiUpTo_nextKey
    {first more : Bool} {input rest : List UInt8}
    (read : nextKey first input = .ok (more, rest)) :
    AsciiUpTo input rest := by
  rw [nextKey] at read
  split at read
  · cases read
  rename_i o behind found
  split at read
  · rename_i closing
    cases read
    exact asciiUpTo_token found closing (by decide)
  split at read
  · split at read
    · rename_i quote
      cases read
      exact asciiUpTo_token found quote (by decide)
    · cases read
  split at read
  · rename_i comma
    have separated := asciiUpTo_token found comma (by decide)
    split at read
    · cases read
    rename_i next tail foundNext
    split at read
    · rename_i quote
      cases read
      exact separated.trans (asciiUpTo_token foundNext quote (by decide))
    split at read
    · cases read
    · cases read
  · cases read

theorem asciiUpTo_itemAt
    {expected : String} {count : Nat} {input rest : List UInt8}
    (read : itemAt expected count input = .ok rest) :
    AsciiUpTo input rest := by
  rcases bind_eq_ok read with ⟨⟨more, behind⟩, itemRead, ends⟩
  cases more with
  | true =>
      cases ends
      exact asciiUpTo_nextItem itemRead
  | false => cases ends

theorem asciiUpTo_endFields
    {input rest : List UInt8} (read : endFields input = .ok rest) :
    AsciiUpTo input rest := by
  rw [endFields] at read
  split at read
  · cases read
  rename_i o behind found
  split at read
  · rename_i closing
    cases read
    exact asciiUpTo_token found closing (by decide)
  split at read
  · split at read
    · split at read <;> cases read
    · cases read
  · cases read

theorem asciiUpTo_scanEnd
    {input : List UInt8} (read : scanEnd input = .ok ()) :
    AsciiUpTo input [] := by
  rw [scanEnd] at read
  split at read
  · rename_i found
    rw [← found]
    exact asciiUpTo_skipBlanks input
  · cases read

/-! ## Skipped values -/

theorem skipString_suffix
    {input rest : List UInt8} (read : skipString input = .ok rest) :
    rest <:+ input := by
  -- One case is the closing quote, two are escapes and one is an octet that stands for itself.
  fun_induction skipString input with
  | case2 input =>
      cases read
      exact List.suffix_cons _ _
  | case4 a b c d input known _ ih =>
      exact (ih read).trans (List.suffix_append [octet '\\', octet 'u', a, b, c, d] input)
  | case7 letter input notUnit known _ ih =>
      exact (ih read).trans (List.suffix_append [octet '\\', letter] input)
  | case10 o input notQuote notBackslash visible ih =>
      exact (ih read).trans (List.suffix_cons o input)
  | _ => cases read

theorem skipHead_suffix
    {input rest : List UInt8} {opened : Option Frame}
    (read : skipHead input = .ok (opened, rest)) :
    rest <:+ input := by
  rw [skipHead] at read
  split at read
  · cases read
  rename_i o behind found
  have blanks := (asciiUpTo_visible found).suffix
  have first := (List.suffix_cons o behind).trans blanks
  split at read
  · rename_i letter
    rcases bind_eq_ok read with ⟨_, wordRead, ends⟩
    cases ends
    exact (asciiUpTo_word found letter (by decide) wordRead).suffix
  split at read
  · rename_i letter
    rcases bind_eq_ok read with ⟨_, wordRead, ends⟩
    cases ends
    exact (asciiUpTo_word found letter (by decide) wordRead).suffix
  split at read
  · rename_i letter
    rcases bind_eq_ok read with ⟨_, wordRead, ends⟩
    cases ends
    exact (asciiUpTo_word found letter (by decide) wordRead).suffix
  split at read
  · rcases bind_eq_ok read with ⟨_, stringRead, ends⟩
    cases ends
    exact (skipString_suffix stringRead).trans first
  split at read
  · rcases bind_eq_ok read with ⟨⟨_, _⟩, numeralRead, ends⟩
    cases ends
    exact (asciiUpTo_scanNumeral numeralRead).suffix.trans blanks
  split at read
  · cases read
    exact first
  split at read
  · cases read
    exact first
  · cases read

theorem settle_suffix
    {separated : Bool} {frames left : List Frame} {input rest : List UInt8}
    (read : settle separated frames input = .ok (left, rest)) :
    rest <:+ input := by
  induction frames generalizing separated input with
  | nil =>
      rw [settle] at read
      cases read
      exact List.suffix_rfl
  | cons frame frames ih =>
      rw [settle] at read
      split at read
      · cases read
      rename_i o behind found
      have blanks := (asciiUpTo_visible found).suffix
      have first := (List.suffix_cons o behind).trans blanks
      split at read
      · cases read
        exact first
      split at read
      · exact (ih read).trans first
      split at read
      · cases read
      · cases read
        exact blanks

theorem skipKey_suffix
    {input rest : List UInt8} (read : skipKey input = .ok rest) :
    rest <:+ input := by
  rw [skipKey] at read
  split at read
  · cases read
  rename_i o behind found
  split at read
  · rename_i quote
    rcases bind_eq_ok read with ⟨_, stringRead, colonRead⟩
    have first := (asciiUpTo_token found quote (by decide)).suffix
    exact (asciiUpTo_scanColon colonRead).suffix.trans ((skipString_suffix stringRead).trans first)
  · cases read

/-- What the skipper leaves is the end of what it was given. -/
theorem skipFrom_suffix
    {fuel : Nat} {frames : List Frame} {input rest : List UInt8}
    (read : skipFrom fuel frames input = .ok rest) :
    rest <:+ input := by
  induction fuel generalizing frames input with
  | zero => cases read
  | succ fuel ih =>
      have advanced {separated : Bool} {frames : List Frame} {input : List UInt8}
          (read : advance separated fuel frames input = .ok rest) :
          rest <:+ input := by
        rcases bind_eq_ok read with ⟨⟨left, behind⟩, settled, goesOn⟩
        have settledSuffix := settle_suffix settled
        cases left with
        | nil =>
            cases goesOn
            exact settledSuffix
        | cons frame left =>
            cases frame with
            | list => exact (ih goesOn).trans settledSuffix
            | object =>
                rcases bind_eq_ok goesOn with ⟨_, keyRead, goesOn⟩
                exact (ih goesOn).trans ((skipKey_suffix keyRead).trans settledSuffix)
      rw [skipFrom_succ] at read
      rcases bind_eq_ok read with ⟨⟨opened, behind⟩, headRead, goesOn⟩
      cases opened with
      | none => exact (advanced goesOn).trans (skipHead_suffix headRead)
      | some frame => exact (advanced goesOn).trans (skipHead_suffix headRead)

theorem skipValue_suffix
    {input rest : List UInt8} (read : skipValue input = .ok rest) :
    rest <:+ input :=
  skipFrom_suffix read

end RunArchive.Json
