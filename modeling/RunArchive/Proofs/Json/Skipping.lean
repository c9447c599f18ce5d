import RunArchive.Proofs.Json.Scanning

/-!
# Skipping texts of any nesting

`skipValue` passes over every text of a value, however deep it is nested and whatever its numbers
and strings denote.

The skipper keeps the open arrays and objects on a stack of its own.  `advance` is what it does
behind a complete value, and the proof shows, by induction on the text, that a value, or the rest
of an array or object, leads from the stack before it to `advance` on the same stack.  The turns
that this takes are counted, because the skipper has only as many as there are octets.
-/

namespace RunArchive.Json

/-! ## Tokens -/

theorem skipString_character
    {text : List UInt8} (formed : IsCharacter text) (rest : List UInt8) :
    skipString (text ++ rest) = skipString rest := by
  cases formed with
  | plain visible notQuote notBackslash =>
      rw [List.singleton_append, skipString.eq_def]
      simp only [if_neg notQuote, if_neg notBackslash, if_neg visible]
  | @short letter known =>
      have notUnit : letter ≠ octet 'u' := by
        intro equal
        have unknown : (shortEscape? (octet 'u')).isSome = false := by decide
        rw [equal, unknown] at known
        exact Bool.noConfusion known
      have notQuote : octet '\\' ≠ octet '"' := by decide
      rw [List.cons_append, List.singleton_append, skipString.eq_def]
      simp only [if_neg notQuote, if_true, if_neg notUnit, known]
  | unit digits =>
      have notQuote : octet '\\' ≠ octet '"' := by decide
      simp only [List.cons_append, List.nil_append]
      rw [skipString.eq_def]
      simp only [if_neg notQuote, if_true, digits]

theorem skipString_quoted
    {text : List UInt8} (quoted : IsQuoted text) (rest : List UInt8) :
    skipString (text ++ rest) = .ok rest := by
  induction quoted with
  | closed =>
      rw [List.singleton_append, skipString.eq_def]
      simp only [if_true]
  | character head _ ih =>
      rw [List.append_assoc, skipString_character head, ih]

theorem skipHead_null (rest : List UInt8) :
    skipHead (octets nullText ++ rest) = .ok (none, rest) := rfl

theorem skipHead_bool (value : Bool) (rest : List UInt8) :
    skipHead (octets (boolText value) ++ rest) = .ok (none, rest) := by
  cases value <;> rfl

theorem skipHead_list (rest : List UInt8) :
    skipHead (octet '[' :: rest) = .ok (some .list, rest) := rfl

theorem skipHead_object (rest : List UInt8) :
    skipHead (octet '\x7b' :: rest) = .ok (some .object, rest) := rfl

theorem skipHead_string
    {text : List UInt8} (quoted : IsQuoted text) (rest : List UInt8) :
    skipHead (octet '"' :: (text ++ rest)) = .ok (none, rest) := by
  have head :
      skipHead (octet '"' :: (text ++ rest)) =
        (skipString (text ++ rest) >>= fun rest => .ok (none, rest)) := rfl
  rw [head, skipString_quoted quoted, ok_bind]

theorem skipHead_number
    {text rest : List UInt8} {numeral : Numeral}
    (spelled : SpellsNumeral text numeral)
    (delimited : Delimited rest) :
    skipHead (text ++ rest) = .ok (none, rest) := by
  have scanned := scanNumeral_spelled .invalidNumber spelled delimited
  rcases spelled.starts with ⟨o, tail, rfl, starts⟩
  have isStart : (o = octet '-' || isDigit o) = true := by
    simpa [StartsNumeral] using starts
  rw [List.cons_append] at scanned ⊢
  rw [skipHead, skipBlanks_cons starts.visible]
  simp only [if_neg (starts.ne (octet 'n') (by decide) (by decide)),
    if_neg (starts.ne (octet 't') (by decide) (by decide)),
    if_neg (starts.ne (octet 'f') (by decide) (by decide)),
    if_neg (starts.ne (octet '"') (by decide) (by decide)),
    if_pos isStart, scanned, ok_bind]
  rfl

theorem skipHead_blanks
    {blanks : List UInt8} (blank : Blanks blanks) (text : List UInt8) :
    skipHead (blanks ++ text) = skipHead text := by
  rw [skipHead, skipHead, skipBlanks_append blank]

theorem skipKey_quoted
    {keyText colon : List UInt8} (text : List UInt8)
    (named : IsQuoted keyText)
    (assigned : SpellsColon colon) :
    ∃ behind, Blanks behind ∧
      skipKey (octet '"' :: (keyText ++ (colon ++ text))) = .ok (behind ++ text) := by
  rcases scanColon_spelled text assigned with ⟨behind, blank, colonRead⟩
  have head :
      skipKey (octet '"' :: (keyText ++ (colon ++ text))) =
        (skipString (keyText ++ (colon ++ text)) >>= fun rest => scanColon rest) := rfl
  refine ⟨behind, blank, ?_⟩
  rw [head, skipString_quoted named, ok_bind, colonRead]

/-! ## The stack -/

/-- Goes on behind a value: closes what ends there and passes over what is left in the rest. -/
def advance (separated : Bool) (fuel : Nat) (frames : List Frame) (input : List UInt8) :
    Except Fault (List UInt8) :=
  settle separated frames input >>= fun settled =>
    match settled.1 with
    | [] => .ok settled.2
    | .list :: _ => skipFrom fuel settled.1 settled.2
    | .object :: _ => skipKey settled.2 >>= skipFrom fuel settled.1

/-- One turn of the skipper: a head, and then what comes behind it. -/
theorem skipFrom_succ (fuel : Nat) (frames : List Frame) (input : List UInt8) :
    skipFrom (fuel + 1) frames input =
      skipHead input >>= fun head =>
        match head.1 with
        | some frame => advance false fuel (frame :: frames) head.2
        | none => advance true fuel frames head.2 := by
  rw [skipFrom]
  cases skipHead input with
  | error fault => rfl
  | ok head =>
      rcases head with ⟨opened, rest⟩
      cases opened <;> rfl

theorem skipFrom_blanks
    (fuel : Nat) (frames : List Frame)
    {blanks : List UInt8} (blank : Blanks blanks) (text : List UInt8) :
    skipFrom fuel frames (blanks ++ text) = skipFrom fuel frames text := by
  cases fuel with
  | zero => rfl
  | succ fuel => rw [skipFrom_succ, skipFrom_succ, skipHead_blanks blank]

/-- With nothing open, a complete value is the end. -/
theorem advance_nil (separated : Bool) (fuel : Nat) (rest : List UInt8) :
    advance separated fuel [] rest = .ok rest := by
  cases separated <;> rfl

theorem settle_closing
    (separated : Bool) (frame : Frame) (frames : List Frame)
    {blanks : List UInt8} (blank : Blanks blanks) (rest : List UInt8) :
    settle separated (frame :: frames) (blanks ++ frame.closing :: rest) =
      settle true frames rest := by
  rw [settle.eq_def]
  simp only [skipBlanks_append blank]
  cases separated <;> cases frame <;> rfl

theorem settle_comma
    (frame : Frame) (frames : List Frame)
    {blanks : List UInt8} (blank : Blanks blanks) (rest : List UInt8) :
    settle true (frame :: frames) (blanks ++ octet ',' :: rest) =
      .ok (frame :: frames, rest) := by
  rw [settle.eq_def]
  simp only [skipBlanks_append blank]
  rfl

theorem settle_first
    (frame : Frame) (frames : List Frame)
    {blanks rest : List UInt8} {o : UInt8}
    (blank : Blanks blanks)
    (visible : isBlank o = false)
    (notClosing : o ≠ frame.closing) :
    settle false (frame :: frames) (blanks ++ o :: rest) =
      .ok (frame :: frames, o :: rest) := by
  rw [settle.eq_def]
  simp only [skipBlanks_append blank, skipBlanks_cons visible, Bool.false_and,
    Bool.false_eq_true, if_false, if_neg notClosing]

/-- A closing bracket completes the array or object in which it stands. -/
theorem advance_closing
    (separated : Bool) (fuel : Nat) (frame : Frame) (frames : List Frame)
    {blanks : List UInt8} (blank : Blanks blanks) (rest : List UInt8) :
    advance separated fuel (frame :: frames) (blanks ++ frame.closing :: rest) =
      advance true fuel frames rest := by
  rw [advance, settle_closing separated frame frames blank, ← advance]

/-- A separator leads to the next item. -/
theorem advance_item
    {first : Bool} (fuel : Nat) (frames : List Frame)
    {separator text : List UInt8}
    (separated : Separates first separator)
    (opens : Opens text) :
    advance (!first) fuel (.list :: frames) (separator ++ text) =
      skipFrom fuel (.list :: frames) text := by
  cases separated with
  | first blank =>
      rcases opens with ⟨visible, notClosing⟩
      rw [advance, Bool.not_true, settle_first .list frames blank visible notClosing, ok_bind]
  | later blankBefore blankBehind =>
      rw [advance, Bool.not_false, List.append_assoc, List.cons_append,
        settle_comma .list frames blankBefore, ok_bind]
      exact skipFrom_blanks fuel _ blankBehind text

/-- A separator and a key lead to the next value. -/
theorem advance_member
    {first : Bool} (fuel : Nat) (frames : List Frame)
    {separator keyText colon text : List UInt8}
    (separated : Separates first separator)
    (named : IsQuoted keyText)
    (assigned : SpellsColon colon) :
    advance (!first) fuel (.object :: frames)
        (separator ++ octet '"' :: (keyText ++ (colon ++ text))) =
      skipFrom fuel (.object :: frames) text := by
  rcases skipKey_quoted text named assigned with ⟨blanks, blank, keyRead⟩
  cases separated with
  | first blankBefore =>
      rw [advance, Bool.not_true,
        settle_first .object frames blankBefore (by decide) (by decide), ok_bind]
      simp only [keyRead, ok_bind]
      exact skipFrom_blanks fuel _ blank text
  | later blankBefore blankBehind =>
      rw [advance, Bool.not_false, List.append_assoc, List.cons_append,
        settle_comma .object frames blankBefore, ok_bind]
      rename_i behind
      have keyBehind :
          skipKey (behind ++ octet '"' :: (keyText ++ (colon ++ text))) =
            skipKey (octet '"' :: (keyText ++ (colon ++ text))) := by
        rw [skipKey, skipKey, skipBlanks_append blankBehind]
      simp only [keyBehind, keyRead, ok_bind]
      exact skipFrom_blanks fuel _ blank text

/-! ## The induction -/

/-- What skipping octets must come to if they are the text of a part. -/
def SkipsFrom (text : List UInt8) : Part → Prop
  | .value =>
    ∃ turns, turns ≤ text.length ∧
      ∀ (fuel : Nat) (frames : List Frame) (rest : List UInt8), Delimited rest →
        skipFrom (fuel + turns) frames (text ++ rest) = advance true fuel frames rest
  | .items first =>
    ∃ turns, turns ≤ text.length ∧
      ∀ (fuel : Nat) (frames : List Frame) (rest : List UInt8),
        advance (!first) (fuel + turns) (.list :: frames) (text ++ rest) =
          advance true fuel frames rest
  | .members first =>
    ∃ turns, turns ≤ text.length ∧
      ∀ (fuel : Nat) (frames : List Frame) (rest : List UInt8),
        advance (!first) (fuel + turns) (.object :: frames) (text ++ rest) =
          advance true fuel frames rest

theorem skipsFrom_scalar
    {text : List UInt8}
    (nonempty : 1 ≤ text.length)
    (head : ∀ rest, Delimited rest → skipHead (text ++ rest) = .ok (none, rest)) :
    SkipsFrom text .value := by
  refine ⟨1, nonempty, ?_⟩
  intro fuel frames rest delimited
  rw [skipFrom_succ, head rest delimited, ok_bind]

theorem skipsFrom_array
    {text : List UInt8}
    (inside : SkipsFrom text (.items true)) :
    SkipsFrom (octet '[' :: text) .value := by
  rcases inside with ⟨turns, few, skips⟩
  refine ⟨turns + 1, Nat.succ_le_succ few, ?_⟩
  intro fuel frames rest _
  rw [← Nat.add_assoc, List.cons_append, skipFrom_succ, skipHead_list, ok_bind]
  exact skips fuel frames rest

theorem skipsFrom_object
    {text : List UInt8}
    (inside : SkipsFrom text (.members true)) :
    SkipsFrom (octet '\x7b' :: text) .value := by
  rcases inside with ⟨turns, few, skips⟩
  refine ⟨turns + 1, Nat.succ_le_succ few, ?_⟩
  intro fuel frames rest _
  rw [← Nat.add_assoc, List.cons_append, skipFrom_succ, skipHead_object, ok_bind]
  exact skips fuel frames rest

theorem skipsFrom_noItems
    (first : Bool) {blanks : List UInt8} (blank : Blanks blanks) :
    SkipsFrom (blanks ++ [octet ']']) (.items first) := by
  refine ⟨0, Nat.zero_le _, ?_⟩
  intro fuel frames rest
  rw [List.append_assoc, List.singleton_append]
  exact advance_closing (!first) fuel .list frames blank rest

theorem skipsFrom_noMembers
    (first : Bool) {blanks : List UInt8} (blank : Blanks blanks) :
    SkipsFrom (blanks ++ [octet '\x7d']) (.members first) := by
  refine ⟨0, Nat.zero_le _, ?_⟩
  intro fuel frames rest
  rw [List.append_assoc, List.singleton_append]
  exact advance_closing (!first) fuel .object frames blank rest

theorem IsText.delimited_items
    {text : List UInt8} (formed : IsText text (.items false)) (rest : List UInt8) :
    Delimited (text ++ rest) := by
  cases formed with
  | noItems _ blank =>
      rw [List.append_assoc]
      exact delimited_of_blanks blank (delimited_bracket _)
  | item separated _ _ =>
      rw [List.append_assoc]
      exact separated.delimited _

theorem IsText.delimited_members
    {text : List UInt8} (formed : IsText text (.members false)) (rest : List UInt8) :
    Delimited (text ++ rest) := by
  cases formed with
  | noMembers _ blank =>
      rw [List.append_assoc]
      exact delimited_of_blanks blank (delimited_brace _)
  | member separated _ _ _ _ =>
      rw [List.append_assoc]
      exact separated.delimited _

theorem skipsFrom_item
    {first : Bool} {separator text rest : List UInt8}
    (separated : Separates first separator)
    (head : IsText text .value)
    (tail : IsText rest (.items false))
    (headSkips : SkipsFrom text .value)
    (tailSkips : SkipsFrom rest (.items false)) :
    SkipsFrom (separator ++ (text ++ rest)) (.items first) := by
  rcases headSkips with ⟨headTurns, headFew, headSkips⟩
  rcases tailSkips with ⟨tailTurns, tailFew, tailSkips⟩
  refine ⟨tailTurns + headTurns, ?_, ?_⟩
  · simp only [List.length_append]
    omega
  · intro fuel frames behind
    have opens : Opens (text ++ (rest ++ behind)) := head.opens.append _
    rw [List.append_assoc, List.append_assoc, advance_item _ frames separated opens,
      ← Nat.add_assoc, headSkips _ _ _ (tail.delimited_items behind)]
    exact tailSkips fuel frames behind

theorem skipsFrom_member
    {first : Bool} {separator keyText colon text rest : List UInt8}
    (separated : Separates first separator)
    (named : IsQuoted keyText)
    (assigned : SpellsColon colon)
    (tail : IsText rest (.members false))
    (headSkips : SkipsFrom text .value)
    (tailSkips : SkipsFrom rest (.members false)) :
    SkipsFrom (separator ++ octet '"' :: (keyText ++ (colon ++ (text ++ rest))))
      (.members first) := by
  rcases headSkips with ⟨headTurns, headFew, headSkips⟩
  rcases tailSkips with ⟨tailTurns, tailFew, tailSkips⟩
  refine ⟨tailTurns + headTurns, ?_, ?_⟩
  · simp only [List.length_append, List.length_cons]
    omega
  · intro fuel frames behind
    simp only [List.append_assoc, List.cons_append]
    rw [advance_member _ frames separated named assigned, ← Nat.add_assoc,
      headSkips _ _ _ (tail.delimited_members behind)]
    exact tailSkips fuel frames behind

/-- Every text of a part is passed over. -/
theorem IsText.skipsFrom
    {text : List UInt8} {part : Part}
    (formed : IsText text part) :
    SkipsFrom text part := by
  induction formed with
  | null =>
      exact skipsFrom_scalar (by decide) fun rest _ => skipHead_null rest
  | bool value =>
      exact
        skipsFrom_scalar (by cases value <;> decide) fun rest _ => skipHead_bool value rest
  | number spelled =>
      rcases spelled.starts with ⟨o, rest, rfl, _⟩
      exact
        skipsFrom_scalar (Nat.succ_le_succ (Nat.zero_le _)) fun rest delimited =>
          skipHead_number spelled delimited
  | string quoted =>
      exact
        skipsFrom_scalar (Nat.succ_le_succ (Nat.zero_le _)) fun rest _ =>
          skipHead_string quoted rest
  | array _ ih => exact skipsFrom_array ih
  | object _ ih => exact skipsFrom_object ih
  | noItems first blank => exact skipsFrom_noItems first blank
  | item separated head tail headIH tailIH =>
      exact skipsFrom_item separated head tail headIH tailIH
  | noMembers first blank => exact skipsFrom_noMembers first blank
  | member separated named assigned _ tail headIH tailIH =>
      exact skipsFrom_member separated named assigned tail headIH tailIH

/-- A value behind blanks is passed over, whatever it denotes and however deep it is nested. -/
theorem skipValue_text
    {blanks text rest : List UInt8}
    (blank : Blanks blanks)
    (formed : IsText text .value)
    (delimited : Delimited rest) :
    skipValue (blanks ++ (text ++ rest)) = .ok rest := by
  rcases formed.skipsFrom with ⟨turns, few, skips⟩
  have enough :
      (blanks ++ (text ++ rest)).length + 1 =
        ((blanks ++ (text ++ rest)).length + 1 - turns) + turns := by
    simp only [List.length_append]
    omega
  rw [skipValue, skipFrom_blanks _ _ blank, enough, skips _ [] rest delimited, advance_nil]

end RunArchive.Json
