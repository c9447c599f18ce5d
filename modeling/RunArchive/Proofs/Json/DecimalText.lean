import RunArchive.Proofs.Decimal.Shortest
import RunArchive.Proofs.Json.Digits

/-!
# Written decimals are numerals

The text of a decimal spells a numeral with a fraction or an exponent, whose exact value is that of
the decimal.  There is one lemma for each of the notations: with all digits behind the point, with
all of them before it, with the point among them, and with an exponent.
-/

namespace RunArchive.Json

/-! ## Exact values of numerals -/

/-- The exponent of a numeral, without any limit. -/
def Numeral.power (numeral : Numeral) : Int :=
  match numeral.exponent with
  | none => 0
  | some (true, digits) => -(digitsValue digits)
  | some (false, digits) => digitsValue digits

/-- The absolute value of a numeral, without any rounding. -/
def Numeral.size (numeral : Numeral) : ℚ :=
  digitsValue (numeral.whole ++ numeral.fraction.getD []) *
    (10 : ℚ) ^ (numeral.power - (numeral.fraction.getD []).length)

/-- Whether a numeral shows that it is not the spelling of an integer. -/
def Numeral.Marked (numeral : Numeral) : Prop :=
  numeral.fraction ≠ none ∨ numeral.exponent ≠ none

/-- A text spells a float of this sign and exact absolute value. -/
def SpellsFloat (text : List UInt8) (negative : Bool) (size : ℚ) : Prop :=
  ∃ numeral, SpellsNumeral text numeral ∧ numeral.negative = negative ∧ numeral.size = size ∧
    numeral.Marked

theorem SpellsFloat.negated
    {text : List UInt8} {size : ℚ}
    (spelled : SpellsFloat text false size) :
    SpellsFloat (octet '-' :: text) true size := by
  rcases spelled with ⟨numeral, ⟨signed, whole, fractional, scaled⟩, positive, sized, marked⟩
  rw [positive] at signed
  cases signed with
  | absent =>
      have negative : SpellsNumeral _ { numeral with negative := true } :=
        .intro .present whole fractional scaled
      exact ⟨_, negative, rfl, sized, marked⟩

/-- Parts of a numeral put together, without a sign. -/
theorem spellsNumeral_parts
    {whole fractionText exponentText : List UInt8}
    {fraction : Option (List UInt8)} {exponent : Option (Bool × List UInt8)}
    (wholeDigits : WholeDigits whole)
    (fractional : SpellsFraction fractionText fraction)
    (scaled : SpellsExponent exponentText exponent) :
    SpellsNumeral (whole ++ (fractionText ++ exponentText)) ⟨false, whole, fraction, exponent⟩ := by
  have spelled : SpellsNumeral _ ⟨false, whole, fraction, exponent⟩ :=
    .intro .absent wholeDigits fractional scaled
  exact spelled

/-- Digits around a point spell the number that they denote together, shifted to the point. -/
theorem spellsFloat_point
    {whole fraction : List UInt8}
    (wholeDigits : WholeDigits whole)
    (fractionDigits : Digits fraction) :
    SpellsFloat (whole ++ octet '.' :: fraction) false
      (digitsValue (whole ++ fraction) * (10 : ℚ) ^ (-(fraction.length : Int))) := by
  have spelled := spellsNumeral_parts wholeDigits (.present fractionDigits) .absent
  rw [List.append_nil] at spelled
  refine ⟨_, spelled, rfl, ?_, Or.inl (by simp)⟩
  rw [Numeral.size, Numeral.power, Option.getD_some, Int.zero_sub]

/-! ## Decimals -/

section Decimals

variable {digits : List Char}

/-- Positional notation with all digits behind the point. -/
theorem positional_behind
    (digital : Digits (octets digits))
    {point : Int} (small : point ≤ 0) :
    SpellsFloat (octets (Decimal.positional digits point)) false
      (digitsValue (octets digits) * (10 : ℚ) ^ (point - digits.length)) := by
  have zero : WholeDigits [octet '0'] := by decide
  have spelled := spellsFloat_point zero (digital.zeros_append (-point).toNat)
  have value :
      digitsValue
          ([octet '0'] ++ (List.replicate (-point).toNat (octet '0') ++ octets digits)) =
        digitsValue (octets digits) := by
    rw [digitsValue_append, digitsValue_append, digitsValue_zeros]
    simp [digitsValue, digitValue, octet]
  have length :
      -(((List.replicate (-point).toNat (octet '0') ++ octets digits).length : Nat) : Int) =
        point - digits.length := by
    rw [List.length_append, List.length_replicate, length_octets]
    omega
  rw [value, length] at spelled
  rw [Decimal.positional, if_pos small]
  rw [← octets_zeros, ← octets_append] at spelled
  exact spelled

/-- Positional notation with all digits before the point. -/
theorem positional_before
    (digital : Digits (octets digits))
    (leading : (octets digits).head? ≠ some (octet '0'))
    {point : Int} (positive : 0 < point) (large : (digits.length : Int) ≤ point) :
    SpellsFloat (octets (Decimal.positional digits point)) false
      (digitsValue (octets digits) * (10 : ℚ) ^ (point - digits.length)) := by
  have whole :=
    WholeDigits.append_zeros digital leading (point.toNat - digits.length)
  have zero : Digits [octet '0'] := by decide
  have spelled := spellsFloat_point whole zero
  have value :
      (digitsValue
            (octets digits ++ List.replicate (point.toNat - digits.length) (octet '0') ++
              [octet '0']) :
          ℚ) *
          10 ^ (-(([octet '0'].length : Nat) : Int)) =
        digitsValue (octets digits) * (10 : ℚ) ^ (point - digits.length) := by
    have exponent : point - digits.length = ((point.toNat - digits.length : Nat) : Int) := by
      omega
    have last : digitsValue [octet '0'] = 0 := rfl
    rw [digitsValue_append, digitsValue_append, digitsValue_zeros, last, exponent, zpow_natCast,
      List.length_replicate]
    push_cast
    simp
  rw [value] at spelled
  rw [Decimal.positional, if_neg (by omega), if_pos large, octets_append, octets_append,
    octets_zeros]
  exact spelled

/-- Positional notation with the point among the digits. -/
theorem positional_among
    (digital : Digits (octets digits))
    (leading : (octets digits).head? ≠ some (octet '0'))
    {point : Int} (positive : 0 < point) (inside : point < (digits.length : Int)) :
    SpellsFloat (octets (Decimal.positional digits point)) false
      (digitsValue (octets digits) * (10 : ℚ) ^ (point - digits.length)) := by
  have length : (octets digits).length = digits.length := length_octets digits
  have whole : WholeDigits ((octets digits).take point.toNat) := by
    apply wholeDigits_of_leading
    · refine ⟨?_, fun o member => digital.2 o (List.mem_of_mem_take member)⟩
      apply List.ne_nil_of_length_pos
      rw [List.length_take]
      omega
    · rw [List.head?_take, if_neg (by omega)]
      exact leading
  have fraction : Digits ((octets digits).drop point.toNat) := by
    refine ⟨?_, fun o member => digital.2 o (List.mem_of_mem_drop member)⟩
    apply List.ne_nil_of_length_pos
    rw [List.length_drop]
    omega
  have spelled := spellsFloat_point whole fraction
  have exponent :
      -((((octets digits).drop point.toNat).length : Nat) : Int) = point - digits.length := by
    rw [List.length_drop]
    omega
  rw [List.take_append_drop, exponent] at spelled
  rw [Decimal.positional, if_neg (by omega), if_neg (by omega)]
  simp only [octets, List.map_append, List.map_take, List.map_cons, List.map_drop] at spelled ⊢
  exact spelled

/-- A written exponent spells its sign and its digits. -/
theorem spellsExponent_text (exponent : Int) :
    SpellsExponent (octets (Decimal.exponentText exponent))
      (some (decide (exponent < 0), octets (digitsOf exponent.natAbs))) := by
  have digital := digits_digitsOf exponent.natAbs
  unfold Decimal.exponentText
  by_cases negative : exponent < 0
  · rw [if_pos negative, decide_eq_true negative]
    exact .present (Or.inl rfl) .minus digital
  · rw [if_neg negative, decide_eq_false negative]
    exact .present (Or.inl rfl) .plus digital

/-- Digits with an exponent spell the number that they denote together, shifted by both. -/
theorem spellsFloat_exponent
    {whole fractionText : List UInt8} {fraction : Option (List UInt8)}
    (wholeDigits : WholeDigits whole)
    (fractional : SpellsFraction fractionText fraction)
    (exponent : Int) :
    SpellsFloat (whole ++ (fractionText ++ octets (Decimal.exponentText exponent))) false
      (digitsValue (whole ++ fraction.getD []) *
        (10 : ℚ) ^ (exponent - (fraction.getD []).length)) := by
  have power (negative : Bool) (same : decide (exponent < 0) = negative) :
      Numeral.power ⟨false, whole, fraction, some (negative, octets (digitsOf exponent.natAbs))⟩ =
        exponent := by
    cases negative with
    | true =>
        have below := of_decide_eq_true same
        simp only [Numeral.power, digitsValue_digitsOf]
        omega
    | false =>
        have below := of_decide_eq_false same
        simp only [Numeral.power, digitsValue_digitsOf]
        omega
  have spelled := spellsNumeral_parts wholeDigits fractional (spellsExponent_text exponent)
  refine ⟨_, spelled, rfl, ?_, Or.inr (by simp)⟩
  rw [Numeral.size, power _ rfl]

/-- Exponential notation. -/
theorem exponential_spelled
    (digital : Digits (octets digits))
    (leading : (octets digits).head? ≠ some (octet '0'))
    (point : Int) :
    SpellsFloat (octets (Decimal.exponential digits point)) false
      (digitsValue (octets digits) * (10 : ℚ) ^ (point - digits.length)) := by
  cases digits with
  | nil => exact absurd rfl digital.1
  | cons digit rest =>
      have single : WholeDigits [octet digit] := by
        apply wholeDigits_of_leading
        · refine ⟨by simp, ?_⟩
          intro o member
          rw [List.mem_singleton.mp member]
          exact digital.2 _ List.mem_cons_self
        · exact leading
      cases rest with
      | nil =>
          have spelled := spellsFloat_exponent single .absent (point - 1)
          have exponent : point - 1 - ((0 : Nat) : Int) = point - ((1 : Nat) : Int) := by
            omega
          rw [Option.getD_none, List.append_nil, List.length_nil, exponent] at spelled
          exact spelled
      | cons next rest =>
          have behind : Digits (octets (next :: rest)) :=
            ⟨by simp [octets], fun o member => digital.2 o (List.mem_cons_of_mem _ member)⟩
          have spelled := spellsFloat_exponent single (.present behind) (point - 1)
          have exponent :
              point - 1 - ((octets (next :: rest)).length : Int) =
                point - ((digit :: next :: rest).length : Int) := by
            rw [length_octets]
            simp only [List.length_cons]
            omega
          rw [Option.getD_some, exponent] at spelled
          have text :
              octets (Decimal.exponential (digit :: next :: rest) point) =
                [octet digit] ++
                  (octet '.' :: octets (next :: rest) ++
                    octets (Decimal.exponentText (point - 1))) := by
            simp [Decimal.exponential, octets]
          rw [text]
          exact spelled

end Decimals

/-- The text of a decimal spells the value of that decimal. -/
theorem decimal_spelled
    {decimal : Decimal} (positive : 0 < decimal.digits) :
    SpellsFloat (octets decimal.text) false decimal.value := by
  have digital := digits_digitsOf decimal.digits
  have leading := head?_digitsOf positive
  have exponent :
      ((digitsOf decimal.digits).length : Int) + decimal.exponent -
          (digitsOf decimal.digits).length =
        decimal.exponent := by
    omega
  have value := digitsValue_digitsOf decimal.digits
  unfold Decimal.text
  dsimp only
  generalize spot : ((digitsOf decimal.digits).length : Int) + decimal.exponent = point
  rw [spot] at exponent
  have spelled :
      ∀ text : List Char,
        SpellsFloat (octets text) false
            (digitsValue (octets (digitsOf decimal.digits)) *
              (10 : ℚ) ^ (point - (digitsOf decimal.digits).length)) →
          SpellsFloat (octets text) false decimal.value := by
    intro text shown
    rw [value, exponent] at shown
    exact shown
  apply spelled
  split
  · rcases Int.lt_or_le 0 point with before | behind
    · rcases Int.lt_or_le point (digitsOf decimal.digits).length with among | large
      · exact positional_among digital leading before among
      · exact positional_before digital leading before large
    · exact positional_behind digital behind
  · exact exponential_spelled digital leading point

end RunArchive.Json
