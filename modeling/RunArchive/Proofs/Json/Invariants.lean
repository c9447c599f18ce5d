import RunArchive.Proofs.Json.Reading

/-!
# What is read is in normal form

Whatever the octets are, a value that is read from them is in normal form: its integers fit 64 bits
and its objects are sorted.  Nothing is assumed of the text.

The loops over items and members carry any property that one turn preserves; these two run lemmas
serve every reader that is built on the loops.
-/

namespace RunArchive.Json

/-! ## Numbers -/

theorem gather_le
    {limit value : Nat} (within : value ≤ limit) (digits : List UInt8) :
    (gather limit value digits).1 ≤ limit := by
  induction digits generalizing value with
  | nil => exact within
  | cons digit digits ih =>
      rw [gather]
      split
      · rename_i fits
        exact ih fits
      · exact within

/-- What digits are scaled to is a float. -/
theorem scaled_float
    {negative : Bool} {gathered : Nat} {exponent : Int} {number : Number}
    (read : scaled negative gathered exponent = .ok number) :
    ∃ float, number = .float float := by
  unfold scaled at read
  dsimp only at read
  split at read
  · exact ⟨_, (Except.ok.inj read).symm⟩
  · exact absurd read (by simp)

/-- The integer of at most 64 gathered bits fits 64 bits. -/
theorem integerNumber_fits
    {negative : Bool} {gathered : Nat} {number : Number}
    (within : gathered ≤ Unsigned.greatest64)
    (read : integerNumber negative gathered = .ok number) :
    (Json.number number).WellFormed := by
  unfold integerNumber at read
  split at read
  · split at read
    · rcases scaled_float read with ⟨float, equal⟩
      rw [equal]
      trivial
    · rename_i small
      rw [← Except.ok.inj read]
      unfold greatestNegative at small
      constructor <;> omega
  · rw [← Except.ok.inj read]
    unfold Unsigned.greatest64 at within
    constructor <;> omega

/-- The value of a numeral is in normal form. -/
theorem number_wellFormed
    {numeral : Numeral} {number : Number}
    (read : numeral.number = .ok number) :
    (Json.number number).WellFormed := by
  have whole := gather_le (Nat.zero_le Unsigned.greatest64) numeral.whole
  have gathered := gather_le whole (numeral.fraction.getD [])
  unfold Numeral.number at read
  dsimp only at read
  split at read
  · split at read
    · exact integerNumber_fits gathered read
    · rcases scaled_float read with ⟨float, equal⟩
      rw [equal]
      trivial
  · split at read
    · rcases scaled_float read with ⟨float, equal⟩
      rw [equal]
      trivial
    · split at read
      · exact absurd read (by simp)
      · rw [← Except.ok.inj read]
        trivial

theorem scanHead_wellFormed
    {input rest : List UInt8} {number : Number}
    (read : scanHead input = .ok (.number number, rest)) :
    (Json.number number).WellFormed := by
  unfold scanHead at read
  split at read
  · cases read
  · split at read
    · rcases bind_eq_ok read with ⟨behind, _, ends⟩
      cases ends
    split at read
    · rcases bind_eq_ok read with ⟨behind, _, ends⟩
      cases ends
    split at read
    · rcases bind_eq_ok read with ⟨behind, _, ends⟩
      cases ends
    split at read
    · rcases bind_eq_ok read with ⟨⟨text, behind⟩, _, ends⟩
      cases ends
    split at read
    · rcases bind_eq_ok read with ⟨⟨numeral, behind⟩, _, goesOn⟩
      rcases bind_eq_ok goesOn with ⟨value, meaning, ends⟩
      cases ends
      exact number_wellFormed meaning
    split at read
    · cases read
    split at read
    · cases read
    · cases read

/-! ## Loops -/

/-- What holds of every item that can be read holds of all items of a list. -/
theorem readItems_preserves
    {Holds : Json → Prop}
    {readItem : List UInt8 → Except Fault (Json × List UInt8)}
    (step : ∀ input item rest, readItem input = .ok (item, rest) → Holds item)
    {turns : Nat} {first : Bool} {done items : List Json} {input rest : List UInt8}
    (before : ∀ item ∈ done, Holds item)
    (read : readItems readItem turns first done input = .ok (items, rest)) :
    ∀ item ∈ items, Holds item := by
  induction turns generalizing first done input with
  | zero => cases read
  | succ turns ih =>
      rw [readItems] at read
      rcases bind_eq_ok read with ⟨⟨more, behind⟩, _, goesOn⟩
      cases more with
      | false =>
          cases goesOn
          intro item member
          exact before item (List.mem_reverse.mp member)
      | true =>
          rcases bind_eq_ok goesOn with ⟨⟨item, tail⟩, itemRead, tailRead⟩
          apply ih _ tailRead
          intro other member
          rcases List.mem_cons.mp member with equal | earlier
          · rw [equal]
            exact step _ _ _ itemRead
          · exact before other earlier

/-- What every member preserves holds behind the last one if it holds before the first. -/
theorem readMembers_preserves
    {State : Type} {Holds : State → Prop}
    {readMember : String → State → List UInt8 → Except Fault (State × List UInt8)}
    (step :
      ∀ key state input next rest,
        Holds state → readMember key state input = .ok (next, rest) → Holds next)
    {turns : Nat} {first : Bool} {state final : State} {input rest : List UInt8}
    (before : Holds state)
    (read : readMembers readMember turns first state input = .ok (final, rest)) :
    Holds final := by
  induction turns generalizing first state input with
  | zero => cases read
  | succ turns ih =>
      rw [readMembers] at read
      rcases bind_eq_ok read with ⟨⟨more, behind⟩, _, goesOn⟩
      cases more with
      | false =>
          cases goesOn
          exact before
      | true =>
          rcases bind_eq_ok goesOn with ⟨⟨key, colon⟩, _, keyed⟩
          rcases bind_eq_ok keyed with ⟨⟨next, tail⟩, memberRead, tailRead⟩
          exact ih (step _ _ _ _ _ before memberRead) tailRead

/-! ## Values -/

/-- Members read before and a member read now all have values in normal form. -/
theorem readPlainMember_preserves
    {readItem : List UInt8 → Except Fault (Json × List UInt8)}
    (step : ∀ input value rest, readItem input = .ok (value, rest) → value.WellFormed)
    {key : String} {done members : List (String × Json)} {input rest : List UInt8}
    (before : ∀ member ∈ done, member.2.WellFormed)
    (read : readPlainMember readItem key done input = .ok (members, rest)) :
    ∀ member ∈ members, member.2.WellFormed := by
  rcases bind_eq_ok read with ⟨behind, _, goesOn⟩
  rcases bind_eq_ok goesOn with ⟨⟨value, tail⟩, valueRead, ends⟩
  cases ends
  intro member present
  rcases List.mem_cons.mp present with equal | earlier
  · rw [equal]
    exact step _ _ _ valueRead
  · exact before member earlier

/-- Every value that is read is in normal form. -/
theorem readValue_wellFormed
    {fuel depth : Nat} {input rest : List UInt8} {value : Json}
    (read : readValue fuel depth input = .ok (value, rest)) :
    value.WellFormed := by
  induction depth using Nat.strongRecOn generalizing input rest value with
  | ind depth ih =>
      rw [readValue_eq] at read
      rcases bind_eq_ok read with ⟨⟨shape, behind⟩, head, goesOn⟩
      cases shape with
      | null =>
          cases goesOn
          trivial
      | bool value =>
          cases goesOn
          trivial
      | number number =>
          cases goesOn
          exact scanHead_wellFormed head
      | string text =>
          cases goesOn
          trivial
      | list =>
          cases depth with
          | zero => cases goesOn
          | succ depth =>
              rcases bind_eq_ok goesOn with ⟨⟨items, tail⟩, itemsRead, ends⟩
              cases ends
              apply (wellFormedItems_iff items).mpr
              exact
                readItems_preserves (fun _ _ _ => ih depth (Nat.lt_succ_self depth))
                  (fun _ member => absurd member List.not_mem_nil) itemsRead
      | object =>
          cases depth with
          | zero => cases goesOn
          | succ depth =>
              rcases bind_eq_ok goesOn with ⟨⟨members, tail⟩, membersRead, ends⟩
              cases ends
              apply wellFormed_ofMembers
              have normal : ∀ member ∈ members, member.2.WellFormed :=
                readMembers_preserves
                  (fun _ _ _ _ _ =>
                    readPlainMember_preserves fun _ _ _ => ih depth (Nat.lt_succ_self depth))
                  (fun _ member => absurd member List.not_mem_nil) membersRead
              intro member present
              exact normal member (List.mem_reverse.mp present)

end RunArchive.Json
