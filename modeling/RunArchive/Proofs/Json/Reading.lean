import RunArchive.Json.Reader
import RunArchive.Proofs.Json.NormalForm
import RunArchive.Proofs.Json.Scanning

/-!
# Reading spelled values

`readValue` reads every spelling of a value and stops where it ends, provided that the value is
not nested deeper than the reader admits.  If it is, the outcome is `tooDeep` and no other fault:
whatever stands before the first bracket that is one too many has been read without complaint.

The proof is one induction on the spelling.  What is proved of a phrase is `ReadsFrom`; for the
rest of an array or an object it speaks of the loop that reads it, with any number of turns that
the octets cannot use up.
-/

namespace RunArchive.Json

theorem nestingMembers_perm
    {left right : List (String × Json)}
    (rearranged : left.Perm right) :
    nestingMembers left = nestingMembers right := by
  induction rearranged with
  | nil => rfl
  | cons member _ ih => rw [nestingMembers, nestingMembers, ih]
  | swap first second rest =>
      simp only [nestingMembers]
      exact Nat.max_left_comm _ _ _
  | trans _ _ leftIH rightIH => exact leftIH.trans rightIH

/-- What reading octets must come to if they spell a phrase. -/
def ReadsFrom (text : List UInt8) : Phrase → Prop
  | .value value =>
    ∀ (fuel depth : Nat) (rest : List UInt8), text.length ≤ fuel → Delimited rest →
      readValue fuel depth (text ++ rest) =
        if value.nesting ≤ depth then .ok (value, rest) else .error .tooDeep
  | .items first items =>
    ∀ (fuel depth turns : Nat) (done : List Json) (rest : List UInt8),
      text.length ≤ fuel → text.length ≤ turns →
      readItems (readValue fuel depth) turns first done (text ++ rest) =
        if nestingItems items ≤ depth then .ok (done.reverse ++ items, rest)
        else .error .tooDeep
  | .members first members =>
    ∀ (fuel depth turns : Nat) (done : List (String × Json)) (rest : List UInt8),
      text.length ≤ fuel → text.length ≤ turns →
      readMembers (readPlainMember (readValue fuel depth)) turns first done (text ++ rest) =
        if nestingMembers members ≤ depth then .ok (members.reverse ++ done, rest)
        else .error .tooDeep

/-- Reads what is left of a value whose head has been read. -/
def readBehind (fuel depth : Nat) : Shape × List UInt8 → Except Fault (Json × List UInt8)
  | (.null, rest) => .ok (.null, rest)
  | (.bool value, rest) => .ok (.bool value, rest)
  | (.number value, rest) => .ok (.number value, rest)
  | (.string value, rest) => .ok (.string value, rest)
  | (.list, rest) =>
    match depth with
    | 0 => .error .tooDeep
    | depth + 1 =>
      readItems (readValue fuel depth) fuel true [] rest >>= fun read =>
        .ok (.array read.1, read.2)
  | (.object, rest) =>
    match depth with
    | 0 => .error .tooDeep
    | depth + 1 =>
      readMembers (readPlainMember (readValue fuel depth)) fuel true [] rest >>= fun read =>
        .ok (ofMembers read.1.reverse, read.2)

theorem readValue_eq (fuel depth : Nat) (input : List UInt8) :
    readValue fuel depth input = scanHead input >>= readBehind fuel depth := by
  rw [readValue.eq_def]
  dsimp only
  cases scanHead input with
  | error fault => rfl
  | ok head =>
      rcases head with ⟨shape, rest⟩
      cases shape <;> cases depth <;> rfl

theorem readValue_blanks
    (fuel depth : Nat) {blanks : List UInt8} (blank : Blanks blanks) (text : List UInt8) :
    readValue fuel depth (blanks ++ text) = readValue fuel depth text := by
  rw [readValue_eq, readValue_eq, scanHead_blanks blank]

/-! ## One lemma for each way to spell a phrase -/

theorem readsFrom_null : ReadsFrom (octets nullText) (.value .null) := by
  intro fuel depth rest _ _
  rw [readValue_eq, scanHead_null, ok_bind, readBehind, nesting, if_pos (Nat.zero_le depth)]

theorem readsFrom_bool (value : Bool) :
    ReadsFrom (octets (boolText value)) (.value (.bool value)) := by
  intro fuel depth rest _ _
  rw [readValue_eq, scanHead_bool, ok_bind, readBehind, nesting, if_pos (Nat.zero_le depth)]

theorem readsFrom_number
    {text : List UInt8} {numeral : Numeral} {number : Number}
    (spelled : SpellsNumeral text numeral)
    (meaning : numeral.number = .ok number) :
    ReadsFrom text (.value (.number number)) := by
  intro fuel depth rest _ delimited
  rw [readValue_eq, scanHead_number spelled meaning delimited, ok_bind, readBehind, nesting,
    if_pos (Nat.zero_le depth)]

theorem readsFrom_string
    {text : List UInt8} {value : String}
    (spelled : SpellsQuoted text value) :
    ReadsFrom (octet '"' :: text) (.value (.string value)) := by
  intro fuel depth rest _ _
  rw [List.cons_append, readValue_eq, scanHead_string rest spelled, ok_bind, readBehind, nesting,
    if_pos (Nat.zero_le depth)]

theorem readsFrom_array
    {text : List UInt8} {items : List Json}
    (inside : ReadsFrom text (.items true items)) :
    ReadsFrom (octet '[' :: text) (.value (.array items)) := by
  intro fuel depth rest enough _
  rw [List.length_cons] at enough
  rw [List.cons_append, readValue_eq, scanHead_list, ok_bind]
  cases depth with
  | zero =>
      rw [if_neg (by rw [nesting]; omega)]
      rfl
  | succ depth =>
      rw [readBehind, inside fuel depth fuel [] rest (by omega) (by omega)]
      simp only [nesting, Nat.add_le_add_iff_right]
      split <;> rfl

theorem readsFrom_object
    {text : List UInt8} {written members : List (String × Json)}
    (inside : ReadsFrom text (.members true written))
    (rearranged : written.Perm members)
    (increasing : Increasing members) :
    ReadsFrom (octet '\x7b' :: text) (.value (.object members)) := by
  intro fuel depth rest enough _
  rw [List.length_cons] at enough
  rw [List.cons_append, readValue_eq, scanHead_object, ok_bind]
  cases depth with
  | zero =>
      rw [if_neg (by rw [nesting]; omega)]
      rfl
  | succ depth =>
      have sorted : ofMembers written = .object members := by
        rw [ofMembers, sortMembers_of_perm rearranged increasing]
      rw [readBehind, inside fuel depth fuel [] rest (by omega) (by omega)]
      simp only [nesting, Nat.add_le_add_iff_right, nestingMembers_perm rearranged]
      split
      · rw [ok_bind, List.append_nil, List.reverse_reverse, sorted]
      · rfl

theorem readsFrom_noItems
    (first : Bool) {blanks : List UInt8} (blank : Blanks blanks) :
    ReadsFrom (blanks ++ [octet ']']) (.items first []) := by
  intro fuel depth turns done rest _ enough
  cases turns with
  | zero =>
      rw [List.length_append, List.length_singleton] at enough
      omega
  | succ turns =>
      rw [readItems, List.append_assoc, List.singleton_append, nextItem_end first rest blank]
      simp only [ok_bind, nestingItems, Nat.zero_le, if_true, List.append_nil]
      rfl

theorem readsFrom_item
    {first : Bool} {separator text rest : List UInt8} {item : Json} {items : List Json}
    (separated : Separates first separator)
    (head : Spells text (.value item))
    (tail : Spells rest (.items false items))
    (headReads : ReadsFrom text (.value item))
    (tailReads : ReadsFrom rest (.items false items)) :
    ReadsFrom (separator ++ (text ++ rest)) (.items first (item :: items)) := by
  intro fuel depth turns done behind enoughFuel enough
  simp only [List.length_append] at enoughFuel enough
  have itemOpens : Opens (text ++ (rest ++ behind)) := head.opens.append _
  cases turns with
  | zero =>
      rcases head.opens with ⟨_, _⟩
      rw [List.length_cons] at enough
      omega
  | succ turns =>
      have shorter : rest.length ≤ turns := by
        rcases head.opens with ⟨_, _⟩
        rw [List.length_cons] at enough
        omega
      rw [readItems, List.append_assoc, List.append_assoc,
        nextItem_separated separated itemOpens]
      simp only [ok_bind, headReads fuel depth (rest ++ behind) (by omega)
        (tail.delimited_items behind), nestingItems, Nat.max_le]
      by_cases shallow : item.nesting ≤ depth
      · simp only [shallow, if_true, ok_bind, true_and,
          tailReads fuel depth turns (item :: done) behind (by omega) shorter,
          List.reverse_cons, List.append_assoc, List.singleton_append]
      · simp only [shallow, if_false, false_and, error_bind]

theorem readsFrom_noMembers
    (first : Bool) {blanks : List UInt8} (blank : Blanks blanks) :
    ReadsFrom (blanks ++ [octet '\x7d']) (.members first []) := by
  intro fuel depth turns done rest _ enough
  cases turns with
  | zero =>
      rw [List.length_append, List.length_singleton] at enough
      omega
  | succ turns =>
      rw [readMembers, List.append_assoc, List.singleton_append, nextKey_end first rest blank]
      simp only [ok_bind, nestingMembers, Nat.zero_le, if_true]
      rfl

theorem readsFrom_member
    {first : Bool} {separator keyText colon text rest : List UInt8}
    {key : String} {value : Json} {members : List (String × Json)}
    (separated : Separates first separator)
    (named : SpellsQuoted keyText key)
    (assigned : SpellsColon colon)
    (tail : Spells rest (.members false members))
    (headReads : ReadsFrom text (.value value))
    (tailReads : ReadsFrom rest (.members false members)) :
    ReadsFrom (separator ++ octet '"' :: (keyText ++ (colon ++ (text ++ rest))))
      (.members first ((key, value) :: members)) := by
  intro fuel depth turns done behind enoughFuel enough
  simp only [List.length_append, List.length_cons] at enoughFuel enough
  cases turns with
  | zero => omega
  | succ turns =>
      rcases scanColon_spelled (text ++ (rest ++ behind)) assigned with ⟨blanks, blank, colonRead⟩
      have memberRead :
          readPlainMember (readValue fuel depth) key done
              (colon ++ (text ++ (rest ++ behind))) =
            if value.nesting ≤ depth then .ok ((key, value) :: done, rest ++ behind)
            else .error .tooDeep := by
        rw [readPlainMember, colonRead, ok_bind, readValue_blanks fuel depth blank,
          headReads fuel depth (rest ++ behind) (by omega) (tail.delimited_members behind)]
        split <;> rfl
      rw [readMembers, List.append_assoc, List.cons_append, nextKey_separated _ separated]
      simp only [ok_bind, List.append_assoc, scanString_quoted _ named, memberRead,
        nestingMembers, Nat.max_le]
      by_cases shallow : value.nesting ≤ depth
      · simp only [shallow, if_true, ok_bind, true_and,
          tailReads fuel depth turns ((key, value) :: done) behind (by omega) (by omega),
          List.reverse_cons, List.append_assoc, List.singleton_append]
      · simp only [shallow, if_false, false_and, error_bind]

/-! ## The induction -/

/-- Whatever spells a phrase is read as that phrase. -/
theorem Spells.readsFrom
    {text : List UInt8} {phrase : Phrase}
    (spelled : Spells text phrase) :
    ReadsFrom text phrase := by
  induction spelled with
  | null => exact readsFrom_null
  | bool value => exact readsFrom_bool value
  | number spelled meaning => exact readsFrom_number spelled meaning
  | string spelled => exact readsFrom_string spelled
  | array _ ih => exact readsFrom_array ih
  | object _ rearranged increasing ih => exact readsFrom_object ih rearranged increasing
  | noItems first blank => exact readsFrom_noItems first blank
  | item separated head tail headIH tailIH =>
      exact readsFrom_item separated head tail headIH tailIH
  | noMembers first blank => exact readsFrom_noMembers first blank
  | member separated named assigned _ tail headIH tailIH =>
      exact readsFrom_member separated named assigned tail headIH tailIH

/-- A spelled value is read if it is not nested too deep, and refused as too deep if it is. -/
theorem readValue_spelled
    {text rest : List UInt8} {value : Json} {fuel : Nat} (depth : Nat)
    (spelled : Spells text (.value value))
    (enough : text.length ≤ fuel)
    (delimited : Delimited rest) :
    readValue fuel depth (text ++ rest) =
      if value.nesting ≤ depth then .ok (value, rest) else .error .tooDeep :=
  spelled.readsFrom fuel depth rest enough delimited

/-- A text that spells a value and has nothing but blanks behind it is read as that value. -/
theorem read_spelled
    {text blanks : List UInt8} {value : Json} {depth : Nat}
    (spelled : Spells text (.value value))
    (blank : Blanks blanks)
    (shallow : value.nesting ≤ depth) :
    read depth (text ++ blanks) = .ok value := by
  have delimited : Delimited (blanks ++ []) := delimited_of_blanks blank delimited_nil
  rw [List.append_nil] at delimited
  have enough : text.length ≤ (text ++ blanks).length := by
    rw [List.length_append]
    exact Nat.le_add_right _ _
  rw [read, readValue_spelled depth spelled enough delimited, if_pos shallow, ok_bind]
  dsimp only
  rw [scanEnd_blanks blank]
  rfl

/-- A line that spells a value is read as that value. -/
theorem read_line
    {text : List Char} {value : Json} {depth : Nat}
    (spelled : Spells (Utf8.encode text) (.value value))
    (shallow : value.nesting ≤ depth) :
    read depth (Utf8.ofString (String.ofList text ++ "\n")) = .ok value := by
  have lineEnd : Blanks (Utf8.encode ['\n']) := by decide
  have octets :
      Utf8.ofString (String.ofList text ++ "\n") = Utf8.encode text ++ Utf8.encode ['\n'] := by
    rw [Utf8.ofString, String.toList_append, Utf8.encode_append, String.toList_ofList]
    rfl
  rw [octets]
  exact read_spelled spelled lineEnd shallow

end RunArchive.Json
