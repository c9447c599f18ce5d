import RunArchive.Json.Typed
import RunArchive.Proofs.Files.Path
import RunArchive.Proofs.Outcome

/-!
# Typed readers

What typed readers make of the values that they are meant for: an integer within its limit is read
as that number, a field accepts what its reader does, and the fields of a record that have been
found are what their readers make of them.
-/

namespace RunArchive.Json

/-! ## Scalars -/

theorem asNatural_natCast {number limit : Nat} (within : number ≤ limit) (expected : String) :
    asNatural limit expected (.number (.integer number)) = .ok number := by
  have inside : (0 : Int) ≤ number ∧ (number : Int) ≤ limit := by omega
  rw [asNatural, if_pos inside, Int.toNat_natCast]

theorem asUInt32_toNat (number : UInt32) :
    asUInt32 (.number (.integer number.toNat)) = .ok number := by
  have within : number.toNat ≤ Unsigned.greatest32 := Nat.le_of_lt_succ number.toNat_lt
  rw [asUInt32, asNatural_natCast within]
  exact congrArg Except.ok UInt32.ofNat_toNat

theorem readUInt32_ofNat (number : UInt32) : readUInt32 (ofNat number.toNat) = .ok number :=
  asUInt32_toNat number

theorem readUInt64_ofNat {number : Nat} (within : number ≤ Unsigned.greatest64) :
    readUInt64 (ofNat number) = .ok number :=
  asNatural_natCast within "u64"

/-! ## Paths -/

theorem readPath_string (text : String) : readPath (.string text) = .ok (.ofText text) := rfl

theorem ofPath_ofText (text : String) : ofPath (.ofText text) = .ok (.string text) := by
  rw [ofPath, Path.text?_ofText]

/-- A path has a value if and only if it is a text. -/
theorem ofPath_eq_ok_iff {path : Path} {value : Json} :
    ofPath path = .ok value ↔ ∃ text, path = .ofText text ∧ value = .string text := by
  constructor
  · intro made
    rw [ofPath] at made
    cases spelled : path.text? with
    | none =>
        rw [spelled] at made
        cases made
    | some text =>
        rw [spelled] at made
        cases made
        exact ⟨text, Path.text?_eq_some_iff.mp spelled, rfl⟩
  · rintro ⟨text, rfl, rfl⟩
    exact ofPath_ofText text

/-! ## Fields -/

theorem check_of
    {α : Type} {reader : Json → Except Mismatch α} {value : Json} {meaning : α} (name : String)
    (accepted : reader value = .ok meaning) :
    (Field.of name reader).check value = .ok () := by
  change (reader value).map (fun _ => ()) = .ok ()
  rw [accepted]
  rfl

section Found

variable {α : Type} {reader : Json → Except Mismatch α} {found : List (String × Json)}
  {name : String} {value : Json}

theorem required_found
    {meaning : α} (there : lookup name found = some value)
    (accepted : reader value = .ok meaning) :
    required found name reader = .ok meaning := by
  rw [required, there]
  exact accepted

theorem optional_found
    {meaning : Option α} (there : lookup name found = some value)
    (accepted : readOptional reader value = .ok meaning) :
    optional found name reader = .ok meaning := by
  rw [optional, there]
  exact accepted

end Found

end RunArchive.Json
