import RunArchive.Database.Settings
import RunArchive.Proofs.Decimal.Unsigned
import RunArchive.Proofs.Outcome
import RunArchive.Query.Limit

/-!
# Numbers in settings

The read limit and the two sizes of a connection are numbers that are given as texts.  A text is
accepted exactly if it gives a number that fits, and then as that number: none is cut off, wrapped
or replaced.  The two kinds of settings differ in what a blank text is.  For the read limit it means
that there is none; for a size it is no number, and only a size that is absent has its default.

What is refused is refused as a setting, and the complaint names the first one that is wrong.
-/

namespace RunArchive

open Unsigned (Gives GivesNone)

/-! ## Read limits -/

namespace ReadLimit

variable {text : String}

theorem parse_blank (blank : Text.Blank text.toList) : parse (some text) = .ok .unbounded := by
  rw [parse, Text.trim_eq_nil_iff.mpr blank]

/-- What becomes of a text that is not blank. -/
theorem parse_visible (visible : ¬ Text.Blank text.toList) :
    parse (some text) =
      match Unsigned.read? Unsigned.greatest64 (Text.trim text.toList) with
      | some bytes => .ok (ofBytes (UInt64.ofNat bytes))
      | none => .error (.invalidLimit (String.ofList (Text.trim text.toList))) := by
  rw [parse]
  split
  · rename_i empty
    exact absurd (Text.trim_eq_nil_iff.mp empty) visible
  · rfl

/-- A number of 64 bits is taken as the limit. -/
theorem parse_gives {bytes : UInt64} (gives : Gives text.toList bytes.toNat) :
    parse (some text) = .ok (ofBytes bytes) := by
  have fits : bytes.toNat ≤ Unsigned.greatest64 := Nat.le_of_lt_succ bytes.toNat_lt
  rw [parse_visible gives.not_blank, Unsigned.read?_trim_eq_some_iff.mpr ⟨gives, fits⟩]
  simp

/-- Every other text is refused. -/
theorem parse_numberless
    (visible : ¬ Text.Blank text.toList)
    (numberless : GivesNone Unsigned.greatest64 text.toList) :
    parse (some text) = .error (.invalidLimit (String.ofList (Text.trim text.toList))) := by
  rw [parse_visible visible, Unsigned.read?_trim_eq_none_iff.mpr numberless]

/-- A text is blank, gives a number of 64 bits, or neither. -/
theorem blank_or_gives_or_numberless (text : String) :
    Text.Blank text.toList ∨ (∃ bytes : UInt64, Gives text.toList bytes.toNat) ∨
      ¬ Text.Blank text.toList ∧ GivesNone Unsigned.greatest64 text.toList := by
  by_cases blank : Text.Blank text.toList
  · exact Or.inl blank
  by_cases numberless : GivesNone Unsigned.greatest64 text.toList
  · exact Or.inr (Or.inr ⟨blank, numberless⟩)
  · simp only [GivesNone, not_forall, Nat.not_lt] at numberless
    rcases numberless with ⟨value, gives, fits⟩
    refine Or.inr (Or.inl ⟨UInt64.ofNat value, ?_⟩)
    rw [UInt64.toNat_ofNat_of_lt' (Nat.lt_succ_of_le fits)]
    exact gives

theorem parse_eq_unbounded_iff :
    parse (some text) = .ok .unbounded ↔ Text.Blank text.toList := by
  refine ⟨?_, parse_blank⟩
  intro unlimited
  rcases blank_or_gives_or_numberless text with blank | ⟨bytes, gives⟩ | ⟨visible, numberless⟩
  · exact blank
  · rw [parse_gives gives] at unlimited
    cases unlimited
  · rw [parse_numberless visible numberless] at unlimited
    cases unlimited

theorem parse_eq_ofBytes_iff {bytes : UInt64} :
    parse (some text) = .ok (ofBytes bytes) ↔ Gives text.toList bytes.toNat := by
  refine ⟨?_, parse_gives⟩
  intro limited
  rcases blank_or_gives_or_numberless text with blank | ⟨other, gives⟩ | ⟨visible, numberless⟩
  · rw [parse_blank blank] at limited
    cases limited
  · rw [parse_gives gives] at limited
    cases limited
    exact gives
  · rw [parse_numberless visible numberless] at limited
    cases limited

theorem parse_eq_error_iff {error : RunError} :
    parse (some text) = .error error ↔
      error = .invalidLimit (String.ofList (Text.trim text.toList)) ∧
        ¬ Text.Blank text.toList ∧ GivesNone Unsigned.greatest64 text.toList := by
  constructor
  · intro refused
    rcases blank_or_gives_or_numberless text with blank | ⟨bytes, gives⟩ | ⟨visible, numberless⟩
    · rw [parse_blank blank] at refused
      cases refused
    · rw [parse_gives gives] at refused
      cases refused
    · rw [parse_numberless visible numberless] at refused
      cases refused
      exact ⟨rfl, visible, numberless⟩
  · rintro ⟨rfl, visible, numberless⟩
    exact parse_numberless visible numberless

end ReadLimit

/-! ## Sizes and addresses -/

namespace DatabaseSettings

/-- What a size is: the default where it is absent, and otherwise the number that it gives. -/
inductive StandsFor (default : UInt32) : Option String → UInt32 → Prop where
  | absent : StandsFor default none default
  | given {text : String} {value : UInt32} (gives : Gives text.toList value.toNat) :
      StandsFor default (some text) value

section Size

variable {variableName text : String} {default value : UInt32} {given : Option String}
  {error : DatabaseError}

theorem size_standsFor (stands : StandsFor default given value) :
    size variableName default given = .ok value := by
  cases stands with
  | absent => rfl
  | given gives =>
      have fits : value.toNat ≤ Unsigned.greatest32 := Nat.le_of_lt_succ value.toNat_lt
      rw [size, Unsigned.read?_trim_eq_some_iff.mpr ⟨gives, fits⟩]
      simp

theorem size_sizeless (sizeless : GivesNone Unsigned.greatest32 text.toList) :
    size variableName default (some text) =
      .error (.config (variableName ++ "=" ++ text ++ " no es un entero válido")) := by
  rw [size, Unsigned.read?_trim_eq_none_iff.mpr sizeless]

/-- What is given for a size stands for one, or gives none. -/
theorem standsFor_or_sizeless (default : UInt32) (given : Option String) :
    (∃ value, StandsFor default given value) ∨
      ∃ text, given = some text ∧ GivesNone Unsigned.greatest32 text.toList := by
  cases given with
  | none => exact Or.inl ⟨default, .absent⟩
  | some text =>
      by_cases sizeless : GivesNone Unsigned.greatest32 text.toList
      · exact Or.inr ⟨text, rfl, sizeless⟩
      · simp only [GivesNone, not_forall, Nat.not_lt] at sizeless
        rcases sizeless with ⟨value, gives, fits⟩
        refine Or.inl ⟨UInt32.ofNat value, .given ?_⟩
        rw [UInt32.toNat_ofNat_of_lt' (Nat.lt_succ_of_le fits)]
        exact gives

theorem size_eq_ok_iff :
    size variableName default given = .ok value ↔ StandsFor default given value := by
  refine ⟨?_, size_standsFor⟩
  intro accepted
  rcases standsFor_or_sizeless default given with ⟨other, stands⟩ | ⟨text, rfl, sizeless⟩
  · rw [size_standsFor stands] at accepted
    cases accepted
    exact stands
  · rw [size_sizeless sizeless] at accepted
    cases accepted

theorem size_error (refused : size variableName default given = .error error) :
    ∃ text, given = some text ∧ GivesNone Unsigned.greatest32 text.toList ∧
      error = .config (variableName ++ "=" ++ text ++ " no es un entero válido") := by
  rcases standsFor_or_sizeless default given with ⟨other, stands⟩ | ⟨text, rfl, sizeless⟩
  · rw [size_standsFor stands] at refused
    cases refused
  · rw [size_sizeless sizeless] at refused
    exact ⟨text, rfl, sizeless, (Except.error.inj refused).symm⟩

end Size

section Address

variable {url : String}

theorem isBlankText_iff : isBlankText url = true ↔ Text.Blank url.toList :=
  List.all_eq_true

theorem address_visible (visible : ¬ Text.Blank url.toList) : address (some url) = .ok url := by
  rw [address, if_neg (mt isBlankText_iff.mp visible)]

theorem address_blank (blank : Text.Blank url.toList) :
    address (some url) = .error (.config (urlVariable ++ " no definido")) := by
  rw [address, if_pos (isBlankText_iff.mpr blank)]

theorem address_eq_ok_iff {given : Option String} :
    address given = .ok url ↔ given = some url ∧ ¬ Text.Blank url.toList := by
  constructor
  · intro accepted
    cases given with
    | none => cases accepted
    | some text =>
        by_cases blank : Text.Blank text.toList
        · rw [address_blank blank] at accepted
          cases accepted
        · rw [address_visible blank] at accepted
          cases accepted
          exact ⟨rfl, blank⟩
  · rintro ⟨rfl, visible⟩
    exact address_visible visible

end Address

/-! ## All three together -/

/-- Settings are as they are given: the address verbatim, and the sizes that are stood for. -/
structure GivenBy (settings : DatabaseSettings) (url min max : Option String) : Prop where
  address : url = some settings.url
  visible : ¬ Text.Blank settings.url.toList
  minConnections : StandsFor defaultMin min settings.minConnections
  maxConnections : StandsFor defaultMax max settings.maxConnections

/-- What is wrong with three variables; of several things the first. -/
inductive Complains : (url min max : Option String) → String → Prop where
  | noAddress {min max : Option String} : Complains none min max (urlVariable ++ " no definido")
  | blankAddress {url : String} {min max : Option String} (blank : Text.Blank url.toList) :
      Complains (some url) min max (urlVariable ++ " no definido")
  | noMin {url min : String} {max : Option String}
      (visible : ¬ Text.Blank url.toList)
      (sizeless : GivesNone Unsigned.greatest32 min.toList) :
      Complains (some url) (some min) max (minVariable ++ "=" ++ min ++ " no es un entero válido")
  | noMax {url max : String} {min : Option String} {value : UInt32}
      (visible : ¬ Text.Blank url.toList)
      (stands : StandsFor defaultMin min value)
      (sizeless : GivesNone Unsigned.greatest32 max.toList) :
      Complains (some url) min (some max) (maxVariable ++ "=" ++ max ++ " no es un entero válido")

variable {url min max : Option String}

theorem ofVariables_eq_ok_iff {settings : DatabaseSettings} :
    ofVariables url min max = .ok settings ↔ settings.GivenBy url min max := by
  constructor
  · intro accepted
    rcases bind_eq_ok accepted with ⟨url, addressed, accepted⟩
    rcases bind_eq_ok accepted with ⟨least, minGiven, accepted⟩
    rcases bind_eq_ok accepted with ⟨greatest, maxGiven, accepted⟩
    cases accepted
    rcases address_eq_ok_iff.mp addressed with ⟨same, visible⟩
    exact ⟨same, visible, size_eq_ok_iff.mp minGiven, size_eq_ok_iff.mp maxGiven⟩
  · rintro ⟨rfl, visible, minGiven, maxGiven⟩
    rw [ofVariables, address_visible visible, ok_bind, size_standsFor minGiven, ok_bind,
      size_standsFor maxGiven]
    rfl

theorem ofVariables_complains
    {description : String} (complains : Complains url min max description) :
    ofVariables url min max = .error (.config description) := by
  cases complains with
  | noAddress => rfl
  | blankAddress blank => rw [ofVariables, address_blank blank, error_bind]
  | noMin visible sizeless =>
      rw [ofVariables, address_visible visible, ok_bind, size_sizeless sizeless, error_bind]
  | noMax visible stands sizeless =>
      rw [ofVariables, address_visible visible, ok_bind, size_standsFor stands, ok_bind,
        size_sizeless sizeless, error_bind]

theorem ofVariables_eq_error_iff {error : DatabaseError} :
    ofVariables url min max = .error error ↔
      ∃ description, error = .config description ∧ Complains url min max description := by
  constructor
  · intro refused
    cases url with
    | none =>
        cases refused
        exact ⟨_, rfl, .noAddress⟩
    | some url =>
        rcases Classical.em (Text.Blank url.toList) with blank | visible
        · rw [ofVariables_complains (.blankAddress blank)] at refused
          cases refused
          exact ⟨_, rfl, .blankAddress blank⟩
        rw [ofVariables, address_visible visible, ok_bind] at refused
        rcases bind_eq_error refused with wrongMin | ⟨least, minGiven, refused⟩
        · rcases size_error wrongMin with ⟨text, rfl, sizeless, rfl⟩
          exact ⟨_, rfl, .noMin visible sizeless⟩
        rcases bind_eq_error refused with wrongMax | ⟨greatest, maxGiven, refused⟩
        · rcases size_error wrongMax with ⟨text, rfl, sizeless, rfl⟩
          exact ⟨_, rfl, .noMax visible (size_eq_ok_iff.mp minGiven) sizeless⟩
        · cases refused
  · rintro ⟨description, rfl, complains⟩
    exact ofVariables_complains complains

end DatabaseSettings

/-! ## Settings -/

/--
A read limit is absent exactly if its text is blank, and is set exactly to the number of 64 bits
that the text gives; every other text is refused, a number that is too large among them.

Settings of a database are accepted exactly if there is an address that is not blank, which is kept
as it stands, and each size is absent or gives a number of 32 bits, which it then is.  Otherwise the
first setting that is wrong is complained of, as a setting.
-/
theorem numeric_settings :
    (∀ text : String,
      (ReadLimit.parse (some text) = .ok .unbounded ↔ Text.Blank text.toList) ∧
      (∀ bytes : UInt64,
        ReadLimit.parse (some text) = .ok (.ofBytes bytes) ↔ Gives text.toList bytes.toNat) ∧
      ∀ error,
        ReadLimit.parse (some text) = .error error ↔
          error = .invalidLimit (String.ofList (Text.trim text.toList)) ∧
            ¬ Text.Blank text.toList ∧ GivesNone Unsigned.greatest64 text.toList) ∧
    ∀ url min max : Option String,
      (∀ settings,
        DatabaseSettings.ofVariables url min max = .ok settings ↔
          settings.GivenBy url min max) ∧
      ∀ error,
        DatabaseSettings.ofVariables url min max = .error error ↔
          ∃ description, error = .config description ∧
            DatabaseSettings.Complains url min max description := by
  constructor
  · intro text
    refine ⟨ReadLimit.parse_eq_unbounded_iff, fun bytes => ReadLimit.parse_eq_ofBytes_iff, ?_⟩
    exact fun error => ReadLimit.parse_eq_error_iff
  · intro url min max
    refine ⟨fun settings => DatabaseSettings.ofVariables_eq_ok_iff, ?_⟩
    exact fun error => DatabaseSettings.ofVariables_eq_error_iff

/-- The greatest numbers are taken with all that may stand around them, and the next is refused. -/
theorem numeric_settings_greatest :
    ReadLimit.parse (some " +0018446744073709551615\u3000") =
        .ok (.ofBytes 18446744073709551615) ∧
      ReadLimit.parse (some "18446744073709551616") =
        .error (.invalidLimit "18446744073709551616") ∧
      DatabaseSettings.ofVariables (some " db ") (some "4294967295 ") none =
        .ok ⟨" db ", 4294967295, 16⟩ ∧
      DatabaseSettings.ofVariables (some " db ") (some "") none =
        .error (.config "DATABASE_MIN_CONNECTIONS= no es un entero válido") := by
  have evaluated {text : List Char} {value : Nat}
      (read : Unsigned.read? UInt64.size (Text.trim text) = some value) : Gives text value :=
    (Unsigned.read?_trim_eq_some_iff.mp read).1
  have padded : Gives " +0018446744073709551615\u3000".toList 18446744073709551615 :=
    evaluated (by decide +kernel)
  have tooLarge : Gives "18446744073709551616".toList 18446744073709551616 :=
    evaluated (by decide +kernel)
  have size : Gives "4294967295 ".toList 4294967295 :=
    evaluated (by decide +kernel)
  refine ⟨?_, ?_, ?_, ?_⟩
  · exact ((numeric_settings.1 _).2.1 18446744073709551615).mpr padded
  · refine ((numeric_settings.1 _).2.2 _).mpr ⟨by decide, tooLarge.not_blank, ?_⟩
    intro value gives
    exact Nat.le_of_eq (tooLarge.unique gives)
  · exact
      ((numeric_settings.2 _ _ _).1 _).mpr ⟨rfl, by decide, .given size, .absent⟩
  · refine ((numeric_settings.2 _ _ _).2 _).mpr ⟨_, rfl, .noMin (by decide) ?_⟩
    intro value gives
    exact absurd (by decide) gives.not_blank

end RunArchive
