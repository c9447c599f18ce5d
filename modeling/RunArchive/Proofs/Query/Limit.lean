import RunArchive.Proofs.Query.Obstacles

/-!
# Limits only refuse

A reader with a limit either refuses a file as too large or does what a reader without a limit does
with it.  It refuses exactly the files that report, or turn out to have, more octets than the limit
admits; nothing is ever made of the first part of a file.  So a greater limit makes no difference to
what is not too large for a smaller one.

`Guards` says what becomes of everything that can be opened, and `OnlyRefuses` what follows.  Both
hold of any way to make something of the octets of a file that does not call files too large on its
own: see `guards_octets` and `Guards.onlyRefuses`.

Limits are numbers of 64 bits, up to the greatest one, for which there is no octet more to ask for.
Files are `Opened.Addressable`, as all files are whose offsets have 63 bits, so this is no exception.
-/

namespace RunArchive

/-- A file is too large. -/
inductive ArtifactError.TooLarge : ArtifactError → Prop where
  | intro (path : Path) (size : Nat) (limit : UInt64) : TooLarge (.tooLarge path size limit)

namespace Opened

theorem regular_or_irregular (opened : Opened) :
    (∃ size content, opened = .regular size content) ∨
      ∀ size content, opened ≠ .regular size content := by
  cases opened with
  | regular size content => exact Or.inl ⟨size, content, rfl⟩
  | refused | irregular => exact Or.inr nofun

/-- A regular file reports more octets than a limit admits, or has more that can be read. -/
inductive Exceeds (most : UInt64) : Opened → Prop where
  | reported {size : Nat} {content : Content} (above : most.toNat < size) :
      Exceeds most (.regular size content)
  | grown {size : Nat} {content : Content} (above : most.toNat < content.octets.length) :
      Exceeds most (.regular size content)

theorem Exceeds.lower
    {most greater : UInt64} {opened : Opened}
    (exceeds : opened.Exceeds greater) (le : most ≤ greater) :
    opened.Exceeds most := by
  rw [UInt64.le_iff_toNat_le] at le
  cases exceeds with
  | reported above => exact .reported (Nat.lt_of_le_of_lt le above)
  | grown above => exact .grown (Nat.lt_of_le_of_lt le above)

theorem exceeds_iff {most : UInt64} {size : Nat} {content : Content} :
    (regular size content).Exceeds most ↔
      most.toNat < size ∨ most.toNat < content.octets.length := by
  constructor
  · rintro (above | above)
    · exact Or.inl above
    · exact Or.inr above
  · rintro (above | above)
    · exact .reported above
    · exact .grown above

end Opened

theorem ArtifactError.not_tooLarge_ofFault (path : Path) (fault : FileFault) :
    ¬ (ofFault path fault).TooLarge := by
  cases fault <;> nofun

namespace ReadLimit

section Octets

variable (path : Path)

/-- What is no regular file is refused alike by all limits. -/
theorem octets_irregular
    {opened : Opened} (irregular : ∀ size content, opened ≠ .regular size content) :
    ∃ cause, ∀ limit : ReadLimit, limit.octets path opened = .error cause := by
  cases opened with
  | refused fault => exact ⟨.ofFault path fault, fun limit => rfl⟩
  | irregular => exact ⟨.missingFile path, fun limit => rfl⟩
  | regular size content => exact absurd rfl (irregular size content)

/-- Without a limit, nothing is too large. -/
theorem octets_unbounded
    {opened : Opened} {cause : ArtifactError}
    (refused : unbounded.octets path opened = .error cause) :
    ¬ cause.TooLarge := by
  cases opened with
  | refused fault =>
      rw [← Except.error.inj refused]
      exact ArtifactError.not_tooLarge_ofFault path fault
  | irregular =>
      rw [← Except.error.inj refused]
      nofun
  | regular size content =>
      rcases content with ⟨octets, _ | fault⟩
      · cases refused
      · rw [← Except.error.inj refused]
        exact ArtifactError.not_tooLarge_ofFault path fault

end Octets

/--
How the outcome of reading what has been opened at a path depends on the limit, where `whole` is
what becomes of all octets of a file.
-/
structure Guards {Value : Type} (path : Path) (opened : Opened)
    (whole : List UInt8 → Except ArtifactError Value)
    (outcome : ReadLimit → Except ArtifactError Value) : Prop where
  /-- What is no regular file is refused alike by all limits. -/
  irregular :
    (∀ size content, opened ≠ .regular size content) →
      ∃ cause, ∀ limit, outcome limit = .error cause
  /-- Without a limit, a file is read as a whole. -/
  unlimited :
    ∀ size octets, opened = .regular size (.whole octets) → outcome .unbounded = whole octets
  /-- Without a limit, nothing is too large. -/
  admits : ∀ cause, outcome .unbounded = .error cause → ¬ cause.TooLarge
  /-- A file that reports more than the limit is refused with the size that it reports. -/
  reported :
    ∀ most size content, opened = .regular size content → most.toNat < size →
      outcome (.ofBytes most) = .error (.tooLarge path size most)
  /--
  A file that has more than it reports is refused one octet above the limit, also if there is
  something behind that octet that cannot be read.
  -/
  grown :
    ∀ most size content, opened = .regular size content → size ≤ most.toNat →
      most.toNat < content.octets.length →
      outcome (.ofBytes most) = .error (.tooLarge path (most.toNat + 1) most)
  /-- Any other file is read as if there were no limit. -/
  within :
    ∀ most size octets, opened = .regular size (.whole octets) → size ≤ most.toNat →
      octets.length ≤ most.toNat → outcome (.ofBytes most) = whole octets
  /-- A file within the limit that cannot be read to the end is refused as without one. -/
  unreadable :
    ∀ most size octets fault, opened = .regular size ⟨octets, some fault⟩ → size ≤ most.toNat →
      octets.length ≤ most.toNat → outcome (.ofBytes most) = outcome .unbounded

/-- All readers that make something of the octets of a file keep to limits in the same way. -/
theorem guards_octets
    {Value : Type} (path : Path) {opened : Opened} (addressable : opened.Addressable)
    {whole : List UInt8 → Except ArtifactError Value}
    (decodes : ∀ octets cause, whole octets = .error cause → ¬ cause.TooLarge) :
    Guards path opened whole fun limit => limit.octets path opened >>= whole where
  irregular := by
    intro irregular
    rcases octets_irregular path irregular with ⟨cause, refused⟩
    refine ⟨cause, fun limit => ?_⟩
    rw [refused, error_bind]
  unlimited := by
    rintro size octets rfl
    rfl
  admits := by
    intro cause failed
    rcases bind_eq_error failed with failed | ⟨octets, _, failed⟩
    · exact octets_unbounded path failed
    · exact decodes octets cause failed
  reported := by
    rintro most size content rfl above
    rw [octets_reported path above, error_bind]
  grown := by
    rintro most size content rfl reported above
    rw [octets_grown path (addressable _ _ rfl) reported above, error_bind]
  within := by
    rintro most size octets rfl reported read
    have admitted : (ofBytes most).Admits size octets := by
      rintro other ⟨⟩
      exact ⟨reported, read⟩
    rw [octets_within path (addressable _ _ rfl) admitted]
    rfl
  unreadable := by
    rintro most size octets fault rfl reported read
    have admitted : (ofBytes most).Admits size octets := by
      rintro other ⟨⟩
      exact ⟨reported, read⟩
    rw [octets_within path (addressable _ _ rfl) admitted]
    rfl

/-- What follows for the outcomes of reading with one limit and with several ones. -/
structure OnlyRefuses {Value : Type} (path : Path) (opened : Opened)
    (whole : List UInt8 → Except ArtifactError Value)
    (outcome : ReadLimit → Except ArtifactError Value) : Prop
    extends Guards path opened whole outcome where
  /-- A regular file is too large exactly if it reports or has more than the limit. -/
  tooLarge_iff :
    ∀ most size content, opened = .regular size content →
      ((∃ seen, outcome (.ofBytes most) = .error (.tooLarge path seen most)) ↔
        most.toNat < size ∨ most.toNat < content.octets.length)
  /-- The size of what is too large is above the limit. -/
  above :
    ∀ most cause, outcome (.ofBytes most) = .error cause → cause.TooLarge →
      ∃ seen, cause = .tooLarge path seen most ∧ most.toNat < seen
  /-- What is not too large for a limit is the same for greater ones, and without one. -/
  raised :
    ∀ most, (∀ cause, outcome (.ofBytes most) = .error cause → ¬ cause.TooLarge) →
      outcome .unbounded = outcome (.ofBytes most) ∧
        ∀ greater, most ≤ greater → outcome (.ofBytes greater) = outcome (.ofBytes most)

section Consequences

variable {Value : Type} {path : Path} {opened : Opened}
  {whole : List UInt8 → Except ArtifactError Value}
  {outcome : ReadLimit → Except ArtifactError Value}

theorem Guards.exceeding
    (guards : Guards path opened whole outcome) {most : UInt64} (exceeds : opened.Exceeds most) :
    ∃ seen, outcome (.ofBytes most) = .error (.tooLarge path seen most) ∧ most.toNat < seen := by
  cases exceeds with
  | @reported size content above =>
      exact ⟨size, guards.reported most size content rfl above, above⟩
  | @grown size content above =>
      -- A file that reports its length is refused before it is read.
      by_cases reported : most.toNat < size
      · exact ⟨size, guards.reported most size _ rfl reported, reported⟩
      · have refused := guards.grown most size content rfl (Nat.le_of_not_lt reported) above
        exact ⟨_, refused, Nat.lt_succ_self _⟩

theorem Guards.fitting
    (guards : Guards path opened whole outcome) {most : UInt64} (fits : ¬ opened.Exceeds most) :
    outcome (.ofBytes most) = outcome .unbounded := by
  rcases opened.regular_or_irregular with ⟨size, content, rfl⟩ | irregular
  · have reported : size ≤ most.toNat := Nat.le_of_not_lt fun above => fits (.reported above)
    have read : content.octets.length ≤ most.toNat :=
      Nat.le_of_not_lt fun above => fits (.grown above)
    rcases content with ⟨octets, _ | fault⟩
    · rw [guards.unlimited size octets rfl]
      exact guards.within most size octets rfl reported read
    · exact guards.unreadable most size octets fault rfl reported read
  · rcases guards.irregular irregular with ⟨cause, alike⟩
    exact (alike _).trans (alike _).symm

/-- What exceeds a limit is too large for it, and nothing else is. -/
theorem Guards.tooLarge_iff (guards : Guards path opened whole outcome) (most : UInt64) :
    (∃ seen, outcome (.ofBytes most) = .error (.tooLarge path seen most)) ↔
      opened.Exceeds most := by
  constructor
  · rintro ⟨seen, refused⟩
    by_contra fits
    rw [guards.fitting fits] at refused
    exact guards.admits _ refused (.intro path seen most)
  · intro exceeds
    rcases guards.exceeding exceeds with ⟨seen, refused, _⟩
    exact ⟨seen, refused⟩

theorem Guards.onlyRefuses (guards : Guards path opened whole outcome) :
    OnlyRefuses path opened whole outcome where
  toGuards := guards
  tooLarge_iff := by
    rintro most size content rfl
    rw [guards.tooLarge_iff, Opened.exceeds_iff]
  above := by
    intro most cause refused large
    by_cases exceeds : opened.Exceeds most
    · rcases guards.exceeding exceeds with ⟨seen, tooLarge, above⟩
      rw [refused] at tooLarge
      exact ⟨seen, Except.error.inj tooLarge, above⟩
    · rw [guards.fitting exceeds] at refused
      exact absurd large (guards.admits cause refused)
  raised := by
    intro most small
    have fits : ¬ opened.Exceeds most := by
      intro exceeds
      rcases guards.exceeding exceeds with ⟨seen, tooLarge, _⟩
      exact small _ tooLarge (.intro path seen most)
    refine ⟨(guards.fitting fits).symm, ?_⟩
    intro greater le
    have stillFits : ¬ opened.Exceeds greater := fun exceeds => fits (exceeds.lower le)
    rw [guards.fitting fits, guards.fitting stillFits]

end Consequences

end ReadLimit

/-! ## Readers -/

namespace ArtifactReader

/-- What is made of the octets of a file that have been decoded. -/
def made {Fault Content Value : Type} (make : Content → Value) (name : Fault → ContentFault)
    (path : Path) : Except Fault Content → Except ArtifactError Value
  | .ok content => .ok (make content)
  | .error fault => .error (.undecodable path (name fault))

theorem not_tooLarge_made
    {Fault Content Value : Type} {make : Content → Value} {name : Fault → ContentFault}
    {path : Path} {decoded : Except Fault Content} {cause : ArtifactError}
    (failed : made make name path decoded = .error cause) :
    ¬ cause.TooLarge := by
  cases decoded with
  | ok content => cases failed
  | error fault =>
      cases failed
      nofun

/-- The text that is made of all octets of a file. -/
def textOf (path : Path) (octets : List UInt8) : Except ArtifactError String :=
  made String.ofList .encoding path (Utf8.decode octets)

/-- The value that is made of all octets of a file. -/
def valueOf (codec : Codec) (path : Path) (octets : List UInt8) : Except ArtifactError Json :=
  made id .codec path (codec.decode octets)

theorem text_eq (files : FileView) (codec : Codec) (limit : ReadLimit) (path : Path) :
    (ArtifactReader.mk files codec limit).text path =
      (limit.octets path (files path) >>= textOf path) := by
  rw [text, ReadLimit.text]
  congr 1
  funext octets
  rw [textOf]
  cases Utf8.decode octets <;> rfl

theorem object_eq (files : FileView) (codec : Codec) (limit : ReadLimit) (path : Path) :
    (ArtifactReader.mk files codec limit).object path =
      (limit.octets path (files path) >>= valueOf codec path) := by
  rw [object, ReadLimit.object]
  congr 1
  funext octets
  rw [valueOf]
  cases codec.decode octets <;> rfl

/--
Whatever there is at a path, a limit turns what reading a text or a value comes to into the refusal
of a file that is too large, exactly where it must, or makes no difference to it.
-/
theorem limit_exact
    {files : FileView} {path : Path} (addressable : (files path).Addressable) (codec : Codec) :
    ReadLimit.OnlyRefuses path (files path) (textOf path)
      (fun limit => (ArtifactReader.mk files codec limit).text path) ∧
    ReadLimit.OnlyRefuses path (files path) (valueOf codec path)
      (fun limit => (ArtifactReader.mk files codec limit).object path) := by
  constructor
  · simp only [text_eq]
    exact (ReadLimit.guards_octets path addressable fun _ _ => not_tooLarge_made).onlyRefuses
  · simp only [object_eq]
    exact (ReadLimit.guards_octets path addressable fun _ _ => not_tooLarge_made).onlyRefuses

/-- A view of a file that reports no octets, has three, and breaks off behind them. -/
def growingView : FileView := fun _ => .regular 0 ⟨Utf8.ofString "abc", some .inputOutput⟩

/-- A path to that file, which is no text. -/
def growingPath : Path := ⟨[0xFF]⟩

/-- With the third octet the file is too large; without a limit, or above it, it is unreadable. -/
theorem limit_exact_growing :
    (growingView growingPath).Addressable ∧
      (ArtifactReader.mk growingView .sealing (.ofBytes 2)).text growingPath =
        .error (.tooLarge growingPath 3 2) ∧
      (ArtifactReader.mk growingView .sealing (.ofBytes 3)).text growingPath =
        .error (.unreadable growingPath .inputOutput) := by
  have addressable : (growingView growingPath).Addressable := by
    rintro size content ⟨⟩
    decide
  have text := (limit_exact addressable .sealing).1
  have refused := text.grown 2 0 _ rfl (by decide) (by decide)
  have unread := text.unreadable 3 0 _ _ rfl (by decide) (by decide)
  exact ⟨addressable, refused, unread.trans rfl⟩

end ArtifactReader

end RunArchive
