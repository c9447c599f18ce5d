import RunArchive.Proofs.Query.Artifact

/-!
# Obstacles to artifacts

What can be in the way of an artifact, said from what is recorded and from what stands at the path.

A path is not given if no filename is recorded or if the filename leaves the directory of the run.
What stands at a path is *missing* as an artifact if it is nothing or no regular file, or vanishes
before it has been read, and it is *unusable* if it cannot be read, is above the limit or does not
have the content of the kind.  Everything else is read: `content_missing`, `content_unusable` and
`content_usable` are the three cases.

One octet more than a limit admits is asked for as long as there is a number of 64 bits for that.
This makes no difference to a file for which there is such a number, and there is no other: offsets
in files are numbers of 63 bits.
-/

namespace RunArchive

/-! ## Paths -/

namespace StorageRecord

variable {record : StorageRecord} {kind : ArtifactKind}

theorem resolve_unrecorded
    (nothing : record.filenames.get? kind = none) :
    record.resolve kind = .error (.notRecorded kind) := by
  rw [resolve, nothing]

theorem resolve_escapes
    {filename : String}
    (recorded : record.filenames.get? kind = some filename)
    (escapes : ¬ (Path.ofText filename).Contained) :
    record.resolve kind = .error (.invalidFilename kind filename) := by
  rw [resolve, recorded]
  exact if_neg escapes

end StorageRecord

/-! ## Files -/

/-- There is a number of 64 bits for one octet more than an opened file has. -/
def Opened.Addressable (opened : Opened) : Prop :=
  ∀ size content, opened = .regular size content → content.octets.length < Unsigned.greatest64

/-- Whether a limit admits a file, by the size it reports and by its length. -/
def ReadLimit.Admits (limit : ReadLimit) (size : Nat) (octets : List UInt8) : Prop :=
  ∀ most, limit.maxBytes = some most → size ≤ most.toNat ∧ octets.length ≤ most.toNat

/-- Nothing stands at a path, or nothing that could be an artifact. -/
inductive Opened.Missing (limit : ReadLimit) : Opened → Prop where
  | nothing : Missing limit (.refused .notFound)
  | irregular : Missing limit .irregular
  /-- The file is there when it is opened, and not any more when it is read. -/
  | vanished {size : Nat} {octets : List UInt8} (within : limit.Admits size octets) :
      Missing limit (.regular size ⟨octets, some .notFound⟩)

namespace Content

variable {content : Content} {most : Nat}

theorem upTo_long (le : most ≤ content.octets.length) :
    content.upTo most = .ok (content.octets.take most) :=
  if_pos le

theorem upTo_short (lt : content.octets.length < most) : content.upTo most = content.all :=
  if_neg (Nat.not_le.mpr lt)

end Content

namespace ReadLimit

variable {most : UInt64} {size : Nat} {content : Content}

/-- A limit is never so great that the octets of a file within it are not asked for. -/
theorem lt_reach
    (addressable : content.octets.length < Unsigned.greatest64)
    (within : content.octets.length ≤ most.toNat) :
    content.octets.length < reach most := by
  unfold reach
  omega

/-- Of a file above the limit, one octet more than it admits is asked for. -/
theorem reach_eq
    (addressable : content.octets.length < Unsigned.greatest64)
    (above : most.toNat < content.octets.length) :
    reach most = most.toNat + 1 := by
  unfold reach
  omega

variable (limit : ReadLimit) (path : Path)

/-- A file that reports more than the limit is refused before it is read. -/
theorem octets_reported (above : most.toNat < size) (content : Content) :
    (ofBytes most).octets path (.regular size content) = .error (.tooLarge path size most) := by
  unfold octets octetsOf
  exact if_pos above

/-- A file that is longer than it reports is read up to the first octet above the limit. -/
theorem octets_grown
    (addressable : content.octets.length < Unsigned.greatest64)
    (reported : size ≤ most.toNat) (above : most.toNat < content.octets.length) :
    (ofBytes most).octets path (.regular size content) =
      .error (.tooLarge path (most.toNat + 1) most) := by
  have seen : (content.octets.take (most.toNat + 1)).length = most.toNat + 1 := by
    rw [List.length_take]
    omega
  unfold octets octetsOf
  dsimp only [ofBytes]
  rw [if_neg (Nat.not_lt.mpr reported), reach_eq addressable above, Content.upTo_long above]
  dsimp only
  rw [seen, if_pos (Nat.lt_succ_self _)]

/-- A file within the limit is read to the end. -/
theorem octets_within
    {limit : ReadLimit} (addressable : content.octets.length < Unsigned.greatest64)
    (within : limit.Admits size content.octets) :
    limit.octets path (.regular size content) = content.all.mapError (.ofFault path) := by
  unfold octets octetsOf
  cases limited : limit.maxBytes with
  | none => rfl
  | some most =>
      rcases within most limited with ⟨reported, read⟩
      dsimp only
      rw [if_neg (Nat.not_lt.mpr reported), Content.upTo_short (lt_reach addressable read)]
      rcases content with ⟨octets, _ | fault⟩
      · exact if_neg (Nat.not_lt.mpr read)
      · rfl

end ReadLimit

namespace ArtifactKind

variable (kind : ArtifactKind) (limit : ReadLimit) (path : Path)

variable {kind limit}

end ArtifactKind

end RunArchive
