import RunArchive.Proofs.Json.Pretty
import RunArchive.Proofs.Json.Record
import RunArchive.Proofs.Run.Id
import RunArchive.Proofs.Time.Timestamp
import RunArchive.Run.Summary

/-!
# Summaries as JSON texts

A summary has a text if its directory has one.  The text is read back as that summary, up to the
precision of its runtime and up to leap seconds that a timestamp cannot tell from the second that
follows.

Each field is read back from its own value, so the members of the object are all `Known`, and a
record made of them does not depend on their order.  Both ways to read a text come to the same: as
a record, and as a value that is a record.
-/

namespace RunArchive

/-! ## Values of fields -/

theorem RunStatus.ofJson_toJson (status : RunStatus) : ofJson status.toJson = .ok status := by
  cases status <;> rfl

namespace Summary

theorem instantOfJson_instantToJson (instant : Instant) :
    instantOfJson (instantToJson instant) = .ok instant.aligned := by
  have string :
      Json.asString "an RFC 3339 formatted date and time string" (instantToJson instant).shape =
        .ok (String.ofList (Timestamp.text instant)) := rfl
  rw [instantOfJson, string, ok_bind, String.toList_ofList, Timestamp.read?_text]
  rfl

theorem readOptional_instant (instant : Option Instant) :
    Json.readOptional instantOfJson ((instant.map instantToJson).getD .null) =
      .ok (instant.map Instant.aligned) := by
  cases instant with
  | none => rfl
  | some instant =>
      change (instantOfJson (instantToJson instant)).map some = .ok (some instant.aligned)
      rw [instantOfJson_instantToJson]
      rfl

theorem runtimeMillis_le (summary : Summary) : summary.runtimeMillis ≤ Unsigned.greatest64 :=
  Nat.min_le_right _ _

/-! ## Members -/

/-- The members of a summary as a JSON object, its directory being this text. -/
def members (summary : Summary) (directory : String) : List (String × Json) :=
  [("dispatch_id", summary.id.toJson),
    ("status", summary.status.toJson),
    ("total_electrons", .ofNat summary.total.toNat),
    ("total_electrons_completed", .ofNat summary.completed.toNat),
    ("started_at", instantToJson summary.startedAt),
    ("ended_at", (summary.endedAt.map instantToJson).getD .null),
    ("directory", .string directory),
    ("runtime", .ofNat summary.runtimeMillis)]

/-- A summary has a JSON value if and only if its directory is a text. -/
theorem toJson_eq_ok_iff {summary : Summary} {value : Json} :
    summary.toJson = .ok value ↔
      ∃ directory, summary.directory = .ofText directory ∧
        value = .object (summary.members directory) := by
  constructor
  · intro made
    rcases bind_eq_ok made with ⟨part, written, assembled⟩
    rcases Json.ofPath_eq_ok_iff.mp written with ⟨directory, textual, rfl⟩
    exact ⟨directory, textual, (Except.ok.inj assembled).symm⟩
  · rintro ⟨directory, textual, rfl⟩
    rw [toJson, textual, Json.ofPath_ofText]
    rfl

variable (summary : Summary) (directory : String)

theorem distinct_members : Json.DistinctKeys (summary.members directory) := by
  simp [Json.DistinctKeys, members]

theorem nesting_endedAt :
    ((summary.endedAt.map instantToJson).getD .null).nesting = 0 := by
  cases summary.endedAt <;> rfl

theorem nesting_members : Json.nestingMembers (summary.members directory) = 0 := by
  simp only [members, Json.nestingMembers, RunId.toJson, RunStatus.toJson, Json.ofNat,
    instantToJson, Json.nesting, summary.nesting_endedAt, Nat.max_self]

/-- All members are fields, and their values are taken. -/
theorem known_members :
    ∀ member ∈ summary.members directory, Json.Known textFields member := by
  intro member isMember
  simp only [members, List.mem_cons, List.not_mem_nil, or_false] at isMember
  rcases isMember with rfl | rfl | rfl | rfl | rfl | rfl | rfl | rfl
  · exact Json.known_scalar rfl rfl (RunId.ofJson_toJson _)
  · exact Json.known_named rfl (RunStatus.ofJson_toJson _)
  · exact Json.known_scalar rfl rfl (Json.readUInt32_ofNat _)
  · exact Json.known_scalar rfl rfl (Json.readUInt32_ofNat _)
  · exact Json.known_scalar rfl rfl (instantOfJson_instantToJson _)
  · exact Json.known_scalar rfl summary.nesting_endedAt (readOptional_instant _)
  · exact Json.known_scalar rfl rfl (Json.readPath_string _)
  · exact Json.known_scalar rfl rfl (Json.readUInt64_ofNat summary.runtimeMillis_le)

/--
The summary that a text gives back: its runtime is cut off to whole milliseconds of 64 bits, and a
misplaced leap second is the second that follows.
-/
def restored : Summary :=
  { summary with
    startedAt := summary.startedAt.aligned
    endedAt := summary.endedAt.map Instant.aligned
    runtime := summary.runtimeMillis * millisecond }

variable {summary directory}

/-- The members make the summary up again, in whatever order they have been found. -/
theorem ofFound_members
    (textual : summary.directory = .ofText directory)
    {found : List (String × Json)} (rearranged : found.Perm (summary.members directory)) :
    ofFound found = .ok summary.restored := by
  have distinct : Json.DistinctKeys found :=
    (summary.distinct_members directory).perm rearranged.symm
  have lookups
      {key : String} {value : Json} (member : (key, value) ∈ summary.members directory) :
      Json.lookup key found = some value :=
    (Json.lookup_eq_some distinct).mpr (rearranged.mem_iff.mpr member)
  have id : Json.required found "dispatch_id" RunId.ofJson = .ok summary.id :=
    Json.required_found (lookups (by simp [members])) (RunId.ofJson_toJson _)
  have status : Json.required found "status" RunStatus.ofJson = .ok summary.status :=
    Json.required_found (lookups (by simp [members])) (RunStatus.ofJson_toJson _)
  have total : Json.required found "total_electrons" Json.readUInt32 = .ok summary.total :=
    Json.required_found (lookups (by simp [members])) (Json.readUInt32_ofNat _)
  have completed :
      Json.required found "total_electrons_completed" Json.readUInt32 = .ok summary.completed :=
    Json.required_found (lookups (by simp [members])) (Json.readUInt32_ofNat _)
  have startedAt :
      Json.required found "started_at" instantOfJson = .ok summary.startedAt.aligned :=
    Json.required_found (lookups (by simp [members])) (instantOfJson_instantToJson _)
  have endedAt :
      Json.optional found "ended_at" instantOfJson =
        .ok (summary.endedAt.map Instant.aligned) :=
    Json.optional_found (lookups (by simp [members])) (readOptional_instant _)
  have path : Json.required found "directory" Json.readPath = .ok (.ofText directory) :=
    Json.required_found (lookups (by simp [members])) (Json.readPath_string _)
  have runtime : Json.required found "runtime" Json.readUInt64 = .ok summary.runtimeMillis :=
    Json.required_found (lookups (by simp [members]))
      (Json.readUInt64_ofNat summary.runtimeMillis_le)
  simp only [ofFound, id, status, total, completed, startedAt, endedAt, path, runtime, ok_bind]
  rw [← textual]
  rfl

/-! ## Texts -/

theorem fits_ofNat {number : Nat} (fits : number ≤ Unsigned.greatest64) :
    (Json.ofNat number).WellFormed := by
  rw [Unsigned.greatest64] at fits
  rw [Json.ofNat, Json.WellFormed, Json.FitsInteger]
  omega

theorem fits_count (count : UInt32) : count.toNat ≤ Unsigned.greatest64 := by
  have below := count.toNat_lt
  rw [Unsigned.greatest64]
  omega

variable (summary directory)

theorem wellFormed_members : Json.WellFormedMembers (summary.members directory) := by
  have total := fits_ofNat (fits_count summary.total)
  have completed := fits_ofNat (fits_count summary.completed)
  have runtime := fits_ofNat summary.runtimeMillis_le
  have endedAt : ((summary.endedAt.map instantToJson).getD .null).WellFormed := by
    cases summary.endedAt <;> exact trivial
  exact ⟨trivial, trivial, total, completed, trivial, endedAt, trivial, runtime, trivial⟩

theorem stable_members : Json.StableMembers (summary.members directory) := by
  have endedAt : ((summary.endedAt.map instantToJson).getD .null).Stable := by
    cases summary.endedAt <;> exact trivial
  exact ⟨trivial, trivial, trivial, trivial, trivial, endedAt, trivial, trivial, trivial⟩

/-- Octets spell the members of a summary as an object. -/
inductive SpellsSummary (summary : Summary) (directory : String) : List UInt8 → Prop where
  | intro {text : List UInt8}
      (inside : Json.Spells text (.members true (summary.members directory))) :
      SpellsSummary summary directory (Json.octet '\x7b' :: text)

theorem spells_compact :
    summary.SpellsSummary directory
      (Utf8.encode (Json.object (summary.members directory)).compact) := by
  rw [Json.encode_object]
  exact .intro
    (Json.spells_compactMembers true _ (summary.wellFormed_members directory)
      (summary.stable_members directory))

theorem spells_pretty :
    summary.SpellsSummary directory
      (Utf8.encode (Json.object (summary.members directory)).pretty) := by
  have inside :=
    Json.spells_prettyMembers 1 (Json.blanks_newLine 0) true (summary.members directory)
      (summary.wellFormed_members directory) (summary.stable_members directory)
  rw [Json.pretty, Json.prettyAt, members, Json.prettyMembers, Json.block_cons]
  exact .intro inside

/-- A text denotes a summary, as a record and as a value. -/
def Denotes (text : List UInt8) (summary : Summary) : Prop :=
  ofText text = .ok summary ∧
    ∃ value, Json.read 127 text = .ok value ∧ ofJson value = .ok summary

variable {summary directory}

/-- Read as a value, a spelled summary has its members in another order. -/
theorem SpellsSummary.read
    {text : List UInt8} (spelled : summary.SpellsSummary directory text) :
    Json.read 127 text = .ok (.object (Json.sortMembers (summary.members directory))) := by
  rcases spelled with ⟨inside⟩
  have rearranged := (Json.sortMembers_perm (summary.distinct_members directory)).symm
  have whole :=
    Json.Spells.object inside rearranged (Json.increasing_sortMembers (summary.members directory))
  have shallow :
      (Json.object (Json.sortMembers (summary.members directory))).nesting ≤ 127 := by
    rw [Json.nesting, ← Json.nestingMembers_perm rearranged, summary.nesting_members]
    decide
  have read := Json.read_spelled whole Json.blanks_nil shallow
  rw [List.append_nil] at read
  exact read

section Textual

variable (textual : summary.directory = .ofText directory)
include textual

/-- Read as a record, a spelled summary is given back. -/
theorem SpellsSummary.ofText
    {text : List UInt8} (spelled : summary.SpellsSummary directory text) :
    ofText text = .ok summary.restored := by
  rcases spelled with ⟨inside⟩
  have read :=
    Json.readRecord_object "LatticeSummary" (summary.known_members directory)
      (summary.distinct_members directory)
      (ofFound_members textual (summary.members directory).reverse_perm) Json.blanks_nil
      Json.blanks_nil inside
  rw [List.nil_append, List.append_nil] at read
  exact read

theorem ofJson_sorted :
    ofJson (.object (Json.sortMembers (summary.members directory))) = .ok summary.restored := by
  have rearranged := Json.sortMembers_perm (summary.distinct_members directory)
  have checked :
      Json.checkMembers fields (Json.sortMembers (summary.members directory)) =
        .ok (Json.sortMembers (summary.members directory)) := by
    apply Json.checkMembers_known
    intro member isMember
    exact summary.known_members directory member (rearranged.mem_iff.mp isMember)
  rw [ofJson, Json.readFields, checked, ok_bind]
  exact ofFound_members textual rearranged

/-- Either way, a spelled summary is given back. -/
theorem SpellsSummary.denotes
    {text : List UInt8} (spelled : summary.SpellsSummary directory text) :
    Denotes text summary.restored :=
  ⟨spelled.ofText textual, _, spelled.read, ofJson_sorted textual⟩

end Textual

variable (summary)

/-! ## Precision -/

/-- The times of a summary are given back unless they lie in misplaced leap seconds. -/
theorem map_aligned_eq_iff (instant : Option Instant) :
    instant.map Instant.aligned = instant ↔
      ∀ known, instant = some known → ¬ known.Misplaced := by
  cases instant with
  | none => simp
  | some instant => simp [Instant.aligned_eq_iff]

/-- A summary is given back if nothing of its times and its runtime is lost. -/
theorem restored_eq_iff :
    summary.restored = summary ↔
      ¬ summary.startedAt.Misplaced ∧
        (∀ ended, summary.endedAt = some ended → ¬ ended.Misplaced) ∧
        summary.runtime % millisecond = 0 ∧
        summary.runtime / millisecond ≤ Unsigned.greatest64 := by
  have same :
      summary.restored = summary ↔
        summary.startedAt.aligned = summary.startedAt ∧
          summary.endedAt.map Instant.aligned = summary.endedAt ∧
          summary.runtimeMillis * millisecond = summary.runtime := by
    constructor
    · intro equal
      exact ⟨congrArg Summary.startedAt equal, congrArg Summary.endedAt equal,
        congrArg Summary.runtime equal⟩
    · rintro ⟨startedAt, endedAt, runtime⟩
      rw [restored, startedAt, endedAt, runtime]
  have exact_runtime :
      summary.runtimeMillis * millisecond = summary.runtime ↔
        summary.runtime % millisecond = 0 ∧
          summary.runtime / millisecond ≤ Unsigned.greatest64 := by
    rw [runtimeMillis, millisecond]
    omega
  rw [same, Instant.aligned_eq_iff, map_aligned_eq_iff, exact_runtime]

theorem instantToJson_aligned (instant : Instant) :
    instantToJson instant.aligned = instantToJson instant := by
  rw [instantToJson, Timestamp.text_aligned, instantToJson]

/-- Nothing more is lost the second time. -/
theorem members_restored :
    summary.restored.members directory = summary.members directory := by
  have millis : summary.restored.runtimeMillis = summary.runtimeMillis := by
    have limit := summary.runtimeMillis_le
    rw [runtimeMillis, restored, Nat.mul_div_cancel _ (by decide)]
    exact Nat.min_eq_left limit
  have startedAt : instantToJson summary.restored.startedAt = instantToJson summary.startedAt :=
    instantToJson_aligned summary.startedAt
  have endedAt :
      summary.restored.endedAt.map instantToJson = summary.endedAt.map instantToJson := by
    rw [restored, Option.map_map]
    congr 1
    funext instant
    exact instantToJson_aligned instant
  rw [members, members, millis, startedAt, endedAt]
  rfl

/--
A summary whose directory is a text has a JSON value.  Both texts of that value denote the summary
with its runtime cut off to whole milliseconds and to as many of them as 64 bits can count, and with
a leap second that is not at the end of a minute taken for the second that follows.  So they denote
the same summary just if its runtime is of that form and none of its times is such a leap second,
and what they denote has the same value again in any case.
-/
theorem wire_format (textual : summary.directory = .ofText directory) :
    let restored : Summary :=
      { summary with
        startedAt := summary.startedAt.aligned
        endedAt := summary.endedAt.map Instant.aligned
        runtime := min (summary.runtime / millisecond) Unsigned.greatest64 * millisecond }
    ∃ value, summary.toJson = .ok value ∧
      Denotes (Utf8.encode value.compact) restored ∧
      Denotes (Utf8.encode value.pretty) restored ∧
      (restored = summary ↔
        ¬ summary.startedAt.Misplaced ∧
          (∀ ended, summary.endedAt = some ended → ¬ ended.Misplaced) ∧
          summary.runtime % millisecond = 0 ∧
          summary.runtime / millisecond ≤ Unsigned.greatest64) ∧
      restored.toJson = .ok value := by
  have again : summary.restored.toJson = .ok (.object (summary.members directory)) :=
    toJson_eq_ok_iff.mpr ⟨directory, textual, by rw [members_restored]⟩
  exact
    ⟨_, toJson_eq_ok_iff.mpr ⟨directory, textual, rfl⟩,
      (summary.spells_compact directory).denotes textual,
      (summary.spells_pretty directory).denotes textual, summary.restored_eq_iff, again⟩

/-- A run in the year 10000 that took a little more than a millisecond and has not ended. -/
def distantSummary : Summary where
  id := ⟨10000, by decide⟩
  status := .running
  total := 3
  completed := 1
  startedAt := ⟨253402300800, 7, by decide⟩
  endedAt := none
  directory := .ofText "/runs/\"distant\""
  runtime := 1000001

/-- Its texts denote it with a runtime of one millisecond. -/
theorem wire_format_distant :
    distantSummary.directory = .ofText "/runs/\"distant\"" ∧
      ∃ value, distantSummary.toJson = .ok value ∧
        Denotes (Utf8.encode value.compact) { distantSummary with runtime := millisecond } := by
  rcases distantSummary.wire_format rfl with ⟨value, made, compact, _⟩
  exact ⟨rfl, value, made, compact⟩

/-- A run that started in a leap second behind the second 30, and ended in the second 31. -/
def leapSummary : Summary where
  id := ⟨9, by decide⟩
  status := .completed
  total := 1
  completed := 1
  startedAt := ⟨30, 1500000000, by decide⟩
  endedAt := some ⟨31, 0, by decide⟩
  directory := .ofText "/runs/9"
  runtime := 0

/-- Read back, it starts half a second after it ends. -/
theorem leap_reread :
    leapSummary.Valid ∧
      ∃ value other, leapSummary.toJson = .ok value ∧
        ofText (Utf8.encode value.compact) = .ok other ∧
        other.startedAt = ⟨31, 500000000, by decide⟩ ∧
        ¬ other.Valid ∧
        ∀ runtime, other ≠ { leapSummary with runtime := runtime } := by
  have textual : leapSummary.directory = .ofText "/runs/9" := rfl
  have read := ((leapSummary.spells_compact "/runs/9").denotes textual).1
  refine ⟨by decide, _, leapSummary.restored, toJson_eq_ok_iff.mpr ⟨_, textual, rfl⟩, read, rfl,
    by decide, ?_⟩
  intro runtime same
  have startedAt : leapSummary.restored.startedAt = leapSummary.startedAt := by
    rw [same]
  exact absurd startedAt (by decide)

end Summary

end RunArchive
