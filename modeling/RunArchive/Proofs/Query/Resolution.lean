import RunArchive.Proofs.Files.Path
import RunArchive.Proofs.Query.Obstacles

/-!
# Where artifacts are looked for

Which recorded filenames are accepted, and where the path of an accepted one leads: it makes the
moves of the directory of the run and then enters what the segments of the filename name.  The
filename is a text; the directory may be any path.
-/

namespace RunArchive.StorageRecord

variable {record : StorageRecord} {kind : ArtifactKind} {filename : String}

theorem resolve_contained
    (recorded : record.filenames.get? kind = some filename)
    (contained : (Path.ofText filename).Contained) :
    record.resolve kind = .ok (record.directory.join (.ofText filename)) := by
  rw [resolve, recorded]
  exact if_pos contained

/-- A filename is accepted if and only if it descends. -/
theorem resolve_ok_iff (recorded : record.filenames.get? kind = some filename) :
    (∃ path, record.resolve kind = .ok path) ↔ (Path.ofText filename).Descends := by
  rw [← Path.contained_iff]
  constructor
  · rintro ⟨path, resolved⟩
    by_contra escapes
    rw [resolve_escapes recorded escapes] at resolved
    cases resolved
  · intro contained
    exact ⟨_, resolve_contained recorded contained⟩

/-- The path of an artifact makes the moves of the directory and enters what is named then. -/
theorem moves_resolve
    (recorded : record.filenames.get? kind = some filename)
    {path : Path} (resolved : record.resolve kind = .ok path) :
    path.moves = record.directory.moves ++ (Path.ofText filename).names.map .name := by
  have descends := (resolve_ok_iff recorded).mp ⟨path, resolved⟩
  rw [resolve_contained recorded (Path.contained_iff.mpr descends)] at resolved
  cases resolved
  rw [Path.moves_join _ descends.2.1, Path.filterMap_move? descends.2.2]
  rfl

/--
The path of an artifact is given exactly if a filename is recorded that is not empty, does not start
with a slash and has no segment `..`; any other filename is refused as it stands.  A path that is
given makes all moves of the directory and then enters the names in the filename, none of which
leads above.
-/
theorem resolve_exact (record : StorageRecord) (kind : ArtifactKind) :
    (record.resolve kind = .error (.notRecorded kind) ↔ record.filenames.get? kind = none) ∧
      ∀ filename, record.filenames.get? kind = some filename →
        ((∃ path, record.resolve kind = .ok path) ↔ (Path.ofText filename).Descends) ∧
        (¬ (Path.ofText filename).Descends →
          record.resolve kind = .error (.invalidFilename kind filename)) ∧
        ∀ path, record.resolve kind = .ok path →
          path.moves = record.directory.moves ++ (Path.ofText filename).names.map .name ∧
            Path.above ∉ (Path.ofText filename).names := by
  refine ⟨⟨?_, resolve_unrecorded⟩, ?_⟩
  · intro refused
    rcases recorded : record.filenames.get? kind with _ | filename
    · rfl
    · by_cases contained : (Path.ofText filename).Contained
      · rw [resolve_contained recorded contained] at refused
        cases refused
      · rw [resolve_escapes recorded contained] at refused
        cases refused
  · intro filename recorded
    refine ⟨resolve_ok_iff recorded, ?_, ?_⟩
    · intro climbs
      exact resolve_escapes recorded (mt Path.contained_iff.mp climbs)
    · intro path resolved
      have descends := (resolve_ok_iff recorded).mp ⟨path, resolved⟩
      refine ⟨moves_resolve recorded resolved, ?_⟩
      intro member
      exact descends.2.2 (List.mem_of_mem_filter member)

/-- A record of a run whose result has a filename with idle segments. -/
def idleRecord : StorageRecord where
  id := ⟨7, by decide⟩
  directory := .ofText "../runs/"
  filenames := { results := some "./a//.../." }
  executorName := "local"
  workflowExecutorName := "local"

/-- A directory may itself lead above; idle segments of a filename enter nothing. -/
theorem resolve_exact_idle :
    idleRecord.resolve .result = .ok (.ofText "../runs/./a//.../.") ∧
      (Path.ofText "../runs/./a//.../.").moves =
        [.above, .name (Utf8.ofString "runs"), .name (Utf8.ofString "a"),
          .name (Utf8.ofString "...")] := by
  have resolved : idleRecord.resolve .result = .ok (.ofText "../runs/./a//.../.") := by rfl
  have led := (((resolve_exact idleRecord .result).2 "./a//.../." rfl).2.2 _ resolved).1
  exact ⟨resolved, led.trans (by decide)⟩

end RunArchive.StorageRecord
