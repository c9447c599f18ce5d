import RunArchive.CommandLine.Demo
import RunArchive.Proofs.Database.Interchange
import RunArchive.Proofs.Envelope.RoundTrip
import RunArchive.Proofs.Files.Disk

/-!
# Artifacts and their files

Every kind of artifact has one file, the one at the path that the storage record gives.

What a query for the artifact comes to depends on that file and on nothing else.  The query is a
computation that opens this one path, if there is one, and two records that agree about a kind make
the same computation for it: see `AgreesOn.answering`.

A file with the octets of some content is answered with that content, whatever the kind.  So a run
that writes eight different files, in any order, is answered kind by kind with what it has written.
-/

namespace RunArchive

/-! ## What a query depends on -/

namespace StorageRecord

/-- The path that a record gives for a kind, as the only one to be opened, or none. -/
def paths (record : StorageRecord) (kind : ArtifactKind) : List Path :=
  match record.resolve kind with
  | .ok path => [path]
  | .error _ => []

/-- A query for the artifact of a kind opens the path of that artifact and no other. -/
theorem opens_known
    (record : StorageRecord) (codec : Codec) (limit : ReadLimit) (kind : ArtifactKind)
    (files : FileView) :
    (record.answering codec limit (.known kind)).opens files = record.paths kind := by
  rw [answering, load, paths]
  cases record.resolve kind <;> rfl

/-- Two records say the same about the artifact of a kind. -/
structure AgreesOn (kind : ArtifactKind) (left right : StorageRecord) : Prop where
  directory : left.directory = right.directory
  filename : left.filenames.get? kind = right.filenames.get? kind
  executorName : kind = .executor → left.executorName = right.executorName
  workflowExecutorName :
    kind = .workflowExecutor → left.workflowExecutorName = right.workflowExecutorName

theorem AgreesOn.refl (kind : ArtifactKind) (record : StorageRecord) :
    AgreesOn kind record record :=
  ⟨rfl, rfl, fun _ => rfl, fun _ => rfl⟩

section Agreement

variable {kind : ArtifactKind} {left right : StorageRecord}

theorem AgreesOn.resolve
    (agree : AgreesOn kind left right) :
    left.resolve kind = right.resolve kind := by
  rw [StorageRecord.resolve, StorageRecord.resolve, agree.filename, agree.directory]

theorem AgreesOn.responseOf
    (agree : AgreesOn kind left right) (content : Json) :
    left.responseOf kind content = right.responseOf kind content := by
  cases kind with
  | executor => exact congrArg (Response.executor · content) (agree.executorName rfl)
  | workflowExecutor =>
      exact congrArg (Response.workflowExecutor · content) (agree.workflowExecutorName rfl)
  | result | inputs | functionString | error | function | transportGraph => rfl

/-- Records that agree about a kind make the same computation for it. -/
theorem AgreesOn.answering
    (agree : AgreesOn kind left right) (codec : Codec) (limit : ReadLimit) :
    left.answering codec limit (.known kind) = right.answering codec limit (.known kind) := by
  have sameLoad : left.load codec limit kind = right.load codec limit kind := by
    rw [load, load, agree.resolve]
  have sameResponse : left.responseOf kind = right.responseOf kind := funext agree.responseOf
  rw [StorageRecord.answering, StorageRecord.answering, sameLoad, sameResponse]

/--
The answers of records that agree about a kind are the same, failures included, if opening the one
path of that kind finds the same.
-/
theorem AgreesOn.respond
    (agree : AgreesOn kind left right) (codec : Codec) (limit : ReadLimit)
    {leftFiles rightFiles : FileView}
    (same : ∀ path, left.resolve kind = .ok path → leftFiles path = rightFiles path) :
    left.respond ⟨leftFiles, codec, limit⟩ (.known kind) =
      right.respond ⟨rightFiles, codec, limit⟩ (.known kind) := by
  have sameOpened :
      ∀ path ∈ (left.answering codec limit (.known kind)).opens leftFiles,
        leftFiles path = rightFiles path := by
    intro path member
    rw [opens_known, paths] at member
    cases resolved : left.resolve kind with
    | error cause =>
        rw [resolved] at member
        exact absurd member List.not_mem_nil
    | ok own =>
        rw [resolved] at member
        rw [List.mem_singleton.mp member]
        exact same own resolved
  rw [StorageRecord.respond, StorageRecord.respond, ← agree.answering]
  exact Opening.run_congr _ sameOpened

end Agreement

/--
The answer to a query for the artifact of a kind is determined by what the record says about that
kind and by what opening the one path of it finds, failures included.  A name that is no kind is
answered with no data, and nothing is opened for it.
-/
theorem respond_determined (codec : Codec) (limit : ReadLimit) :
    (∀ (kind : ArtifactKind) (left right : StorageRecord) (leftFiles rightFiles : FileView),
      AgreesOn kind left right →
      (∀ path, left.resolve kind = .ok path → leftFiles path = rightFiles path) →
      left.respond ⟨leftFiles, codec, limit⟩ (.known kind) =
        right.respond ⟨rightFiles, codec, limit⟩ (.known kind)) ∧
    ∀ (text : String) (record : StorageRecord) (files : FileView),
      record.respond ⟨files, codec, limit⟩ (.unrecognized text) = .ok (.data none) ∧
        (record.answering codec limit (.unrecognized text)).opens files = [] := by
  constructor
  · intro kind left right leftFiles rightFiles agree same
    exact agree.respond codec limit same
  · intro text record files
    exact ⟨rfl, rfl⟩

/-- A view with one text in it and one fault for everything else. -/
def logView (fault : FileFault) : FileView := fun path =>
  if path = .ofText "/work/error.log" then .regular 4 (.whole (Utf8.ofString "boom"))
  else .refused fault

/-- A record that has nothing but the file of the error. -/
def loggedRecord (id : RunId) (executorName : String) : StorageRecord :=
  ⟨id, .ofText "/work", Filenames.empty.set .error "error.log", executorName, executorName⟩

/-- Other runs, other executors and other obstacles elsewhere do not show in the error text. -/
theorem respond_determined_error :
    (loggedRecord ⟨1, by decide⟩ "local").respond ⟨logView .notFound, .sealing, .unbounded⟩
        (.known .error) =
      (loggedRecord ⟨2, by decide⟩ "remote").respond ⟨logView .inputOutput, .sealing, .unbounded⟩
        (.known .error) := by
  apply (respond_determined .sealing .unbounded).1 .error
  · exact ⟨rfl, rfl, nofun, nofun⟩
  · intro path resolved
    have own : Path.ofText "/work/error.log" = path := Except.ok.inj resolved
    rw [← own]
    rfl

end StorageRecord

/-! ## Content that is written and read back -/

namespace ReadLimit

variable (path : Path) (size : Nat)

@[simp]
theorem unbounded_octets (octets : List UInt8) :
    unbounded.octets path (.regular size (.whole octets)) = .ok octets := rfl

/-- The octets of a text are read as that text. -/
theorem unbounded_text (text : String) :
    unbounded.text path (.regular size (.whole (Utf8.ofString text))) = .ok text := by
  rw [ReadLimit.text, unbounded_octets, ok_bind, Utf8.ofString, Utf8.decode_encode]
  dsimp only
  rw [String.ofList_toList]
  rfl

/-- A sealed value is read as that value. -/
theorem unbounded_object
    {content : Json} (normal : content.WellFormed) (stable : content.Stable)
    (shallow : content.nesting ≤ 126) :
    unbounded.object .sealing path (.regular size (.whole (Envelope.encode content))) =
      .ok content := by
  rw [ReadLimit.object, unbounded_octets, ok_bind, Envelope.opens_shallow normal stable shallow]
  rfl

end ReadLimit

namespace ArtifactKind

/-- The contents that can be kept for a kind: any text, or any value that can be unsealed again. -/
def Suits (kind : ArtifactKind) (content : Json) : Prop :=
  match kind.form with
  | .text => ∃ text, content = .string text
  | .object => content.WellFormed ∧ content.Stable ∧ content.nesting ≤ 126

/-- A content that suits its kind can be written, and reading what is written gives it back. -/
theorem content_octets
    {kind : ArtifactKind} {content : Json} (suits : kind.Suits content) :
    ∃ octets, kind.octets .sealing content = .ok octets ∧
      ∀ path size,
        kind.content .sealing .unbounded path (.regular size (.whole octets)) = .ok content := by
  unfold Suits at suits
  unfold octets ArtifactKind.content
  cases form : kind.form with
  | text =>
      rw [form] at suits
      rcases suits with ⟨text, rfl⟩
      refine ⟨Utf8.ofString text, rfl, ?_⟩
      intro path size
      exact congrArg (Except.map Json.string) (ReadLimit.unbounded_text path size text)
  | object =>
      rw [form] at suits
      rcases suits with ⟨normal, stable, shallow⟩
      refine ⟨Envelope.encode content, rfl, ?_⟩
      intro path size
      exact ReadLimit.unbounded_object path size normal stable shallow

theorem mem_all (kind : ArtifactKind) : kind ∈ all := by
  cases kind <;> decide

theorem nodup_all : all.Nodup := by decide

end ArtifactKind

namespace StorageRecord

variable {record : StorageRecord} {kind : ArtifactKind}

/-- A query is answered with what becomes of the file at the path. -/
theorem artifact_resolved
    (reader : ArtifactReader) {path : Path} (resolves : record.resolve kind = .ok path) :
    record.artifact reader (.known kind) =
      match kind.content reader.codec reader.limit path (reader.files path) with
      | .ok content => .ok (record.responseOf kind content)
      | .error cause => .error (.artifact ⟨kind, cause⟩) := by
  rw [artifact, respond, answering, load, resolves]
  dsimp only [Opening.map, Opening.run]
  cases kind.content reader.codec reader.limit path (reader.files path) <;> rfl

end StorageRecord

namespace Service

/--
A run writes the artifacts of all kinds to the paths of its record, in any order.  If these are
eight different files, then every kind is answered with its own content, and the two executors also
with their own names.
-/
theorem artifact_written
    {store : Store} {id : RunId} {record : StorageRecord}
    (stored : store.record? id = some record)
    {path : ArtifactKind → Path}
    (resolves : ∀ kind, record.resolve kind = .ok (path kind))
    {disk : Disk} {place : ArtifactKind → Location}
    (named : ∀ kind, disk.fileAt? (path kind) = some (place kind))
    (different : Function.Injective place)
    {content : ArtifactKind → Json}
    (suits : ∀ kind : ArtifactKind, kind.Suits (content kind))
    {order : List ArtifactKind} (complete : order.Perm ArtifactKind.all) :
    ∃ (octets : ArtifactKind → List UInt8) (final : Disk),
      (∀ kind : ArtifactKind, kind.octets .sealing (content kind) = .ok (octets kind)) ∧
      disk.writeAll (order.map fun kind => (path kind, octets kind)) = .ok final ∧
      ∀ kind,
        ((inMemory store ⟨final.opened, .sealing, .unbounded⟩).artifact id (.known kind)).run =
          .ok
            (match kind with
            | .executor => .executor record.executorName (content .executor)
            | .workflowExecutor =>
              .workflowExecutor record.workflowExecutorName (content .workflowExecutor)
            | .result | .inputs | .functionString | .error | .function | .transportGraph =>
              .data (some (content kind))) := by
  choose octets encoded readBack using fun kind => ArtifactKind.content_octets (suits kind)
  let files := order.map fun kind => (path kind, octets kind)
  have allNamed : ∀ file ∈ files, (disk.fileAt? file.1).isSome = true := by
    intro file member
    rcases List.mem_map.mp member with ⟨kind, _, rfl⟩
    rw [named]
    rfl
  have allApart :
      files.Pairwise fun left right => disk.fileAt? left.1 ≠ disk.fileAt? right.1 := by
    have distinct : order.Nodup := complete.nodup_iff.mpr ArtifactKind.nodup_all
    refine List.pairwise_map.mpr (distinct.imp ?_)
    intro left right apart
    rw [named, named]
    exact fun same => apart (different (Option.some.inj same))
  rcases Disk.writeAll_opened allNamed allApart with ⟨final, written, holds, _⟩
  refine ⟨octets, final, encoded, written, ?_⟩
  intro kind
  have recorded : (path kind, octets kind) ∈ files :=
    List.mem_map_of_mem (complete.mem_iff.mpr kind.mem_all)
  have opens : final.opened (path kind) = .regular (octets kind).length (.whole (octets kind)) :=
    holds _ recorded
  have answered :
      record.artifact ⟨final.opened, .sealing, .unbounded⟩ (.known kind) =
        .ok (record.responseOf kind (content kind)) := by
    rw [StorageRecord.artifact_resolved _ (resolves kind)]
    dsimp only
    rw [opens, readBack kind (path kind)]
  have looked :
      ((inMemory store ⟨final.opened, .sealing, .unbounded⟩).artifact id (.known kind)).run =
        record.artifact ⟨final.opened, .sealing, .unbounded⟩ (.known kind) :=
    congrArg
      (fun known => do
        (← Lookup.found id (.ok known)).artifact ⟨final.opened, .sealing, .unbounded⟩
          (.known kind))
      stored
  rw [looked, answered]
  cases kind <;> rfl

/-- The demonstration run, written to the working directory from the last kind to the first. -/
theorem artifact_written_demo :
    ∃ (octets : ArtifactKind → List UInt8) (final : Disk),
      Disk.empty.writeAll
          (ArtifactKind.all.reverse.map fun kind =>
            (.ofText ("/work/" ++ Filenames.usualName kind), octets kind)) =
        .ok final ∧
      ((inMemory (Store.empty.insertRecord (Demo.record ⟨1, by decide⟩ (.ofText "/work")))
            ⟨final.opened, .sealing, .unbounded⟩).artifact ⟨1, by decide⟩
          (.known .workflowExecutor)).run =
        .ok (.workflowExecutor "local" (.object [("workdir", .string "/tmp")])) := by
  have resolves (kind : ArtifactKind) :
      (Demo.record ⟨1, by decide⟩ (.ofText "/work")).resolve kind =
        .ok (.ofText ("/work/" ++ Filenames.usualName kind)) := by
    cases kind <;> rfl
  have named (kind : ArtifactKind) :
      Disk.empty.fileAt? (.ofText ("/work/" ++ Filenames.usualName kind)) =
        some [Utf8.ofString "work", Utf8.ofString (Filenames.usualName kind)] := by
    cases kind <;> decide +kernel
  have different :
      Function.Injective fun kind =>
        [Utf8.ofString "work", Utf8.ofString (Filenames.usualName kind)] := by
    intro left right same
    have distinct :
        (ArtifactKind.all.map fun kind =>
          [Utf8.ofString "work", Utf8.ofString (Filenames.usualName kind)]).Nodup := by
      decide
    exact List.inj_on_of_nodup_map distinct left.mem_all right.mem_all same
  have suits (kind : ArtifactKind) : kind.Suits (Demo.content kind) := by
    cases kind with
    | functionString | error => exact ⟨_, rfl⟩
    | result | inputs | executor | workflowExecutor | function | transportGraph =>
        refine ⟨by decide, ?_, by decide⟩
        simp [Demo.content, Json.Stable, Json.StableItems, Json.StableMembers, Json.ofNat]
  have stored :
      (Store.empty.insertRecord (Demo.record ⟨1, by decide⟩ (.ofText "/work"))).record?
          ⟨1, by decide⟩ =
        some (Demo.record ⟨1, by decide⟩ (.ofText "/work")) := rfl
  rcases artifact_written stored resolves named different suits (List.reverse_perm _) with
    ⟨octets, final, _, written, answered⟩
  exact ⟨octets, final, written, answered .workflowExecutor⟩

end Service

end RunArchive
