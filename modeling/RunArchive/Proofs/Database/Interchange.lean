import Mathlib.Control.Traversable.Basic
import RunArchive.Proofs.Database.Repository
import RunArchive.Proofs.Store.Memory

/-!
# Databases and stores

A database and a store that has been filled from its rows give the same answers.  A row that can
be seen puts the record that it describes into the store, and its summary if it has one; a hidden
row puts in nothing.  What goes into the store is said by the names of the columns, and what the
database gives is read by position.  The order in which this is done does not matter as long as no
two rows are of one run.

The answers differ in one case only: for a run whose row can be seen but has no summary, the
database reports that the row cannot be true, where the store has never heard of a summary.
-/

namespace RunArchive

open Store (Insertion)

/-! ## Rows -/

namespace Row

/-- What a row puts into a store. -/
def insertions (row : Row) (now : Instant) : List Insertion :=
  if row.isActive then
    .record row.described ::
      match row.summary now with
      | .ok summary => [.summary summary]
      | .error _ => []
  else []

/-- A row that can be seen has no summary. -/
def Broken (row : Row) (now : Instant) : Prop :=
  ∃ error, row.summary now = .error error

theorem mem_insertions
    {row : Row} {now : Instant} {insertion : Insertion} :
    insertion ∈ row.insertions now ↔
      row.isActive = true ∧
        match insertion with
        | .record record => row.described = record
        | .summary summary => row.summary now = .ok summary := by
  rw [insertions]
  cases row.isActive with
  | false => simp
  | true =>
      cases insertion with
      | record record =>
          cases row.summary now <;> simp [eq_comm]
      | summary summary =>
          cases row.summary now <;> simp [eq_comm]

/-- All that a row puts in is about its run. -/
theorem insertions_id
    {row : Row} {now : Instant} {insertion : Insertion}
    (member : insertion ∈ row.insertions now) :
    insertion.id = row.dispatchId := by
  rcases mem_insertions.mp member with ⟨_, made⟩
  cases insertion with
  | record record => exact congrArg StorageRecord.id made.symm
  | summary summary => exact (summary_ok made).1

/-- A store accepts all that a row puts in. -/
theorem insertions_acceptable
    {row : Row} {now : Instant} {insertion : Insertion}
    (member : insertion ∈ row.insertions now) :
    insertion.Acceptable := by
  rcases mem_insertions.mp member with ⟨_, made⟩
  cases insertion with
  | record record => exact trivial
  | summary summary => exact (summary_ok made).2

/-- A row does not put the same kind of thing in twice. -/
theorem insertions_apart (row : Row) (now : Instant) :
    (row.insertions now).Pairwise Insertion.Apart := by
  rw [insertions]
  cases row.isActive with
  | false => exact List.Pairwise.nil
  | true =>
      cases row.summary now with
      | error error => exact List.pairwise_singleton _ _
      | ok summary => exact List.pairwise_pair.mpr trivial

end Row

/-! ## Tables -/

namespace Table

/-- No two rows are of one run. -/
def Keyed (table : Table) : Prop :=
  table.Pairwise fun left right => left.dispatchId ≠ right.dispatchId

instance (table : Table) : Decidable table.Keyed :=
  inferInstanceAs (Decidable (List.Pairwise _ _))

/-- What the rows of a table put into a store. -/
def insertions (table : Table) (now : Instant) : List Insertion :=
  table.flatMap fun row => row.insertions now

/-- The row of a run that can be seen is found, being the only one of the run. -/
theorem find_eq_some
    {table : Table} (keyed : table.Keyed) {id : RunId} {row : Row} :
    table.find id = some row ↔ row ∈ table ∧ row.dispatchId = id ∧ row.isActive = true := by
  constructor
  · intro found
    have wanted : row.dispatchId = id ∧ row.isActive = true := by
      simpa using List.find?_some found
    exact ⟨List.mem_of_find?_eq_some found, wanted⟩
  · rintro ⟨member, rfl, active⟩
    induction table with
    | nil => cases member
    | cons first rest ih =>
        rcases List.pairwise_cons.mp keyed with ⟨others, restKeyed⟩
        rw [find, List.find?_cons]
        rcases List.mem_cons.mp member with rfl | later
        · simp [active]
        · simp only [others row later, decide_false, Bool.false_and]
          exact ih restKeyed later

/-- No row of a run is found if all that it has are hidden. -/
theorem find_eq_none
    {table : Table} {id : RunId} :
    table.find id = none ↔ ∀ row ∈ table, row.dispatchId = id → row.isActive = false := by
  simp [find]

/-- The rows of a table put different things in. -/
theorem insertions_apart
    {table : Table} (keyed : table.Keyed) (now : Instant) :
    (table.insertions now).Pairwise Insertion.Apart := by
  rw [insertions, List.pairwise_flatMap]
  constructor
  · intro row _
    exact row.insertions_apart now
  · apply List.Pairwise.imp _ keyed
    intro left right different first ofLeft second ofRight
    apply Insertion.apart_of_ne
    rw [Row.insertions_id ofLeft, Row.insertions_id ofRight]
    exact different

/-- What the rows of a table put in for a run comes from the one that can be seen. -/
theorem mem_insertions
    {table : Table} (keyed : table.Keyed) {now : Instant} {insertion : Insertion} :
    insertion ∈ table.insertions now ↔
      ∃ row, table.find insertion.id = some row ∧ insertion ∈ row.insertions now := by
  rw [insertions, List.mem_flatMap]
  constructor
  · rintro ⟨row, member, made⟩
    have active := (Row.mem_insertions.mp made).1
    exact ⟨row, (find_eq_some keyed).mpr ⟨member, (Row.insertions_id made).symm, active⟩, made⟩
  · rintro ⟨row, found, made⟩
    exact ⟨row, ((find_eq_some keyed).mp found).1, made⟩

end Table

/-- A store has the records and the summaries of the rows of a table that can be seen. -/
structure Store.Mirrors (store : Store) (table : Table) (now : Instant) : Prop where
  record : ∀ id, store.record? id = (table.find id).map Row.described
  summary : ∀ id, store.summary? id =
    (table.find id).bind fun row => (row.summary now).toOption

namespace Table

/-- Filling a store from a table succeeds in any order and makes it mirror the table. -/
theorem filled
    {table : Table} (keyed : table.Keyed) {now : Instant} {insertions : List Insertion}
    (order : insertions.Perm (table.insertions now)) :
    ∃ store, Store.empty.insertAll insertions = .ok store ∧ store.Mirrors table now := by
  have acceptable : ∀ insertion ∈ insertions, insertion.Acceptable := by
    intro insertion member
    rcases (mem_insertions keyed).mp (order.mem_iff.mp member) with ⟨row, _, made⟩
    exact Row.insertions_acceptable made
  have apart : insertions.Pairwise Insertion.Apart :=
    (order.pairwise_iff Insertion.Apart.symm).mpr (insertions_apart keyed now)
  rcases Store.filled_holds acceptable apart with ⟨store, inserted, holds⟩
  have held :
      ∀ insertion, store.Holds insertion ↔
        ∃ row, table.find insertion.id = some row ∧ insertion ∈ row.insertions now := by
    intro insertion
    rw [holds, order.mem_iff, mem_insertions keyed]
  refine ⟨store, inserted, ?_, ?_⟩
  · intro id
    ext record
    rw [Store.record?_eq_some, held, Option.map_eq_some_iff]
    constructor
    · rintro ⟨rfl, row, found, made⟩
      exact ⟨row, found, (Row.mem_insertions.mp made).2⟩
    · rintro ⟨row, found, rfl⟩
      rcases (find_eq_some keyed).mp found with ⟨_, rfl, active⟩
      exact ⟨rfl, row, found, Row.mem_insertions.mpr ⟨active, rfl⟩⟩
  · intro id
    ext summary
    rw [Store.summary?_eq_some, held, Option.bind_eq_some_iff]
    constructor
    · rintro ⟨rfl, row, found, made⟩
      refine ⟨row, found, ?_⟩
      rw [(Row.mem_insertions.mp made).2]
      rfl
    · rintro ⟨row, found, made⟩
      rcases (find_eq_some keyed).mp found with ⟨_, rfl, active⟩
      cases outcome : row.summary now with
      | error error =>
          rw [outcome] at made
          cases made
      | ok given =>
          rw [outcome] at made
          cases made
          have same : summary.id = row.dispatchId := (Row.summary_ok outcome).1
          refine ⟨same, row, ?_, Row.mem_insertions.mpr ⟨active, outcome⟩⟩
          rw [← found]
          exact congrArg table.find same

end Table

/-! ## Services -/

/-- A service whose runs are in a database. -/
def Service.inDatabase (now : Instant) (reader : ArtifactReader) : Service (StateM Server) :=
  ⟨Server.repositories now, reader⟩

/-- A service whose runs are in a store. -/
def Service.inMemory (store : Store) (reader : ArtifactReader) : Service Id :=
  ⟨store.repositories, reader⟩

/-- A service answers whatever it is asked about a run by saying that there is no such run. -/
structure Service.Ignores {m : Type → Type} [Functor m] (service : Service m)
    (result : {α : Type} → m α → α) (id : RunId) : Prop where
  summary : result (service.summary id) = .error (.notFound id)
  artifact : ∀ name, result (service.artifact id name) = .error (.notFound id)
  artifacts : ∀ kinds, result (service.artifacts id kinds) = .error (.notFound id)

namespace Service

variable {table : Table} {now : Instant} {store : Store} {id : RunId} (queries : Nat)

/-- Records are looked up with the same outcome in a database and in a store that mirrors it. -/
theorem record_agrees (mirrors : store.Mirrors table now) :
    Server.result ⟨table, [], queries⟩ ((Server.repositories now).record id) =
      .ok (store.record? id) := by
  rw [mirrors.record]
  exact Server.result_record now id

/-- Summaries are looked up with the same outcome unless a row cannot be true. -/
theorem summary_agrees
    (mirrors : store.Mirrors table now)
    (sound : ∀ row, table.find id = some row → ¬ row.Broken now) :
    Server.result ⟨table, [], queries⟩ ((Server.repositories now).summary id) =
      .ok (store.summary? id) := by
  rw [mirrors.summary, Server.result_summary]
  cases found : table.find id with
  | none => rfl
  | some row =>
      cases made : row.summary now with
      | ok summary =>
          dsimp only
          rw [Option.bind_some, made]
          rfl
      | error error => exact absurd ⟨error, made⟩ (sound row found)

/-- About a row that cannot be true the two backends differ. -/
theorem summary_differs
    (mirrors : store.Mirrors table now) {row : Row}
    (found : table.find id = some row) (broken : row.Broken now) :
    (∃ description,
      Server.result ⟨table, [], queries⟩ ((Server.repositories now).summary id) =
        .error (.corrupt description)) ∧
    store.summary? id = none := by
  rcases broken with ⟨error, failed⟩
  rcases Row.summary_error failed with ⟨description, rfl⟩
  constructor
  · refine ⟨description, ?_⟩
    rw [Server.result_summary, found]
    dsimp only
    rw [failed]
    rfl
  · rw [mirrors.summary, found, Option.bind_some, failed]
    rfl

/-- A run that has no row to be seen is ignored by a store that mirrors the table. -/
theorem inMemory_ignores
    (mirrors : store.Mirrors table now) (hidden : table.find id = none)
    (reader : ArtifactReader) :
    (inMemory store reader).Ignores Id.run id := by
  have noRecord : store.record? id = none := by
    rw [mirrors.record, hidden, Option.map_none]
  have noSummary : store.summary? id = none := by
    rw [mirrors.summary, hidden, Option.bind_none]
  constructor
  · exact congrArg (fun known => Lookup.found id (.ok known)) noSummary
  · intro name
    exact
      congrArg (fun known => do (← Lookup.found id (.ok known)).artifact reader name) noRecord
  · intro kinds
    exact
      congrArg (fun known => do return (← Lookup.found id (.ok known)).artifacts reader kinds)
        noRecord

/--
A database whose rows are of different runs and a store that is filled from them in any order give
the same answers, about runs whose row can be seen as well as about all others.  Only the summary
of a run whose row cannot be true is refused by the database and not known to the store.
-/
theorem interchangeable
    {table : Table} (keyed : table.Keyed) (now : Instant)
    {insertions : List Insertion} (order : insertions.Perm (table.insertions now)) :
    ∃ store, Store.empty.insertAll insertions = .ok store ∧
      ∀ (queries : Nat) (reader : ArtifactReader) (id : RunId),
        let server : Server := ⟨table, [], queries⟩
        let database := inDatabase now reader
        let memory := inMemory store reader
        (∀ name, server.result (database.artifact id name) = (memory.artifact id name).run) ∧
        (∀ kinds,
          server.result (database.artifacts id kinds) = (memory.artifacts id kinds).run) ∧
        ((∀ row ∈ table, row.dispatchId = id → row.isActive = true → ¬ row.Broken now) →
          server.result (database.summary id) = (memory.summary id).run) ∧
        (∀ row ∈ table, row.dispatchId = id → row.isActive = true → row.Broken now →
          (∃ description,
            server.result (database.summary id) =
              .error (.repository (.corrupt description))) ∧
          (memory.summary id).run = .error (.notFound id)) ∧
        ((∀ row ∈ table, row.dispatchId = id → row.isActive = false) →
          database.Ignores server.result id ∧ memory.Ignores Id.run id) := by
  rcases Table.filled keyed order with ⟨store, inserted, mirrors⟩
  refine ⟨store, inserted, ?_⟩
  intro queries reader id server database memory
  have sameRecord :
      server.result ((Server.repositories now).record id) = .ok (store.record? id) :=
    record_agrees queries mirrors
  have sameArtifact :
      ∀ name, server.result (database.artifact id name) = (memory.artifact id name).run := by
    intro name
    exact congrArg (fun lookup => do (← lookup.found id).artifact reader name) sameRecord
  have sameArtifacts :
      ∀ kinds,
        server.result (database.artifacts id kinds) = (memory.artifacts id kinds).run := by
    intro kinds
    exact congrArg (fun lookup => do return (← lookup.found id).artifacts reader kinds) sameRecord
  have sameSummary
      (sound : ∀ row ∈ table, row.dispatchId = id → row.isActive = true → ¬ row.Broken now) :
      server.result (database.summary id) = (memory.summary id).run := by
    have seen : ∀ row, table.find id = some row → ¬ row.Broken now := by
      intro row found
      rcases (Table.find_eq_some keyed).mp found with ⟨member, same, active⟩
      exact sound row member same active
    exact congrArg (Lookup.found id) (summary_agrees queries mirrors seen)
  refine ⟨sameArtifact, sameArtifacts, sameSummary, ?_, ?_⟩
  · intro row member same active broken
    have found := (Table.find_eq_some keyed).mpr ⟨member, same, active⟩
    rcases summary_differs queries mirrors found broken with
      ⟨⟨description, refused⟩, unknown⟩
    refine ⟨⟨description, ?_⟩, ?_⟩
    · exact congrArg (Lookup.found id) refused
    · exact congrArg (fun known => Lookup.found id (.ok known)) unknown
  · intro hidden
    have ignored : memory.Ignores Id.run id :=
      inMemory_ignores mirrors (Table.find_eq_none.mpr hidden) reader
    have sound : ∀ row ∈ table, row.dispatchId = id → row.isActive = true → ¬ row.Broken now := by
      intro row member same active
      rw [hidden row member same] at active
      cases active
    refine ⟨⟨?_, ?_, ?_⟩, ignored⟩
    · exact (sameSummary sound).trans ignored.summary
    · intro name
      exact (sameArtifact name).trans (ignored.artifact name)
    · intro kinds
      exact (sameArtifacts kinds).trans (ignored.artifacts kinds)

/-- A row of a run that took a second, with one electron. -/
def finishedRow : Row where
  dispatchId := ⟨1, by decide⟩
  status := "COMPLETED"
  electronNum := 1
  completedElectronNum := 1
  storagePath := "/runs/1"
  resultsFilename := "results.json"
  inputsFilename := "inputs.json"
  functionStringFilename := "function_string.txt"
  executor := "local"
  executorDataFilename := "executor_data.json"
  workflowExecutor := "local"
  workflowExecutorDataFilename := "workflow_executor_data.json"
  errorFilename := "error.log"
  functionFilename := "function.json"
  transportGraphFilename := "transport_graph.json"
  isActive := true
  startedAt := ⟨0⟩
  completedAt := some ⟨1000000⟩

/-- A row that cannot be true. -/
def brokenRow : Row := { finishedRow with dispatchId := ⟨2, by decide⟩, electronNum := -1 }

/-- A row that cannot be seen. -/
def hiddenRow : Row := { finishedRow with dispatchId := ⟨3, by decide⟩, isActive := false }

/-- A reader that finds no file. -/
def idleReader : ArtifactReader := ⟨fun _ => .refused .notFound, .sealing, .unbounded⟩

/-- Of the three rows, filled in backwards, the backends differ about the broken one only. -/
theorem interchangeable_mixed :
    ∃ store,
      Store.empty.insertAll
          (Table.insertions [finishedRow, brokenRow, hiddenRow] .epoch).reverse = .ok store ∧
      Server.result ⟨[finishedRow, brokenRow, hiddenRow], [], 0⟩
          ((inDatabase .epoch idleReader).summary finishedRow.dispatchId) =
        ((inMemory store idleReader).summary finishedRow.dispatchId).run ∧
      ((inMemory store idleReader).summary brokenRow.dispatchId).run =
        .error (.notFound brokenRow.dispatchId) ∧
      (inMemory store idleReader).Ignores Id.run hiddenRow.dispatchId := by
  have keyed : Table.Keyed [finishedRow, brokenRow, hiddenRow] := by decide
  rcases interchangeable keyed .epoch (List.reverse_perm _) with ⟨store, inserted, agree⟩
  refine ⟨store, inserted, ?_, ?_, ?_⟩
  · apply (agree 0 idleReader finishedRow.dispatchId).2.2.1
    intro row member same _
    have itself : row = finishedRow := by
      simp only [List.mem_cons, List.not_mem_nil, or_false] at member
      rcases member with rfl | rfl | rfl
      · rfl
      · exact absurd same (by decide)
      · exact absurd same (by decide)
    rw [itself]
    rintro ⟨error, failed⟩
    cases failed
  · have broken : brokenRow.Broken .epoch := ⟨_, rfl⟩
    exact ((agree 0 idleReader brokenRow.dispatchId).2.2.2.1 brokenRow (by simp) rfl rfl broken).2
  · refine ((agree 0 idleReader hiddenRow.dispatchId).2.2.2.2 ?_).2
    decide

end Service

end RunArchive
