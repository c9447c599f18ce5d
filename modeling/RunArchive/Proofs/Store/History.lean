import Mathlib.Data.Finset.Card
import RunArchive.Proofs.Run.Validity
import RunArchive.Proofs.Store.Memory
import RunArchive.Store.Shared

/-!
# Stores with a history

What a store holds after any sequence of calls, through any clones of the handle with which it has
been made.  Of the summaries of a run the first valid one is held, of its records the last one;
calls that fail leave no trace.

`Reaches` says which maps a history of calls can lead to.  `Tracks` is the invariant that relates a
store to the calls so far; one call preserves it by `Tracks.call`, and a whole history by
`Reaches.tracks`.
-/

namespace RunArchive

namespace Store

/-! ## Single calls -/

section Calls

variable {store : Store} {summary : Summary}

theorem insertSummary_refused
    {fault : Summary.Fault} (refused : summary.check = .error fault) :
    store.insertSummary summary = .error (.invalidSummary fault) := by
  rw [insertSummary, Summary.validated_refused refused]
  rfl

theorem insertSummary_duplicate
    (valid : summary.Valid) {other : Summary} (taken : store.summary? summary.id = some other) :
    store.insertSummary summary = .error (.duplicateSummary summary.id) := by
  rw [insertSummary, Summary.validated_valid valid, ok_bind, taken]

theorem summary?_cons (held : List Summary) (records : List StorageRecord) (id : RunId) :
    summary? ⟨summary :: held, records⟩ id =
      if summary.id = id then some summary else summary? ⟨held, records⟩ id := by
  rw [summary?, List.find?_cons]
  by_cases same : summary.id = id <;> simp [same, summary?]

end Calls

/-! ## Histories -/

namespace Insertion

/-- The summary that a call is to put in. -/
def summary? : Insertion → Option Summary
  | .summary given => some given
  | .record _ => none

/-- The record that a call is to put in. -/
def record? : Insertion → Option StorageRecord
  | .summary _ => none
  | .record given => some given

end Insertion

/-- The outcome of a call through a handle, and the maps after it. -/
def Maps.call (maps : Maps) (handle : Handle) : Insertion → Except RunError Unit × Maps
  | .summary summary => maps.insertSummary handle summary
  | .record record => (.ok (), maps.insertRecord handle record)

theorem Maps.call_eq (maps : Maps) (handle : Handle) (insertion : Insertion) :
    maps.call handle insertion =
      match (maps.store handle).insert insertion with
      | .ok next => (.ok (), maps.put handle next)
      | .error cause => (.error cause, maps) := by
  cases insertion <;> rfl

/-- Calls with their outcomes, in their order. -/
abbrev History := List (Insertion × Except RunError Unit)

namespace History

/-- The valid summaries in the calls of a history, in their order. -/
def validSummaries (history : History) : List Summary :=
  (history.filterMap (·.1.summary?)).filter (·.Valid)

/-- The records in the calls of a history, in their order. -/
def records (history : History) : List StorageRecord :=
  history.filterMap (·.1.record?)

/-- A summary of a run has been put in. -/
def Succeeded (history : History) (id : RunId) : Prop :=
  ∃ summary, (.summary summary, .ok ()) ∈ history ∧ summary.id = id

theorem validSummaries_summary
    (history : History) (summary : Summary) (outcome : Except RunError Unit) :
    History.validSummaries (history ++ [(.summary summary, outcome)]) =
      history.validSummaries ++ if summary.Valid then [summary] else [] := by
  rw [validSummaries, List.filterMap_append, List.filter_append, validSummaries]
  by_cases valid : summary.Valid <;> simp [Insertion.summary?, valid]

theorem validSummaries_record
    (history : History) (record : StorageRecord) (outcome : Except RunError Unit) :
    History.validSummaries (history ++ [(.record record, outcome)]) = history.validSummaries := by
  simp [validSummaries, Insertion.summary?]

theorem records_summary
    (history : History) (summary : Summary) (outcome : Except RunError Unit) :
    History.records (history ++ [(.summary summary, outcome)]) = history.records := by
  simp [records, Insertion.record?]

theorem records_record
    (history : History) (record : StorageRecord) (outcome : Except RunError Unit) :
    History.records (history ++ [(.record record, outcome)]) = history.records ++ [record] := by
  simp [records, Insertion.record?]

theorem succeeded_error
    (history : History) (insertion : Insertion) (cause : RunError) (id : RunId) :
    History.Succeeded (history ++ [(insertion, .error cause)]) id ↔ history.Succeeded id := by
  simp [Succeeded]

theorem succeeded_record
    (history : History) (record : StorageRecord) (outcome : Except RunError Unit) (id : RunId) :
    History.Succeeded (history ++ [(.record record, outcome)]) id ↔ history.Succeeded id := by
  simp [Succeeded]

theorem succeeded_ok (history : History) (summary : Summary) (id : RunId) :
    History.Succeeded (history ++ [(.summary summary, .ok ())]) id ↔
      history.Succeeded id ∨ summary.id = id := by
  constructor
  · rintro ⟨other, member, same⟩
    rcases List.mem_append.mp member with old | new
    · exact Or.inl ⟨other, old, same⟩
    · cases List.mem_singleton.mp new
      exact Or.inr same
  · intro either
    rcases either with ⟨other, member, same⟩ | same
    · exact ⟨other, List.mem_append_left _ member, same⟩
    · exact ⟨summary, List.mem_append_right history List.mem_cons_self, same⟩

end History

/--
The histories of one store that starts out empty, with the maps that they lead to and the handles
that there are.  Every handle is the first one or a clone.
-/
inductive Reaches : History → Maps → List Handle → Prop where
  | start (handle : Handle) : Reaches [] .empty [handle]
  | clone {history : History} {maps : Maps} {handles : List Handle} {handle : Handle}
      (reached : Reaches history maps handles) (known : handle ∈ handles) :
      Reaches history maps (handle.clone :: handles)
  | call {history : History} {maps : Maps} {handles : List Handle} {handle : Handle}
      (reached : Reaches history maps handles) (known : handle ∈ handles)
      (insertion : Insertion) :
      Reaches (history ++ [(insertion, (maps.call handle insertion).1)])
        (maps.call handle insertion).2 handles

/-- All handles are the same: a clone has the places of the maps from its original. -/
theorem Reaches.same
    {history : History} {maps : Maps} {handles : List Handle}
    (reached : Reaches history maps handles) :
    ∃ handle, ∀ other ∈ handles, other = handle := by
  induction reached with
  | start handle =>
      exact ⟨handle, fun other member => List.mem_singleton.mp member⟩
  | clone reached known ih =>
      rcases ih with ⟨handle, same⟩
      refine ⟨handle, ?_⟩
      intro other member
      rcases List.mem_cons.mp member with copied | old
      · rw [copied]
        exact same _ known
      · exact same other old
  | call reached known insertion ih => exact ih

/-! ## What a store holds after a history -/

/-- A store holds what is left of the calls of a history. -/
structure Tracks (store : Store) (history : History) : Prop where
  /-- The first valid summary of a run is there. -/
  summary : ∀ id, store.summary? id = history.validSummaries.find? (·.id = id)
  /-- The last record of a run is there. -/
  record : ∀ id, store.record? id = history.records.reverse.find? (·.id = id)
  valid : ∀ summary ∈ store.summaries, summary.Valid
  summaryIds : (store.summaries.map Summary.id).Nodup
  recordIds : (store.records.map StorageRecord.id).Nodup
  /-- The runs that have a summary are those for which a call has put one in. -/
  succeeded : ∀ id, history.Succeeded id ↔ ∃ summary, store.summary? id = some summary

namespace Tracks

variable {store : Store} {history : History}

theorem empty : Tracks .empty [] where
  summary _ := rfl
  record _ := rfl
  valid _ member := nomatch member
  summaryIds := List.nodup_nil
  recordIds := List.nodup_nil
  succeeded id := by
    constructor
    · rintro ⟨summary, member, -⟩
      cases member
    · rintro ⟨summary, found⟩
      cases found

/-- A summary that is not valid, or whose run has one already, leaves no trace. -/
theorem failedSummary
    (tracks : Tracks store history) {summary : Summary}
    (taken : summary.Valid → ∃ other, store.summary? summary.id = some other) (cause : RunError) :
    Tracks store (history ++ [(.summary summary, .error cause)]) where
  summary id := by
    rw [History.validSummaries_summary, List.find?_append, ← tracks.summary id]
    cases found : store.summary? id with
    | some first => rfl
    | none =>
        by_cases valid : summary.Valid
        · rcases taken valid with ⟨other, held⟩
          have different : summary.id ≠ id := by
            intro same
            rw [same, found] at held
            cases held
          simp [valid, different]
        · simp [valid]
  record id := by
    rw [History.records_summary]
    exact tracks.record id
  valid := tracks.valid
  summaryIds := tracks.summaryIds
  recordIds := tracks.recordIds
  succeeded id := by
    rw [History.succeeded_error]
    exact tracks.succeeded id

/-- The first valid summary of a run is held from now on. -/
theorem freshSummary
    (tracks : Tracks store history) {summary : Summary} (valid : summary.Valid)
    (fresh : store.summary? summary.id = none) :
    Tracks { store with summaries := summary :: store.summaries }
      (history ++ [(.summary summary, .ok ())]) where
  summary id := by
    rw [summary?_cons, History.validSummaries_summary, if_pos valid, List.find?_append,
      ← tracks.summary id]
    by_cases same : summary.id = id
    · rw [if_pos same, ← same, fresh]
      simp
    · rw [if_neg same]
      simp [same, Store.summary?]
  record id := by
    rw [History.records_summary]
    exact tracks.record id
  valid other member := by
    rcases List.mem_cons.mp member with new | old
    · rw [new]
      exact valid
    · exact tracks.valid other old
  summaryIds := by
    rw [List.map_cons, List.nodup_cons]
    refine ⟨?_, tracks.summaryIds⟩
    intro member
    rcases List.mem_map.mp member with ⟨other, held, same⟩
    exact List.find?_eq_none.mp fresh other held (decide_eq_true same)
  recordIds := tracks.recordIds
  succeeded id := by
    rw [summary?_cons, History.succeeded_ok, tracks.succeeded id]
    by_cases same : summary.id = id
    · simp [same]
    · simp [same, Store.summary?]

/-- The latest record of a run is held from now on. -/
theorem latestRecord (tracks : Tracks store history) (record : StorageRecord) :
    Tracks (store.insertRecord record) (history ++ [(.record record, .ok ())]) where
  summary id := by
    rw [History.validSummaries_record]
    exact tracks.summary id
  record id := by
    rw [record?_insertRecord, History.records_record, tracks.record id]
    by_cases same : record.id = id <;> simp [same]
  valid := tracks.valid
  summaryIds := tracks.summaryIds
  recordIds := by
    rw [insertRecord, List.map_cons, List.nodup_cons]
    constructor
    · simp
    · exact tracks.recordIds.sublist (List.filter_sublist.map _)
  succeeded id := by
    rw [History.succeeded_record]
    exact tracks.succeeded id

end Tracks

/-- A call that fails leaves no trace. -/
theorem Tracks.refused
    {store : Store} {history : History} (tracks : Tracks store history) {insertion : Insertion}
    {cause : RunError} (refused : store.insert insertion = .error cause) :
    Tracks store (history ++ [(insertion, .error cause)]) := by
  cases insertion with
  | record record => cases refused
  | summary summary =>
      refine tracks.failedSummary ?_ cause
      intro valid
      cases found : store.summary? summary.id with
      | some other => exact ⟨other, rfl⟩
      | none =>
          rw [insert, insertSummary_fresh (Summary.validated_valid valid) found] at refused
          cases refused

/-- A call that succeeds leads to a store that holds what is left of all calls. -/
theorem Tracks.accepted
    {store next : Store} {history : History} (tracks : Tracks store history)
    {insertion : Insertion} (accepted : store.insert insertion = .ok next) :
    Tracks next (history ++ [(insertion, .ok ())]) := by
  cases insertion with
  | record record =>
      cases accepted
      exact tracks.latestRecord record
  | summary summary =>
      by_cases valid : summary.Valid
      · cases found : store.summary? summary.id with
        | some other =>
            rw [insert, insertSummary_duplicate valid found] at accepted
            cases accepted
        | none =>
            rw [insert, insertSummary_fresh (Summary.validated_valid valid) found] at accepted
            cases accepted
            exact tracks.freshSummary valid found
      · rcases Summary.check_invalid valid with ⟨fault, refused⟩
        rw [insert, insertSummary_refused refused] at accepted
        cases accepted

/-- One call through any handle keeps the invariant. -/
theorem Tracks.call
    {maps : Maps} {handle : Handle} {history : History}
    (tracks : Tracks (maps.store handle) history) (insertion : Insertion) :
    Tracks ((maps.call handle insertion).2.store handle)
      (history ++ [(insertion, (maps.call handle insertion).1)]) := by
  rw [Maps.call_eq]
  cases result : (maps.store handle).insert insertion with
  | error cause => exact tracks.refused result
  | ok next =>
      rw [Maps.store_put]
      exact tracks.accepted result

/-- After a whole history, every handle leads to what is left of its calls. -/
theorem Reaches.tracks
    {history : History} {maps : Maps} {handles : List Handle}
    (reached : Reaches history maps handles) :
    ∀ handle ∈ handles, Tracks (maps.store handle) history := by
  induction reached with
  | start handle =>
      intro other _
      exact Tracks.empty
  | clone reached known ih =>
      intro other member
      rcases List.mem_cons.mp member with copied | old
      · rw [copied]
        exact ih _ known
      · exact ih other old
  | @call history maps handles handle reached known insertion ih =>
      intro other member
      rcases reached.same with ⟨first, same⟩
      rw [same other member, ← same handle known]
      exact (ih handle known).call insertion

/-! ## Counting -/

theorem mem_runs_iff
    {Value : Type} (run : Value → RunId) (values : List Value) (id : RunId) :
    id ∈ values.map run ↔ (values.find? (run · = id)).isSome := by
  rw [List.mem_map, List.find?_isSome]
  simp

/-- Values of different runs are as many as the runs among values with the same runs. -/
theorem length_eq_card
    {Value : Type} (run : Value → RunId) {held given : List Value}
    (distinct : (held.map run).Nodup)
    (same : ∀ id, (held.find? (run · = id)).isSome = (given.find? (run · = id)).isSome) :
    held.length = (given.map run).toFinset.card := by
  have runs : (held.map run).toFinset = (given.map run).toFinset := by
    ext id
    rw [List.mem_toFinset, List.mem_toFinset, mem_runs_iff, mem_runs_iff, same]
  calc
    held.length = (held.map run).length := (List.length_map run).symm
    _ = (held.map run).toFinset.card := (List.toFinset_card_of_nodup distinct).symm
    _ = (given.map run).toFinset.card := by rw [runs]

theorem isEmpty_iff (store : Store) :
    store.isEmpty = true ↔ store.summaryCount = 0 ∧ store.recordCount = 0 := by
  simp [isEmpty, summaryCount, recordCount]

namespace Tracks

variable {store : Store} {history : History} (tracks : Tracks store history)

include tracks

theorem summaryCount :
    store.summaryCount = (history.validSummaries.map Summary.id).toFinset.card := by
  apply length_eq_card Summary.id tracks.summaryIds
  intro id
  exact congrArg Option.isSome (tracks.summary id)

theorem recordCount :
    store.recordCount = (history.records.map StorageRecord.id).toFinset.card := by
  rw [Store.recordCount, length_eq_card StorageRecord.id tracks.recordIds
    (fun id => congrArg Option.isSome (tracks.record id))]
  congr 1
  ext id
  simp

/-- A summary that is held is valid, and is the one that is found for its run. -/
theorem held {summary : Summary} (member : summary ∈ store.summaries) :
    summary.Valid ∧ store.summary? summary.id = some summary := by
  refine ⟨tracks.valid summary member, ?_⟩
  cases found : store.summary? summary.id with
  | none => exact absurd (decide_eq_true rfl) (List.find?_eq_none.mp found summary member)
  | some other =>
      have same : other.id = summary.id := (summary?_eq_some.mp found).1
      have there : other ∈ store.summaries := List.mem_of_find?_eq_some found
      rw [List.inj_on_of_nodup_map tracks.summaryIds there member same]

end Tracks

/-! ## How the next call ends -/

section NextCall

variable {maps : Maps} {handle : Handle} {summary : Summary}

theorem Maps.call_refused
    {fault : Summary.Fault} (refused : summary.check = .error fault) :
    maps.call handle (.summary summary) = (.error (.invalidSummary fault), maps) := by
  rw [Maps.call_eq, insert, insertSummary_refused refused]

theorem Maps.call_duplicate
    (valid : summary.Valid) {other : Summary}
    (taken : (maps.store handle).summary? summary.id = some other) :
    maps.call handle (.summary summary) = (.error (.duplicateSummary summary.id), maps) := by
  rw [Maps.call_eq, insert, insertSummary_duplicate valid taken]

theorem Maps.call_fresh
    (valid : summary.Valid) (fresh : (maps.store handle).summary? summary.id = none) :
    (maps.call handle (.summary summary)).1 = .ok () := by
  rw [Maps.call_eq, insert, insertSummary_fresh (Summary.validated_valid valid) fresh]

theorem Maps.call_error
    {insertion : Insertion} {cause : RunError}
    (failed : (maps.call handle insertion).1 = .error cause) :
    (maps.call handle insertion).2 = maps := by
  rw [Maps.call_eq] at failed ⊢
  cases result : (maps.store handle).insert insertion with
  | error cause => rfl
  | ok next =>
      rw [result] at failed
      cases failed

theorem Tracks.call_ok_iff
    {history : History} (tracks : Tracks (maps.store handle) history) :
    (maps.call handle (.summary summary)).1 = .ok () ↔
      summary.Valid ∧ ¬ history.Succeeded summary.id := by
  rw [tracks.succeeded]
  constructor
  · intro accepted
    have valid : summary.Valid := by
      by_contra invalid
      rcases Summary.check_invalid invalid with ⟨fault, refused⟩
      rw [Maps.call_refused refused] at accepted
      cases accepted
    refine ⟨valid, ?_⟩
    rintro ⟨other, taken⟩
    rw [Maps.call_duplicate valid taken] at accepted
    cases accepted
  · rintro ⟨valid, untaken⟩
    apply Maps.call_fresh valid
    rw [Option.eq_none_iff_forall_ne_some]
    intro other taken
    exact untaken ⟨other, taken⟩

end NextCall

/-! ## The whole -/

/--
After any calls, through any clones, a store that started out empty has the first valid summary and
the last record of each run; the next call of a summary succeeds just if it is a valid one of a run
for which none has succeeded; and the counts are those of the runs.
-/
theorem reached_store
    {history : History} {maps : Maps} {handles : List Handle} {handle : Handle}
    (reached : Reaches history maps handles) (known : handle ∈ handles) :
    (∀ id,
      (maps.store handle).summary? id = history.validSummaries.find? (·.id = id) ∧
      (maps.store handle).record? id = history.records.reverse.find? (·.id = id)) ∧
    (∀ summary ∈ (maps.store handle).summaries,
      summary.Valid ∧ (maps.store handle).summary? summary.id = some summary) ∧
    (∀ summary,
      ((maps.call handle (.summary summary)).1 = .ok () ↔
        summary.Valid ∧ ¬ history.Succeeded summary.id) ∧
      (¬ summary.Valid → ∃ fault, summary.check = .error fault ∧
        (maps.call handle (.summary summary)).1 = .error (.invalidSummary fault)) ∧
      (summary.Valid → history.Succeeded summary.id →
        (maps.call handle (.summary summary)).1 = .error (.duplicateSummary summary.id))) ∧
    (∀ insertion cause,
      (maps.call handle insertion).1 = .error cause → (maps.call handle insertion).2 = maps) ∧
    (maps.store handle).summaryCount =
      (history.validSummaries.map Summary.id).toFinset.card ∧
    (maps.store handle).recordCount =
      (history.records.map StorageRecord.id).toFinset.card ∧
    ((maps.store handle).isEmpty = true ↔
      (maps.store handle).summaryCount = 0 ∧ (maps.store handle).recordCount = 0) := by
  have tracks : Tracks (maps.store handle) history := reached.tracks handle known
  refine ⟨fun id => ⟨tracks.summary id, tracks.record id⟩, fun summary => tracks.held, ?_,
    fun insertion cause => Maps.call_error, tracks.summaryCount, tracks.recordCount,
    isEmpty_iff _⟩
  intro summary
  refine ⟨tracks.call_ok_iff, ?_, ?_⟩
  · intro invalid
    rcases Summary.check_invalid invalid with ⟨fault, refused⟩
    exact ⟨fault, refused, by rw [Maps.call_refused refused]⟩
  · intro valid succeeded
    rcases (tracks.succeeded summary.id).mp succeeded with ⟨other, taken⟩
    rw [Maps.call_duplicate valid taken]

/-- A summary with this many electrons, two of which are completed. -/
def halfDone (total : UInt32) : Summary where
  id := ⟨13, by decide⟩
  status := .running
  total := total
  completed := 2
  startedAt := .epoch
  endedAt := none
  directory := .ofText "runs"
  runtime := 0

/-- A summary that is not valid, a valid one through a clone, and that one again. -/
theorem reached_store_clone :
    ∃ maps, Reaches
        [(.summary (halfDone 1),
            .error (.invalidSummary (.tooManyCompleted (halfDone 1).id 2 1))),
          (.summary (halfDone 4), .ok ()),
          (.summary (halfDone 3), .error (.duplicateSummary (halfDone 3).id))]
        maps [Handle.clone ⟨0, 0⟩, ⟨0, 0⟩] ∧
      (maps.store ⟨0, 0⟩).summary? (halfDone 1).id = some (halfDone 4) ∧
      (maps.store ⟨0, 0⟩).summaryCount = 1 ∧
      (maps.store ⟨0, 0⟩).isEmpty = false := by
  let first : Handle := ⟨0, 0⟩
  have reached :=
    (((Reaches.start first).call List.mem_cons_self (.summary (halfDone 1))).clone
      List.mem_cons_self).call List.mem_cons_self (.summary (halfDone 4)) |>.call
      (List.mem_cons_of_mem _ List.mem_cons_self) (.summary (halfDone 3))
  have whole := reached_store reached (List.mem_cons_of_mem _ List.mem_cons_self)
  refine ⟨_, reached, ?_, ?_, ?_⟩
  · exact ((whole.1 _).1).trans (by decide)
  · exact whole.2.2.2.2.1.trans (by decide)
  · rfl

end Store

end RunArchive
