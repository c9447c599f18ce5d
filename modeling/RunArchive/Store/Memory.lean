import RunArchive.Query.Service

/-!
# Runs in memory

A store keeps summaries and storage records apart, each by the identifier of their run.  The first
valid summary of a run stays; of its records the last one does.
-/

namespace RunArchive

/-- Summaries and storage records, each run having at most one of either. -/
structure Store where
  summaries : List Summary
  records : List StorageRecord
deriving DecidableEq

namespace Store

/-- The store without runs. -/
def empty : Store := ⟨[], []⟩

/-- The summary of a run. -/
def summary? (store : Store) (id : RunId) : Option Summary := store.summaries.find? (·.id = id)

/-- The storage record of a run. -/
def record? (store : Store) (id : RunId) : Option StorageRecord := store.records.find? (·.id = id)

/-- Adds a summary, which must be valid and the first one of its run. -/
def insertSummary (store : Store) (summary : Summary) : Except RunError Store := do
  let summary ← summary.validated
  match store.summary? summary.id with
  | some _ => .error (.duplicateSummary summary.id)
  | none => return { store with summaries := summary :: store.summaries }

/-- Adds a storage record, in the place of the one that its run has. -/
def insertRecord (store : Store) (record : StorageRecord) : Store :=
  { store with records := record :: store.records.filter (·.id ≠ record.id) }

/-- How many runs have a summary. -/
def summaryCount (store : Store) : Nat := store.summaries.length

/-- How many runs have a storage record. -/
def recordCount (store : Store) : Nat := store.records.length

def isEmpty (store : Store) : Bool := store.summaries.isEmpty && store.records.isEmpty

/-- A store as repositories, which never fail. -/
def repositories {m : Type → Type} [Pure m] (store : Store) : Repositories m where
  summary id := pure (.ok (store.summary? id))
  record id := pure (.ok (store.record? id))

end Store

end RunArchive
