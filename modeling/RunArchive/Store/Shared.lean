import RunArchive.Store.Memory

/-!
# Shared stores

A store is used through handles.  A handle does not hold the two maps of its store but knows their
places, so a clone of it leads to the same maps: what is put in through one of them is there for
the other.
-/

namespace RunArchive.Store

/-- A handle on a store: the places of its two maps. -/
structure Handle where
  summaries : Nat
  records : Nat
deriving DecidableEq

/-- Another handle on the same maps. -/
def Handle.clone (handle : Handle) : Handle := ⟨handle.summaries, handle.records⟩

/-- The maps that there are, by their places. -/
structure Maps where
  summaries : Nat → List Summary
  records : Nat → List StorageRecord

namespace Maps

/-- Maps without entries. -/
def empty : Maps := ⟨fun _ => [], fun _ => []⟩

/-- The store that a handle leads to. -/
def store (maps : Maps) (handle : Handle) : Store :=
  ⟨maps.summaries handle.summaries, maps.records handle.records⟩

/-- The maps after the store of a handle has changed. -/
def put (maps : Maps) (handle : Handle) (store : Store) : Maps where
  summaries place := if place = handle.summaries then store.summaries else maps.summaries place
  records place := if place = handle.records then store.records else maps.records place

@[simp]
theorem store_put (maps : Maps) (handle : Handle) (store : Store) :
    (maps.put handle store).store handle = store := by
  simp [put, Maps.store]

/-- Adds a summary through a handle. -/
def insertSummary (maps : Maps) (handle : Handle) (summary : Summary) :
    Except RunError Unit × Maps :=
  match (maps.store handle).insertSummary summary with
  | .ok next => (.ok (), maps.put handle next)
  | .error cause => (.error cause, maps)

/-- Adds a storage record through a handle. -/
def insertRecord (maps : Maps) (handle : Handle) (record : StorageRecord) : Maps :=
  maps.put handle ((maps.store handle).insertRecord record)

end Maps

end RunArchive.Store
