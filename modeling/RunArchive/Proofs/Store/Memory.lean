import RunArchive.Proofs.Outcome
import RunArchive.Store.Memory

/-!
# Filling stores

What a store holds after a sequence of insertions.  As long as no two insertions put the same kind
of thing in for one run, it does not matter that the first summary of a run stays and the last
record does: all insertions succeed, and the store holds just what has been put in, whatever the
order was.

The step lemma is `insert_holds`, and the run lemma `insertAll_holds` follows by induction on the
insertions that are left.
-/

namespace RunArchive.Store

/-- Something that is put into a store. -/
inductive Insertion where
  | summary (summary : Summary)
  | record (record : StorageRecord)

/-- The store after an insertion. -/
def insert (store : Store) : Insertion → Except RunError Store
  | .summary summary => store.insertSummary summary
  | .record record => .ok (store.insertRecord record)

/-- The store after insertions one after the other, all of which must succeed. -/
def insertAll (store : Store) : List Insertion → Except RunError Store
  | [] => .ok store
  | insertion :: rest => do (← store.insert insertion).insertAll rest

/-- Whether a store holds what an insertion puts in. -/
def Holds (store : Store) : Insertion → Prop
  | .summary summary => store.summary? summary.id = some summary
  | .record record => store.record? record.id = some record

namespace Insertion

/-- Two insertions do not put the same kind of thing in for one run. -/
def Apart : Insertion → Insertion → Prop
  | .summary left, .summary right => left.id ≠ right.id
  | .record left, .record right => left.id ≠ right.id
  | .summary _, .record _ => True
  | .record _, .summary _ => True

/-- An insertion of a summary must put a valid one in. -/
def Acceptable : Insertion → Prop
  | .summary given => given.validated = .ok given
  | .record _ => True

/-- The run that an insertion is about. -/
def id : Insertion → RunId
  | .summary given => given.id
  | .record given => given.id

theorem apart_of_ne
    {left right : Insertion} (different : left.id ≠ right.id) :
    left.Apart right := by
  cases left with
  | summary given =>
      cases right with
      | summary other => exact different
      | record other => exact trivial
  | record given =>
      cases right with
      | summary other => exact trivial
      | record other => exact different

theorem Apart.symm
    {left right : Insertion} (apart : left.Apart right) :
    right.Apart left := by
  cases left with
  | summary given =>
      cases right with
      | summary other => exact Ne.symm apart
      | record other => exact trivial
  | record given =>
      cases right with
      | summary other => exact trivial
      | record other => exact Ne.symm apart

end Insertion

/-! ## Looking things up -/

/-- What is found for a run is about it, and is what is found for its own run. -/
theorem find?_eq_some
    {Value : Type} (run : Value → RunId) (held : List Value) {id : RunId} {value : Value} :
    held.find? (run · = id) = some value ↔
      run value = id ∧ held.find? (run · = run value) = some value := by
  constructor
  · intro found
    have same : run value = id := by
      simpa using List.find?_some found
    rw [← same] at found
    exact ⟨same, found⟩
  · rintro ⟨rfl, found⟩
    exact found

/-- A store has the summary of a run that it holds for it. -/
theorem summary?_eq_some
    {store : Store} {id : RunId} {summary : Summary} :
    store.summary? id = some summary ↔ summary.id = id ∧ store.Holds (.summary summary) :=
  find?_eq_some Summary.id store.summaries

/-- A store has the record of a run that it holds for it. -/
theorem record?_eq_some
    {store : Store} {id : RunId} {record : StorageRecord} :
    store.record? id = some record ↔ record.id = id ∧ store.Holds (.record record) :=
  find?_eq_some StorageRecord.id store.records

theorem record?_insertRecord
    (store : Store) (record : StorageRecord) (id : RunId) :
    (store.insertRecord record).record? id =
      if record.id = id then some record else store.record? id := by
  rw [insertRecord, record?, record?, List.find?_cons]
  by_cases same : record.id = id
  · simp [same]
  · have others :
        (store.records.filter (·.id ≠ record.id)).find? (·.id = id) =
          store.records.find? (·.id = id) := by
      rw [List.find?_filter]
      congr 1
      funext other
      by_cases wanted : other.id = id
      · simp [wanted, Ne.symm same]
      · simp [wanted]
    simp only [same, decide_false, if_false]
    exact others

/-! ## One insertion -/

/-- A valid summary of a run that has none yet is put in. -/
theorem insertSummary_fresh
    {store : Store} {summary : Summary}
    (accepted : summary.validated = .ok summary)
    (fresh : store.summary? summary.id = none) :
    store.insertSummary summary =
      .ok { store with summaries := summary :: store.summaries } := by
  rw [insertSummary, accepted, ok_bind, fresh]
  rfl

/-- What is found for its own key after one more value has come in under a key of its own. -/
theorem found_iff
    {Value : Type} {id : Value → RunId} {new : Value} {before after : RunId → Option Value}
    (step : ∀ key, after key = if id new = key then some new else before key)
    (fresh : ∀ held, before (id held) = some held → id held ≠ id new)
    (other : Value) :
    after (id other) = some other ↔ other = new ∨ before (id other) = some other := by
  rw [step]
  by_cases same : id new = id other
  · rw [if_pos same]
    constructor
    · intro found
      exact Or.inl (Option.some.inj found).symm
    · intro either
      rcases either with equal | held
      · rw [equal]
      · exact absurd same.symm (fresh other held)
  · rw [if_neg same]
    constructor
    · intro held
      exact Or.inr held
    · intro either
      rcases either with equal | held
      · exact absurd (congrArg id equal).symm same
      · exact held

/-- Something new is put in, and everything else stays. -/
theorem insert_holds
    {store : Store} {new : Insertion}
    (acceptable : new.Acceptable)
    (fresh : ∀ held, store.Holds held → held.Apart new) :
    ∃ next, store.insert new = .ok next ∧
      ∀ other, next.Holds other ↔ other = new ∨ store.Holds other := by
  cases new with
  | summary summary =>
      have absent : store.summary? summary.id = none := by
        cases found : store.summary? summary.id with
        | none => rfl
        | some old =>
            rcases summary?_eq_some.mp found with ⟨same, held⟩
            exact absurd same (fresh _ held)
      refine ⟨_, insertSummary_fresh acceptable absent, ?_⟩
      intro other
      cases other with
      | record record =>
          exact ⟨Or.inr, fun either => either.resolve_left nofun⟩
      | summary other =>
          rw [Insertion.summary.injEq]
          apply found_iff
          · intro key
            rw [summary?, List.find?_cons]
            by_cases same : summary.id = key <;> simp [same, summary?]
          · intro held found
            exact fresh (.summary held) found
  | record record =>
      refine ⟨_, rfl, ?_⟩
      intro other
      cases other with
      | summary summary =>
          exact ⟨Or.inr, fun either => either.resolve_left nofun⟩
      | record other =>
          rw [Insertion.record.injEq]
          apply found_iff
          · exact record?_insertRecord store record
          · intro held found
            exact fresh (.record held) found

/-! ## Many insertions -/

/--
Insertions of different things all succeed, and the store then holds just what they have put in
besides what it held before.
-/
theorem insertAll_holds
    {store : Store} {insertions : List Insertion}
    (acceptable : ∀ insertion ∈ insertions, insertion.Acceptable)
    (apart : insertions.Pairwise Insertion.Apart)
    (fresh : ∀ held, store.Holds held → ∀ insertion ∈ insertions, held.Apart insertion) :
    ∃ final, store.insertAll insertions = .ok final ∧
      ∀ other, final.Holds other ↔ other ∈ insertions ∨ store.Holds other := by
  induction insertions generalizing store with
  | nil =>
      refine ⟨store, rfl, ?_⟩
      intro other
      simp
  | cons new rest ih =>
      rcases List.pairwise_cons.mp apart with ⟨newApart, restApart⟩
      rcases insert_holds (acceptable new List.mem_cons_self)
          (fun held holds => fresh held holds new List.mem_cons_self) with
        ⟨next, inserted, nextHolds⟩
      have nextFresh :
          ∀ held, next.Holds held → ∀ insertion ∈ rest, held.Apart insertion := by
        intro held holds insertion member
        rcases (nextHolds held).mp holds with equal | old
        · rw [equal]
          exact newApart insertion member
        · exact fresh held old insertion (List.mem_cons_of_mem _ member)
      rcases ih (fun insertion member => acceptable insertion (List.mem_cons_of_mem _ member))
          restApart nextFresh with
        ⟨final, insertedAll, finalHolds⟩
      refine ⟨final, ?_, ?_⟩
      · rw [insertAll, inserted, ok_bind]
        exact insertedAll
      · intro other
        rw [finalHolds, nextHolds, List.mem_cons]
        constructor
        · intro either
          rcases either with later | equal | old
          · exact Or.inl (Or.inr later)
          · exact Or.inl (Or.inl equal)
          · exact Or.inr old
        · intro either
          rcases either with (equal | later) | old
          · exact Or.inr (Or.inl equal)
          · exact Or.inl later
          · exact Or.inr (Or.inr old)

theorem not_holds_empty (insertion : Insertion) : ¬ empty.Holds insertion := by
  cases insertion <;> simp [Holds, empty, summary?, record?]

/-- A store that is filled with different things holds just these. -/
theorem filled_holds
    {insertions : List Insertion}
    (acceptable : ∀ insertion ∈ insertions, insertion.Acceptable)
    (apart : insertions.Pairwise Insertion.Apart) :
    ∃ final, empty.insertAll insertions = .ok final ∧
      ∀ other, final.Holds other ↔ other ∈ insertions := by
  rcases insertAll_holds acceptable apart
      (fun held holds => absurd holds (not_holds_empty held)) with
    ⟨final, inserted, holds⟩
  refine ⟨final, inserted, ?_⟩
  intro other
  rw [holds]
  constructor
  · intro either
    exact either.resolve_right (not_holds_empty other)
  · exact Or.inl

end RunArchive.Store
