import Mathlib.Logic.Function.Iterate
import Mathlib.Tactic.Choose
import RunArchive.Database.Repository
import RunArchive.Proofs.Database.Retry
import RunArchive.Proofs.Database.Row

/-!
# Look-ups in a calm database

What look-ups come to in a database that answers every query: with the row of the run that can be
seen, and with nothing if there is none.  Such a query has one outcome however often it is
repeated, so it does not matter which outcomes `Retry` takes for final.
-/

namespace RunArchive

/-! ## Repetition -/

/-- A unit of work that always has one outcome has it however often it is repeated. -/
theorem Retry.run_steady
    {α : Type} {table : Table} {outcome : Except DatabaseError α}
    {work : StateM Server (Except DatabaseError α)}
    (steady :
      ∀ queries, ∃ later,
        StateT.run work ⟨table, [], queries⟩ = pure (outcome, ⟨table, [], later⟩))
    (queries : Nat) :
    ∃ later,
      StateT.run (run (fun _ => pure ()) work) ⟨table, [], queries⟩ =
        pure (outcome, ⟨table, [], later⟩) := by
  choose next worked using steady
  have works (attempt : Nat) :
      StateT.run work ⟨table, [], next^[attempt] queries⟩ =
        pure (outcome, ⟨table, [], next^[attempt + 1] queries⟩) := by
    rw [worked, Function.iterate_succ_apply']
  exact ⟨_, attempt_settled works (fun _ => rfl) rfl⟩

namespace Server

variable {table : Table} {queries : Nat}

/-- What an action gives does not depend on what is made of it afterwards. -/
theorem result_map
    {α β : Type} (server : Server) (transform : α → β) (action : StateM Server α) :
    server.result (transform <$> action) = transform (server.result action) := rfl

/-- A calm database stays so in a look-up, which comes to the row that can be seen. -/
theorem run_lookup
    {α : Type} (read : Row → Except TransactionError α) (id : RunId) (queries : Nat) :
    ∃ later,
      StateT.run (Retry.run (fun _ => pure ()) (FetchOutcome.result read <$> fetch id))
          ⟨table, [], queries⟩ =
        pure (FetchOutcome.result read (.answered (table.find id)), ⟨table, [], later⟩) :=
  Retry.run_steady (fun queries => ⟨queries + 1, rfl⟩) queries

/-- A look-up in a calm database is made of the row that can be seen. -/
theorem result_lookup
    {α : Type} (read : Row → Except TransactionError α) (id : RunId) :
    result ⟨table, [], queries⟩
        (Retry.run (fun _ => pure ()) (FetchOutcome.result read <$> fetch id)) =
      FetchOutcome.result read (.answered (table.find id)) := by
  rcases run_lookup read id queries with ⟨later, run⟩
  rw [result, run]
  rfl

end Server

/-! ## Look-ups -/

/-- The record that is looked up in a row is the one that the row describes. -/
theorem Lookup.recordOfColumns_answered (found : Option Row) :
    recordOfColumns (FetchOutcome.result (fun row => .ok row.recordColumns) (.answered found)) =
      .ok (found.map Row.described) := by
  cases found with
  | none => rfl
  | some row =>
      rw [Option.map_some, ← row.recordColumns_record]
      rfl

/-- The summary that is looked up in a row is the one that the row makes. -/
theorem Lookup.summaryOfColumns_answered (now : Instant) (row : Row) :
    summaryOfColumns now (FetchOutcome.result Row.summaryColumns (.answered (some row))) =
      match row.summary now with
      | .ok summary => .ok (some summary)
      | .error error => .error error.toRepository := by
  rw [FetchOutcome.result, Row.summaryColumns_eq, Row.summary]
  cases row.namedColumns with
  | error error => rfl
  | ok columns =>
      cases made : columns.summary now <;> simp only [summaryOfColumns, made]

/-- The directory in a summary that is looked up is a text, because the column with it is one. -/
theorem Lookup.directory_of_columns
    {now : Instant} {fetched : Except DatabaseError (Option SummaryColumns)} {summary : Summary}
    (found : summaryOfColumns now fetched = .ok (some summary)) :
    ∃ directory, summary.directory = .ofText directory := by
  rcases fetched with error | _ | columns
  · cases found
  · cases found
  · rw [summaryOfColumns] at found
    cases made : columns.summary now with
    | error error =>
        rw [made] at found
        cases found
    | ok other =>
        rw [made] at found
        cases found
        exact ⟨_, (SummaryColumns.summary_eq_ok_iff.mp made).1.directory⟩

namespace Server

variable {table : Table} {queries : Nat}

/-- The record that is looked up is the one that the row that can be seen describes. -/
theorem result_record (now : Instant) (id : RunId) :
    result ⟨table, [], queries⟩ ((repositories now).record id) =
      .ok ((table.find id).map Row.described) := by
  rw [repositories, Repositories.ofFetch, result_map, result_lookup]
  exact Lookup.recordOfColumns_answered (table.find id)

/-- The summary that is looked up is that of the row that can be seen. -/
theorem result_summary (now : Instant) (id : RunId) :
    result ⟨table, [], queries⟩ ((repositories now).summary id) =
      match table.find id with
      | none => .ok none
      | some row =>
        match row.summary now with
        | .ok summary => .ok (some summary)
        | .error error => .error error.toRepository := by
  rw [repositories, Repositories.ofFetch, result_map, result_lookup]
  cases table.find id with
  | none => rfl
  | some row => exact Lookup.summaryOfColumns_answered now row

end Server

end RunArchive
