import RunArchive.Proofs.Database.Repository
import RunArchive.Proofs.Database.Retry

/-!
# Absence, corruption and outage

What queries come to over a database whose attempts have any sequence of outcomes.  One outcome is
final, and a query depends on that one only.  If there is no row there is no such run; if something
cannot be read, or a row cannot be true, the stored data are corrupt; after any other failure the
database cannot be reached.  None of the three is ever taken for another one.

The three cases are said of outcomes in `Absent`, `Unreadable` and `Out`.  `Tells` says what a
look-up makes of them, and `Reports` what a query does.
-/

namespace RunArchive

/-! ## Outcomes of attempts -/

namespace FetchOutcome

/-- There is no row. -/
inductive Absent : FetchOutcome → Prop where
  /-- No row matches. -/
  | unmatched : Absent (.answered none)
  /-- The query fails because it finds nothing. -/
  | notFound : Absent (.failed .noRow)

/-- Something in the database does not hold what it should. -/
inductive Unreadable : FetchOutcome → Prop where
  | query (message : String) : Unreadable (.failed (.unreadableColumn message))
  | transaction (message : String) : Unreadable (.unfinished (.unreadableColumn message))

/-- There is no connection, or the database fails in a way that says nothing about its rows. -/
inductive Out : FetchOutcome → Prop where
  | connection (error : DatabaseError) : Out (.unconnected error)
  | transaction {error : TransactionError}
      (other : ∀ message, error ≠ .unreadableColumn message) :
      Out (.unfinished error)
  | query {error : TransactionError}
      (present : error ≠ .noRow)
      (other : ∀ message, error ≠ .unreadableColumn message) :
      Out (.failed error)

/-- The row that has been fetched makes no summary. -/
def Implausible (now : Instant) (outcome : FetchOutcome) : Prop :=
  ∃ row error, outcome = .answered (some row) ∧ row.summary now = .error error

/-- Connections come from a pool: where there is none, that may pass. -/
def Pooled (outcome : FetchOutcome) : Prop :=
  ∀ error, outcome = .unconnected error → ∃ description, error = .transient description

/-- Whether another attempt may succeed behind this one. -/
def mayPass : FetchOutcome → Bool
  | .unconnected error => error.isRetryable
  | .unfinished error => (DatabaseError.ofTransaction error).isRetryable
  | .failed error => (DatabaseError.ofTransaction error).isRetryable
  | .answered _ => false

/-- The outcome that is final: the first one of four that does not pass, or the fourth one. -/
def settled (outcomes : Nat → FetchOutcome) : FetchOutcome :=
  outcomes (Retry.settledAt fun attempt => (outcomes attempt).mayPass)

/-! ## The kinds of outcomes exclude each other -/

variable {outcome : FetchOutcome}

theorem Absent.not_unreadable (absent : outcome.Absent) : ¬ outcome.Unreadable := by
  cases absent <;> nofun

theorem Absent.not_out (absent : outcome.Absent) : ¬ outcome.Out := by
  cases absent with
  | unmatched => nofun
  | notFound =>
      intro out
      cases out with
      | query present _ => exact present rfl

theorem Unreadable.not_out (unreadable : outcome.Unreadable) : ¬ outcome.Out := by
  intro out
  cases unreadable with
  | query message =>
      cases out with
      | query _ other => exact other message rfl
  | transaction message =>
      cases out with
      | transaction other => exact other message rfl

theorem not_absent_row (row : Row) : ¬ (answered (some row)).Absent := by
  intro absent
  cases absent

theorem not_unreadable_row (row : Row) : ¬ (answered (some row)).Unreadable := by
  intro unreadable
  cases unreadable

theorem not_out_row (row : Row) : ¬ (answered (some row)).Out := by
  intro out
  cases out

theorem Absent.not_implausible
    (absent : outcome.Absent) (now : Instant) : ¬ outcome.Implausible now := by
  rintro ⟨row, error, rfl, _⟩
  exact not_absent_row row absent

theorem Out.not_implausible (out : outcome.Out) (now : Instant) : ¬ outcome.Implausible now := by
  rintro ⟨row, error, rfl, _⟩
  exact not_out_row row out

/-! ## What a client sees of an outcome -/

/-- Whether an outcome may pass does not depend on the columns that are read. -/
theorem mayPass_result
    {α : Type} {read : Row → Except TransactionError α}
    (reads : ∀ row error, read row = .error error → ∃ message, error = .unreadableColumn message)
    (outcome : FetchOutcome) :
    Retry.mayPass (outcome.result read) = outcome.mayPass := by
  cases outcome with
  | unconnected error => rfl
  | unfinished error => rfl
  | failed error => cases error <;> rfl
  | answered row =>
      cases row with
      | none => rfl
      | some row =>
          rw [result]
          cases came : read row with
          | ok columns => rfl
          | error error =>
              obtain ⟨message, rfl⟩ := reads row error came
              rfl

/-- A failed transaction that says nothing about a row is an outage. -/
theorem toRepository_ofTransaction
    {error : TransactionError} (other : ∀ message, error ≠ .unreadableColumn message) :
    ∃ description, (DatabaseError.ofTransaction error).toRepository = .backend description := by
  cases error with
  | server kind message => cases kind <;> exact ⟨_, rfl⟩
  | unreadableColumn message => exact absurd rfl (other message)
  | _ => exact ⟨_, rfl⟩

/-- What a client sees is decided by the kind of the outcome, unless it is a row. -/
theorem result_cases
    {α : Type} (pooled : outcome.Pooled) (read : Row → Except TransactionError α) :
    outcome.Absent ∧ outcome.result read = .ok none ∨
    outcome.Unreadable ∧ (∃ description, outcome.result read = .error (.corrupt description)) ∨
    outcome.Out ∧ (∃ error description,
      outcome.result read = .error error ∧ error.toRepository = .backend description) ∨
    ∃ row, outcome = .answered (some row) := by
  cases outcome with
  | unconnected error =>
      obtain ⟨description, rfl⟩ := pooled error rfl
      exact .inr (.inr (.inl ⟨.connection _, _, _, rfl, rfl⟩))
  | unfinished error =>
      by_cases unread : ∃ message, error = .unreadableColumn message
      · obtain ⟨message, rfl⟩ := unread
        exact .inr (.inl ⟨.transaction message, _, rfl⟩)
      · have other := not_exists.mp unread
        obtain ⟨description, told⟩ := toRepository_ofTransaction other
        exact .inr (.inr (.inl ⟨.transaction other, _, description, rfl, told⟩))
  | failed error =>
      by_cases nothing : error = .noRow
      · subst nothing
        exact .inl ⟨.notFound, rfl⟩
      by_cases unread : ∃ message, error = .unreadableColumn message
      · obtain ⟨message, rfl⟩ := unread
        exact .inr (.inl ⟨.query message, _, rfl⟩)
      · have other := not_exists.mp unread
        obtain ⟨description, told⟩ := toRepository_ofTransaction other
        have seen :
            (FetchOutcome.failed error).result read = .error (.ofTransaction error) := by
          cases error with
          | noRow => exact absurd rfl nothing
          | _ => rfl
        exact .inr (.inr (.inl ⟨.query nothing other, _, description, seen, told⟩))
  | answered row =>
      cases row with
      | none => exact .inl ⟨.unmatched, rfl⟩
      | some row => exact .inr (.inr (.inr ⟨row, rfl⟩))

end FetchOutcome

/-! ## Look-ups -/

namespace Lookup

/-- A look-up tells absence, corruption and outage apart. -/
structure Tells {α : Type} (lookup : Lookup α) (absent corrupt out : Prop) : Prop where
  absent : lookup = .ok none ↔ absent
  corrupt : (∃ description, lookup = .error (.corrupt description)) ↔ corrupt
  backend : (∃ description, lookup = .error (.backend description)) ↔ out

variable {α : Type} {lookup : Lookup α} {absent corrupt out : Prop}

theorem tells_absent
    (nothing : lookup = .ok none) (isAbsent : absent) (notCorrupt : ¬ corrupt) (notOut : ¬ out) :
    lookup.Tells absent corrupt out := by
  subst nothing
  constructor <;> simp [isAbsent, notCorrupt, notOut]

theorem tells_corrupt
    {description : String} (broken : lookup = .error (.corrupt description))
    (notAbsent : ¬ absent) (isCorrupt : corrupt) (notOut : ¬ out) :
    lookup.Tells absent corrupt out := by
  subst broken
  constructor <;> simp [notAbsent, isCorrupt, notOut]

theorem tells_out
    {description : String} (unavailable : lookup = .error (.backend description))
    (notAbsent : ¬ absent) (notCorrupt : ¬ corrupt) (isOut : out) :
    lookup.Tells absent corrupt out := by
  subst unavailable
  constructor <;> simp [notAbsent, notCorrupt, isOut]

theorem tells_found
    {value : α} (found : lookup = .ok (some value))
    (notAbsent : ¬ absent) (notCorrupt : ¬ corrupt) (notOut : ¬ out) :
    lookup.Tells absent corrupt out := by
  subst found
  constructor <;> simp [notAbsent, notCorrupt, notOut]

end Lookup

namespace FetchOutcome

variable {outcome : FetchOutcome}

/--
A look-up that hands failures and absence on tells the kinds of outcomes apart, if it does so for
rows.
-/
theorem tells
    {α β : Type} (pooled : outcome.Pooled) (read : Row → Except TransactionError α)
    {convert : Except DatabaseError (Option α) → Lookup β} {corrupt : Prop}
    (failing : ∀ error, convert (.error error) = .error error.toRepository)
    (nothing : convert (.ok none) = .ok none)
    (unread : outcome.Unreadable → corrupt)
    (present : corrupt → ¬ outcome.Absent)
    (running : corrupt → ¬ outcome.Out)
    (rows : ∀ row, outcome = .answered (some row) →
      (convert (outcome.result read)).Tells outcome.Absent corrupt outcome.Out) :
    (convert (outcome.result read)).Tells outcome.Absent corrupt outcome.Out := by
  rcases result_cases pooled read with
    ⟨absent, seen⟩ | ⟨unreadable, description, seen⟩ | ⟨out, error, description, seen, told⟩ |
      ⟨row, fetched⟩
  · rw [seen, nothing]
    exact Lookup.tells_absent rfl absent (fun isCorrupt => present isCorrupt absent) absent.not_out
  · rw [seen, failing]
    exact Lookup.tells_corrupt rfl (fun absent => absent.not_unreadable unreadable)
      (unread unreadable) unreadable.not_out
  · rw [seen, failing]
    exact Lookup.tells_out (congrArg Except.error told) (fun absent => absent.not_out out)
      (fun isCorrupt => running isCorrupt out) out
  · exact rows row fetched

/-- The look-up of a summary tells the kinds of outcomes apart. -/
theorem summary_tells (pooled : outcome.Pooled) (now : Instant) :
    (Lookup.summaryOfColumns now (outcome.result Row.summaryColumns)).Tells
      outcome.Absent (outcome.Unreadable ∨ outcome.Implausible now) outcome.Out := by
  apply tells pooled
  · intro error
    rfl
  · rfl
  · exact Or.inl
  · rintro (unreadable | implausible) absent
    · exact absent.not_unreadable unreadable
    · exact absent.not_implausible now implausible
  · rintro (unreadable | implausible) out
    · exact unreadable.not_out out
    · exact out.not_implausible now implausible
  · rintro row rfl
    rw [Lookup.summaryOfColumns_answered]
    cases made : row.summary now with
    | ok summary =>
        refine Lookup.tells_found rfl (not_absent_row row) ?_ (not_out_row row)
        rintro (unreadable | ⟨_, error, same, failed⟩)
        · exact not_unreadable_row row unreadable
        · cases same
          rw [made] at failed
          cases failed
    | error error =>
        obtain ⟨description, rfl⟩ := Row.summary_error made
        exact Lookup.tells_corrupt rfl (not_absent_row row) (.inr ⟨row, _, rfl, made⟩)
          (not_out_row row)

/-- The look-up of a record tells the kinds of outcomes apart. -/
theorem record_tells (pooled : outcome.Pooled) :
    (Lookup.recordOfColumns (outcome.result fun row => .ok row.recordColumns)).Tells
      outcome.Absent outcome.Unreadable outcome.Out := by
  apply tells pooled
  · intro error
    rfl
  · rfl
  · exact id
  · exact fun unreadable absent => absent.not_unreadable unreadable
  · exact fun unreadable out => unreadable.not_out out
  · rintro row rfl
    exact Lookup.tells_found rfl (not_absent_row row) (not_unreadable_row row) (not_out_row row)

end FetchOutcome

/-! ## Queries -/

/-- A query tells absence, corruption and outage apart, and absence by the run that is asked for. -/
structure QueryError.Reports {α : Type} (answer : Except QueryError α) (id : RunId)
    (absent corrupt out : Prop) : Prop where
  notFound : ∀ missing, answer = .error (.notFound missing) ↔ missing = id ∧ absent
  corrupt : (∃ description, answer = .error (.repository (.corrupt description))) ↔ corrupt
  backend : (∃ description, answer = .error (.repository (.backend description))) ↔ out

/-- What is made of something that has been found can only be an artifact error. -/
theorem Lookup.Tells.reports
    {α β : Type} {lookup : Lookup α} {absent corrupt out : Prop}
    (tells : lookup.Tells absent corrupt out) (id : RunId)
    {next : α → Except QueryError β}
    (harmless : ∀ value error, next value = .error error → ∃ cause, error = .artifact cause) :
    QueryError.Reports (lookup.found id >>= next) id absent corrupt out := by
  rcases tells with ⟨absentIff, corruptIff, outIff⟩
  rw [← absentIff, ← corruptIff, ← outIff]
  cases lookup with
  | error cause =>
      constructor <;> simp [Lookup.found]
  | ok found =>
      cases found with
      | none =>
          constructor
          · intro missing
            simp [Lookup.found, eq_comm]
          · simp [Lookup.found]
          · simp [Lookup.found]
      | some value =>
          have knows : ∀ missing, next value ≠ .error (.notFound missing) := by
            intro missing failed
            obtain ⟨cause, same⟩ := harmless value _ failed
            cases same
          have runs : ∀ cause, next value ≠ .error (.repository cause) := by
            intro cause failed
            obtain ⟨other, same⟩ := harmless value _ failed
            cases same
          constructor
          · intro missing
            simp [Lookup.found, knows missing]
          · simp [Lookup.found, runs]
          · simp [Lookup.found, runs]

/-- A record that has been found leads to artifact errors only. -/
theorem StorageRecord.artifact_error
    {record : StorageRecord} {reader : ArtifactReader} {name : ArtifactName} {error : QueryError}
    (failed : record.artifact reader name = .error error) :
    ∃ cause, error = .artifact cause := by
  rw [artifact] at failed
  cases responded : record.respond reader name with
  | ok response =>
      rw [responded] at failed
      cases failed
  | error cause =>
      rw [responded] at failed
      exact ⟨cause, (Except.error.inj failed).symm⟩

namespace Service

/-- A service over a database whose attempts come to a sequence of outcomes. -/
def scripted (outcomes : Nat → FetchOutcome) (now : Instant) (reader : ArtifactReader) :
    Service (StateM Retry.History) :=
  ⟨.ofFetch Retry.notedPause (fun _ => Retry.scripted outcomes) now, reader⟩

variable (outcomes : Nat → FetchOutcome) (now : Instant) (reader : ArtifactReader) (id : RunId)

/-- A unit of work comes to what its client sees of the final outcome. -/
theorem outcomeOf_lookup
    {α : Type} {read : Row → Except TransactionError α}
    (reads : ∀ row error, read row = .error error → ∃ message, error = .unreadableColumn message) :
    Retry.outcomeOf
        (Retry.run Retry.notedPause (FetchOutcome.result read <$> Retry.scripted outcomes)) =
      (FetchOutcome.settled outcomes).result read := by
  have passes :
      (fun attempt => Retry.mayPass ((outcomes attempt).result read)) =
        fun attempt => (outcomes attempt).mayPass := by
    funext attempt
    exact FetchOutcome.mayPass_result reads (outcomes attempt)
  have settled := Retry.ofOutcomes_eq (fun attempt => (outcomes attempt).result read) rfl
  rw [passes] at settled
  exact congrArg Prod.fst settled

/-- A query for a summary depends on the final outcome. -/
theorem outcomeOf_summary :
    Retry.outcomeOf ((scripted outcomes now reader).summary id) =
      (Lookup.summaryOfColumns now
        ((FetchOutcome.settled outcomes).result Row.summaryColumns)).found id := by
  refine
    congrArg (fun seen => (Lookup.summaryOfColumns now seen).found id)
      (outcomeOf_lookup outcomes ?_)
  intro row error unread
  rw [Row.summaryColumns_eq] at unread
  exact Row.namedColumns_error unread

/-- The look-up of a record, from a way to fetch it that has come to an outcome. -/
def fetchedRecord (outcome : FetchOutcome) : Lookup StorageRecord :=
  Lookup.recordOfColumns (outcome.result fun row => .ok row.recordColumns)

/-- Look-ups of records depend on the final outcome. -/
theorem outcomeOf_record :
    Retry.outcomeOf ((scripted outcomes now reader).repositories.record id) =
      fetchedRecord (FetchOutcome.settled outcomes) := by
  refine congrArg Lookup.recordOfColumns (outcomeOf_lookup outcomes ?_)
  intro row error unread
  cases unread

/-- A query for an artifact depends on the final outcome. -/
theorem outcomeOf_artifact (name : ArtifactName) :
    Retry.outcomeOf ((scripted outcomes now reader).artifact id name) =
      (fetchedRecord (FetchOutcome.settled outcomes)).found id >>= fun record =>
        record.artifact reader name :=
  congrArg (fun lookup => lookup.found id >>= fun record => record.artifact reader name)
    (outcomeOf_record outcomes now reader id)

/-- A query for several artifacts depends on the final outcome. -/
theorem outcomeOf_artifacts (kinds : List ArtifactKind) :
    Retry.outcomeOf ((scripted outcomes now reader).artifacts id kinds) =
      (fetchedRecord (FetchOutcome.settled outcomes)).found id >>= fun record =>
        .ok (record.artifacts reader kinds) :=
  congrArg (fun lookup => lookup.found id >>= fun record => .ok (record.artifacts reader kinds))
    (outcomeOf_record outcomes now reader id)

/--
However the attempts of a query come out, the first final one decides: without a row there is no
such run, what cannot be read or cannot be true is corrupt, and anything else that fails is an
outage.  What has come before the final outcome leaves no trace in the answer.
-/
theorem absence_corruption_outage
    {outcomes : Nat → FetchOutcome} (pooled : ∀ attempt, (outcomes attempt).Pooled)
    (now : Instant) (reader : ArtifactReader) (id : RunId) :
    let settled := FetchOutcome.settled outcomes
    let service := scripted outcomes now reader
    QueryError.Reports (Retry.outcomeOf (service.summary id)) id
      settled.Absent (settled.Unreadable ∨ settled.Implausible now) settled.Out ∧
    (∀ name,
      QueryError.Reports (Retry.outcomeOf (service.artifact id name)) id
        settled.Absent settled.Unreadable settled.Out) ∧
    (∀ kinds,
      QueryError.Reports (Retry.outcomeOf (service.artifacts id kinds)) id
        settled.Absent settled.Unreadable settled.Out) ∧
    ∀ others, FetchOutcome.settled others = settled →
      let other := scripted others now reader
      Retry.outcomeOf (other.summary id) = Retry.outcomeOf (service.summary id) ∧
      (∀ name,
        Retry.outcomeOf (other.artifact id name) = Retry.outcomeOf (service.artifact id name)) ∧
      ∀ kinds,
        Retry.outcomeOf (other.artifacts id kinds) =
          Retry.outcomeOf (service.artifacts id kinds) := by
  intro settled service
  have settledPooled : settled.Pooled := pooled _
  refine ⟨?_, ?_, ?_, ?_⟩
  · have answer := outcomeOf_summary outcomes now reader id
    rw [← bind_pure (Lookup.found id _)] at answer
    rw [answer]
    refine (FetchOutcome.summary_tells settledPooled now).reports id ?_
    intro summary error failed
    cases failed
  · intro name
    rw [outcomeOf_artifact]
    exact (FetchOutcome.record_tells settledPooled).reports id fun record error =>
      StorageRecord.artifact_error
  · intro kinds
    rw [outcomeOf_artifacts]
    refine (FetchOutcome.record_tells settledPooled).reports id ?_
    intro record error failed
    cases failed
  · intro others same other
    refine ⟨?_, ?_, ?_⟩
    · rw [outcomeOf_summary, outcomeOf_summary, same]
    · intro name
      rw [outcomeOf_artifact, outcomeOf_artifact, same]
    · intro kinds
      rw [outcomeOf_artifacts, outcomeOf_artifacts, same]

/-- Two failures that may pass, and then a query that finds nothing. -/
def lateAbsence : Nat → FetchOutcome
  | 0 => .unconnected (.transient "pool error: timed out waiting for connection")
  | 1 => .failed (.server .serializationFailure "could not serialize access")
  | _ => .failed .noRow

/-- The third attempt is final, and neither of the failures before it is reported. -/
theorem absence_corruption_outage_late :
    (∀ attempt, (lateAbsence attempt).Pooled) ∧
      FetchOutcome.settled lateAbsence = .failed .noRow ∧
      Retry.outcomeOf
          ((scripted lateAbsence .epoch ⟨fun _ => .refused .notFound, .sealing, .unbounded⟩).summary
            ⟨⟨9, by decide⟩⟩) =
        .error (.notFound ⟨⟨9, by decide⟩⟩) := by
  have pooled : ∀ attempt, (lateAbsence attempt).Pooled := by
    rintro (_ | _ | attempt) error unconnected
    · cases unconnected
      exact ⟨_, rfl⟩
    · cases unconnected
    · cases unconnected
  have settled : FetchOutcome.settled lateAbsence = .failed .noRow := by rfl
  refine ⟨pooled, settled, ?_⟩
  apply ((absence_corruption_outage pooled _ _ _).1.notFound _).mpr
  rw [settled]
  exact ⟨rfl, .notFound⟩

end Service

end RunArchive
