import RunArchive.Proofs.Database.Interchange
import RunArchive.Proofs.Query.Artifact

/-!
# Several artifacts at once

A query for several kinds of artifacts agrees with single queries for each of them.  It fails if
and only if the look-up of the run does, and then in the way in which every single query fails.
Otherwise it is answered with one entry for every place in the list of kinds, and the entry is what
the single query for the kind at this place comes to, be it a response or an error.

The one difference is in the look-ups that are made.  Repositories that note them show a single one,
however many kinds are asked for, where single queries make one each.

Repositories may keep a state of their own, as a database does.  What is asked of them is only that
the run has the same outcome in all states that they can come to: see `Repositories.Unchanging`.
-/

namespace RunArchive

/-! ## Noting look-ups -/

/-- A look-up that is made in repositories. -/
inductive Request where
  | summary (id : RunId)
  | record (id : RunId)
deriving DecidableEq

section Noting

variable {m : Type → Type} [Monad m]

/-- Repositories that note every look-up. -/
def Repositories.noted (repositories : Repositories m) :
    Repositories (StateT (List Request) m) where
  summary id := do
    modify (· ++ [.summary id])
    repositories.summary id
  record id := do
    modify (· ++ [.record id])
    repositories.record id

/-- The service that notes every look-up. -/
def Service.noted (service : Service m) : Service (StateT (List Request) m) :=
  ⟨service.repositories.noted, service.reader⟩

/-- Queries for artifacts of several kinds, one after the other. -/
def Service.inTurn (service : Service m) (id : RunId) (kinds : List ArtifactKind) :
    m ArtifactList :=
  kinds.mapM fun kind => do return (kind, ← service.artifact id (.known kind))

variable [LawfulMonad m] (service : Service m) (id : RunId)

/-- A query for one artifact looks up the record of the run and nothing else. -/
theorem Service.artifact_noted (name : ArtifactName) (requests : List Request) :
    (service.noted.artifact id name).run requests =
      (fun answer => (answer, requests ++ [.record id])) <$> service.artifact id name := by
  simp [Service.artifact, Service.noted, Repositories.noted]

/-- So does a query for several ones. -/
theorem Service.artifacts_noted (kinds : List ArtifactKind) (requests : List Request) :
    (service.noted.artifacts id kinds).run requests =
      (fun answer => (answer, requests ++ [.record id])) <$> service.artifacts id kinds := by
  simp [Service.artifacts, Service.noted, Repositories.noted]

omit [LawfulMonad m] in
theorem Service.inTurn_nil : service.inTurn id [] = pure [] := rfl

theorem Service.inTurn_cons (kind : ArtifactKind) (kinds : List ArtifactKind) :
    service.inTurn id (kind :: kinds) = do
      let answer ← service.artifact id (.known kind)
      let answers ← service.inTurn id kinds
      return (kind, answer) :: answers := by
  rw [inTurn, List.mapM_cons, bind_assoc]
  simp only [pure_bind]
  rfl

/-- Single queries make a look-up each. -/
theorem Service.inTurn_noted (kinds : List ArtifactKind) (requests : List Request) :
    (service.noted.inTurn id kinds).run requests =
      (fun answers => (answers, requests ++ List.replicate kinds.length (.record id))) <$>
        service.inTurn id kinds := by
  induction kinds generalizing requests with
  | nil =>
      rw [inTurn_nil, inTurn_nil, StateT.run_pure, map_pure, List.length_nil, List.replicate_zero,
        List.append_nil]
  | cons kind kinds ih =>
      rw [inTurn_cons, inTurn_cons, StateT.run_bind, artifact_noted]
      simp only [bind_map_left, StateT.run_bind, StateT.run_pure, ih, List.append_assoc,
        List.length_cons, List.replicate_succ, map_bind, map_pure, List.singleton_append]

end Noting

/-! ## Agreement -/

/-- The error of a query whose look-up does not find the run. -/
inductive Lookup.Fails {α : Type} (id : RunId) : Lookup α → QueryError → Prop where
  | absent : Fails id (.ok none) (.notFound id)
  | failed (cause : RepositoryError) : Fails id (.error cause) (.repository cause)

theorem Lookup.found_eq_error_iff
    {α : Type} {id : RunId} {lookup : Lookup α} {error : QueryError} :
    lookup.found id = .error error ↔ lookup.Fails id error := by
  constructor
  · intro failed
    match lookup, failed with
    | .error cause, rfl => exact .failed cause
    | .ok none, rfl => exact .absent
  · rintro (_ | cause)
    · rfl
    · rfl

/--
The look-up of the record of a run comes to the same in all states of some kind, and leads from
these to states of this kind only.
-/
structure Repositories.Unchanging {State : Type} (repositories : Repositories (StateM State))
    (id : RunId) (lookup : Lookup StorageRecord) (holds : State → Prop) : Prop where
  outcome : ∀ state, holds state → ((repositories.record id).run state).run.1 = lookup
  stays : ∀ state, holds state → holds ((repositories.record id).run state).run.2

/-- What an action on a state comes to. -/
def answerIn {State Answer : Type} (state : State) (action : StateM State Answer) : Answer :=
  (action.run state).run.1

section Agreement

variable {State : Type} {repositories : Repositories (StateM State)} {id : RunId}
  {lookup : Lookup StorageRecord} {holds : State → Prop}
  (unchanging : repositories.Unchanging id lookup holds) (reader : ArtifactReader)
  {state : State} (held : holds state)
include unchanging held

theorem Service.answerIn_artifact (name : ArtifactName) :
    answerIn state ((Service.mk repositories reader).artifact id name) =
      (do (← lookup.found id).artifact reader name) := by
  rw [← unchanging.outcome state held]
  rfl

theorem Service.answerIn_artifacts (kinds : List ArtifactKind) :
    answerIn state ((Service.mk repositories reader).artifacts id kinds) =
      (do return (← lookup.found id).artifacts reader kinds) := by
  rw [← unchanging.outcome state held]
  rfl

/-- Single queries that are made one after the other do not interfere. -/
theorem Service.answerIn_inTurn (kinds : List ArtifactKind) :
    answerIn state ((Service.mk repositories reader).inTurn id kinds) =
      kinds.map fun kind =>
        (kind, do (← lookup.found id).artifact reader (.known kind)) := by
  induction kinds generalizing state with
  | nil => rfl
  | cons kind kinds ih =>
      rw [inTurn_cons, List.map_cons, ← ih (unchanging.stays state held),
        ← answerIn_artifact unchanging reader held]
      rfl

end Agreement

/--
A query for several artifacts agrees with the single queries, in whichever states these are made.

It fails if and only if the look-up does not find the run, and then every single query fails with
the same error, be its name that of a kind or not.  Otherwise it is answered with as many entries as
there are kinds in the list, and the entry at a place has what the single query for the kind at this
place comes to.  Single queries that are made one after the other have the same answers.

The record of the run is looked up once, and nothing else is, where single queries look it up once
for each of them.
-/
theorem Service.artifacts_agree
    {State : Type} {repositories : Repositories (StateM State)} {id : RunId}
    {lookup : Lookup StorageRecord} {holds : State → Prop}
    (unchanging : repositories.Unchanging id lookup holds) (reader : ArtifactReader)
    (kinds : List ArtifactKind) {state other : State} (held : holds state)
    (heldOther : holds other) :
    let service : Service (StateM State) := ⟨repositories, reader⟩
    let several := answerIn state (service.artifacts id kinds)
    let single (name : ArtifactName) := answerIn other (service.artifact id name)
    (∀ error, several = .error error ↔ lookup.Fails id error) ∧
    (∀ error, several = .error error → ∀ name, single name = .error error) ∧
    (∀ record, lookup = .ok (some record) → ∃ answers, several = .ok answers ∧
      answers.length = kinds.length ∧
      ∀ (place : Nat) (inside : place < kinds.length),
        answers[place]? = some (kinds[place], single (.known kinds[place]))) ∧
    answerIn state (service.inTurn id kinds) =
      kinds.map (fun kind => (kind, single (.known kind))) ∧
    ∀ requests,
      (service.noted.artifacts id kinds).run requests =
        (fun answer => (answer, requests ++ [.record id])) <$> service.artifacts id kinds ∧
      (service.noted.inTurn id kinds).run requests =
        (fun answers => (answers, requests ++ List.replicate kinds.length (.record id))) <$>
          service.inTurn id kinds := by
  intro service several single
  have severalEq : several = (do return (← lookup.found id).artifacts reader kinds) :=
    answerIn_artifacts unchanging reader held kinds
  have singleEq (name : ArtifactName) :
      single name = (do (← lookup.found id).artifact reader name) :=
    answerIn_artifact unchanging reader heldOther name
  have fails (error : QueryError) : several = .error error ↔ lookup.Fails id error := by
    rw [severalEq, ← Lookup.found_eq_error_iff]
    cases lookup.found id with
    | error cause => rw [error_bind, Except.error.injEq, Except.error.injEq]
    | ok record => exact ⟨nofun, nofun⟩
  refine ⟨fails, ?_, ?_, ?_, ?_⟩
  · intro error failed name
    rw [singleEq, Lookup.found_eq_error_iff.mpr ((fails error).mp failed), error_bind]
  · rintro record rfl
    refine ⟨record.artifacts reader kinds, severalEq, List.length_map _, ?_⟩
    intro place inside
    rw [singleEq, StorageRecord.artifacts, List.getElem?_map, List.getElem?_eq_getElem inside]
    rfl
  · simp only [singleEq]
    exact answerIn_inTurn unchanging reader held kinds
  · intro requests
    exact ⟨service.artifacts_noted id kinds requests, service.inTurn_noted id kinds requests⟩

/-! ## Calm databases -/

/-- A calm database stays so, and its look-ups always come to the row that can be seen. -/
theorem Server.unchanging (table : Table) (now : Instant) (id : RunId) :
    (repositories now).Unchanging id (.ok ((table.find id).map Row.described)) fun server =>
      ∃ queries, server = ⟨table, [], queries⟩ where
  outcome := by
    rintro _ ⟨queries, rfl⟩
    exact result_record now id
  stays := by
    rintro _ ⟨queries, rfl⟩
    rcases run_lookup (fun row => .ok row.recordColumns) id queries with ⟨later, run⟩
    refine ⟨later, ?_⟩
    rw [repositories, Repositories.ofFetch, StateT.run_map, run]
    rfl

namespace Service

/-- A row of a run that works in the directory `/work`. -/
def workRow : Row := { finishedRow with storagePath := "/work" }

/-- Of three entries, the one in the middle is an answer between two failures of one kind. -/
theorem artifacts_agree_work :
    let service : Service (StateM Server) :=
      ⟨Server.repositories .epoch, ⟨StorageRecord.logView .notFound, .sealing, .unbounded⟩⟩
    ∃ answers,
      answerIn ⟨[workRow], [], 0⟩
          (service.artifacts workRow.dispatchId [.executor, .error, .executor]) = .ok answers ∧
        answers.length = 3 ∧
        answers[1]? = some (.error, .ok (.data (some (.string "boom")))) ∧
        answers[2]? =
          some
            (.executor,
              .error
                (.artifact ⟨.executor, .missingFile (.ofText "/work/executor_data.json")⟩)) := by
  intro service
  have agree :=
    artifacts_agree (Server.unchanging [workRow] .epoch workRow.dispatchId) service.reader
      [.executor, .error, .executor] ⟨0, rfl⟩ ⟨5, rfl⟩
  rcases agree.2.2.1 workRow.described rfl with ⟨answers, answered, length, entry⟩
  refine ⟨answers, answered, length, ?_, ?_⟩
  · rw [entry 1 (by decide)]
    rfl
  · rw [entry 2 (by decide)]
    rfl

end Service

end RunArchive
