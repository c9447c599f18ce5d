import RunArchive.Json.Record
import RunArchive.Run.Id
import RunArchive.Run.Status
import RunArchive.Time.Timestamp

/-!
# Run summaries

What is known about a run as a whole: its state, how much of it is done, when it ran and where it
keeps its files.  A summary is `Valid` if no more electrons are completed than there are and it
does not end before it starts; `check` decides this and names the first rule that is broken.

In JSON a runtime is a whole number of milliseconds, and the greatest one of 64 bits stands for
all longer ones.
-/

namespace RunArchive

/-- The summary of a run. -/
structure Summary where
  id : RunId
  status : RunStatus
  /-- How many electrons the run has. -/
  total : UInt32
  /-- How many of them are completed. -/
  completed : UInt32
  startedAt : Instant
  endedAt : Option Instant
  directory : Path
  /-- How long the run took, in nanoseconds. -/
  runtime : Nat
deriving DecidableEq

namespace Summary

/-- A rule that a summary breaks. -/
inductive Fault where
  /-- More electrons are completed than there are. -/
  | tooManyCompleted (id : RunId) (completed total : UInt32)
  /-- The run ends before it starts. -/
  | endsBeforeStart (id : RunId)
deriving DecidableEq

def Fault.message : Fault → String
  | .tooManyCompleted id completed total =>
    s!"{id.text}: total_electrons_completed ({completed.toNat}) exceeds " ++
      s!"total_electrons ({total.toNat})"
  | .endsBeforeStart id => s!"{id.text}: ended_at precedes started_at"

/-- Whether a summary keeps the two rules. -/
def Valid (summary : Summary) : Prop :=
  summary.completed ≤ summary.total ∧
    ∀ ended, summary.endedAt = some ended → ¬ ended.Before summary.startedAt

instance (summary : Summary) : Decidable summary.Valid :=
  inferInstanceAs
    (Decidable (_ ∧ ∀ ended ∈ summary.endedAt, ¬ ended.Before summary.startedAt))

/-- Accepts a valid summary. -/
def check (summary : Summary) : Except Fault Unit :=
  if summary.total < summary.completed then
    .error (.tooManyCompleted summary.id summary.completed summary.total)
  else
    match summary.endedAt with
    | some ended =>
      if ended.Before summary.startedAt then .error (.endsBeforeStart summary.id) else .ok ()
    | none => .ok ()

/--
How long a run took, in nanoseconds: up to its end, or up to now while it has none; a run that
starts later than that has taken no time yet.
-/
def runtimeUntil (startedAt : Instant) (endedAt : Option Instant) (now : Instant) : Nat :=
  ((endedAt.getD now).since startedAt).toNat

/-- Nanoseconds in a millisecond. -/
def millisecond : Nat := 1000000

/-- The runtime in whole milliseconds, cut off at 64 bits. -/
def runtimeMillis (summary : Summary) : Nat :=
  min (summary.runtime / millisecond) Unsigned.greatest64

/-- The timestamp of an instant as a JSON value. -/
def instantToJson (instant : Instant) : Json := .string (String.ofList (Timestamp.text instant))

/-- The instant of a timestamp in a JSON value. -/
def instantOfJson (value : Json) : Except Json.Mismatch Instant := do
  let text ← Json.asString "an RFC 3339 formatted date and time string" value.shape
  match Timestamp.read? text.toList with
  | some instant => return instant
  | none => .error (.malformedText "invalid timestamp")

/-- A summary as a JSON object, its fields in the order in which they are written. -/
def toJson (summary : Summary) : Except Json.Unwritable Json := do
  return .object [
    ("dispatch_id", summary.id.toJson),
    ("status", summary.status.toJson),
    ("total_electrons", .ofNat summary.total.toNat),
    ("total_electrons_completed", .ofNat summary.completed.toNat),
    ("started_at", instantToJson summary.startedAt),
    ("ended_at", (summary.endedAt.map instantToJson).getD .null),
    ("directory", ← Json.ofPath summary.directory),
    ("runtime", .ofNat summary.runtimeMillis)]

/-- The fields, and how they are read from a text. -/
def textFields : List Json.TextField :=
  [.scalar "dispatch_id" RunId.ofJson,
    .named "status" RunStatus.names,
    .scalar "total_electrons" Json.readUInt32,
    .scalar "total_electrons_completed" Json.readUInt32,
    .scalar "started_at" instantOfJson,
    .scalar "ended_at" (Json.readOptional instantOfJson),
    .scalar "directory" Json.readPath,
    .scalar "runtime" Json.readUInt64]

def fields : List Json.Field := textFields.map Json.TextField.toField

/-- The summary whose fields have been found. -/
def ofFound (found : List (String × Json)) : Except Json.Mismatch Summary := do
  return {
    id := ← Json.required found "dispatch_id" RunId.ofJson
    status := ← Json.required found "status" RunStatus.ofJson
    total := ← Json.required found "total_electrons" Json.readUInt32
    completed := ← Json.required found "total_electrons_completed" Json.readUInt32
    startedAt := ← Json.required found "started_at" instantOfJson
    endedAt := ← Json.optional found "ended_at" instantOfJson
    directory := ← Json.required found "directory" Json.readPath
    runtime := (← Json.required found "runtime" Json.readUInt64) * millisecond }

/-- The summary that a JSON value denotes. -/
def ofJson (value : Json) : Except Json.Mismatch Summary := do
  ofFound (← Json.readFields "LatticeSummary" fields value)

/-- The summary that a JSON text denotes, read without building the value of the text. -/
def ofText (text : List UInt8) : Except Json.Fault Summary :=
  Json.readRecord "LatticeSummary" textFields ofFound text

end Summary

end RunArchive
