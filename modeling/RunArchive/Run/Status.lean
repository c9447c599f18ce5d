import RunArchive.Json.Typed

/-!
# Run states

The states that a run goes through, and their names.
-/

namespace RunArchive

/-- The state of a run. -/
inductive RunStatus where
  | newObject
  | dispatching
  | running
  | completed
  | failed
  | cancelled
  | postprocessing
  | pendingPostprocessing
  | postprocessingFailed
deriving DecidableEq

namespace RunStatus

def name : RunStatus → String
  | .newObject => "NEW_OBJECT"
  | .dispatching => "DISPATCHING"
  | .running => "RUNNING"
  | .completed => "COMPLETED"
  | .failed => "FAILED"
  | .cancelled => "CANCELLED"
  | .postprocessing => "POSTPROCESSING"
  | .pendingPostprocessing => "PENDING_POSTPROCESSING"
  | .postprocessingFailed => "POSTPROCESSING_FAILED"

/-- All states, in the order in which messages list them. -/
def all : List RunStatus :=
  [.newObject, .dispatching, .running, .completed, .failed, .cancelled, .postprocessing,
    .pendingPostprocessing, .postprocessingFailed]

/-- Whether a run in this state writes no more files. -/
def isTerminal : RunStatus → Bool
  | .completed | .failed | .cancelled | .postprocessingFailed => true
  | .newObject | .dispatching | .running | .postprocessing | .pendingPostprocessing => false

def ofName? (name : String) : Option RunStatus := all.find? (·.name == name)

/-- All states with their names. -/
def names : List (String × RunStatus) := all.map fun status => (status.name, status)

def ofJson (value : Json) : Except Json.Mismatch RunStatus := Json.readName names value

def toJson (status : RunStatus) : Json := .string status.name

end RunStatus

end RunArchive
