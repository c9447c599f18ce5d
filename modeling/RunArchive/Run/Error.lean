import RunArchive.Run.Summary

/-!
# Refused texts and summaries

What can be wrong with the identifiers, states, limits and summaries that come from outside.
-/

namespace RunArchive

/-- Why something from outside is refused. -/
inductive RunError where
  /-- The text is no identifier. -/
  | invalidId (text : String)
  /-- The text is no state. -/
  | invalidStatus (text : String)
  /-- The summary breaks a rule. -/
  | invalidSummary (cause : Summary.Fault)
  /-- There is a summary with this identifier already. -/
  | duplicateSummary (id : RunId)
  /-- The value of the read limit is no number of bytes. -/
  | invalidLimit (value : String)
deriving DecidableEq

namespace RunError

/-- The variable that holds the read limit. -/
def limitVariable : String := "LATTICE_ARTIFACT_MAX_BYTES"

def message : RunError → String
  | .invalidId text => "invalid dispatch id: " ++ text
  | .invalidStatus text => "invalid lattice status: " ++ text
  | .invalidSummary cause => "invalid lattice summary: " ++ cause.message
  | .duplicateSummary id => "duplicate summary for dispatch id " ++ id.text
  | .invalidLimit value =>
    "invalid configuration: " ++ limitVariable ++ "=" ++ value ++ " is not a byte count"

end RunError

/-- The identifier with this written form. -/
def RunId.parse (text : String) : Except RunError RunId :=
  match RunId.ofText? text with
  | some id => .ok id
  | none => .error (.invalidId text)

/-- The state with this name. -/
def RunStatus.parse (name : String) : Except RunError RunStatus :=
  match RunStatus.ofName? name with
  | some status => .ok status
  | none => .error (.invalidStatus name)

/-- A summary that breaks no rule. -/
def Summary.validated (summary : Summary) : Except RunError Summary :=
  match summary.check with
  | .ok () => .ok summary
  | .error cause => .error (.invalidSummary cause)

end RunArchive
