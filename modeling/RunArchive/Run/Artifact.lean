import RunArchive.Json.Typed

/-!
# Artifacts

The eight kinds of artifacts that a run leaves behind.  A request names an artifact by a text,
which may be none of the known kinds.
-/

namespace RunArchive

/-- A kind of artifact. -/
inductive ArtifactKind where
  | result
  | inputs
  | functionString
  | executor
  | workflowExecutor
  | error
  | function
  | transportGraph
deriving DecidableEq

/-- How the file of an artifact is to be read. -/
inductive ArtifactForm where
  /-- Plain text. -/
  | text
  /-- A value in an envelope. -/
  | object
deriving DecidableEq

namespace ArtifactKind

/-- All kinds, in the order in which they are listed. -/
def all : List ArtifactKind :=
  [.result, .inputs, .functionString, .executor, .workflowExecutor, .error, .function,
    .transportGraph]

def name : ArtifactKind → String
  | .result => "result"
  | .inputs => "inputs"
  | .functionString => "function_string"
  | .executor => "executor"
  | .workflowExecutor => "workflow_executor"
  | .error => "error"
  | .function => "function"
  | .transportGraph => "transport_graph"

/--
How artifacts of a kind are kept: the source text and the error text plain, all others sealed.
-/
def form : ArtifactKind → ArtifactForm
  | .functionString | .error => .text
  | .result | .inputs | .executor | .workflowExecutor | .function | .transportGraph => .object

/-- The place of a kind among all. -/
def place (kind : ArtifactKind) : Nat := all.idxOf kind

def ofName? (name : String) : Option ArtifactKind := all.find? (·.name == name)

def ofJson (value : Json) : Except Json.Mismatch ArtifactKind :=
  Json.readName (all.map fun kind => (kind.name, kind)) value

def toJson (kind : ArtifactKind) : Json := .string kind.name

end ArtifactKind

/-- The name of an artifact in a request. -/
inductive ArtifactName where
  | known (kind : ArtifactKind)
  | unrecognized (text : String)
deriving DecidableEq

namespace ArtifactName

/-- The name that a text is. -/
def ofText (text : String) : ArtifactName :=
  match ArtifactKind.ofName? text with
  | some kind => .known kind
  | none => .unrecognized text

/-- The text of a name. -/
def text : ArtifactName → String
  | .known kind => kind.name
  | .unrecognized text => text

end ArtifactName

end RunArchive
