import RunArchive.Json.Basic

/-!
# Responses

What a request for an artifact is answered with.  The two executors come with the name that is
recorded for them; everything else is plain data, and a name that is no kind of artifact is
answered with no data at all.
-/

namespace RunArchive

/-- The answer to a request for an artifact. -/
inductive Response where
  | executor (name : String) (details : Json)
  | workflowExecutor (name : String) (details : Json)
  | data (content : Option Json)
deriving DecidableEq

namespace Response

/-- The answer to a request for something unknown. -/
def empty : Response := .data none

def isEmpty : Response → Bool
  | .data none => true
  | .data (some _) | .executor _ _ | .workflowExecutor _ _ => false

/-- A response as a JSON object, its fields in the order in which they are written. -/
def toJson : Response → Json
  | .executor name details | .workflowExecutor name details =>
    .object [("name", .string name), ("details", details)]
  | .data content => .object [("data", content.getD .null)]

end Response

end RunArchive
