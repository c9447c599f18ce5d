import RunArchive.Files.Opened
import RunArchive.Files.Path

/-!
# Computations that open files

A computation that depends on files either is done or opens a path and goes on with what it finds
there.  It learns about files in no other way.  Over a view of the files it comes to a result, and
`opens` are the paths that it has opened on the way; what stands at any other path makes no
difference to it.
-/

namespace RunArchive

/-- What a program finds when it opens paths. -/
abbrev FileView := Path → Opened

/-- A computation that opens paths. -/
inductive Opening (Result : Type) where
  | done (result : Result)
  /-- Opens a path and goes on with what is found there. -/
  | next (path : Path) (rest : Opened → Opening Result)

namespace Opening

variable {Result : Type}

/-- The result over a view of the files. -/
def run (files : FileView) : Opening Result → Result
  | .done result => result
  | .next path rest => (rest (files path)).run files

/-- The paths that are opened, in their order. -/
def opens (files : FileView) : Opening Result → List Path
  | .done _ => []
  | .next path rest => path :: (rest (files path)).opens files

/-- The computation that makes something of the result in the end. -/
def map {Made : Type} (make : Result → Made) : Opening Result → Opening Made
  | .done result => .done (make result)
  | .next path rest => .next path fun opened => (rest opened).map make

/-- Two views that agree at all paths that are opened over one of them lead to the same result. -/
theorem run_congr
    {left right : FileView} (opening : Opening Result)
    (agree : ∀ path ∈ opening.opens left, left path = right path) :
    opening.run left = opening.run right := by
  induction opening with
  | done result => rfl
  | next path rest ih =>
      have here : left path = right path := agree path List.mem_cons_self
      have later := ih (left path) fun other member => agree other (List.mem_cons_of_mem _ member)
      rw [run, run, later, here]

end Opening

end RunArchive
