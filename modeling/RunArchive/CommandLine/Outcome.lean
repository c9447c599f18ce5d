import RunArchive.Database.Error
import RunArchive.Query.Error
import RunArchive.Run.Error

/-!
# Outcomes of programs

What a program run leaves behind, and the errors that can end it.
-/

namespace RunArchive

/-- What a program run leaves behind. -/
structure Outcome where
  exitCode : UInt8
  output : String
  errors : String
deriving DecidableEq

namespace Outcome

/-- The outcome of a program that succeeds. -/
def success (output : String) : Outcome := ⟨0, output, ""⟩

/-- The outcome of a program that fails without any output; the text is a line. -/
def failure (exitCode : UInt8) (text : String) : Outcome := ⟨exitCode, "", text ++ "\n"⟩

/-- The outcome of a program that is ended where it cannot go on; the text is a line. -/
def broken (text : String) : Outcome := failure 101 text

end Outcome

/-- Why a program ends early. -/
inductive ProgramError where
  /-- A setting, an identifier or a summary is refused. -/
  | refused (cause : RunError)
  | database (cause : DatabaseError)
  | query (cause : QueryError)
  | codec (cause : CodecFault)
  /-- The file system fails, in its own words. -/
  | files (description : String)

namespace ProgramError

def message : ProgramError → String
  | .refused cause => "Error de configuración: " ++ cause.message
  | .database cause => "Error de persistencia: " ++ cause.message
  | .query cause => "Error de consulta: " ++ cause.message
  | .codec cause => "Error de codificación: " ++ cause.message
  | .files description => "Error en IO: " ++ description

/-- The exit code of a program that an error ends: 4 for what does not exist, else 5. -/
def exitCode : ProgramError → UInt8
  | .query cause => cause.exitCode
  | .refused _ | .database _ | .codec _ | .files _ => 5

end ProgramError

end RunArchive
