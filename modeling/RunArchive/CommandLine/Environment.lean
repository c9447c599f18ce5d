import RunArchive.Database.Settings
import RunArchive.Query.Limit

/-!
# Environments

The variables that a program finds when it starts, and the settings that they hold.
-/

namespace RunArchive

/-- Variables with their values. -/
abbrev Environment := List (String × String)

namespace Environment

/-- The value of a variable. -/
def get? (environment : Environment) (variableName : String) : Option String :=
  List.lookup variableName environment

/--
What a spelled name finds.  A variable is kept as the text `NAME=value`, and a spelled name finds
what stands behind it and an equals sign.  For a name as variables have it that is the value; a
name with an equals sign of its own finds the end of a value that starts like the end of the name.
-/
def find? (environment : Environment) (spelled : String) : Option String :=
  let start := spelled.toList ++ ['=']
  environment.findSome? fun (variableName, value) =>
    let text := variableName.toList ++ '=' :: value.toList
    if start.isPrefixOf text then some (String.ofList (text.drop start.length)) else none

/-- Gives a value to a variable that has none. -/
def setDefault (environment : Environment) (variableName value : String) : Environment :=
  match environment.get? variableName with
  | some _ => environment
  | none => environment ++ [(variableName, value)]

/-- The limit on the size of artifacts. -/
def readLimit (environment : Environment) : Except RunError ReadLimit :=
  ReadLimit.parse (environment.get? RunError.limitVariable)

/-- The settings of the database. -/
def database (environment : Environment) : Except DatabaseError DatabaseSettings :=
  DatabaseSettings.ofVariables (environment.get? DatabaseSettings.urlVariable)
    (environment.get? DatabaseSettings.minVariable) (environment.get? DatabaseSettings.maxVariable)

end Environment

end RunArchive
