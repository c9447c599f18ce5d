import RunArchive.Database.Error
import RunArchive.Decimal.Unsigned
import RunArchive.Text.Blank

/-!
# Database settings

Where the database is and how many connections to it are kept.  The address must not be blank and
is taken as it stands; the two sizes are numbers of 32 bits with blanks around them admitted, and
each has a default for where it is not given.
-/

namespace RunArchive

/-- The settings of a database connection. -/
structure DatabaseSettings where
  url : String
  minConnections : UInt32
  maxConnections : UInt32
deriving DecidableEq

namespace DatabaseSettings

/-- The variable with the address. -/
def urlVariable : String := "DATABASE_URL"

/-- The variable with the least number of connections. -/
def minVariable : String := "DATABASE_MIN_CONNECTIONS"

/-- The variable with the greatest number of connections. -/
def maxVariable : String := "DATABASE_MAX_CONNECTIONS"

/-- The least number of connections where none is given. -/
def defaultMin : UInt32 := 2

/-- The greatest number of connections where none is given. -/
def defaultMax : UInt32 := 16

/-- Whether a text has nothing but blanks. -/
def isBlankText (text : String) : Bool := text.toList.all Text.isBlank

/-- The size that a variable gives. -/
def size (variableName : String) (default : UInt32) : Option String → Except DatabaseError UInt32
  | none => .ok default
  | some text =>
    match Unsigned.read? Unsigned.greatest32 (Text.trim text.toList) with
    | some value => .ok (UInt32.ofNat value)
    | none => .error (.config (variableName ++ "=" ++ text ++ " no es un entero válido"))

/-- The address, which must be there. -/
def address : Option String → Except DatabaseError String
  | some url =>
    if isBlankText url then .error (.config (urlVariable ++ " no definido")) else .ok url
  | none => .error (.config (urlVariable ++ " no definido"))

/-- The settings that the three variables give. -/
def ofVariables (url min max : Option String) : Except DatabaseError DatabaseSettings := do
  return {
    url := ← address url
    minConnections := ← size minVariable defaultMin min
    maxConnections := ← size maxVariable defaultMax max }

end DatabaseSettings

end RunArchive
