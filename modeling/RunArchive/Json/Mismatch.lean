import RunArchive.Json.Basic
import RunArchive.Json.FloatText
import RunArchive.Text.Quoted

/-!
# Values of an unexpected kind

Typed readers take a JSON value apart and refuse the ones they have no use for.  A `Mismatch` says
what they found in which place of their expectations, and `Mismatch.message` words it.
-/

namespace RunArchive.Json

/-- What a value is at first sight: its whole content if it is a scalar, its kind if it is not. -/
inductive Shape where
  | null
  | bool (value : Bool)
  | number (value : Number)
  | string (value : String)
  | list
  | object

/-- The shape of a value. -/
def shape : Json → Shape
  | .null => .null
  | .bool value => .bool value
  | .number value => .number value
  | .string value => .string value
  | .array _ => .list
  | .object _ => .object

/-- A text in backticks. -/
def marked (text : String) : String := "`" ++ text ++ "`"

/-- The wording of a shape. -/
def Shape.text : Shape → String
  | .null => "null"
  | .bool value => "boolean " ++ marked (if value then "true" else "false")
  | .number (.integer value) => "integer " ++ marked (String.ofList (signedDigitsOf value))
  | .number (.float value) => "floating point " ++ marked (String.ofList value.text)
  | .string value => "string " ++ Text.quoted value
  | .list => "sequence"
  | .object => "map"

/-- Why a typed reader refuses a value. -/
inductive Mismatch where
  /-- The value is of another kind. -/
  | wrongKind (found : Shape) (expected : String)
  /-- The value is of the right kind but outside the admitted ones. -/
  | wrongValue (found : Shape) (expected : String)
  /-- A list has another number of items. -/
  | wrongLength (found : Nat) (expected : String)
  /-- A name is none of the admitted ones. -/
  | unknownName (found : String) (admitted : List String)
  /-- An object lacks a field. -/
  | missingField (field : String)
  /-- An object has a field twice. -/
  | repeatedField (field : String)
  /-- A text does not follow the grammar of the values it should denote. -/
  | malformedText (message : String)

def Mismatch.message : Mismatch → String
  | .wrongKind found expected => "invalid type: " ++ found.text ++ ", expected " ++ expected
  | .wrongValue found expected => "invalid value: " ++ found.text ++ ", expected " ++ expected
  | .wrongLength found expected => s!"invalid length {found}, expected {expected}"
  | .unknownName found admitted =>
    "unknown variant " ++ marked found ++ ", expected one of " ++
      ", ".intercalate (admitted.map marked)
  | .missingField field => "missing field " ++ marked field
  | .repeatedField field => "duplicate field " ++ marked field
  | .malformedText message => message

end RunArchive.Json
