import RunArchive.Query.Error
import RunArchive.Run.Error

/-!
# Command lines

The arguments of the lookup program: a subcommand, then options in any order.  An option that is
given again replaces its earlier value, and one whose value is missing at the end of the line
loses it.

Arguments are octets, and a program that is given one that is no text breaks off: `Command.texts`
are the arguments as texts.  `Options.read` takes the line apart, without knowing which options
belong together; `Command.parse` makes a command of it or says what is wrong.
-/

namespace RunArchive

/-- What a user asks for. -/
inductive Command where
  | summary (id : RunId)
  | artifact (id : RunId) (name : ArtifactName)
  | allArtifacts (id : RunId)
deriving DecidableEq

/-- Why a command line is no command. -/
inductive ArgumentError where
  /-- An argument is no option. -/
  | unknownArgument (text : String)
  /-- There is no identifier. -/
  | missingId
  /-- The identifier is malformed. -/
  | refusedId (cause : RunError)
  /-- The name is none that a request may have. -/
  | unexpectedName (name : String)
  /-- Subcommand and options do not belong together. -/
  | misuse
deriving DecidableEq

namespace ArgumentError

/-- How the program is used. -/
def usage : String :=
  "Uso:\n  lattice summary --dispatch <UUID>\n" ++
    "  lattice artifact --dispatch <UUID> (--name <NAME> | --all)"

def message : ArgumentError → String
  | .unknownArgument text => "argumento desconocido: " ++ text
  | .missingId => "falta --dispatch"
  | .refusedId cause => cause.message
  | .unexpectedName name => "unexpected artifact name: " ++ name
  | .misuse => usage

/-- The part of the request that an error is about. -/
def subject : ArgumentError → String
  | .unknownArgument _ | .misuse => "args"
  | .missingId | .refusedId _ => "dispatch_id"
  | .unexpectedName _ => "name"

def detail (error : ArgumentError) : ErrorDetail :=
  ⟨["path", error.subject], error.message, some "value_error"⟩

end ArgumentError

/-- An argument that is no text. -/
structure ForeignArgument where
  octets : List UInt8
deriving DecidableEq

def ForeignArgument.message (argument : ForeignArgument) : String :=
  "called `Result::unwrap()` on an `Err` value: " ++ Text.quotedOctets argument.octets

/-- The options of a command line. -/
structure Options where
  /-- The identifier. -/
  dispatch : Option String
  name : Option String
  all : Bool
deriving DecidableEq

namespace Options

/-- No options at all. -/
def empty : Options := ⟨none, none, false⟩

/-- The option with an identifier. -/
def dispatchOption : String := "--dispatch"

/-- The option with a name. -/
def nameOption : String := "--name"

/-- The option for all kinds of artifacts. -/
def allOption : String := "--all"

/-- Adds the options of arguments to the ones that came before. -/
def read (options : Options) : List String → Except ArgumentError Options
  | [] => .ok options
  | [last] =>
    if last = dispatchOption then .ok { options with dispatch := none }
    else if last = nameOption then .ok { options with name := none }
    else if last = allOption then .ok { options with all := true }
    else .error (.unknownArgument last)
  | option :: value :: rest =>
    if option = dispatchOption then read { options with dispatch := some value } rest
    else if option = nameOption then read { options with name := some value } rest
    else if option = allOption then read { options with all := true } (value :: rest)
    else .error (.unknownArgument option)

end Options

namespace Command

/-- The arguments that spell these texts. -/
def given (texts : List String) : List (List UInt8) := texts.map Utf8.ofString

/-- The text of an argument. -/
def textOf (argument : List UInt8) : Except ForeignArgument String :=
  match Utf8.text? argument with
  | some text => .ok text
  | none => .error ⟨argument⟩

/-- The texts of arguments, or the first argument that is none. -/
def texts (arguments : List (List UInt8)) : Except ForeignArgument (List String) :=
  arguments.mapM textOf

/-- Names that a request may have although no kind of artifact has them. -/
def hookNames : List String := ["call_before", "call_after"]

/-- Whether a request may have a name. -/
def isAdmitted (name : String) : Bool :=
  (ArtifactKind.ofName? name).isSome || hookNames.contains name

/-- The identifier in options. -/
def readId (options : Options) : Except ArgumentError RunId :=
  match options.dispatch with
  | none => .error .missingId
  | some text =>
    match RunId.parse text with
    | .ok id => .ok id
    | .error cause => .error (.refusedId cause)

/-- The command of arguments. -/
def parse (arguments : List String) : Except ArgumentError Command := do
  let options ← Options.empty.read arguments.tail
  let id ← readId options
  match arguments.head?, options.name, options.all with
  | some "summary", none, false => return .summary id
  | some "artifact", some name, false =>
    if isAdmitted name then return .artifact id (.ofText name) else .error (.unexpectedName name)
  | some "artifact", none, true => return .allArtifacts id
  | _, _, _ => .error .misuse

end Command

end RunArchive
