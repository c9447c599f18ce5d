import RunArchive.CommandLine.Environment
import RunArchive.Files.Opening
import RunArchive.Text.Alphanumeric
import RunArchive.Text.Blank
import RunArchive.Text.Quoted
import RunArchive.Text.Utf8

/-!
# Environment files

A program reads more variables from a file of lines `NAME=value`.  Variables that the environment
has already keep their values.  The file is read up to its first malformed line; what came before
it counts.  It is the first one that is found in the working directory or in one above it.

The environment cannot hold a NUL character.  A file that gives one to a variable that is not set
ends the program.

A *logical line* goes on over the ends of lines inside quotes, behind a backslash and behind a
blank.  `nextState` follows quotes and escapes; `logicalLines` cuts the file.

A value may stand in single quotes, where everything is literal, or in double quotes; outside of
single quotes a backslash escapes the next character and `$NAME` or `${NAME}` stands for another
variable.  The name after a dollar sign ends at the first character that is neither a letter nor a
digit, and that character is literal, whatever it is.
-/

namespace RunArchive.EnvironmentFile

/-! ## Logical lines -/

/-- Where in a logical line one is. -/
inductive LineState where
  | plain
  /-- Behind a blank. -/
  | blank
  /-- Behind a backslash. -/
  | escape
  /-- In double quotes. -/
  | double
  | doubleEscape
  /-- In single quotes. -/
  | single
  | singleEscape
deriving DecidableEq

/-- Whether a blank stays in its line. -/
def isInlineBlank (character : Char) : Bool :=
  Text.isBlank character && character != '\n' && character != '\r'

/-- The state behind a character that opens quotes, escapes or does nothing. -/
def openState (character : Char) : LineState :=
  if character = '\\' then .escape
  else if character = '"' then .double
  else if character = '\'' then .single
  else .plain

/-- The state behind a character. -/
def nextState (state : LineState) (character : Char) : LineState :=
  match state with
  | .plain => if isInlineBlank character then .blank else openState character
  | .blank => openState character
  | .escape => .plain
  | .double =>
    if character = '\\' then .doubleEscape else if character = '"' then .plain else .double
  | .doubleEscape => .double
  | .single =>
    if character = '\\' then .singleEscape else if character = '\'' then .plain else .single
  | .singleEscape => .single

/--
Goes through a line of the file.  The answer is the text before a comment that starts in it, or
the state at its end.
-/
def scanLine (state : LineState) (done : List Char) : List Char → List Char ⊕ LineState
  | [] => .inr state
  | character :: rest =>
    if state = .blank ∧ character = '#' then .inl done.reverse
    else scanLine (nextState state character) (character :: done) rest

/-- A line without its end. -/
def withoutEnd (line : List Char) : List Char :=
  match line.reverse with
  | '\n' :: '\r' :: rest => rest.reverse
  | '\n' :: rest => rest.reverse
  | _ => line

/-- The mark that starts a comment. -/
def commentMark : Char := '#'

/--
The logical lines of a file, given as lines that keep their ends.  A line that is not text, or is
never finished, is `none`, and nothing comes after it.
-/
def logicalLines (state : LineState) (begun : List Char) :
    List (Option (List Char)) → List (Option (List Char))
  | [] => if state = .plain then [] else [none]
  | none :: _ => [none]
  | some line :: rest =>
    let whole := begun ++ line
    if (Text.trimStart whole).head? = some commentMark then
      some [] :: logicalLines .plain [] rest
    else
      match scanLine state [] line with
      | .inl before => some (begun ++ before) :: logicalLines .plain [] rest
      | .inr .plain => some (withoutEnd whole) :: logicalLines .plain [] rest
      | .inr state => logicalLines state whole rest

/-! ## Values -/

/-- How the characters of a value are meant. -/
inductive ValueMode where
  | plain
  /-- Behind a backslash. -/
  | escaped
  /-- In single quotes. -/
  | single
  /-- In the name of a variable. -/
  | name
  /-- In the name of a variable in braces. -/
  | braced
  /-- Behind the value. -/
  | finished
deriving DecidableEq

/-- A value as far as it has been read; the two texts have their last character first. -/
structure Partial where
  mode : ValueMode
  /-- Whether double quotes are open. -/
  inQuotes : Bool
  written : List Char
  /-- The name of the variable that is to be put in. -/
  name : List Char

/-- The value before its first character. -/
def Partial.start : Partial := ⟨.plain, false, [], []⟩

namespace Partial

/-- Adds a character. -/
def push (state : Partial) (character : Char) : Partial :=
  { state with written := character :: state.written }

/-- Puts in the value of the variable whose name has been read. -/
def substitute (valueOf : String → String) (state : Partial) : Partial :=
  { state with
    written := (valueOf (String.ofList state.name.reverse)).toList.reverse ++ state.written
    name := [] }

/--
Reads a character outside of quotes, escapes and names; single quotes are plain in double ones.
-/
def readPlain (state : Partial) (character : Char) : Partial :=
  if character = '$' then { state with mode := .name }
  else if character = '"' then { state with inQuotes := !state.inQuotes }
  else if character = '\\' then { state with mode := .escaped }
  else if state.inQuotes then state.push character
  else if character = '\'' then { state with mode := .single }
  else if character = ' ' ∨ character = '\t' then { state with mode := .finished }
  else state.push character

/-- The character that an escaped one stands for. -/
def unescape? (character : Char) : Option Char :=
  if character ∈ ['\\', '\'', '"', '$', ' '] then some character
  else if character = 'n' then some '\n'
  else none

/-- Reads a character of a name without braces, or the one behind it. -/
def readName (valueOf : String → String) (state : Partial) (character : Char) : Partial :=
  if Text.isAlphanumeric character then { state with name := character :: state.name }
  else if character = '\x7b' ∧ state.name = [] then { state with mode := .braced }
  else if character = '$' then state.substitute valueOf
  else ({ state.substitute valueOf with mode := .plain }).push character

/-- Reads a character of a name in braces, or the closing one. -/
def readBraced (valueOf : String → String) (state : Partial) (character : Char) : Partial :=
  if Text.isAlphanumeric character then { state with name := character :: state.name }
  else if character = '\x7d' then { state.substitute valueOf with mode := .plain }
  else { state with name := character :: state.name }

/-- The value at the end of its line; quotes and braces must be closed. -/
def finish (valueOf : String → String) (state : Partial) : Option String :=
  if state.mode = .braced ∨ state.mode = .single ∨ state.inQuotes then none
  else some (String.ofList (state.substitute valueOf).written.reverse)

/-- Reads a value to the end of its line or to a comment behind it. -/
def read (valueOf : String → String) (state : Partial) : List Char → Option String
  | [] => state.finish valueOf
  | character :: rest =>
    match state.mode with
    | .plain => read valueOf (state.readPlain character) rest
    | .escaped =>
      match unescape? character with
      | some meant => read valueOf { state.push meant with mode := .plain } rest
      | none => none
    | .single =>
      if character = '\'' then read valueOf { state with mode := .plain } rest
      else read valueOf (state.push character) rest
    | .name => read valueOf (state.readName valueOf character) rest
    | .braced => read valueOf (state.readBraced valueOf character) rest
    | .finished =>
      if character = ' ' ∨ character = '\t' then read valueOf state rest
      else if character = commentMark then state.finish valueOf
      else none

end Partial

/-! ## Assignments -/

/-- Whether a name may start with a character. -/
def startsName (character : Char) : Bool := character.isAlpha || character == '_'

/-- Whether a name may go on with a character. -/
def continuesName (character : Char) : Bool :=
  character.isAlphanum || character == '_' || character == '.'

/-- The name at the start of a line, and the line behind it and its blanks. -/
def readKey (line : List Char) : Option (List Char × List Char) :=
  match line with
  | first :: _ =>
    if startsName first then
      some (line.takeWhile continuesName, Text.trimStart (line.dropWhile continuesName))
    else none
  | [] => none

/-- The line behind an equals sign and its blanks. -/
def readEquals : List Char → Option (List Char)
  | '=' :: rest => some (Text.trimStart rest)
  | _ => none

/-- The word that may stand before a name. -/
def exportWord : List Char := "export".toList

/-- The name that is assigned to, and the text of the value. -/
def readTarget (line : List Char) : Option (List Char × List Char) := do
  let (key, rest) ← readKey line
  match readEquals rest with
  | some value => return (key, value)
  | none =>
    if key = exportWord then
      let (key, rest) ← readKey rest
      return (key, ← readEquals rest)
    else none

/-- What a logical line says. -/
inductive Statement where
  /-- Nothing: the line is blank or a comment. -/
  | nothing
  | assignment (key value : String)

/-- What has been read from a file: the environment, and the values in the file itself. -/
structure Loading where
  environment : Environment
  /-- The values in the file, the last one first. -/
  values : List (String × String)

/-- A value that cannot be given to a variable, because it has a NUL character. -/
structure Breach where
  key : String
  value : String
deriving DecidableEq

def Breach.message (breach : Breach) : String :=
  "failed to set environment variable `" ++ Text.quoted breach.key ++ "` to `" ++
    Text.quoted breach.value ++ "`: " ++ FileFault.nulCharacter.message

namespace Loading

/-- What a spelled name stands for; one that finds no value stands for nothing. -/
def valueOf (loading : Loading) (spelled : String) : String :=
  match loading.environment.find? spelled with
  | some value => value
  | none => (loading.values.lookup spelled).getD ""

/-- What a logical line says, unless it is malformed. -/
def statement? (loading : Loading) (line : List Char) : Option Statement :=
  match Text.trim line with
  | [] => some .nothing
  | first :: rest =>
    if first = commentMark then some .nothing
    else do
      let (key, text) ← readTarget (first :: rest)
      let value ←
        if text = [] ∨ text.head? = some commentMark then some ""
        else Partial.start.read loading.valueOf text
      return .assignment (String.ofList key) value

/-- Notes a value, and gives it to the variable if that is not set. -/
def assign (loading : Loading) (key value : String) : Except Breach Loading :=
  if loading.environment.get? key = none ∧ '\x00' ∈ value.toList then .error ⟨key, value⟩
  else .ok ⟨loading.environment.setDefault key value, (key, value) :: loading.values⟩

/-- Does what a line says. -/
def perform (loading : Loading) : Statement → Except Breach Loading
  | .nothing => .ok loading
  | .assignment key value => loading.assign key value

/-- Reads logical lines up to the first malformed one. -/
def readLines (loading : Loading) : List (Option (List Char)) → Except Breach Loading
  | [] => .ok loading
  | none :: _ => .ok loading
  | some line :: rest =>
    match loading.statement? line with
    | none => .ok loading
    | some statement => do readLines (← loading.perform statement) rest

end Loading

/-! ## Files -/

/-- The octets without the mark of their byte order. -/
def withoutMark : List UInt8 → List UInt8
  | 0xEF :: 0xBB :: 0xBF :: rest => rest
  | octets => octets

/-- The lines of a file with their ends. -/
def physicalLines : List UInt8 → List (List UInt8)
  | [] => []
  | octet :: rest =>
    if octet = 0x0A then [octet] :: physicalLines rest
    else
      match physicalLines rest with
      | [] => [[octet]]
      | line :: others => (octet :: line) :: others

/-- The text of a line, if it is text. -/
def decodeLine (line : List UInt8) : Option (List Char) :=
  match Utf8.decode line with
  | .ok text => some text
  | .error _ => none

/-- The lines of a file; the one in which reading it breaks off counts as malformed. -/
def linesOf (content : Content) : List (Option (List Char)) :=
  let lines := physicalLines (withoutMark content.octets)
  match content.fault? with
  | none => lines.map decodeLine
  | some _ => (lines.filter fun line => line.getLast? = some 0x0A).map decodeLine ++ [none]

/-- The environment with the variables in the content of a file. -/
def load (environment : Environment) (content : Content) : Except Breach Environment :=
  (Loading.readLines ⟨environment, []⟩ (logicalLines .plain [] (linesOf content))).map
    Loading.environment

/-- The name of environment files. -/
def filename : String := ".env"

/-- The path of the environment file in the directory that these names lead to from the root. -/
def pathIn (names : Location) : Path :=
  ⟨Path.slash :: [Path.slash].intercalate (names ++ [Utf8.ofString filename])⟩

/--
The paths where an environment file is looked for: in the directory with these names, given from
the last one to the first, and then in those above it.
-/
def candidates : Location → List Path
  | [] => [pathIn []]
  | last :: above => pathIn (last :: above).reverse :: candidates above

/-- Where a program runs. -/
structure Workplace where
  /-- The names that lead from the root to the working directory, unless that is gone. -/
  directory? : Option Location
  /-- Whether a path leads to a regular file, if that can be known. -/
  isFile : Path → Except FileFault Bool

/-- The first regular file under some paths; where one cannot be looked at, the search ends. -/
def firstFile (isFile : Path → Except FileFault Bool) : List Path → Option Path
  | [] => none
  | path :: rest =>
    match isFile path with
    | .ok true => some path
    | .ok false | .error .notFound => firstFile isFile rest
    | .error _ => none

/-- The environment file of a program. -/
def Workplace.environmentFile? (workplace : Workplace) : Option Path := do
  firstFile workplace.isFile (candidates (← workplace.directory?).reverse)

/-- The environment with the variables in the environment file, if there is one. -/
def extend (environment : Environment) (workplace : Workplace) (files : FileView) :
    Except Breach Environment :=
  match workplace.environmentFile?.map files with
  | some (.regular _ content) => load environment content
  | some .irregular | some (.refused _) | none => .ok environment

end RunArchive.EnvironmentFile
