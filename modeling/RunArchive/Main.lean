import RunArchive.CommandLine.Inspect
import RunArchive.CommandLine.Overview
import RunArchive.Database.Snapshot
import Std.Time.DateTime.Timestamp

/-!
# The executable

One executable has both programs; its first argument is the name of the one to run, and the others
are the arguments of that program.

All that a program may ask of its surroundings is collected before it runs: variables, files, the
rows of the database, the time and some random bits.  The address of the database is the path of a
snapshot.  The demonstration run is written to a tree in memory that starts out like the real one.
-/

namespace RunArchive.Main

/-- The fault behind an error of the operating system. -/
def faultOf : IO.Error → FileFault
  | .noFileOrDirectory _ _ _ => .notFound
  | .alreadyExists _ _ _ => .alreadyExists
  | .inappropriateType (some _) _ _ => .notDirectory
  | .inappropriateType none _ _ => .isDirectory
  | .invalidArgument _ _ _ => .nameTooLong
  | .permissionDenied _ code details => .other s!"{details} (os error {code})"
  | _ => .inputOutput

/-- Opens a path and reads what is there; nothing is found at a path that is no text. -/
def openPath (path : Path) : IO Opened := do
  if 0 ∈ path.octets then
    return .refused .nulCharacter
  match path.text? with
  | none => return .refused .notFound
  | some text =>
    try
      let content ← IO.FS.readBinFile text
      return .regular content.size (.whole content.toList)
    catch error =>
      match faultOf error with
      | .isDirectory => return .irregular
      | fault => return .refused fault

/-- Opens some paths, before anything asks for them. -/
def openPaths (paths : List Path) : IO FileView := do
  let opened ← paths.mapM fun path => return (path, ← openPath path)
  return fun path => (opened.lookup path).getD (.refused .notFound)

/-- The names that lead from the root to the working directory. -/
def workingDirectory : IO Location := do
  return (Path.segments (Utf8.ofString (← IO.currentDir).toString)).filter (· ≠ [])

/-- Whether a path leads to a regular file, as far as opening it shows. -/
def isFile (files : FileView) (path : Path) : Except FileFault Bool :=
  match files path with
  | .regular _ _ => .ok true
  | .irregular => .ok false
  | .refused fault => .error fault

/-- The words of letters, digits and underscores in a text. -/
def wordsOf (text : List Char) : List String :=
  (text.splitBy fun left right => isPart left && isPart right).map String.ofList
where
  /-- Whether a word may have a character. -/
  isPart (character : Char) : Bool := character.isAlphanum || character == '_'

/-- The variables that a program looks at, whatever stands in its files. -/
def settingNames : List String :=
  [DatabaseSettings.urlVariable, DatabaseSettings.minVariable, DatabaseSettings.maxVariable,
    RunError.limitVariable, Overview.directoryVariable]

/-- The variables that may matter, with those that an environment file mentions. -/
def readEnvironment (file? : Option Opened) : IO Environment := do
  let mentioned : List (List Char) :=
    match file? with
    | some (.regular _ content) =>
      (EnvironmentFile.physicalLines content.octets).filterMap EnvironmentFile.decodeLine
    | some .irregular | some (.refused _) | none => []
  let names := (settingNames ++ mentioned.flatMap wordsOf).eraseDups
  names.filterMapM fun name => return (← IO.getEnv name).map fun value => (name, value)

/-- A database that nobody can reach, whatever is asked of it and however often. -/
def unreachable (message : String) : Server :=
  ⟨[], List.replicate 8 (.server .closedConnection message), 0⟩

/-- The database with the rows of a snapshot. -/
def readServer (environment : Environment) : IO Server := do
  match environment.get? DatabaseSettings.urlVariable with
  | none => return ⟨[], [], 0⟩
  | some address =>
    match ← openPath (.ofText address) with
    | .regular _ content =>
      match content.all with
      | .error fault => return unreachable fault.message
      | .ok octets =>
        match Table.ofSnapshot octets with
        | .ok table => return ⟨table, [], 0⟩
        | .error message => return unreachable message
    | .refused fault => return unreachable fault.message
    | .irregular => return unreachable FileFault.isDirectory.message

/-- The paths of the artifacts of the runs that arguments mention. -/
def artifactPaths (table : Table) (arguments : List String) : List Path :=
  ((arguments.filterMap RunId.ofText?).filterMap table.find).flatMap fun row =>
    ArtifactKind.all.filterMap fun kind => (row.recordColumns.record.resolve kind).toOption

/-- A tree in memory with the directories and files that stand on the way of a path. -/
def diskAlong (path : Path) : IO Disk := do
  let segments := Path.segments path.octets
  let ways := (List.range segments.length).map fun count =>
    (⟨[Path.slash].intercalate (segments.take (count + 1))⟩ : Path)
  let mut disk := Disk.empty
  for way in ways do
    match ← openPath way with
    | .irregular => disk := (disk.makeDirectories way).toOption.getD disk
    | .regular size content =>
      match disk.locate .place way with
      | .absent location => disk := disk.put location (.file size content)
      | .there _ _ | .refused _ => pure ()
    | .refused _ => pure ()
  return disk

/-- The present time. -/
def now : IO Instant := do
  let timestamp ← Std.Time.Timestamp.now
  return (Instant.of? timestamp.val.second.val timestamp.val.nano.val.toNat).getD .epoch

/-- A random number below a power of 256. -/
def randomBelow (octets : USize) : IO Nat := do
  return (← IO.getRandomBytes octets).toList.foldl (fun value octet => value * 256 + octet.toNat) 0

/-- A random identifier: 48 random bits, the version 4, 12 bits, the variant 2 and 62 bits. -/
def randomId : IO RunId := do
  let high := (← randomBelow 6) * 0x10000 + 0x4000 + (← randomBelow 2) % 0x1000
  let low := 0x8000000000000000 + (← randomBelow 8) % 0x4000000000000000
  let bits := high * 0x10000000000000000 + low
  return ⟨⟨bits % RunId.count, Nat.mod_lt _ (by decide)⟩⟩

/-- What a demonstration needs to know. -/
def occasion : IO Overview.Occasion := do
  return ⟨← randomId, toString (← randomBelow 4), ← now⟩

/-- Writes the outcome of a program, and gives its exit code. -/
def report (outcome : Outcome) : IO UInt32 := do
  (← IO.getStdout).putStr outcome.output
  (← IO.getStderr).putStr outcome.errors
  return outcome.exitCode.toUInt32

/-- Runs the program that has this name. -/
def runProgram (program : String) (arguments : List String) : IO UInt32 := do
  let names ← workingDirectory
  let places := EnvironmentFile.candidates names.reverse
  let candidates ← openPaths places
  let workplace : EnvironmentFile.Workplace := ⟨some names, isFile candidates⟩
  let environment ← readEnvironment (workplace.environmentFile?.map candidates)
  let extended :=
    (EnvironmentFile.extend environment workplace candidates).toOption.getD environment
  let server ← readServer extended
  let files ← openPaths (places ++ artifactPaths server.table arguments)
  if program = Inspect.programName then
    let arguments := Command.given arguments
    report (Inspect.run arguments environment workplace files server (← now))
  else if program = Overview.programName then
    let occasion ← occasion
    let disk ← diskAlong (Overview.demoDirectory extended occasion.process)
    let arguments := Command.given arguments
    report (Overview.run arguments environment workplace files disk server occasion)
  else report (.failure 2 ArgumentError.usage)

end RunArchive.Main

/-- Runs the program that the first argument names. -/
def main : List String → IO UInt32
  | [] => RunArchive.Main.report (.failure 2 RunArchive.ArgumentError.usage)
  | program :: arguments => RunArchive.Main.runProgram program arguments
