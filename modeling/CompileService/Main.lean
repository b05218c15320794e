import CompileService.CommandLine
import CompileService.FileTree.Edit
import CompileService.Process.Start
import CompileService.Settings.Reading

/-!
# The program

Carries out a command line. The settings come from the environment and from the file `.env` of the
current directory. The source is read from the disk, everything else happens in a `World`, and what
the service has generated is written to the disk afterwards. There are no programs in that world, so
a toolchain is always missing.
-/

namespace CompileService.Program

/-- The text of a string. -/
def textOf (s : String) : Text := lit s

/-- The settings that the environment holds. -/
def environment : IO (List (Text × Text)) := do
  let found ← Settings.forms.mapM fun (name, _) => do
    return (← IO.getEnv name).map fun value => (lit name, textOf value)
  return found.filterMap id

/-- The bytes of a file, if it can be read. -/
def bytes? (path : String) : IO (Option (List UInt8)) := do
  try
    return some (← IO.FS.readBinFile path).toList
  catch _ => return none

/-- A file tree that holds the file that a command line names, if it can be read. -/
def filesFor (args : List String) : IO Folder := do
  match args with
  | [_, path] =>
    match ← bytes? path with
    | none => return .empty
    | some content =>
      return (FileEdit.applyAll .empty [.write (FilePath.ofText (textOf path)) content]).1
  | _ => return .empty

/-- An identifier made of random bytes. -/
def randomDraw : IO Draw := do
  let bytes ← IO.getRandomBytes 16
  return .issued (.ofNat (bytes.toList.foldl (fun n b => 256 * n + b.toNat) 0))

/-- Writes the files below a directory to the disk. -/
def writeBelow (w : World) (dir : FilePath) : IO Unit := do
  for name in w.filesBelow dir do
    let path := FilePath.ofText name
    match FileTree.fileContent w.files path with
    | .ok content =>
      IO.FS.createDirAll path.parent.toText.toStr
      IO.FS.writeBinFile name.toStr ⟨content.toArray⟩
    | .error _ => pure ()

/-- Carries out a command line under settings, and gives the exit status. -/
def carryOut (settings : Settings) (args : List String) : IO UInt32 := do
  let draws ← (List.range (settings.idMaxAttempts.toNat + 1)).mapM fun _ => randomDraw
  let service : Service := {
    settings
    tempDir := FilePath.ofText (lit "tmp")
    ids := drawsThenCount draws
    runner := Programs.runner fun _ _ => .error .notFound }
  let files ← filesFor args
  let (result, world) := (CommandLine.run service (args.map textOf)).run { files }
  for r in world.records do
    if LogLevel.warning ≤ r.level then
      IO.eprintln (r.level.shown ++ lit " [" ++ textOf r.source ++ lit "] " ++ r.message).toStr
  writeBelow world service.genDir
  match result with
  | .error failure =>
    IO.eprintln (lit failure.kind ++ lit ": " ++ failure.message).toStr
    return 1
  | .ok answer =>
    IO.print answer.printed.toStr
    for l in answer.listeners do
      let place := l.host ++ lit ":" ++ Text.ofInt l.port
      IO.eprintln (l.application ++ lit " is to be served at " ++ place).toStr
    return answer.status.toUInt32

/-- Runs the program. -/
def run (args : List String) : IO UInt32 := do
  let dotenv := (← bytes? ".env").map Utf8.decodeReplacing
  match Settings.load (← environment) dotenv [] with
  | .ok settings => carryOut settings args
  | .error (.notJson name source) =>
    IO.eprintln (Settings.notJsonMessage name source).toStr
    return 1
  | .error (.tooDeep isList) =>
    IO.eprintln (Json.tooDeepMessage isList)
    return 1
  | .error (.invalid faults) =>
    for f in faults do
      IO.eprintln f.kind.message.toStr
    return 1

end CompileService.Program

/-- The entry point. -/
def main (args : List String) : IO UInt32 := CompileService.Program.run args
