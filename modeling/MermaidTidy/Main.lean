import MermaidTidy.Command.Run
import Std.Time.Format

/-!
# The program

A run of the program on the real files: what the arguments name is read, the run is computed, and
what it changed is written back.
-/

namespace MermaidTidy.Main

/-- The variables that a run looks at. -/
def variableNames : List Text :=
  World.logFileVariable :: Settings.Field.all.map Settings.Field.environmentName

/-- The environment, as far as a run looks at it. -/
def readEnvironment : IO Environment := do
  let mut env : Environment := []
  for name in variableNames do
    if let some value ← IO.getEnv (String.ofList name) then
      env := env ++ [(name, value.toList)]
  return env

/-- All bytes of a stream. -/
partial def readAll (input : IO.FS.Stream) (start : ByteArray) : IO ByteArray := do
  let more ← input.read 65536
  if more.isEmpty then return start else readAll input (start ++ more)

/-- Whether a file on the disk may be written over. -/
def isWritable (name : String) : IO Bool := do
  try
    discard (IO.FS.Handle.mk name .readWrite)
    return true
  catch
    | .permissionDenied .. => return false
    | _ => return true

/-- What lies on the disk under a name, and what is not permitted there. -/
def probe (name : String) : IO (Option (FileEntry × List Access)) := do
  try
    let bytes ← IO.FS.readBinFile name
    return some (.file bytes.toList, if ← isWritable name then [] else [.write])
  catch
    | .inappropriateType .. => return some (.directory, [])
    | .permissionDenied .. => return some (.file [], [.read, .write])
    | _ => return none

/-- The paths that a run with the given options may read. -/
def pathsOf (env : Environment) (o : Command.Options) : List Path :=
  let config := match o.config with
    | some (.value path) => path
    | _ => ⟨.home, [Settings.standardFile]⟩
  o.files ++ [config] ++
    ((env.value? World.logFileVariable).map Path.ofText).toList

/-- The tree with what lies on the disk on the way to a path. -/
def load (files : FileTree) (p : Path) : IO FileTree := do
  let mut files := files
  for n in List.range (p.parts.length + 1) do
    let l := files.absolute { p with parts := p.parts.take n }
    if let some (e, refused) ← probe (String.ofList (files.locationText l)) then
      files := { files.put l e with denied := refused.map (l, ·) ++ files.denied }
  return files

/-- Write what has changed from `old` to `new` back to the disk. -/
def save (old new : FileTree) : IO Unit := do
  for (l, e) in new.entries do
    unless old.entryAt? l = some e do
      let name := String.ofList (new.locationText l)
      match e with
      | .directory => IO.FS.createDirAll name
      | .file bytes => IO.FS.writeBinFile name ⟨bytes.toArray⟩

/-- The files of a run, and its standard input if that is needed. -/
def prepare (env : Environment) (files : FileTree) (arguments : List Text) :
    IO (FileTree × List UInt8) := do
  match Command.Request.ofArguments arguments with
  | .ok (.run o) =>
    let mut files := files
    for p in pathsOf env o do
      files ← load files p
    let stdin ← if o.files = [] then readAll (← IO.getStdin) .empty else pure .empty
    return (files, stdin.toList)
  | _ => return (files, [])

/-- The time stamp of log lines. -/
def stamp : IO Text := do
  return ((← Std.Time.PlainDateTime.now).format "uuuu-MM-dd HH:mm:ss,SSS").toList

end MermaidTidy.Main

open MermaidTidy in
/-- Run the program with the given arguments. -/
def main (arguments : List String) : IO UInt32 := do
  let arguments := arguments.map String.toList
  let homeName := (← IO.currentDir).toString.toList
  let env ← Main.readEnvironment
  let (files, stdin) ←
    Main.prepare env { home := (Path.ofText homeName).parts, homeName } arguments
  let (exit, world) :=
    Command.run { environment := env, stdin } arguments { files, stamp := ← Main.stamp }
  Main.save files world.files
  IO.print (String.ofList world.stdout)
  IO.eprint (String.ofList world.stderr)
  match exit with
  | .code n => return n.toUInt32
  | .crash c =>
    IO.eprintln (String.ofList c.message)
    return 1
