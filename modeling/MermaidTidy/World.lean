import MermaidTidy.Files.Tree
import MermaidTidy.Log.Record

/-!
# What a run sees and changes

The files, the two output streams and the log, as one value.

* `Logger` is where records go;
* `World.configureLogging` opens the log and sets its level;
* `World.log` writes a record.

Nothing is shown before the log is configured. Afterwards a record goes to the error stream, and to
the log file if there is one.
-/

namespace MermaidTidy

/-- Where log records go. -/
structure Logger where
  /-- The least level that is shown; none before the log is configured. -/
  threshold : Option Log.Level := none
  /-- Whether records go to the error stream. -/
  console : Bool := false
  /-- The log file. -/
  file : Option Location := none
deriving DecidableEq, Repr

namespace Logger

/-- How many places records go to. -/
def handlerCount (l : Logger) : Nat := l.console.toNat + l.file.isSome.toNat

/-- The name of the least level that is shown. -/
def levelName (l : Logger) : Text :=
  match l.threshold with
  | some level => level.name
  | none => "NOTSET".toList

/-- Whether a record is shown. -/
def shows (l : Logger) (r : Log.Record) : Bool :=
  r.isOurs && l.threshold.any (·.rank ≤ r.level.rank)

end Logger

/-- What a run sees and changes. -/
structure World where
  files : FileTree
  stdout : Text := []
  stderr : Text := []
  logger : Logger := {}
  /-- The time stamp of log lines. -/
  stamp : Text
deriving DecidableEq, Repr

namespace World

/-- The world after a text was written to the output stream. -/
def write (w : World) (t : Text) : World := { w with stdout := w.stdout ++ t }

/-- The world after a text was written to the error stream. -/
def writeError (w : World) (t : Text) : World := { w with stderr := w.stderr ++ t }

/-- The world after a record was logged. -/
def log (w : World) (r : Log.Record) : World :=
  if w.logger.shows r then
    let line := r.line w.stamp
    let w := if w.logger.console then w.writeError line else w
    match w.logger.file with
    | some l => { w with files := w.files.append l (Text.encodeUtf8 line) }
    | none => w
  else w

/-- The world after records were logged. -/
def logAll (w : World) (rs : List Log.Record) : World := rs.foldl log w

/-- The variable that names the log file. -/
def logFileVariable : Text := "MERMAID_FMT_LOG_FILE".toList

/-- Open a log file for appending. The directories above it are made. -/
def openLog (files : FileTree) (p : Path) : Except FileFault (FileTree × Location) := do
  let files ← files.makeDirs p.parent
  let l := files.absolute p
  match files.follow [] l with
  | .error cause => .error ⟨cause, files.locationText l⟩
  | .ok _ =>
    if files.entryAt? l = some .directory then .error ⟨.isDirectory, files.locationText l⟩
    else if files.canWrite l then .ok (files.append l [], l)
    else .error ⟨.notPermitted, files.locationText l⟩

/-- The world with the log file opened, or with a report why it cannot be. -/
def attachLogFile (w : World) (name : Text) : World :=
  let p := Path.ofText name
  match openLog w.files p with
  | .ok (files, l) => { w with files := files, logger := { w.logger with file := some l } }
  | .error fault =>
    w.writeError ("Cannot open log file ".toList ++ w.files.pathText p ++ ": ".toList ++
      fault.message ++ ['\n'])

/-- The world with the level of the log set. The first time, the places for records are opened,
where `logFile` names the log file if there is one. -/
def configureLogging (w : World) (logFile : Option Text) (verbose : Bool) : World :=
  let level := if verbose then Log.Level.debug else .warning
  let opened := w.logger.console
  let w := { w with logger := { w.logger with threshold := some level, console := true } }
  match opened, logFile with
  | false, some name => w.attachLogFile name
  | _, _ => w

end World

end MermaidTidy
