import MermaidTidy.Command.Console
import MermaidTidy.Command.Options
import MermaidTidy.Command.Usage
import MermaidTidy.Log.Account
import MermaidTidy.Markdown.Format
import MermaidTidy.Settings.Loader
import MermaidTidy.World

/-!
# A run of the program

Arguments, environment and standard input go in; an exit and a changed world come out.

* `Exit` is how a run ends: with a code, or by a fault that nothing handles;
* `runStdin` and `runFiles` do the work;
* `run` is a whole run.
-/

namespace MermaidTidy.Command

/-- A fault that nothing handles. -/
inductive Crash
  /-- The file of settings was asked for without a path. -/
  | noConfigPath
  | read (fault : ReadFault)
  | write (fault : FileFault)
  | longInteger (digits : Nat)
  | format (fault : Fault)
  | room (fault : RoomFault)
deriving DecidableEq, Repr

/-- The fault in words. -/
def Crash.message : Crash → Text
  | .noConfigPath => "expected str, bytes or os.PathLike object, not list".toList
  | .read f => f.message
  | .write f => f.message
  | .longInteger digits => Json.longIntegerMessage digits
  | .format f => f.message
  | .room f => f.message

/-- How a run ends. -/
inductive Exit
  | code (n : Nat)
  | crash (c : Crash)
deriving DecidableEq, Repr

/-- The code of a run that did what it was asked. -/
def success : Nat := 0

/-- The code of a run that failed, or of a check that found something to do. -/
def failure : Nat := 1

/-- The code of a run with refused arguments. -/
def usageFailure : Nat := 2

/-- What a run is given besides its arguments. -/
structure Surroundings where
  environment : Environment := []
  stdin : List UInt8 := []
  /-- The length of the longest text that fits in memory. -/
  memory : Nat := maxLength
deriving DecidableEq, Repr

/-- The world after a text was printed on the console. -/
def print (w : World) (t : Text) : World := w.writeError (Console.line t)

/-- The world after a diagnostic about the source named `source` was printed. -/
def printDiagnostic (w : World) (source : Text) (d : Diagnostic) : World :=
  let margin := "    ".toList
  let w := print w (Console.quote source ++ [':'] ++ Text.decimal d.line ++ [':'] ++
    Text.decimal d.column ++ ": ".toList ++ Console.quote d.message)
  let w := match Diagnostic.present? d.context with
    | some context => print w (margin ++ context)
    | none => w
  match Diagnostic.present? d.suggestion with
  | some suggestion => print w (margin ++ Console.quote suggestion)
  | none => w

/-- Format a text as a markdown document or as a diagram source, and log it. -/
def formatText (memory : Nat) (settings : Settings) (markdown : Bool) (t : Text) (w : World) :
    Except FormatFault Text × World :=
  if markdown then
    (Markdown.formatInRoom memory settings t, w.logAll (Log.markdownRecords memory settings t))
  else (formatInRoom memory settings t, w.logAll (Log.formatRecords settings t))

/-- The crash by a fault of formatting. -/
def crashOf : FormatFault → Crash
  | .source fault => .format fault
  | .room fault => .room fault

/-- The message that a text is not formatted. -/
def wouldChange (source : Text) : Text := source ++ " would be reformatted".toList

/-- Format standard input. -/
def runStdin (around : Surroundings) (o : Options) (settings : Settings) (w : World) :
    Exit × World :=
  match textOfBytes around.stdin with
  | .error fault => (.crash (.read (.encoding fault)), w)
  | .ok text =>
    let source := "<stdin>".toList
    match formatText around.memory settings o.markdown text w with
    | (.error (.source (.diagnostic d)), w) => (.code failure, printDiagnostic w source d)
    | (.error fault, w) => (.crash (crashOf fault), w)
    | (.ok formatted, w) =>
      if o.check then
        if formatted = text then (.code success, w)
        else (.code failure, print w (wouldChange source))
      else (.code success, w.write formatted)

/-- Endings of file names that tell markdown, in lower case. -/
def markdownSuffixes : List Text := [".md".toList, ".markdown".toList]

/-- Whether the file at a path is a markdown document. -/
def isMarkdown (o : Options) (p : Path) : Bool :=
  o.markdown || markdownSuffixes.contains (Text.lowercase p.suffix)

/-- What became of a file. -/
inductive FileResult
  | unchanged
  | changed
  | failed
deriving DecidableEq, Repr

/-- Deal with the formatted text of a file: check, write back or print it. -/
def deliver (o : Options) (p : Path) (text formatted : Text) (w : World) :
    Except Crash FileResult × World :=
  let name := w.files.pathText p
  if o.check || o.write then
    if formatted = text then (.ok .unchanged, w)
    else if o.check then (.ok .changed, print w (wouldChange name))
    else
      match w.files.write p (Text.encodeUtf8 formatted) with
      | .error fault => (.error (.write fault), w)
      | .ok files =>
        let w := { w with files := files }
        (.ok .changed, w.log ⟨Log.part "cli", .info, "Reformatted ".toList ++ name⟩)
  else (.ok .unchanged, w.write formatted)

/-- Format one file. -/
def runFile (memory : Nat) (o : Options) (settings : Settings) (p : Path) (w : World) :
    Except Crash FileResult × World :=
  let name := w.files.pathText p
  match w.files.readText p with
  | .error (.file fault) =>
    (.ok .failed, print w (Console.quote name ++ ": ".toList ++ Console.quote fault.message))
  | .error fault => (.error (.read fault), w)
  | .ok text =>
    match formatText memory settings (isMarkdown o p) text w with
    | (.error (.source (.diagnostic d)), w) => (.ok .failed, printDiagnostic w name d)
    | (.error fault, w) => (.error (crashOf fault), w)
    | (.ok formatted, w) => deliver o p text formatted w

/-- Format files one after the other, up to a crash. -/
def runEach (memory : Nat) (o : Options) (settings : Settings) :
    List Path → World → Except Crash (List FileResult) × World
  | [], w => (.ok [], w)
  | p :: ps, w =>
    match runFile memory o settings p w with
    | (.error crash, w) => (.error crash, w)
    | (.ok result, w) =>
      let (results, w) := runEach memory o settings ps w
      (results.map (result :: ·), w)

/-- The line that sums up what became of files. -/
def summary (changed total : Nat) : Text :=
  Text.decimal changed ++ " of ".toList ++ Text.decimal total ++ " file(s) changed".toList

/-- Format the files of the options. -/
def runFiles (memory : Nat) (o : Options) (settings : Settings) (w : World) : Exit × World :=
  match runEach memory o settings o.files w with
  | (.error crash, w) => (.crash crash, w)
  | (.ok results, w) =>
    let changed := results.count .changed
    let w := if (o.check || o.write) && o.verbose then
      print w (summary changed o.files.length) else w
    let failed := .failed ∈ results || (o.check && 0 < changed)
    (.code (if failed then failure else success), w)

/-- The value of a setting that a switch was given; nothing is an empty list. -/
def Given.toJson : Given Int → Json
  | .value n => .integer n
  | .nothing => .array []

/-- The settings that the options give themselves. -/
def overrides (o : Options) : List (Text × Json) :=
  (o.indent.map fun g => (Settings.Field.indentWidth.name, g.toJson)).toList ++
    if o.tabs then [(Settings.Field.indentUnit.name, .string IndentUnit.tabs.name)] else []

/-- A run with the given options and the file of settings at `config`, if one is named. -/
def runWith (around : Surroundings) (o : Options) (config : Option Path) (w : World) :
    Exit × World :=
  let home : Path := { anchor := .home }
  let (loaded, records) := Settings.load w.files around.environment home config (overrides o)
  let w := w.logAll records
  match loaded with
  | .error (.config fault) =>
    (.code failure, print w ("Configuration error: ".toList ++ Console.quote fault.message))
  | .error (.read fault) => (.crash (.read fault), w)
  | .error (.longInteger digits) => (.crash (.longInteger digits), w)
  | .ok settings =>
    if o.files = [] then runStdin around o settings w else runFiles around.memory o settings w

/-- A run with the given options. -/
def runOptions (around : Surroundings) (o : Options) (w : World) : Exit × World :=
  let w := w.configureLogging (around.environment.value? World.logFileVariable) o.verbose
  match o.config with
  | none => runWith around o none w
  | some (.value path) => runWith around o (some path) w
  | some .nothing => (.crash .noConfigPath, w)

/-- A whole run. -/
def run (around : Surroundings) (arguments : List Text) (w : World) : Exit × World :=
  match Request.ofArguments arguments with
  | .error fault => (.code usageFailure, w.writeError (usageReport fault.message))
  | .ok .showHelp => (.code success, w.write helpText)
  | .ok .showVersion => (.code success, w.write versionText)
  | .ok (.run o) => runOptions around o w

end MermaidTidy.Command
