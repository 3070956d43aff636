import MermaidTidy.Files.Tree
import MermaidTidy.Json.Read
import MermaidTidy.Log.Record
import MermaidTidy.Settings.Validate
import MermaidTidy.Text.Lowercase

/-!
# Where settings come from

A setting is taken from the first of four places that gives it: the caller, the environment, a JSON
file, the defaults.

* `Loader` remembers the file that was loaded last;
* `Loader.loadFile` loads a file, which may be required or not;
* `Loader.build` puts the settings together;
* `Settings.load` does both, with the standard file when none is named.
-/

namespace MermaidTidy

/-- The environment: variables and their values. -/
abbrev Environment := List (Text × Text)

/-- The value of a variable. An empty value counts as none. -/
def Environment.value? (env : Environment) (name : Text) : Option Text :=
  ((env.find? (·.1 = name)).map (·.2)).filter (· ≠ [])

/-- Why there are no settings. -/
inductive ConfigFault
  /-- A required file does not exist. -/
  | notFound (path : Text)
  /-- A required file holds no JSON. -/
  | notJson (path : Text) (fault : Json.SyntaxFault)
  /-- A file holds JSON, but no object. -/
  | notObject (path : Text) (type : Text)
  /-- Values are not accepted. -/
  | invalid (problems : List Settings.Problem)
deriving Repr

/-- What an unreadable JSON document is called. -/
def notJsonMessage (path : Text) (fault : Json.SyntaxFault) : Text :=
  "Invalid JSON in ".toList ++ path ++ ": ".toList ++ fault.message

/-- The fault in words. -/
def ConfigFault.message : ConfigFault → Text
  | .notFound path => "Config file not found: ".toList ++ path
  | .notJson path fault => notJsonMessage path fault
  | .notObject path type =>
    path ++ ": expected a JSON object, got ".toList ++ type
  | .invalid problems => "Invalid configuration: ".toList ++ Settings.problemHeader problems

/-- Why loading settings fails: the settings are at fault, the file cannot be read, or an integer in
it has too many digits. -/
inductive LoadFault
  | config (fault : ConfigFault)
  | read (fault : ReadFault)
  | longInteger (digits : Nat)
deriving Repr

namespace Settings

/-- The variable of a setting. -/
def Field.environmentName : Field → Text
  | .indentUnit => "MERMAID_FMT_INDENT_UNIT".toList
  | .indentWidth => "MERMAID_FMT_INDENT_WIDTH".toList
  | .normalizeMessages => "MERMAID_FMT_NORMALIZE_MESSAGES".toList
  | .preserveIndentSensitive => "MERMAID_FMT_PRESERVE_INDENT_SENSITIVE".toList

/-- A warning about settings. -/
def warning (message : Text) : Log.Record := ⟨Log.part "config", .warning, message⟩

/-- The texts that turn a switch on in the environment; all others turn it off. -/
def environmentOn : List Text := ["true", "1", "yes"].map String.toList

/-- What the value of a variable stands for, if it stands for anything. -/
def fromVariable? (f : Field) (value : Text) : Option Json :=
  match f with
  | .indentUnit => some (.string value)
  | .indentWidth => (Text.integer? value).map .integer
  | .normalizeMessages | .preserveIndentSensitive =>
    some (.bool (environmentOn.contains (Text.lowercase value)))

/-- What the environment gives for a setting, and a warning when it is of no use. -/
def fromEnvironment (env : Environment) (f : Field) : Option Json × List Log.Record :=
  match env.value? f.environmentName with
  | none => (none, [])
  | some value =>
    match fromVariable? f value with
    | some v => (some v, [])
    | none =>
      (none, [warning ("Ignoring ".toList ++ f.environmentName ++ "=".toList ++ Text.quoted value ++
        ": not an integer".toList)])

/-- What the caller gives for a setting; null is nothing. -/
def override? (overrides : List (Text × Json)) (f : Field) : Option Json :=
  match given? overrides f with
  | some .null => none
  | v => v

/-- The file that was loaded last: its members and its path. -/
structure Loader where
  values : List (Text × Json) := []
  path : Option Path := none

namespace Loader

/-- The result of loading a file: the new state, what is logged, and whether a file was loaded. -/
structure Loaded where
  loader : Loader
  records : List Log.Record := []
  result : Except LoadFault Bool

/-- The warnings about members that are no settings. -/
def unknownWarnings (path : Text) (members : List (Text × Json)) : List Log.Record :=
  match unknownNames members with
  | [] => []
  | names =>
    [warning ("Ignoring unknown keys in ".toList ++ path ++ ": ".toList ++
      Text.joinWith ", ".toList names)]

/-- The loader after a text was read from the file at `path`. -/
def take (l : Loader) (path : Path) (shown text : Text) (required : Bool) : Loaded :=
  match Json.read text with
  | .error (.longInteger digits) => { loader := l, result := .error (.longInteger digits) }
  | .error (.malformed fault) =>
    if required then { loader := l, result := .error (.config (.notJson shown fault)) }
    else { loader := l, records := [warning (notJsonMessage shown fault)], result := .ok false }
  | .ok (.object members) =>
    { loader := { values := members, path := some path }
      records := unknownWarnings shown members ++
        [⟨Log.part "config", .debug, "Loaded config from ".toList ++ shown⟩]
      result := .ok true }
  | .ok v => { loader := l, result := .error (.config (.notObject shown v.typeName)) }

/-- Load the file at a path. A missing or unreadable document is a fault only if it is required. -/
def loadFile (l : Loader) (files : FileTree) (path : Path) (required : Bool) : Loaded :=
  let shown := files.pathText path
  match files.contains path with
  | .error fault => { loader := l, result := .error (.read (.file fault)) }
  | .ok true =>
    match files.readText path with
    | .error fault => { loader := l, result := .error (.read fault) }
    | .ok text => l.take path shown text required
  | .ok false =>
    if required then { loader := l, result := .error (.config (.notFound shown)) }
    else { loader := l, result := .ok false }

/-- What is given for a setting, from the first place that gives it, and what is logged. -/
def valueOf (l : Loader) (env : Environment) (overrides : List (Text × Json)) (f : Field) :
    Option Json × List Log.Record :=
  match override? overrides f with
  | some v => (some v, [])
  | none =>
    let (v, records) := fromEnvironment env f
    (v.or (given? l.values f), records)

/-- The settings from all places, and what is logged. -/
def build (l : Loader) (env : Environment) (overrides : List (Text × Json)) :
    Except ConfigFault Settings × List Log.Record :=
  let found := Field.all.map fun f => (f, l.valueOf env overrides f)
  let values := found.filterMap fun (f, v, _) => v.map (f.name, ·)
  let records := found.flatMap fun (_, _, r) => r
  match validate values with
  | .ok s => (.ok s, records)
  | .error problems => (.error (.invalid problems), records)

end Loader

/-- The name of the file that is looked for when none is named. -/
def standardFile : Text := "mermaid_fmt.json".toList

/-- The settings of a run, and what is logged. A file that is named must exist; the standard file in
the directory `root` need not. -/
def load (files : FileTree) (env : Environment) (root : Path) (path : Option Path)
    (overrides : List (Text × Json)) : Except LoadFault Settings × List Log.Record :=
  let loaded :=
    match path with
    | some p => Loader.loadFile {} files p true
    | none => Loader.loadFile {} files (root.child standardFile) false
  match loaded.result with
  | .error fault => (.error fault, loaded.records)
  | .ok _ =>
    let (settings, records) := loaded.loader.build env overrides
    (settings.mapError .config, loaded.records ++ records)

end Settings

end MermaidTidy
