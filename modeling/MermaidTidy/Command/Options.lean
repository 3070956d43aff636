import MermaidTidy.Files.Path
import MermaidTidy.Text.Integer
import MermaidTidy.Text.Quoted

/-!
# Command line options

The arguments of a run are sorted into switches and operands, and then collected from left to right.

* `Switch` is the list of switches and their spellings;
* `Argument` is an argument by its look, and `Argument.ofText` decides the look;
* `Request` is what a run is asked to do, and `Request.ofArguments` reads it off the arguments.

A long switch may be cut short as long as it stays the only one. The first run of operands gives the
files; operands after a further switch are refused.
-/

namespace MermaidTidy.Command

/-- The switches. -/
inductive Switch
  | help
  | write
  | check
  | indent
  | tabs
  | markdown
  | config
  | verbose
  | version
deriving DecidableEq, Repr

namespace Switch

/-- The spellings of a switch. -/
def spellings : Switch → List Text
  | .help => ["-h".toList, "--help".toList]
  | .write => ["--write".toList, "-w".toList]
  | .check => ["--check".toList]
  | .indent => ["--indent".toList]
  | .tabs => ["--tabs".toList]
  | .markdown => ["--markdown".toList]
  | .config => ["--config".toList]
  | .verbose => ["--verbose".toList, "-v".toList]
  | .version => ["--version".toList]

/-- All switches, in the order in which candidates are listed. -/
def all : List Switch :=
  [.help, .write, .check, .indent, .tabs, .markdown, .config, .verbose, .version]

/-- All spellings with their switches. -/
def table : List (Text × Switch) := all.flatMap fun s => s.spellings.map (·, s)

/-- The switch that is spelled `t`. -/
def ofSpelling? (t : Text) : Option Switch := (table.find? (·.1 = t)).map (·.2)

/-- Whether a switch takes a value. -/
def takesValue : Switch → Bool
  | .indent | .config => true
  | _ => false

/-- How messages name a switch. -/
def title (s : Switch) : Text := Text.joinWith ['/'] s.spellings

end Switch

/-- Why arguments are refused. -/
inductive UsageFault
  | ambiguous (given : Text) (candidates : List Text)
  | missingValue (switch : Switch)
  | notInteger (switch : Switch) (value : Text)
  | uselessValue (switch : Switch) (value : Text)
  | unrecognized (arguments : List Text)
  | writeWithoutFile
  | writeAndCheck
deriving DecidableEq, Repr

/-- The fault in words. -/
def UsageFault.message : UsageFault → Text
  | .ambiguous given candidates =>
    "ambiguous option: ".toList ++ given ++ " could match ".toList ++
      Text.joinWith ", ".toList candidates
  | .missingValue s => "argument ".toList ++ s.title ++ ": expected one argument".toList
  | .notInteger s value =>
    "argument ".toList ++ s.title ++ ": invalid int value: ".toList ++ Text.quoted value
  | .uselessValue s value =>
    "argument ".toList ++ s.title ++ ": ignored explicit argument ".toList ++ Text.quoted value
  | .unrecognized arguments =>
    "unrecognized arguments: ".toList ++ Text.joinWith [' '] arguments
  | .writeWithoutFile => "--write requires at least one file".toList
  | .writeAndCheck => "--write and --check are mutually exclusive".toList

/-! ### The look of an argument -/

/-- An argument by its look. -/
inductive Argument
  | operand (t : Text)
  /-- The two dashes behind which all arguments are operands. -/
  | dashes
  /-- A switch in its long form, with the value behind an equals sign. -/
  | long (s : Switch) (value : Option Text)
  /-- A switch in its short form, with what is glued to it. -/
  | short (s : Switch) (glued : Option Text)
  /-- Something that looks like a switch and is none. -/
  | unknown (t : Text)
deriving DecidableEq, Repr

namespace Argument

/-- Two dashes. -/
def twoDashes : Text := ['-', '-']

/-- An argument that spells a switch. -/
def ofSwitch (spelled : Text) (s : Switch) (value : Option Text) : Argument :=
  if twoDashes.isPrefixOf spelled then .long s value else .short s value

/-- An argument up to its first equals sign, and what follows that. -/
def splitValue (t : Text) : Text × Option Text :=
  match Text.splitAround? ['='] t with
  | some (spelled, value) => (spelled, some value)
  | none => (t, none)

/-- The switches that an argument may stand for when it spells none in full. -/
def candidates (t : Text) : List (Text × Switch × Option Text) :=
  if twoDashes.isPrefixOf t then
    let (start, value) := splitValue t
    (Switch.table.filter (start.isPrefixOf ·.1)).map fun (spelled, s) => (spelled, s, value)
  else
    (Switch.table.filter (·.1 = t.take 2)).map fun (spelled, s) => (spelled, s, some (t.drop 2))

/-- Whether a character is a decimal digit of any script. -/
def isDigit (c : Char) : Bool := (digitValue? c).isSome

/-- Whether an argument is a negative number, with a point or without. One line feed at the end does
not count. -/
def isNegativeNumber (t : Text) : Bool :=
  match t with
  | '-' :: r =>
    let number := if r.getLast? = some '\n' then r.dropLast else r
    match number.dropWhile isDigit with
    | [] => number ≠ []
    | '.' :: fraction => fraction ≠ [] && fraction.all isDigit
    | _ => false
  | _ => false

/-- The look of an argument that starts with a dash and spells no switch in full. -/
def ofDashed (t : Text) : Except UsageFault Argument :=
  match candidates t with
  | [(spelled, s, value)] => .ok (ofSwitch spelled s value)
  | [] => .ok (if isNegativeNumber t || ' ' ∈ t then .operand t else .unknown t)
  | several => .error (.ambiguous t (several.map (·.1)))

/-- The look of an argument that is not two dashes. -/
def ofText (t : Text) : Except UsageFault Argument :=
  match t with
  | '-' :: _ :: _ =>
    match Switch.ofSpelling? t, splitValue t with
    | some s, _ => .ok (ofSwitch t s none)
    | none, (spelled, value) =>
      match Switch.ofSpelling? spelled with
      | some s => .ok (ofSwitch spelled s value)
      | none => ofDashed t
  | _ => .ok (.operand t)

/-- The looks of all arguments. -/
def ofTexts : List Text → Except UsageFault (List Argument)
  | [] => .ok []
  | t :: ts =>
    if t = twoDashes then .ok (.dashes :: ts.map .operand)
    else do
      let a ← ofText t
      let rest ← ofTexts ts
      return a :: rest

end Argument

/-! ### What a run is asked to do -/

/-- What was given to a switch that takes a value. Two dashes behind the equals sign are no value, so
the switch is then given nothing. -/
inductive Given (α : Type)
  | value (a : α)
  | nothing
deriving DecidableEq, Repr

/-- The options of a run. -/
structure Options where
  files : List Path := []
  write : Bool := false
  check : Bool := false
  indent : Option (Given Int) := none
  tabs : Bool := false
  markdown : Bool := false
  config : Option (Given Path) := none
  verbose : Bool := false
deriving DecidableEq, Repr

/-- What a run is asked to do. -/
inductive Request
  | run (options : Options)
  | showHelp
  | showVersion
deriving DecidableEq, Repr

/-- Where the files stand among the arguments read so far. -/
inductive FilesPlace
  | ahead
  | here
  | behind
deriving DecidableEq, Repr

/-- What has been collected from the arguments read so far. -/
structure Collected where
  options : Options := {}
  place : FilesPlace := .ahead
  extras : List Text := []
deriving DecidableEq, Repr

namespace Collected

/-- An operand belongs to the files unless these have ended. -/
def addOperand (c : Collected) (t : Text) : Collected :=
  match c.place with
  | .behind => { c with extras := c.extras ++ [t] }
  | _ =>
    { c with place := .here, options := { c.options with files := c.options.files ++ [.ofText t] } }

/-- Two dashes are an operand without meaning. -/
def addDashes (c : Collected) : Collected :=
  match c.place with
  | .behind => { c with extras := c.extras ++ [Argument.twoDashes] }
  | _ => { c with place := .here }

/-- A switch ends the files. -/
def endFiles (c : Collected) : Collected :=
  match c.place with
  | .here => { c with place := .behind }
  | _ => c

/-- Refuse an argument. -/
def addExtra (c : Collected) (t : Text) : Collected :=
  { c.endFiles with extras := c.extras ++ [t] }

/-- Turn switches on, from left to right. A switch that asks for something else than a run answers
at once. -/
def turnOn (c : Collected) : List Switch → Except Request Collected
  | [] => .ok c.endFiles
  | s :: ss =>
    let o := c.options
    match s with
    | .help => .error .showHelp
    | .version => .error .showVersion
    | .write => turnOn { c with options := { o with write := true } } ss
    | .check => turnOn { c with options := { o with check := true } } ss
    | .tabs => turnOn { c with options := { o with tabs := true } } ss
    | .markdown => turnOn { c with options := { o with markdown := true } } ss
    | .verbose => turnOn { c with options := { o with verbose := true } } ss
    | .indent | .config => turnOn c ss

/-- Give a value to a switch that takes one. -/
def giveValue (c : Collected) (s : Switch) (value : Text) : Except UsageFault Collected :=
  let c := c.endFiles
  let dropped := value = Argument.twoDashes
  match s with
  | .indent =>
    if dropped then .ok { c with options := { c.options with indent := some .nothing } }
    else
      match Text.integer? value with
      | some n => .ok { c with options := { c.options with indent := some (.value n) } }
      | none => .error (.notInteger s value)
  | .config =>
    let path := if dropped then .nothing else .value (.ofText value)
    .ok { c with options := { c.options with config := some path } }
  | _ => .ok c

/-- The switches in a short switch with others glued to it, one letter each. -/
def unglue (s : Switch) : Text → Except UsageFault (List Switch)
  | [] => .ok [s]
  | letter :: rest =>
    match Switch.ofSpelling? ['-', letter] with
    | some next => do
      let more ← unglue next rest
      return s :: more
    | none => .error (.uselessValue s (letter :: rest))

/-- The switches that an argument without a value turns on. -/
def switchesOf (s : Switch) : Option Text → Except UsageFault (List Switch)
  | none => .ok [s]
  | some [] => .error (.uselessValue s [])
  | some glued => unglue s glued

/-- The request when all arguments have been collected. -/
def finish (c : Collected) : Except UsageFault Request :=
  if c.extras ≠ [] then .error (.unrecognized c.extras)
  else if c.options.write && c.options.files = [] then .error .writeWithoutFile
  else if c.options.write && c.options.check then .error .writeAndCheck
  else .ok (.run c.options)

/-- Collect the arguments that are left. -/
def collect : Collected → List Argument → Except UsageFault Request
  | c, [] => c.finish
  | c, .operand t :: rest => collect (c.addOperand t) rest
  | c, .dashes :: rest => collect c.addDashes rest
  | c, .unknown t :: rest => collect (c.addExtra t) rest
  | c, .long s (some value) :: rest =>
    if s.takesValue then do
      let c ← c.giveValue s value
      collect c rest
    else .error (.uselessValue s value)
  | c, .long s none :: rest =>
    if s.takesValue then
      match rest with
      | .operand value :: rest => do
        let c ← c.giveValue s value
        collect c rest
      | _ => .error (.missingValue s)
    else
      match c.turnOn [s] with
      | .ok c => collect c rest
      | .error request => .ok request
  | c, .short s glued :: rest => do
    match c.turnOn (← switchesOf s glued) with
    | .ok c => collect c rest
    | .error request => return request

end Collected

/-- What the arguments ask for. -/
def Request.ofArguments (arguments : List Text) : Except UsageFault Request := do
  Collected.collect {} (← Argument.ofTexts arguments)

end MermaidTidy.Command
