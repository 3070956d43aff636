import MermaidTidy.Files.Path
import MermaidTidy.Text.Lines
import MermaidTidy.Text.Quoted
import MermaidTidy.Text.Utf8

/-!
# File trees

The files that a run can see and change, as a value: bytes under locations. A directory exists when
it is listed or when something lies below it. What is not permitted is listed beside the files.

* `Location` is a place in the tree;
* `FileTree.permits` and `FileTree.canWrite` say what is permitted there;
* `FileTree.resolve` follows a path to a location;
* `FileTree.readBytes`, `FileTree.readText` and `FileTree.write` work on files;
* `FileTree.makeDirs` makes a directory with all directories above it.
-/

namespace MermaidTidy

/-- A place in a file tree: the names on the way to it from the root. -/
abbrev Location := List Text

namespace Location

/-- The location one step on. Above the root there is nothing but the root. -/
def step (l : Location) (part : Text) : Location :=
  if Path.isUp part then l.dropLast else l ++ [part]

/-- The location that components lead to by their names alone. -/
def walk (l : Location) (parts : List Text) : Location := parts.foldl step l

end Location

/-- What lies at a location. -/
inductive FileEntry
  | file (bytes : List UInt8)
  | directory
deriving DecidableEq, Repr

/-- Why a file operation fails. -/
inductive FileFault.Cause
  | notFound
  | alreadyExists
  | notDirectory
  | isDirectory
  | nameTooLong
  | notPermitted
deriving DecidableEq, Repr

/-- The number of a cause. -/
def FileFault.Cause.number : FileFault.Cause → Nat
  | .notFound => 2
  | .notPermitted => 13
  | .alreadyExists => 17
  | .notDirectory => 20
  | .isDirectory => 21
  | .nameTooLong => 36

/-- The words for a cause. -/
def FileFault.Cause.message : FileFault.Cause → Text
  | .notFound => "No such file or directory".toList
  | .notPermitted => "Permission denied".toList
  | .alreadyExists => "File exists".toList
  | .notDirectory => "Not a directory".toList
  | .isDirectory => "Is a directory".toList
  | .nameTooLong => "File name too long".toList

/-- A failed file operation on the path `shown`. -/
structure FileFault where
  cause : FileFault.Cause
  shown : Text
deriving DecidableEq, Repr

/-- The failure in words. -/
def FileFault.message (f : FileFault) : Text :=
  "[Errno ".toList ++ Text.decimal f.cause.number ++ "] ".toList ++ f.cause.message ++
    ": ".toList ++ Text.quoted f.shown

/-- What may be permitted or not at a location. -/
inductive Access
  | read
  | write
deriving DecidableEq, Repr

/-- The visible files. -/
structure FileTree where
  /-- The working directory. -/
  home : Location := []
  /-- How the working directory is shown. -/
  homeName : Text
  entries : List (Location × FileEntry) := []
  /-- What is not permitted. -/
  denied : List (Location × Access) := []
deriving DecidableEq, Repr

namespace FileTree

/-- What is listed at a location. -/
def listed? (f : FileTree) (l : Location) : Option FileEntry :=
  (f.entries.find? (·.1 = l)).map (·.2)

/-- What lies at a location. The working directory and all above it are directories. -/
def entryAt? (f : FileTree) (l : Location) : Option FileEntry :=
  match f.listed? l with
  | some e => some e
  | none =>
    if l.isPrefixOf f.home || f.entries.any (l.isPrefixOf ·.1) then some .directory else none

/-- Whether an access to what lies at a location is permitted. -/
def permits (f : FileTree) (a : Access) (l : Location) : Bool := (l, a) ∉ f.denied

/-- Whether something may be written at a location. What is new there changes the directory that it
lies in. -/
def canWrite (f : FileTree) (l : Location) : Bool :=
  match f.entryAt? l with
  | some _ => f.permits .write l
  | none => f.permits .write l.dropLast

/-- The location where a path starts. -/
def start (f : FileTree) : Path.Anchor → Location
  | .here | .home => f.home
  | .root | .doubleRoot => []

/-- The most bytes of a name. -/
def maxNameBytes : Nat := 255

/-- The most bytes of a written path. -/
def maxPathBytes : Nat := 4095

/-- The location that a list of names leads to. Each name is looked up in a directory. -/
def follow (f : FileTree) : Location → List Text → Except FileFault.Cause Location
  | l, [] => .ok l
  | l, part :: rest =>
    match f.entryAt? l with
    | none => .error .notFound
    | some (.file _) => .error .notDirectory
    | some .directory =>
      if maxNameBytes < (Text.encodeUtf8 part).length then .error .nameTooLong
      else follow f (l.step part) rest

/-- The location of a path by its names alone, whatever lies on the way. -/
def absolute (f : FileTree) (p : Path) : Location := (f.start p.anchor).walk p.parts

/-- How a path is shown. -/
def pathText (f : FileTree) (p : Path) : Text := p.toText f.homeName

/-- The location that a path leads to. -/
def resolve (f : FileTree) (p : Path) : Except FileFault.Cause Location :=
  if maxPathBytes < (Text.encodeUtf8 (f.pathText p)).length then .error .nameTooLong
  else f.follow (f.start p.anchor) p.parts

/-- How a location is shown: by its full path. -/
def locationText (f : FileTree) (l : Location) : Text :=
  match f.home.isPrefixOf? l with
  | some rest => f.pathText ⟨.home, rest⟩
  | none => f.pathText ⟨.root, l⟩

/-- A failure on a path. -/
def fault (f : FileTree) (p : Path) (cause : FileFault.Cause) : FileFault := ⟨cause, f.pathText p⟩

/-- Whether a file or directory lies at a path. A name that is too long is not even looked up. -/
def contains (f : FileTree) (p : Path) : Except FileFault Bool :=
  if p.hasNull then .ok false
  else
    match f.resolve p with
    | .ok l => .ok (f.entryAt? l).isSome
    | .error .nameTooLong => .error (f.fault p .nameTooLong)
    | .error _ => .ok false

/-- The bytes of the file at a path. -/
def readBytes (f : FileTree) (p : Path) : Except FileFault (List UInt8) :=
  match f.resolve p with
  | .error cause => .error (f.fault p cause)
  | .ok l =>
    match f.entryAt? l with
    | none => .error (f.fault p .notFound)
    | some .directory => .error (f.fault p .isDirectory)
    | some (.file bytes) => if f.permits .read l then .ok bytes else .error (f.fault p .notPermitted)

/-- The list with `e` at a location, in the place of what is listed there or at the end. -/
def setEntry (l : Location) (e : FileEntry) :
    List (Location × FileEntry) → List (Location × FileEntry)
  | [] => [(l, e)]
  | entry :: rest => if entry.1 = l then (l, e) :: rest else entry :: setEntry l e rest

/-- The tree with `e` at a location. -/
def put (f : FileTree) (l : Location) (e : FileEntry) : FileTree :=
  { f with entries := setEntry l e f.entries }

theorem find?_setEntry (l k : Location) (e : FileEntry) (entries : List (Location × FileEntry)) :
    (setEntry l e entries).find? (·.1 = k) =
      if l = k then some (l, e) else entries.find? (·.1 = k) := by
  induction entries with
  | nil => by_cases h : l = k <;> simp [setEntry, h]
  | cons entry rest ih =>
    by_cases hl : entry.1 = l
    · subst hl
      by_cases hk : entry.1 = k <;> simp [setEntry, hk]
    · by_cases hk : entry.1 = k
      · subst hk
        simp [setEntry, hl, Ne.symm hl]
      · simp [setEntry, hl, hk, ih]

/-- Of all locations only the given one is listed anew. -/
theorem listed?_put (f : FileTree) (l k : Location) (e : FileEntry) :
    (f.put l e).listed? k = if l = k then some e else f.listed? k := by
  unfold listed? put
  rw [find?_setEntry]
  split <;> simp

@[simp] theorem entryAt?_put_self (f : FileTree) (l : Location) (e : FileEntry) :
    (f.put l e).entryAt? l = some e := by
  simp [entryAt?, listed?_put]

/-- The tree with the given bytes in the file at a path. -/
def write (f : FileTree) (p : Path) (bytes : List UInt8) : Except FileFault FileTree :=
  match f.resolve p with
  | .error cause => .error (f.fault p cause)
  | .ok l =>
    match f.entryAt? l with
    | some .directory => .error (f.fault p .isDirectory)
    | _ => if f.canWrite l then .ok (f.put l (.file bytes)) else .error (f.fault p .notPermitted)

/-- The tree with bytes added to the file at a location. -/
def append (f : FileTree) (l : Location) (bytes : List UInt8) : FileTree :=
  match f.entryAt? l with
  | some (.file old) => f.put l (.file (old ++ bytes))
  | _ => f.put l (.file bytes)

/-- The tree with a directory at the path whose names are `up` from last to first, and all
directories above it. -/
def makeDirsUp (f : FileTree) (anchor : Path.Anchor) : List Text → Except FileFault FileTree
  | [] => .ok f
  | part :: up =>
    let path : Path := ⟨anchor, (part :: up).reverse⟩
    let make (f : FileTree) : Except FileFault FileTree :=
      match f.resolve path with
      | .error cause => .error (f.fault path cause)
      | .ok l =>
        match f.entryAt? l with
        | none =>
          if f.canWrite l then .ok (f.put l .directory) else .error (f.fault path .notPermitted)
        | some .directory => .ok f
        | some (.file _) => .error (f.fault path .alreadyExists)
    match f.resolve path with
    | .error .notFound => do
      let f ← makeDirsUp f anchor up
      make f
    | _ => make f

/-- The tree with a directory at a path and all directories above it. -/
def makeDirs (f : FileTree) (p : Path) : Except FileFault FileTree :=
  f.makeDirsUp p.anchor p.parts.reverse

end FileTree

/-- Why a file cannot be read as text. -/
inductive ReadFault
  /-- The path has a null character in it. -/
  | nullInPath
  | file (f : FileFault)
  | encoding (f : Utf8Fault)
deriving DecidableEq, Repr

/-- The failure in words. -/
def ReadFault.message : ReadFault → Text
  | .nullInPath => "embedded null byte".toList
  | .file f => f.message
  | .encoding f => f.message

/-- The text in bytes: UTF-8 with any line ends. -/
def textOfBytes (bytes : List UInt8) : Except Utf8Fault Text :=
  (Text.decodeUtf8 bytes).map Text.universalNewlines

/-- The text of the file at a path. -/
def FileTree.readText (f : FileTree) (p : Path) : Except ReadFault Text :=
  if p.hasNull then .error .nullInPath
  else
    match f.readBytes p with
    | .error e => .error (.file e)
    | .ok bytes =>
      match textOfBytes bytes with
      | .error e => .error (.encoding e)
      | .ok t => .ok t

end MermaidTidy
