import MermaidTidy.Text.Basic

/-!
# Paths

A path is kept in a plain form: repeated separators and `.` components are dropped, `..` components
stay. A path may also be anchored at the working directory, whose name is known to the caller only.
-/

namespace MermaidTidy

/-- Where a path starts. -/
inductive Path.Anchor
  /-- At the working directory, which is not named. -/
  | here
  /-- At the working directory, by its full name. -/
  | home
  /-- At the root. -/
  | root
  /-- At the root, written with two separators. -/
  | doubleRoot
deriving DecidableEq, Repr

/-- A path: where it starts and the names on the way. -/
structure Path where
  anchor : Path.Anchor := .here
  parts : List Text := []
deriving DecidableEq, Repr

namespace Path

/-- The separator of names. -/
def separator : Char := '/'

/-- Whether a component leads nowhere. -/
def isIdle (part : Text) : Bool := part = [] || part = ['.']

/-- The start of a written path, by the number of separators it begins with. -/
def anchorOf : Nat → Anchor
  | 0 => .here
  | 2 => .doubleRoot
  | _ => .root

/-- The path that a text writes. -/
def ofText (t : Text) : Path where
  anchor := anchorOf (t.takeWhile (· == separator)).length
  parts := (Text.cut separator t).filter (!isIdle ·)

/-- The path as text, where `home` is the full name of the working directory. -/
def toText (home : Text) (p : Path) : Text :=
  let names := Text.joinWith [separator] p.parts
  match p.anchor with
  | .here => if p.parts = [] then ['.'] else names
  | .home => if p.parts = [] then home else home ++ separator :: names
  | .root => separator :: names
  | .doubleRoot => separator :: separator :: names

/-- The path of `name` in the directory `p`. -/
def child (p : Path) (name : Text) : Path := { p with parts := p.parts ++ [name] }

/-- The directory in which a path lies. -/
def parent (p : Path) : Path := { p with parts := p.parts.dropLast }

/-- The last name of a path, empty if there is none. -/
def name (p : Path) : Text := p.parts.getLast?.getD []

/-- The last name from its last dot on. A dot at the start or at the end of the name opens no
suffix. -/
def suffix (p : Path) : Text :=
  let extension := (p.name.reverse.takeWhile (· != '.')).reverse
  if extension = [] || p.name.length < extension.length + 2 then [] else '.' :: extension

/-- Whether a component leads back to the directory above. -/
def isUp (part : Text) : Bool := part = ['.', '.']

/-- Whether a null character stands in a path. No file has such a path. -/
def hasNull (p : Path) : Bool := p.parts.any (·.contains (Char.ofNat 0))

end Path

end MermaidTidy
