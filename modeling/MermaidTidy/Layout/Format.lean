import MermaidTidy.Layout.Lines
import MermaidTidy.Source.Read

/-!
# Formatting of source text

A source is read and laid out again. Diagrams that live by their indentation are passed through with
unified line ends, unless the settings say otherwise.

The width of indentation has no bound, but a text has: none is longer than `maxLength`, and none is
kept that is longer than the memory allows. So there are two forms of layout. `layoutLines`,
`Diagram.format` and `format` are computed as if there were no such bounds; here are those that find
out at each line whether there is room for its indentation.

* `Settings.indentInRoom` is the indentation of a depth, if there is room for it;
* `layoutLinesInRoom` and `Diagram.formatInRoom` are the lines and the text of a diagram;
* `formatInRoom` is the formatted text of a source.
-/

namespace MermaidTidy

/-- Whether a source is passed through as it is. -/
def isPassedThrough (settings : Settings) (t : Text) : Except Fault Bool :=
  if settings.preserveIndentSensitive then do
    return (← Source.detect t).any DiagramType.isIndentSensitive
  else .ok false

/-- The formatted text of a source. -/
def format (settings : Settings) (t : Text) : Except Fault Text := do
  if ← isPassedThrough settings t then
    return serialize (Text.splitLines t)
  else
    return (← Source.parse settings.normalizeMessages t).format settings

/-! ### Room for indentation -/

/-- Why an indentation cannot be made. -/
inductive RoomFault
  /-- It is longer than any text. -/
  | length
  /-- It does not fit in memory. -/
  | memory
deriving DecidableEq, Repr

/-- The fault in words. -/
def RoomFault.message : RoomFault → Text
  | .length => "cannot fit 'int' into an index-sized integer".toList
  | .memory => []

/-- The length of the longest text. -/
def maxLength : Nat := 9223372036854775807

namespace Settings

/-- The length of the indentation at a depth. -/
def indentLength (s : Settings) (depth : Nat) : Nat :=
  match s.indentUnit with
  | .tabs => depth
  | .spaces => depth * s.indentWidth

theorem length_indent (s : Settings) (depth : Nat) :
    (s.indent depth).length = s.indentLength depth := by
  unfold indent indentLength
  cases s.indentUnit <;> simp

/-- Why the indentation of a depth cannot be made, if it cannot, where texts up to the length `memory`
fit in memory. -/
def roomFault? (memory : Nat) (s : Settings) (depth : Nat) : Option RoomFault :=
  if maxLength < s.indentLength depth then some .length
  else if memory < s.indentLength depth then some .memory
  else none

/-- The indentation of a depth, if there is room for it. -/
def indentInRoom (memory : Nat) (s : Settings) (depth : Nat) : Except RoomFault Text :=
  match s.roomFault? memory depth with
  | some fault => .error fault
  | none => .ok (s.indent depth)

end Settings

/-- The lines of the statements that are left in a pass, if there is room for them. -/
def layoutFromInRoom (memory : Nat) (settings : Settings) :
    Pass → List Statement → Except RoomFault (List Text)
  | _, [] => .ok []
  | p, .blank :: rest =>
    if p.afterText then do
      return [] :: (← layoutFromInRoom memory settings { p with afterText := false } rest)
    else layoutFromInRoom memory settings p rest
  | p, s :: rest => do
    let indent ← settings.indentInRoom memory ((p.stateAt s).depth (some s))
    let lines ← layoutFromInRoom memory settings (p.next settings s) rest
    return (if p.gapBefore s then [[]] else []) ++ (indent ++ s.render) :: lines

/-- The lines of a diagram, if there is room for them. -/
def layoutLinesInRoom (memory : Nat) (settings : Settings) (d : Diagram) :
    Except RoomFault (List Text) :=
  layoutFromInRoom memory settings {} d.statements

/-- The text of a diagram, if there is room for its lines. -/
def Diagram.formatInRoom (memory : Nat) (settings : Settings) (d : Diagram) : Except RoomFault Text :=
  (layoutLinesInRoom memory settings d).map serialize

/-- Why a text is not formatted: it is at fault, or there is no room. -/
inductive FormatFault
  | source (fault : Fault)
  | room (fault : RoomFault)
deriving DecidableEq, Repr

/-- The formatted text of a source, if there is room for it. -/
def formatInRoom (memory : Nat) (settings : Settings) (t : Text) : Except FormatFault Text := do
  if ← (isPassedThrough settings t).mapError .source then
    return serialize (Text.splitLines t)
  else
    let d ← (Source.parse settings.normalizeMessages t).mapError .source
    (d.formatInRoom memory settings).mapError .room

end MermaidTidy
