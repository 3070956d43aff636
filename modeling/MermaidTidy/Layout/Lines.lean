import MermaidTidy.Layout.Rules
import MermaidTidy.Settings.Basic
import MermaidTidy.Text.Lines

/-!
# Laid-out lines

One pass over the statements of a diagram gives its lines: each statement indented to its depth,
runs of blank lines collapsed to one, no blank line at the start, and the blank lines that the rules
call for.

* `Pass` is the state of the pass;
* `layoutLines` gives the lines of a diagram, where a blank line is the empty text;
* `serialize` joins lines to a text without blank lines at its end;
* `Diagram.format` is the text of a diagram.
-/

namespace MermaidTidy

/-- The state of a pass over the statements. -/
structure Pass where
  state : LayoutState := {}
  /-- The nearest statement before that is not blank. -/
  previous : Option Statement := none
  /-- Whether the line before exists and is not empty. -/
  afterText : Bool := false
deriving DecidableEq, Repr

namespace Pass

/-- Whether a blank line is put before a statement. -/
def gapBefore (p : Pass) (s : Statement) : Bool :=
  needsBlankBefore (some s) p.previous && p.afterText

/-- The layout state at a statement: a closing brace closes its block first. -/
def stateAt (p : Pass) (s : Statement) : LayoutState :=
  match s with
  | .braceBlockEnd => p.state.closeBrace
  | _ => p.state

/-- The line of a statement. -/
def line (settings : Settings) (p : Pass) (s : Statement) : Text :=
  settings.indent ((p.stateAt s).depth (some s)) ++ s.render

/-- The layout state behind a statement. -/
def stateAfter (p : Pass) (s : Statement) : LayoutState :=
  match s with
  | .declaration _ => { p.state with declared := true }
  | .braceBlockStart _ _ => p.state.openBrace
  | _ => p.stateAt s

/-- The pass behind a statement that is not blank. -/
def next (settings : Settings) (p : Pass) (s : Statement) : Pass where
  state := p.stateAfter s
  previous := some s
  afterText := p.line settings s ≠ []

end Pass

/-- The lines of the statements that are left in a pass. -/
def layoutFrom (settings : Settings) : Pass → List Statement → List Text
  | _, [] => []
  | p, .blank :: rest =>
    if p.afterText then [] :: layoutFrom settings { p with afterText := false } rest
    else layoutFrom settings p rest
  | p, s :: rest =>
    (if p.gapBefore s then [[]] else []) ++
      p.line settings s :: layoutFrom settings (p.next settings s) rest

/-- The lines of a diagram. -/
def layoutLines (settings : Settings) (d : Diagram) : List Text :=
  layoutFrom settings {} d.statements

/-- The lines joined to a text. Lines of white space at the end are dropped; a text that is not
empty ends with one line feed. -/
def serialize (lines : List Text) : Text :=
  match (lines.reverse.dropWhile (Text.strip · = [])).reverse with
  | [] => []
  | kept => Text.unlines kept ++ ['\n']

/-- The text of a diagram. -/
def Diagram.format (settings : Settings) (d : Diagram) : Text := serialize (layoutLines settings d)

end MermaidTidy
