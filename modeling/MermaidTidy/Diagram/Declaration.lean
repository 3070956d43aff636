import MermaidTidy.Diagram.Kind

/-!
# Declarations

The declaration line names the kind of a diagram and may add a direction, a flag or other text.

* `DiagramType` is a decoded declaration and `DiagramType.format` writes it in canonical form;
* `DiagramType.recognise?` decodes a line that starts with a known keyword;
* `DiagramType.decode` takes every other line for a plain flowchart.
-/

namespace MermaidTidy

/-- A decoded declaration. The direction belongs to flowcharts and graphs, `showData` to pies; all
other text after the keyword is the suffix, kept with its separator. -/
structure DiagramType where
  kind : DiagramKind
  direction : Option Text := none
  showData : Bool := false
  suffix : Option Text := none
deriving DecidableEq, Repr

namespace DiagramType

/-- A flowchart without direction. -/
def plainFlowchart : DiagramType := { kind := .flowchart }

/-- What stands between the keyword and the suffix. -/
def option (d : DiagramType) : Text :=
  if d.kind.isDirected && (d.direction.getD []) ≠ [] then ' ' :: d.direction.getD []
  else if d.kind = .pie && d.showData then " showData".toList
  else []

/-- The canonical declaration line. -/
def format (d : DiagramType) : Text := d.kind.keyword ++ d.option ++ d.suffix.getD []

/-- Whether the diagram must keep the indentation of its lines. -/
def isIndentSensitive (d : DiagramType) : Bool := d.kind.isIndentSensitive

/-- The declaration of kind `k` with `rest` after its keyword, where `rest` does not end with white
space. -/
def ofRest (k : DiagramKind) (rest : Text) : DiagramType :=
  match rest with
  | [] => { kind := k }
  | c :: _ =>
    if isSpace c then
      let words := rest.dropWhile isSpace
      let head := words.takeWhile (!isSpace ·)
      let tail := (words.dropWhile (!isSpace ·)).dropWhile isSpace
      if k.isDirected && tail = [] then { kind := k, direction := some head }
      else if k = .pie && head = "showData".toList then
        { kind := k, showData := true, suffix := if tail = [] then none else some (' ' :: tail) }
      else { kind := k, suffix := some (' ' :: Text.strip rest) }
    else { kind := k, suffix := some rest }

/-- The declaration in a line that starts with a known keyword. -/
def recognise? (t : Text) : Option DiagramType :=
  match DiagramKind.leading? (Text.strip t) with
  | some (k, rest) => if '\n' ∈ rest then none else some (ofRest k rest)
  | none => none

/-- The declaration in a line; a line without a known keyword declares a plain flowchart. -/
def decode (t : Text) : DiagramType := (recognise? t).getD plainFlowchart

end DiagramType

end MermaidTidy
