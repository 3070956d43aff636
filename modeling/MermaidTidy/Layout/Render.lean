import MermaidTidy.Diagram.Statement
import MermaidTidy.Respacing.Normalize

/-!
# Rendered statements

The canonical text of a statement, without its indentation.
-/

namespace MermaidTidy

/-- A keyword with an optional label; an empty label counts as absent. -/
def withLabel (keyword : Text) (label : Option Text) : Text :=
  match label with
  | none | some [] => keyword
  | some l => keyword ++ ' ' :: l

/-- The arrow of a message with its activation sign. -/
def Message.arrowToken (m : Message) : Text :=
  m.arrow.token ++ (m.activation.map Activation.sign).toList

/-- The canonical text of a message. -/
def Message.render (m : Message) : Text :=
  m.source ++ ' ' :: (m.arrowToken ++ ' ' :: (m.target ++ ':' ::
    match m.text with
    | none | some [] => []
    | some t => ' ' :: Respacing.normalize t))

/-- The canonical text of a participant. -/
def Participant.render (p : Participant) : Text :=
  withLabel (p.keyword.keyword ++ ' ' :: p.name) (p.displayName.map fun
    | [] => []
    | shown => "as ".toList ++ shown)

/-- The canonical text of a statement. -/
def Statement.render : Statement → Text
  | .declaration t => t.format
  | .directive t | .comment t | .note t | .frontmatter t => t
  | .participant p => p.render
  | .blockStart b label => withLabel b.keyword label
  | .braceBlockStart b name => b.keyword ++ ' ' :: (name ++ [' ', '\x7b'])
  | .blockOption label => withLabel "option".toList label
  | .blockElse label => withLabel "else".toList label
  | .blockAnd label => withLabel "and".toList label
  | .blockEnd => "end".toList
  | .braceBlockEnd => ['\x7d']
  | .message m => m.render
  | .generic t => Respacing.normalize t
  | .blank => []

end MermaidTidy
