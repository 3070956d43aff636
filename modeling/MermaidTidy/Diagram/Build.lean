import MermaidTidy.Diagram.MessageLine
import MermaidTidy.Line.Shape

/-!
# From lines to statements

The statement of a classified line. What a production captured decides the statement; a line that
was put together by hand may lack captured parts, and then its text stands in for them.

* `Fault` is what can go wrong;
* `Statement.ofLine` builds the statement of a line;
* `Statement.ofNamedLine` does so for a production that is given by its name.
-/

namespace MermaidTidy

/-- Why a source text has no statements. -/
inductive Fault
  /-- A line is at fault. -/
  | diagnostic (d : Diagnostic)
  /-- The keyword of a line was asked for, and the line has no word. -/
  | noWord
  /-- No statement belongs to a production of this name. -/
  | unknownProduction (name : Text)
deriving DecidableEq, Repr

/-- The fault in words. -/
def Fault.message : Fault → Text
  | .diagnostic d => d.render
  | .noWord => "list index out of range".toList
  | .unknownProduction name =>
    "No statement builder for production ".toList ++ Text.quoted name

/-- The same fault `offset` lines further down. -/
def Fault.shift (offset : Int) : Fault → Fault
  | .diagnostic d => .diagnostic (d.shift offset)
  | f => f

namespace Statement

/-- A vocabulary token of a line. -/
def token (α : Type) [Vocabulary α] (l : ClassifiedLine) (t : Text) : Except Fault α :=
  match (Vocabulary.decode t l.line (some l.text) : Except Diagnostic α) with
  | .ok a => .ok a
  | .error d => .error (.diagnostic d)

/-- The captured label of a line, else what follows its keyword; nothing when that is empty. -/
def labelOf (l : ClassifiedLine) (keyword : Text) : Option Text :=
  ((l.field? .text).or (keyword.isPrefixOf? l.text)).bind Text.stripped?

/-- The captured keyword of a line, else its first word. -/
def keywordOf (l : ClassifiedLine) (t : Terminal) : Except Fault Text :=
  match ((l.field? t).filter (· ≠ [])).or (Text.firstWord? l.text) with
  | some k => .ok k
  | none => .error .noWord

/-- The participant that a line declares. Its name ends at the first ` as `. -/
def participantOf (l : ClassifiedLine) : Except Fault Statement := do
  let spelled := if "actor".toList.isPrefixOf l.text then "actor".toList else "participant".toList
  let keyword ← token ParticipantKeyword l spelled
  let declared := (l.field? .text).getD []
  match Text.splitAround? " as ".toList declared with
  | some (name, shown) =>
    return .participant ⟨keyword, Text.strip name, Text.stripped? shown⟩
  | none => return .participant ⟨keyword, Text.strip declared, none⟩

/-- The block that a line opens. -/
def blockStartOf (l : ClassifiedLine) : Except Fault Statement := do
  let keyword ← keywordOf l .blockKeyword
  let block ← token BlockKind l keyword
  return .blockStart block (labelOf l keyword)

/-- The name of a brace block: the captured one, else the line without its keyword and the braces at
its end. -/
def braceNameOf (l : ClassifiedLine) (keyword : Text) : Text :=
  match l.field? .braceName with
  | some name => Text.strip name
  | none =>
    Text.strip <| Text.trimRight (· == '\x7b') <| Text.trimRight isSpace <|
      l.text.drop keyword.length

/-- The brace block that a line opens. -/
def braceBlockStartOf (l : ClassifiedLine) : Except Fault Statement := do
  let keyword ← keywordOf l .braceKeyword
  let block ← token BraceBlockKind l keyword
  return .braceBlockStart block (braceNameOf l keyword)

/-- The message of a line that looks like one. A text that starts with two colons is a class name,
so such a line is no message. -/
def messageOf? (l : ClassifiedLine) : Except Fault (Option Message) :=
  match MessageLine.read? l.text with
  | none => .ok none
  | some m =>
    if [':', ':'].isPrefixOf (Text.strip m.text) then .ok none
    else do
      let arrow ← token Arrow l m.arrow
      return some
        { source := Text.strip m.source
          arrow
          target := Text.strip m.target
          text := Text.stripped? m.text
          activation := m.activation }

/-- The statement of a line of no special shape. With `messages` on, a line of a sequence diagram
may be a message. -/
def genericOf (messages : Bool) (dialect : Option DiagramKind) (l : ClassifiedLine) :
    Except Fault Statement :=
  if messages && dialect = some .sequenceDiagram then do
    match ← messageOf? l with
    | some m => return .message m
    | none => return .generic l.text
  else .ok (.generic l.text)

/-- The statement of a line, where `dialect` is the kind of diagram declared before it. -/
def ofLine (messages : Bool) (dialect : Option DiagramKind) (l : ClassifiedLine) :
    Except Fault Statement :=
  match l.production with
  | .blankLine => .ok .blank
  | .diagramDecl => .ok (.declaration (DiagramType.decode l.text))
  | .directive => .ok (.directive l.text)
  | .comment => .ok (.comment l.text)
  | .participant => participantOf l
  | .blockStart => blockStartOf l
  | .braceBlockStart => braceBlockStartOf l
  | .blockOption => .ok (.blockOption (labelOf l "option".toList))
  | .blockElse => .ok (.blockElse (labelOf l "else".toList))
  | .blockAnd => .ok (.blockAnd (labelOf l "and".toList))
  | .blockEnd => .ok .blockEnd
  | .braceBlockEnd => .ok .braceBlockEnd
  | .note => .ok (.note l.text)
  | .genericLine => genericOf messages dialect l

/-- The statement of a line whose production is given by name. -/
def ofNamedLine (messages : Bool) (dialect : Option DiagramKind) (production text : Text)
    (line : Int) (captures : Captures Terminal) : Except Fault Statement :=
  match Production.ofName? production with
  | some p => ofLine messages dialect { production := p, text, line, captures }
  | none => .error (.unknownProduction production)

end Statement

end MermaidTidy
