import MermaidTidy.Diagram.Declaration

/-!
# Statements

A diagram is the sequence of the statements of its lines, one statement for each line.
-/

namespace MermaidTidy

/-- Blocks that an `end` line closes. -/
inductive BlockKind
  | critical
  | alt
  | loop
  | par
  | opt
  | breakOut
  | rect
  | subgraph
deriving DecidableEq, Repr

/-- The keyword that opens a block. -/
def BlockKind.keyword : BlockKind → Text
  | .critical => "critical".toList
  | .alt => "alt".toList
  | .loop => "loop".toList
  | .par => "par".toList
  | .opt => "opt".toList
  | .breakOut => "break".toList
  | .rect => "rect".toList
  | .subgraph => "subgraph".toList

instance : Vocabulary BlockKind where
  title := "block kind".toList
  members := [.critical, .alt, .loop, .par, .opt, .breakOut, .rect, .subgraph]
  spelling := BlockKind.keyword

/-- Blocks that a closing brace closes. -/
inductive BraceBlockKind
  | stateBlock
  | classBlock
  | namespaceBlock
deriving DecidableEq, Repr

/-- The keyword that opens a brace block. -/
def BraceBlockKind.keyword : BraceBlockKind → Text
  | .stateBlock => "state".toList
  | .classBlock => "class".toList
  | .namespaceBlock => "namespace".toList

instance : Vocabulary BraceBlockKind where
  title := "brace block kind".toList
  members := [.stateBlock, .classBlock, .namespaceBlock]
  spelling := BraceBlockKind.keyword

/-- How a participant of a sequence diagram is drawn. -/
inductive ParticipantKeyword
  | participant
  | actor
deriving DecidableEq, Repr

/-- The keyword that declares a participant. -/
def ParticipantKeyword.keyword : ParticipantKeyword → Text
  | .participant => "participant".toList
  | .actor => "actor".toList

instance : Vocabulary ParticipantKeyword where
  title := "participant keyword".toList
  members := [.participant, .actor]
  spelling := ParticipantKeyword.keyword

/-- The arrows of sequence messages. -/
inductive Arrow
  | solidOpen
  | dottedOpen
  | solid
  | dotted
  | solidCross
  | dottedCross
  | solidAsync
  | dottedAsync
  | solidBidirectional
  | dottedBidirectional
deriving DecidableEq, Repr

/-- How an arrow is written. -/
def Arrow.token : Arrow → Text
  | .solidOpen => "->".toList
  | .dottedOpen => "-->".toList
  | .solid => "->>".toList
  | .dotted => "-->>".toList
  | .solidCross => "-x".toList
  | .dottedCross => "--x".toList
  | .solidAsync => "-)".toList
  | .dottedAsync => "--)".toList
  | .solidBidirectional => "<<->>".toList
  | .dottedBidirectional => "<<-->>".toList

instance : Vocabulary Arrow where
  title := "arrow".toList
  members := [.solidOpen, .dottedOpen, .solid, .dotted, .solidCross, .dottedCross, .solidAsync,
    .dottedAsync, .solidBidirectional, .dottedBidirectional]
  spelling := Arrow.token

/-- What a message does to the life line of its target or source. -/
inductive Activation
  | activate
  | deactivate
deriving DecidableEq, Repr

/-- The sign after the arrow. -/
def Activation.sign : Activation → Char
  | .activate => '+'
  | .deactivate => '-'

/-- The activation that a sign stands for. -/
def Activation.ofSign? (c : Char) : Option Activation :=
  if c = '+' then some .activate else if c = '-' then some .deactivate else none

/-- A message of a sequence diagram. -/
structure Message where
  source : Text
  arrow : Arrow
  target : Text
  text : Option Text := none
  activation : Option Activation := none
deriving DecidableEq, Repr

/-- A declared participant of a sequence diagram. -/
structure Participant where
  keyword : ParticipantKeyword
  name : Text
  displayName : Option Text := none
deriving DecidableEq, Repr

/-- One line of a diagram. -/
inductive Statement
  /-- The line that declares the diagram. -/
  | declaration (type : DiagramType)
  /-- A line of the form `%%{ … }%%`, kept as it is. -/
  | directive (text : Text)
  | participant (participant : Participant)
  | blockStart (block : BlockKind) (label : Option Text)
  | braceBlockStart (block : BraceBlockKind) (name : Text)
  | blockOption (label : Option Text)
  | blockElse (label : Option Text)
  | blockAnd (label : Option Text)
  | blockEnd
  | braceBlockEnd
  | note (text : Text)
  /-- A comment with its marker. -/
  | comment (text : Text)
  | message (message : Message)
  /-- A line of no special shape. -/
  | generic (text : Text)
  | blank
  /-- A line of the leading `---` block, kept with its indentation. -/
  | frontmatter (text : Text)
deriving DecidableEq, Repr

/-- The tag of a statement. -/
inductive StatementKind
  | declaration
  | directive
  | participant
  | blockStart
  | braceBlockStart
  | blockOption
  | blockElse
  | blockAnd
  | blockEnd
  | braceBlockEnd
  | note
  | comment
  | message
  | generic
  | blank
  | frontmatter
deriving DecidableEq, Repr

/-- The name of a tag. -/
def StatementKind.name : StatementKind → Text
  | .declaration => "diagram_decl".toList
  | .directive => "directive".toList
  | .participant => "participant".toList
  | .blockStart => "block_start".toList
  | .braceBlockStart => "brace_block_start".toList
  | .blockOption => "block_option".toList
  | .blockElse => "block_else".toList
  | .blockAnd => "block_and".toList
  | .blockEnd => "block_end".toList
  | .braceBlockEnd => "brace_block_end".toList
  | .note => "note".toList
  | .comment => "comment".toList
  | .message => "message".toList
  | .generic => "generic_line".toList
  | .blank => "blank_line".toList
  | .frontmatter => "frontmatter".toList

instance : Vocabulary StatementKind where
  title := "statement kind".toList
  members := [.declaration, .directive, .participant, .blockStart, .braceBlockStart, .blockOption,
    .blockElse, .blockAnd, .blockEnd, .braceBlockEnd, .note, .comment, .message, .generic, .blank,
    .frontmatter]
  spelling := StatementKind.name

/-- The tag of a statement. -/
def Statement.kind : Statement → StatementKind
  | .declaration _ => .declaration
  | .directive _ => .directive
  | .participant _ => .participant
  | .blockStart _ _ => .blockStart
  | .braceBlockStart _ _ => .braceBlockStart
  | .blockOption _ => .blockOption
  | .blockElse _ => .blockElse
  | .blockAnd _ => .blockAnd
  | .blockEnd => .blockEnd
  | .braceBlockEnd => .braceBlockEnd
  | .note _ => .note
  | .comment _ => .comment
  | .message _ => .message
  | .generic _ => .generic
  | .blank => .blank
  | .frontmatter _ => .frontmatter

/-- The type that a statement declares. -/
def Statement.declared? : Statement → Option DiagramType
  | .declaration t => some t
  | _ => none

/-- The statements of a diagram source, in source order. -/
structure Diagram where
  statements : List Statement := []
deriving DecidableEq, Repr

/-- The type of a diagram: that of its first declaration. -/
def Diagram.type? (d : Diagram) : Option DiagramType := d.statements.findSome? Statement.declared?

end MermaidTidy
