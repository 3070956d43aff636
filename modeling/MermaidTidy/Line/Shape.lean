import MermaidTidy.Vocabulary

/-!
# Shapes of lines

A source line is read on its own. Which shapes it may have depends on what came before it.

* `LineMode` says what came before;
* `Production` is the shape of a line and `Terminal` names the parts captured from it;
* `ClassifiedLine` is a line with its shape and its captured parts.
-/

namespace MermaidTidy

/-- What came before a line. -/
inductive LineMode
  /-- Nothing but preamble: any bare word may declare the diagram. -/
  | leading
  /-- Content without a declaration: only a known keyword still declares. -/
  | pending
  /-- A declaration of any kind but the sequence diagram. -/
  | body
  /-- The declaration of a sequence diagram: its branches may occur. -/
  | sequence
deriving DecidableEq, Repr

/-- The name of a mode. -/
def LineMode.name : LineMode → Text
  | .leading => "leading_line".toList
  | .pending => "pending_line".toList
  | .body => "body_line".toList
  | .sequence => "sequence_line".toList

instance : Vocabulary LineMode where
  title := "line mode".toList
  members := [.leading, .pending, .body, .sequence]
  spelling := LineMode.name

/-- The shape of a line. -/
inductive Production
  | blankLine
  | diagramDecl
  | directive
  | comment
  | participant
  | blockStart
  | braceBlockStart
  | blockOption
  | blockElse
  | blockAnd
  | blockEnd
  | braceBlockEnd
  | note
  | genericLine
deriving DecidableEq, Repr

namespace Production

/-- The name of a shape. -/
def name : Production → Text
  | .blankLine => "blank_line".toList
  | .diagramDecl => "diagram_decl".toList
  | .directive => "directive".toList
  | .comment => "comment".toList
  | .participant => "participant".toList
  | .blockStart => "block_start".toList
  | .braceBlockStart => "brace_block_start".toList
  | .blockOption => "block_option".toList
  | .blockElse => "block_else".toList
  | .blockAnd => "block_and".toList
  | .blockEnd => "block_end".toList
  | .braceBlockEnd => "brace_block_end".toList
  | .note => "note".toList
  | .genericLine => "generic_line".toList

/-- All shapes. -/
def all : List Production :=
  [.blankLine, .diagramDecl, .directive, .comment, .participant, .blockStart, .braceBlockStart,
   .blockOption, .blockElse, .blockAnd, .blockEnd, .braceBlockEnd, .note, .genericLine]

/-- The shape with the given name. -/
def ofName? (n : Text) : Option Production := all.find? (·.name == n)

theorem ofName?_name (p : Production) : ofName? p.name = some p := by cases p <;> rfl

end Production

/-- A part that is captured from a line. -/
inductive Terminal
  | knownDiagram
  | declText
  | diagramKeyword
  | directive
  | comment
  | participantKeyword
  | blockKeyword
  | braceKeyword
  | braceName
  | noteKeyword
  | text
deriving DecidableEq, Repr

namespace Terminal

/-- The name of a captured part. -/
def name : Terminal → Text
  | .knownDiagram => "KNOWN_DIAGRAM".toList
  | .declText => "DECL_TEXT".toList
  | .diagramKeyword => "DIAGRAM_KEYWORD".toList
  | .directive => "DIRECTIVE".toList
  | .comment => "COMMENT".toList
  | .participantKeyword => "PARTICIPANT_KEYWORD".toList
  | .blockKeyword => "BLOCK_KEYWORD".toList
  | .braceKeyword => "BRACE_KEYWORD".toList
  | .braceName => "BRACE_NAME".toList
  | .noteKeyword => "NOTE_KEYWORD".toList
  | .text => "TEXT".toList

/-- All captured parts. -/
def all : List Terminal :=
  [.knownDiagram, .declText, .diagramKeyword, .directive, .comment, .participantKeyword,
   .blockKeyword, .braceKeyword, .braceName, .noteKeyword, .text]

/-- The captured part with the given name. -/
def ofName? (n : Text) : Option Terminal := all.find? (·.name == n)

theorem ofName?_name (t : Terminal) : ofName? t.name = some t := by cases t <;> rfl

end Terminal

/-- Captured parts in source order, each under a key. -/
abbrev Captures (κ : Type) := List (κ × Text)

namespace Captures

variable {κ : Type} [DecidableEq κ]

/-- The first part captured under `key`. -/
def first? (captures : Captures κ) (key : κ) : Option Text :=
  (captures.find? (·.1 = key)).map (·.2)

/-- The parts as a table in which a later part replaces an earlier one under the same key. -/
def table (captures : Captures κ) : Captures κ :=
  captures.foldl (fun acc entry => acc.filter (·.1 ≠ entry.1) ++ [entry]) []

end Captures

/-- A line with its shape. `text` is the line without surrounding blanks. -/
structure ClassifiedLine where
  production : Production
  text : Text
  line : Int := 0
  captures : Captures Terminal := []
deriving DecidableEq, Repr

/-- The first part of the given name. -/
def ClassifiedLine.field? (l : ClassifiedLine) (t : Terminal) : Option Text := l.captures.first? t

end MermaidTidy
