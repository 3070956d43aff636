import MermaidTidy.Layout.Format
import MermaidTidy.Markdown.Fence

/-!
# Formatting of markdown

Every mermaid block of a document is formatted on its own and written back with the indentation of
its fence; all other lines stay as they are. Faults are reported with lines of the document. Blocks are
formatted one after the other, so the first block that is at fault or has no room decides what is
reported.
-/

namespace MermaidTidy

/-- The fault with its line moved. -/
def FormatFault.shift (offset : Int) : FormatFault → FormatFault
  | .source f => .source (f.shift offset)
  | .room r => .room r

namespace Markdown

/-- The language of the blocks that are formatted. -/
def language : Text := "mermaid".toList

/-- The mermaid blocks of a document. -/
def mermaidBlocks (t : Text) : List CodeBlock :=
  (scan t).blocks.filter (·.language = some language)

/-- A line without the indentation of its fence, if it has it. -/
def dedentLine (indent line : Text) : Text := (indent.isPrefixOf? line).getD line

/-- The source inside a block, without the indentation of its fence. -/
def CodeBlock.source (b : CodeBlock) : Text :=
  if b.indent = [] then b.content
  else Text.unlines ((Text.pieces b.content).map (dedentLine b.indent))

/-- The lines that replace the inside of a block: those of the formatted source, where a line that
is not empty gets the indentation of the fence. -/
def indentLines (indent formatted : Text) : List Text :=
  (Text.pieces formatted).dropLast.map fun line => if line = [] then [] else indent ++ line

/-- The new inside of a block. -/
def CodeBlock.formatted (settings : Settings) (b : CodeBlock) : Except Fault (List Text) :=
  match MermaidTidy.format settings b.source with
  | .ok t => .ok (indentLines b.indent t)
  | .error f => .error (f.shift b.startLine)

/-- The new inside of a block, if there is room for it. -/
def CodeBlock.formattedInRoom (memory : Nat) (settings : Settings) (b : CodeBlock) :
    Except FormatFault (List Text) :=
  match MermaidTidy.formatInRoom memory settings b.source with
  | .ok t => .ok (indentLines b.indent t)
  | .error f => .error (f.shift b.startLine)

/-- The lines of the document from the index `cursor` on, with the insides of blocks replaced by what
`inside` gives for them. -/
def replaceBlocks {ε : Type} (inside : CodeBlock → Except ε (List Text)) (lines : List Text) :
    Nat → List CodeBlock → Except ε (List Text)
  | cursor, [] => .ok (lines.drop cursor)
  | cursor, b :: bs => do
    let new ← inside b
    let rest ← replaceBlocks inside lines (b.endLine - 1) bs
    return (lines.drop cursor).take (b.startLine - cursor) ++ new ++ rest

/-- The document with the insides of its mermaid blocks replaced by what `inside` gives for them. -/
def replaceInsides {ε : Type} (inside : CodeBlock → Except ε (List Text)) (t : Text) : Except ε Text :=
  let source := Text.unifyLineEnds t
  match mermaidBlocks source with
  | [] => .ok source
  | blocks => do
    return Text.unlines (← replaceBlocks inside (Text.pieces source) 0 blocks)

/-- The document with its mermaid blocks formatted. -/
def format (settings : Settings) (t : Text) : Except Fault Text :=
  replaceInsides (CodeBlock.formatted settings) t

/-- The document with its mermaid blocks formatted, if there is room for them. -/
def formatInRoom (memory : Nat) (settings : Settings) (t : Text) : Except FormatFault Text :=
  replaceInsides (CodeBlock.formattedInRoom memory settings) t

end Markdown

end MermaidTidy
