import MermaidTidy.Text.Lines
import MermaidTidy.Text.Lowercase

/-!
# Code fences

Fenced code blocks of a markdown document, found line by line. A block ends at a line that holds
nothing but the fence character of its opening, at least as often. A fence that is never closed is
no block and hides everything behind it.
-/

namespace MermaidTidy.Markdown

/-- The line that opens a block. -/
structure Opening where
  indent : Text
  char : Char
  length : Nat
  language : Option Text
deriving DecidableEq, Repr

/-- A fenced block. Lines count from one; `startLine` and `endLine` are those of the fences. -/
structure CodeBlock where
  language : Option Text
  content : Text
  startLine : Nat
  endLine : Nat
  indent : Text
deriving DecidableEq, Repr

/-- The opening fence on a line: blanks, at least three backticks or tildes, and the name of a
language, which holds neither white space nor backticks. -/
def opening? (line : Text) : Option Opening :=
  let indent := line.takeWhile isBlank
  match line.dropWhile isBlank with
  | [] => none
  | c :: r =>
    let length := ((c :: r).takeWhile (· == c)).length
    if (c == '\x60' || c == '~') && 3 ≤ length then
      let name := ((c :: r).dropWhile (· == c)).takeWhile fun d => !isSpace d && d != '\x60'
      let language := Text.lowercase (Text.strip name)
      some { indent, char := c, length, language := if language = [] then none else some language }
    else none

/-- Whether a line closes the block that `o` opens. -/
def closes (o : Opening) (line : Text) : Bool :=
  let inner := Text.strip line
  o.length ≤ inner.length && inner.all (· == o.char)

/-- The blocks of a document, and the line of an opening fence that is never closed. -/
structure Scan where
  blocks : List CodeBlock := []
  unclosed : Option Nat := none
deriving DecidableEq, Repr

/-- A block that has been opened: its opening, the line of it and the lines so far, last first. -/
structure OpenBlock where
  opening : Opening
  startLine : Nat
  content : List Text := []
deriving DecidableEq, Repr

/-- The blocks in the lines from `number` on. -/
def scanFrom : Option OpenBlock → Nat → List Text → Scan
  | none, _, [] => {}
  | some b, _, [] => { unclosed := some b.startLine }
  | none, number, line :: rest =>
    scanFrom ((opening? line).map fun o => { opening := o, startLine := number }) (number + 1) rest
  | some b, number, line :: rest =>
    if closes b.opening line then
      let block : CodeBlock :=
        { language := b.opening.language
          content := Text.unlines b.content.reverse
          startLine := b.startLine
          endLine := number
          indent := b.opening.indent }
      let scan := scanFrom none (number + 1) rest
      { scan with blocks := block :: scan.blocks }
    else scanFrom (some { b with content := line :: b.content }) (number + 1) rest

/-- The fenced blocks of a document. -/
def scan (t : Text) : Scan := scanFrom none 1 (Text.splitLines t)

end MermaidTidy.Markdown
