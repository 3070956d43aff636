import MermaidTidy.Text.Basic

/-!
# Lines

A line ends at a line feed. A carriage return directly before a line feed belongs to the line end;
a lone one stays in its line.

* `pieces` cuts a text at its line feeds and `unlines` puts the pieces together again;
* `unifyLineEnds` writes every line end as a single line feed;
* `splitLines` gives the lines of a source text, with or without a final line feed;
* `universalNewlines` is for reading files, where a lone carriage return ends a line too.
-/

namespace MermaidTidy.Text

/-- Every carriage return before a line feed is dropped. -/
def unifyLineEnds : Text → Text
  | [] => []
  | '\r' :: '\n' :: r => '\n' :: unifyLineEnds r
  | c :: r => c :: unifyLineEnds r

/-- Carriage returns, with or without a line feed after them, become line feeds. -/
def universalNewlines : Text → Text
  | [] => []
  | '\r' :: '\n' :: r => '\n' :: universalNewlines r
  | c :: r => (if c = '\r' then '\n' else c) :: universalNewlines r

/-- The parts of a text between its line feeds: one more than there are line feeds. -/
def pieces (t : Text) : List Text := cut '\n' t

/-- The pieces put together with a line feed between them. -/
def unlines (ps : List Text) : Text := joinWith ['\n'] ps

/-- The lines of a source text. A missing final line feed is supplied, so that the text with and
without it has the same lines; the empty text has one empty line. -/
def splitLines (t : Text) : List Text :=
  let s := unifyLineEnds t
  if s.getLast? = some '\n' then (pieces s).dropLast else pieces s

@[simp] theorem pieces_nil : pieces [] = [[]] := rfl

@[simp] theorem pieces_newline (r : Text) : pieces ('\n' :: r) = [] :: pieces r := by
  simp [pieces, cut]

theorem pieces_cons_of_ne {c : Char} (h : c ≠ '\n') (r : Text) :
    pieces (c :: r) = consFirst c (pieces r) := by
  simp [pieces, cut, h]

theorem unlines_pieces (t : Text) : unlines (pieces t) = t := joinWith_cut '\n' t

end MermaidTidy.Text
