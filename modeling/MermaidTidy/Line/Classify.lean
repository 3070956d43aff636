import MermaidTidy.Line.Recognise

/-!
# Classification of lines

A line is classified without its surrounding blanks. Every line has a shape unless it holds a
control character other than the tab; the first such character is reported.
-/

namespace MermaidTidy.Line

/-- Control characters, the tab excepted. The line feed is one of them. -/
def isControl (c : Char) : Bool := (c.toNat < 0x20 && c != '\t') || c.toNat == 0x7F

/-- A character at which reading cannot go on, and how many characters of its line stand before
it. -/
structure Obstacle where
  offset : Nat
  char : Char
deriving DecidableEq, Repr

/-- Where reading of a line that ends with a line feed stops. A line feed inside the text ends the
line, so that the character after it is the obstacle, at the start of a line of its own. -/
def obstacle? (t : Text) : Option Obstacle :=
  match t.dropWhile (!isControl ·) with
  | [] => none
  | '\n' :: [] => some ⟨0, '\n'⟩
  | '\n' :: c :: _ => some ⟨0, c⟩
  | c :: _ => some ⟨(t.takeWhile (!isControl ·)).length, c⟩

/-- How many characters of a line a report quotes. -/
def contextLength : Nat := 120

/-- The report about an obstacle in a line with `indent` leading blanks. -/
def obstacleReport (raw : Text) (line : Int) (indent : Nat) (o : Obstacle) : Diagnostic where
  kind := .grammar
  message := "Unexpected character ".toList ++ Text.quotedChar o.char
  line := line
  column := o.offset + 1 + indent
  context := some (raw.take contextLength)
  suggestion := some "Remove control characters from the line".toList

/-- The shape of the line `raw`, which is the line number `line` of its source. -/
def classify (raw : Text) (mode : LineMode) (line : Int) : Except Diagnostic ClassifiedLine :=
  let text := Text.stripBlanks raw
  match obstacle? text with
  | some o => .error (obstacleReport raw line (raw.takeWhile isBlank).length o)
  | none =>
    let (production, captures) := recognise mode text
    .ok { production, text, line, captures }

end MermaidTidy.Line
