import MermaidTidy.Text.CellWidth
import MermaidTidy.Text.Lines

/-!
# Console lines

Reports are printed on a console that understands a few control characters and square-bracket tags.

* `Console.line` prints a text: some control characters are dropped and tabs are expanded;
* `Console.quote` is what is seen of a text that is quoted in a line with tags. A tag in it is shown
  as it is; a backslash before any other bracket is lost, and a lone backslash at the end is
  doubled.
-/

namespace MermaidTidy.Command.Console

/-- Control characters that are not printed: bell, backspace, vertical tab, form feed, return. -/
def isDropped (c : Char) : Bool := c.toNat ∈ [7, 8, 11, 12, 13]

/-- The distance between tab stops. -/
def tabWidth : Nat := 8

/-- The parts of a line between its tabs, put together again from the given column on. A tab becomes
a space and as many more as it takes to reach a tab stop. -/
def alignParts : Nat → List Text → Text
  | _, [] => []
  | _, [last] => last
  | column, part :: rest =>
    let filled := part ++ [' ']
    let reached := column + Text.cells filled
    let gap := (tabWidth - reached % tabWidth) % tabWidth
    filled ++ List.replicate gap ' ' ++ alignParts (reached + gap) rest

/-- A line with its tabs expanded. -/
def expandTabs (t : Text) : Text := alignParts 0 (Text.cut '\t' t)

/-- A text as it is printed, with the line feed at its end. -/
def line (t : Text) : Text :=
  Text.unlines ((Text.pieces (t.filter (!isDropped ·))).map expandTabs) ++ ['\n']

/-- Whether a character may stand first in a tag. -/
def opensTag (c : Char) : Bool := ('a' ≤ c && c ≤ 'z') || c == '#' || c == '/' || c == '@'

/-- The tag at the start of a text, and what follows it. -/
def tag? : Text → Option (Text × Text)
  | '[' :: c :: r =>
    if opensTag c then
      let inside := r.takeWhile fun d => d != '[' && d != ']'
      match r.dropWhile fun d => d != '[' && d != ']' with
      | ']' :: rest => some ('[' :: c :: (inside ++ [']']), rest)
      | _ => none
    else none
  | _ => none

/-- What is seen of a text after the backslashes `slashes`. -/
def visible (slashes : Text) : Text → Text
  | [] => slashes
  | '\\' :: r => visible ('\\' :: slashes) r
  | c :: r =>
    if c = '[' && (tag? (c :: r)).isNone then slashes.drop 1 ++ c :: visible [] r
    else slashes ++ c :: visible [] r

/-- A text with a lone backslash at its end doubled. -/
def closeSlash (t : Text) : Text :=
  match t.reverse with
  | ['\\'] => t ++ ['\\']
  | '\\' :: c :: _ => if c = '\\' then t else t ++ ['\\']
  | _ => t

/-- What is seen of a text that is quoted in a line with tags. -/
def quote (t : Text) : Text := visible [] (closeSlash t)

end MermaidTidy.Command.Console
