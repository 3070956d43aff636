import MermaidTidy.Text.Basic
import MermaidTidy.Text.Printable

/-!
# Quoted text

Messages show a text in quotes. Single quotes are used unless the text holds a single quote and no
double quote. Inside, the quote in use and the backslash are escaped, and whatever is not printable
is written by its code point.
-/

namespace MermaidTidy.Text

/-- The lower-case hexadecimal digits of `n`, filled up with zeros to `width` digits. -/
def hex (width n : Nat) : Text :=
  let digits := Nat.toDigits 16 n
  List.replicate (width - digits.length) '0' ++ digits

/-- One character inside the quotes `q`. -/
def escaped (q c : Char) : Text :=
  if c = q ∨ c = '\\' then ['\\', c]
  else if c = '\n' then ['\\', 'n']
  else if c = '\r' then ['\\', 'r']
  else if c = '\t' then ['\\', 't']
  else if isPrintable c then [c]
  else if c.toNat < 0x100 then '\\' :: 'x' :: hex 2 c.toNat
  else if c.toNat < 0x10000 then '\\' :: 'u' :: hex 4 c.toNat
  else '\\' :: 'U' :: hex 8 c.toNat

/-- The quote in which a text is shown. -/
def quoteFor (t : Text) : Char := if '\'' ∈ t ∧ '"' ∉ t then '"' else '\''

/-- The text in quotes. -/
def quoted (t : Text) : Text :=
  let q := quoteFor t
  q :: (t.flatMap (escaped q) ++ [q])

/-- A single character in single quotes: as it is when it is printable, escaped otherwise. -/
def quotedChar (c : Char) : Text := if isPrintable c then ['\'', c, '\''] else quoted [c]

end MermaidTidy.Text
