import MermaidTidy.Json.Value
import MermaidTidy.Text.Integer

/-!
# Reading JSON

A strict reader for JSON documents that also knows the numbers `NaN`, `Infinity` and `-Infinity`.
The first fault is reported with its place in the document. An integer may have so many digits only;
one with more ends the reading, and its place is not reported.

Readers take the rest of the document and give a value with what follows it. A fault is located by
how much of the document is left at it; `Json.read` turns that into a position.
-/

namespace MermaidTidy.Json

/-- What is wrong with a document. -/
inductive FaultCause
  | value
  | name
  | colon
  | comma
  | extraData
  | unterminatedString
  | controlCharacter
  | escape
  | unicodeEscape
  | byteOrderMark
deriving DecidableEq, Repr

/-- The words for a fault. -/
def FaultCause.message : FaultCause → Text
  | .value => "Expecting value".toList
  | .name => "Expecting property name enclosed in double quotes".toList
  | .colon => "Expecting ':' delimiter".toList
  | .comma => "Expecting ',' delimiter".toList
  | .extraData => "Extra data".toList
  | .unterminatedString => "Unterminated string starting at".toList
  | .controlCharacter => "Invalid control character at".toList
  | .escape => "Invalid \\escape".toList
  | .unicodeEscape => "Invalid \\uXXXX escape".toList
  | .byteOrderMark => "Unexpected UTF-8 BOM (decode using utf-8-sig)".toList

/-- Why reading ends early. -/
inductive LocalFault
  /-- The document is malformed where `left` characters of it are left. -/
  | malformed (cause : FaultCause) (left : Nat)
  /-- An integer has too many digits. -/
  | longInteger (digits : Nat)
deriving DecidableEq, Repr

/-- A fault at a position of a document, counted from zero, with its line and column, counted from
one. -/
structure SyntaxFault where
  cause : FaultCause
  position : Nat
  line : Nat
  column : Nat
deriving DecidableEq, Repr

/-- The fault in words, with its place. -/
def SyntaxFault.message (f : SyntaxFault) : Text :=
  f.cause.message ++ ": line ".toList ++ Text.decimal f.line ++ " column ".toList ++
    Text.decimal f.column ++ " (char ".toList ++ Text.decimal f.position ++ ")".toList

/-- Why a document cannot be read. -/
inductive ReadingFault
  | malformed (fault : SyntaxFault)
  | longInteger (digits : Nat)
deriving DecidableEq, Repr

/-- What is said of an integer with too many digits. -/
def longIntegerMessage (digits : Nat) : Text :=
  "Exceeds the limit (".toList ++ Text.decimal Text.maxDigits ++
    " digits) for integer string conversion: value has ".toList ++ Text.decimal digits ++
    " digits; use sys.set_int_max_str_digits() to increase the limit".toList

/-- White space between tokens. -/
def isGap (c : Char) : Bool := c == ' ' || c == '\t' || c == '\n' || c == '\r'

/-- The rest of the document after white space. -/
def skipGaps (t : Text) : Text := t.dropWhile isGap

/-- The value of a hexadecimal digit. -/
def hexValue? (c : Char) : Option Nat :=
  if c.isDigit then some (c.toNat - '0'.toNat)
  else if 'a' ≤ c ∧ c ≤ 'f' then some (c.toNat - 'a'.toNat + 10)
  else if 'A' ≤ c ∧ c ≤ 'F' then some (c.toNat - 'A'.toNat + 10)
  else none

/-- The code unit that four hexadecimal digits denote. -/
def codeUnit? (a b c d : Char) : Option Nat := do
  return (((← hexValue? a) * 16 + (← hexValue? b)) * 16 + (← hexValue? c)) * 16 + (← hexValue? d)

/-- The character of a code unit, if it is no surrogate. -/
def ofCodeUnit? (n : Nat) : Option Char :=
  if 0xD800 ≤ n ∧ n < 0xE000 then none else some (Char.ofNat n)

/-- The character that a backslash and `c` stand for. -/
def simpleEscape? (c : Char) : Option Char :=
  match c with
  | '"' => some '"'
  | '\\' => some '\\'
  | '/' => some '/'
  | 'b' => some (Char.ofNat 0x08)
  | 'f' => some (Char.ofNat 0x0C)
  | 'n' => some '\n'
  | 'r' => some '\r'
  | 't' => some '\t'
  | _ => none

/-- The second half of a surrogate pair after the first half `high`: the character of the pair and
what follows it, or nothing when no second half follows. -/
def lowHalf? (high : Nat) (t : Text) : Except LocalFault (Option (Char × Text)) :=
  match t with
  | '\\' :: 'u' :: a :: b :: c :: d :: e :: r =>
    match codeUnit? a b c d with
    | none => .error (.malformed .unicodeEscape (r.length + 6))
    | some low =>
      if 0xDC00 ≤ low ∧ low < 0xE000 then
        .ok (some (Char.ofNat (0x10000 + (high - 0xD800) * 0x400 + (low - 0xDC00)), e :: r))
      else .ok none
  | _ => .ok none

/-- The character of an escape `\uXXXX` whose digits start `t`, if it is no unpaired surrogate, and
what follows it. -/
def unicodeEscape (t : Text) : Except LocalFault (Option Char × Text) :=
  match t with
  | a :: b :: c :: d :: e :: r =>
    match codeUnit? a b c d with
    | none => .error (.malformed .unicodeEscape (t.length + 1))
    | some n =>
      if 0xD800 ≤ n ∧ n < 0xDC00 then
        match lowHalf? n (e :: r) with
        | .error f => .error f
        | .ok (some (x, rest)) => .ok (some x, rest)
        | .ok none => .ok (ofCodeUnit? n, e :: r)
      else .ok (ofCodeUnit? n, e :: r)
  | _ => .error (.malformed .unicodeEscape (t.length + 1))

/-- The characters of a string up to its closing quote, where unpaired surrogates are no characters.
`start` is what is left of the document at the opening quote; no string is longer than `fuel`. -/
def readChars (start : Nat) : Nat → Text → Except LocalFault (List (Option Char) × Text)
  | 0, _ => .error (.malformed .unterminatedString start)
  | fuel + 1, t =>
    match t with
    | [] => .error (.malformed .unterminatedString start)
    | '"' :: r => .ok ([], r)
    | '\\' :: [] => .error (.malformed .unterminatedString start)
    | '\\' :: 'u' :: r => do
      let (c, rest) ← unicodeEscape r
      let (cs, rest) ← readChars start fuel rest
      return (c :: cs, rest)
    | '\\' :: c :: r =>
      match simpleEscape? c with
      | none => .error (.malformed .escape (r.length + 2))
      | some x => do
        let (cs, rest) ← readChars start fuel r
        return (some x :: cs, rest)
    | c :: r =>
      if c.toNat < 0x20 then .error (.malformed .controlCharacter (r.length + 1))
      else do
        let (cs, rest) ← readChars start fuel r
        return (some c :: cs, rest)

/-- The string whose opening quote was just read. -/
def readString (t : Text) : Except LocalFault (List (Option Char) × Text) :=
  readChars (t.length + 1) (t.length + 1) t

/-- The value of a string. -/
def ofChars (cs : List (Option Char)) : Json :=
  match cs.mapM id with
  | some t => .string t
  | none => .brokenString

/-- The name that a string gives to a member. Unpaired surrogates are replaced in it. -/
def nameOfChars (cs : List (Option Char)) : Text := cs.map (·.getD (Char.ofNat 0xFFFD))

/-- Digits at the start of a text, and what follows them. -/
def digits (t : Text) : List Nat × Text :=
  ((t.takeWhile Char.isDigit).filterMap asciiDigitValue?, t.dropWhile Char.isDigit)

/-- The whole part of a number: a zero, or digits that do not start with one. -/
def wholePart? (t : Text) : Option (List Nat × Text) :=
  match t with
  | '0' :: r => some ([0], r)
  | c :: _ => if c.isDigit then some (digits t) else none
  | [] => none

/-- The digits after the point, if there are any. -/
def fraction (t : Text) : List Nat × Text :=
  match t with
  | '.' :: r =>
    match digits r with
    | ([], _) => ([], t)
    | found => found
  | _ => ([], t)

/-- The exponent of a number, if there is one. -/
def exponent? (t : Text) : Option (Int × Text) :=
  match t with
  | c :: r =>
    if c == 'e' || c == 'E' then
      let (negative, r) := Text.signed r
      match digits r with
      | ([], _) => none
      | (ds, rest) => some (Text.ofSignedDigits (negative, ds), rest)
    else none
  | [] => none

/-- An integer with the given digits, of which there may be too many. -/
def integerOfDigits (negative : Bool) (ds : List Nat) : Except LocalFault Json :=
  if ds.length ≤ Text.maxDigits then .ok (.integer (Text.ofSignedDigits (negative, ds)))
  else .error (.longInteger ds.length)

/-- A number at the start of a text. -/
def number? (t : Text) : Option (Except LocalFault Json × Text) :=
  let (negative, r) :=
    match t with
    | '-' :: r => (true, r)
    | _ => (false, t)
  (wholePart? r).map fun (whole, r) =>
    let (frac, r) := fraction r
    match frac, exponent? r with
    | [], none => (integerOfDigits negative whole, r)
    | _, e =>
      let (exponent, rest) := e.getD (0, r)
      let value := Binary64.ofDecimal negative (Text.ofDigits (whole ++ frac))
        (exponent - frac.length)
      (.ok (.real value), rest)

/-- The words that denote values. -/
def constants : List (Text × Json) :=
  [("null".toList, .null), ("true".toList, .bool true), ("false".toList, .bool false),
   ("NaN".toList, .real .nan), ("Infinity".toList, .real (.infinite false)),
   ("-Infinity".toList, .real (.infinite true))]

/-- A word or a number at the start of a text. -/
def scalar? (t : Text) : Option (Except LocalFault Json × Text) :=
  (constants.findSome? fun (word, v) => (word.isPrefixOf? t).map (.ok v, ·)).or (number? t)

mutual

/-- A value. No value is nested deeper than `fuel`. -/
def readValue (fuel : Nat) (t : Text) : Except LocalFault (Json × Text) :=
  match fuel with
  | 0 => .error (.malformed .value t.length)
  | fuel + 1 =>
    match t with
    | '"' :: r => (readString r).map fun (cs, rest) => (ofChars cs, rest)
    | '\x7b' :: r =>
      match skipGaps r with
      | '\x7d' :: rest => .ok (.object [], rest)
      | r => (readMembers fuel r).map fun (ms, rest) => (.object ms, rest)
    | '[' :: r =>
      match skipGaps r with
      | ']' :: rest => .ok (.array [], rest)
      | r => (readItems fuel r).map fun (vs, rest) => (.array vs, rest)
    | _ =>
      match scalar? t with
      | some (v, rest) => v.map (·, rest)
      | none => .error (.malformed .value t.length)

/-- The items of an array and its closing bracket. -/
def readItems (fuel : Nat) (t : Text) : Except LocalFault (List Json × Text) :=
  match fuel with
  | 0 => .error (.malformed .value t.length)
  | fuel + 1 => do
    let (v, rest) ← readValue fuel t
    match skipGaps rest with
    | ']' :: rest => return ([v], rest)
    | ',' :: rest =>
      let (vs, rest) ← readItems fuel (skipGaps rest)
      return (v :: vs, rest)
    | rest => .error (.malformed .comma rest.length)

/-- The members of an object and its closing brace. -/
def readMembers (fuel : Nat) (t : Text) : Except LocalFault (List (Text × Json) × Text) :=
  match fuel with
  | 0 => .error (.malformed .name t.length)
  | fuel + 1 =>
    match t with
    | '"' :: r => do
      let (cs, rest) ← readString r
      match skipGaps rest with
      | ':' :: rest =>
        let (v, rest) ← readValue fuel (skipGaps rest)
        match skipGaps rest with
        | '\x7d' :: rest => return ([(nameOfChars cs, v)], rest)
        | ',' :: rest =>
          let (ms, rest) ← readMembers fuel (skipGaps rest)
          return ((nameOfChars cs, v) :: ms, rest)
        | rest => .error (.malformed .comma rest.length)
      | rest => .error (.malformed .colon rest.length)
    | _ => .error (.malformed .name t.length)

end

/-- A fault in the document `t` where `left` characters are left, with its line and column. -/
def locate (t : Text) (cause : FaultCause) (left : Nat) : SyntaxFault :=
  let position := t.length - left
  let before := t.take position
  { cause
    position
    line := before.count '\n' + 1
    column := (before.reverse.takeWhile (· ≠ '\n')).length + 1 }

/-- The value of a whole document, or where it is left. -/
def readDocument (t : Text) : Except LocalFault Json :=
  if t.head? = some (Char.ofNat 0xFEFF) then .error (.malformed .byteOrderMark t.length)
  else do
    let (v, rest) ← readValue (2 * t.length + 2) (skipGaps t)
    match skipGaps rest with
    | [] => return v
    | rest => .error (.malformed .extraData rest.length)

/-- The value of a document. -/
def read (t : Text) : Except ReadingFault Json :=
  match readDocument t with
  | .ok v => .ok v
  | .error (.malformed cause left) => .error (.malformed (locate t cause left))
  | .error (.longInteger digits) => .error (.longInteger digits)

end MermaidTidy.Json
