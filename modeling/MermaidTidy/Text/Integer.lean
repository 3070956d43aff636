import MermaidTidy.Text.Basic

/-!
# Integers in text

An integer is written with an optional sign and digits, where a single underscore may stand between
two digits; white space around it is ignored. Which characters are digits is a parameter: those from
`0` to `9`, or the decimal digits of every script, which stand in ten consecutive code points that
start with its zero.
-/

namespace MermaidTidy

/-- The code points of the zeros. -/
def Text.zeros : List Nat :=
  [0x30, 0x660, 0x6F0, 0x7C0, 0x966, 0x9E6, 0xA66, 0xAE6, 0xB66, 0xBE6, 0xC66, 0xCE6, 0xD66, 0xDE6,
   0xE50, 0xED0, 0xF20, 0x1040, 0x1090, 0x17E0, 0x1810, 0x1946, 0x19D0, 0x1A80, 0x1A90, 0x1B50,
   0x1BB0, 0x1C40, 0x1C50, 0xA620, 0xA8D0, 0xA900, 0xA9D0, 0xA9F0, 0xAA50, 0xABF0, 0xFF10, 0x104A0,
   0x10D30, 0x11066, 0x110F0, 0x11136, 0x111D0, 0x112F0, 0x11450, 0x114D0, 0x11650, 0x116C0,
   0x11730, 0x118E0, 0x11950, 0x11C50, 0x11D50, 0x11DA0, 0x16A60, 0x16AC0, 0x16B50, 0x1D7CE,
   0x1D7D8, 0x1D7E2, 0x1D7EC, 0x1D7F6, 0x1E140, 0x1E2F0, 0x1E950, 0x1FBF0]

/-- The value of a decimal digit of any script. -/
def digitValue? (c : Char) : Option Nat :=
  (Text.zeros.find? fun z => z ≤ c.toNat && c.toNat < z + 10).map (c.toNat - ·)

/-- The value of one of the digits from `0` to `9`. -/
def asciiDigitValue? (c : Char) : Option Nat :=
  if c.isDigit then some (c.toNat - '0'.toNat) else none

namespace Text

/-- White space that may surround an integer: all of it but the information separators. -/
def isMargin (c : Char) : Bool := isSpace c && !(0x1C ≤ c.toNat && c.toNat ≤ 0x1F)

/-- The most digits an integer may have. -/
def maxDigits : Nat := 4300

/-- The values of digits with single underscores between them. -/
def digitRun? (digit? : Char → Option Nat) : Text → Option (List Nat)
  | [] => none
  | [c] => (digit? c).map ([·])
  | c :: '_' :: r => do
    let d ← digit? c
    let ds ← digitRun? digit? r
    return d :: ds
  | c :: r => do
    let d ← digit? c
    let ds ← digitRun? digit? r
    return d :: ds

/-- The number that a list of decimal digits denotes, most significant digit first. -/
def ofDigits (ds : List Nat) : Nat := ds.foldl (fun n d => 10 * n + d) 0

/-- The sign of a number and what follows it. -/
def signed : Text → Bool × Text
  | '-' :: r => (true, r)
  | '+' :: r => (false, r)
  | r => (false, r)

/-- The digits of a signed integer and whether it is negative. -/
def signedDigits? (digit? : Char → Option Nat) (t : Text) : Option (Bool × List Nat) :=
  let (negative, digits) := signed t
  (digitRun? digit? digits).map (negative, ·)

/-- The integer with the given digits and sign. -/
def ofSignedDigits : Bool × List Nat → Int
  | (true, ds) => -(ofDigits ds : Int)
  | (false, ds) => ofDigits ds

/-- The integer that a text denotes, in the digits of any script. -/
def integer? (t : Text) : Option Int := do
  let (negative, ds) ← signedDigits? digitValue? (trim isMargin t)
  if ds.length ≤ maxDigits then some (ofSignedDigits (negative, ds)) else none

end Text

end MermaidTidy
