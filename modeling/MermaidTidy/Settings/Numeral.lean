import MermaidTidy.Text.Integer

/-!
# Integers given as texts

A setting that is an integer may be given as a text, such as `" +1_000.0 "`. White space around the
number, a plus sign, leading zeros, and a point with nothing but zeros behind it do not count. A
single underscore may divide digits, and any number of them leading zeros.

* `Numeral.clean?` takes away all that does not count;
* `Numeral.read` is the integer that is left.
-/

namespace MermaidTidy.Settings.Numeral

/-- Why a text stands for no integer. -/
inductive Fault
  | malformed
  | tooLong
deriving DecidableEq, Repr

/-- A numeral without a tail of a point and at least one zero. -/
def withoutZeroTail (t : Text) : Text :=
  match t.reverse.dropWhile (· == '0') with
  | '.' :: r => if t.getLast? = some '0' then r.reverse else t
  | _ => t

/-- What is left of a numeral behind a leading zero or an underscore `last`: further ones are
dropped up to a digit or a minus sign. When nothing else follows, the last of them stays. -/
def afterZero (last : Char) : Text → Option Text
  | [] => some [last]
  | c :: r =>
    if c == '0' || c == '_' then afterZero c r
    else if c.isDigit || c == '-' then some (c :: r)
    else none

/-- A numeral without leading zeros. It must start with a digit or a minus sign. -/
def withoutLeadingZeros : Text → Option Text
  | [] => none
  | c :: r =>
    if c == '0' then afterZero c r
    else if c.isDigit || c == '-' then some (c :: r)
    else none

/-- Whether two underscores stand side by side. -/
def hasDoubleUnderscore : Text → Bool
  | '_' :: '_' :: _ => true
  | _ :: r => hasDoubleUnderscore r
  | [] => false

/-- A numeral without underscores, if all of them are single and inside. -/
def withoutUnderscores (t : Text) : Text :=
  if t.head? = some '_' || t.getLast? = some '_' || hasDoubleUnderscore t then t
  else t.filter (· != '_')

/-- What counts of a text that stands for an integer. -/
def clean? (t : Text) : Option Text :=
  let body := match withoutZeroTail (Text.trim Text.isMargin t) with
    | '+' :: '-' :: _ => none
    | '+' :: r => withoutLeadingZeros r
    | '-' :: r => (withoutLeadingZeros r).map ('-' :: ·)
    | r => withoutLeadingZeros r
  body.map withoutUnderscores

/-- The integer of a clean numeral: a zero, or digits that do not start with one. The digits may not
be too many, whatever follows them; the sign does not count. -/
def readClean (t : Text) : Except Fault Int :=
  let (negative, r) := match t with
    | '-' :: r => (true, r)
    | _ => (false, t)
  let digits := r.takeWhile Char.isDigit
  match digits with
  | [] => .error .malformed
  | '0' :: _ => if r = ['0'] then .ok 0 else .error .malformed
  | _ =>
    if Text.maxDigits < digits.length then .error .tooLong
    else if r = digits then
      .ok (Text.ofSignedDigits (negative, digits.filterMap asciiDigitValue?))
    else .error .malformed

/-- The integer that a text stands for. -/
def read (t : Text) : Except Fault Int :=
  match clean? t with
  | some numeral => readClean numeral
  | none => .error .malformed

end MermaidTidy.Settings.Numeral
