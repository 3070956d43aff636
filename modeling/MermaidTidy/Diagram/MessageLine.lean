import MermaidTidy.Diagram.Statement

/-!
# Lines that look like messages

A message line is `source arrow target : text`. The arrow may be any run of up to three hyphens with
an optional `<<` in front and a head behind; whether it is an arrow of the vocabulary is decided
later. A sign after the arrow is taken for an activation if the line can still be read that way.

Of all readings of a line the first one counts in this order: the source as short as possible, the
longer head, the sign taken, blanks left to the target only if need be, the target as short as
possible.
-/

namespace MermaidTidy

/-- A line that looks like a message, cut into its parts. White space around the parts is still
there. -/
structure MessageLine where
  source : Text
  arrow : Text
  activation : Option Activation
  target : Text
  text : Text
deriving DecidableEq, Repr

namespace MessageLine

/-- The text of a message: all that is left, which holds no line break but a final one. -/
def text? (t : Text) : Option Text :=
  match t.dropWhile (· ≠ '\n') with
  | [] | ['\n'] => some (t.takeWhile (· ≠ '\n'))
  | _ => none

/-- The text behind the colon that ends a target. -/
def afterTarget? (t : Text) : Option Text :=
  match t.dropWhile isSpace with
  | ':' :: r => text? (r.dropWhile isSpace)
  | _ => none

/-- The shortest target that starts a text, with at least one character, and the message text. -/
def target? : Text → Option (Text × Text)
  | [] => none
  | c :: r =>
    if c = '\n' then none
    else
      match afterTarget? r with
      | some text => some ([c], text)
      | none => (target? r).map fun (target, text) => (c :: target, text)

/-- The target and the text behind an arrow. White space in front of the target is skipped, unless
the target would be empty without it. -/
def afterArrow? : Text → Option (Text × Text)
  | [] => none
  | c :: r =>
    if isSpace c then (afterArrow? r).or (target? (c :: r)) else target? (c :: r)

/-- What stands in front of the hyphens of an arrow. -/
def arrowTail (t : Text) : Text × Text :=
  match t with
  | '<' :: '<' :: r => (['<', '<'], r)
  | _ => ([], t)

/-- The heads that may follow the hyphens of an arrow, longest first, each with what comes after. -/
def arrowHeads (t : Text) : List (Text × Text) :=
  match t with
  | '>' :: '>' :: r => [(['>', '>'], r), (['>'], '>' :: r)]
  | '>' :: r => [(['>'], r)]
  | 'x' :: r => [(['x'], r)]
  | ')' :: r => [([')'], r)]
  | _ => []

/-- The ways to read a sign behind an arrow: as an activation first, then as part of the target. -/
def signs (t : Text) : List (Option Activation × Text) :=
  match t with
  | [] => [(none, t)]
  | c :: r =>
    match Activation.ofSign? c with
    | some a => [(some a, r), (none, t)]
    | none => [(none, t)]

/-- The arrows at the start of a text, each with its activation and what comes after. -/
def arrows (t : Text) : List (Text × Option Activation × Text) :=
  let (tail, r) := arrowTail t
  let shaft := r.takeWhile (· == '-')
  if 1 ≤ shaft.length && shaft.length ≤ 3 then
    (arrowHeads (r.dropWhile (· == '-'))).flatMap fun (head, r) =>
      (signs r).map fun (activation, r) => (tail ++ shaft ++ head, activation, r)
  else []

/-- The reading of a text that starts with an arrow, without its source. -/
def fromArrow? (t : Text) : Option MessageLine :=
  (arrows t).findSome? fun (arrow, activation, r) =>
    (afterArrow? r).map fun (target, text) => { source := [], arrow, activation, target, text }

/-- The reading of a line as a message. -/
def read? : Text → Option MessageLine
  | [] => none
  | c :: r =>
    if c = '\n' then none
    else
      match fromArrow? (r.dropWhile isSpace) with
      | some m => some { m with source := [c] }
      | none => (read? r).map fun m => { m with source := c :: m.source }

end MessageLine

end MermaidTidy
