import MermaidTidy.Diagram.Statement
import MermaidTidy.Line.Shape

/-!
# Recognisers of single shapes

Each recogniser takes a line without control characters and without surrounding blanks. It gives
the parts captured from the line, or nothing when the line has another shape. The shapes that start
with a keyword exclude each other; comments exclude directives.
-/

namespace MermaidTidy.Line

/-- What follows `keyword` at the start of a line, without the blanks after it, if the keyword is
followed by a blank or by nothing. -/
def afterKeyword? (keyword t : Text) : Option Text :=
  match keyword.isPrefixOf? t with
  | some [] => some []
  | some (c :: rest) => if isBlank c then some (rest.dropWhile isBlank) else none
  | none => none

/-- The first of the given keywords that a line starts with, and what follows it. -/
def leadingKeyword? (keywords : List Text) (t : Text) : Option (Text × Text) :=
  keywords.findSome? fun k => (afterKeyword? k t).map (k, ·)

/-- A captured label; an empty one is not captured. -/
def label (t : Text) : Captures Terminal := if t = [] then [] else [(.text, t)]

/-- `%%{ … }%%`: a directive. -/
def directive? (t : Text) : Option (Captures Terminal) :=
  if ['%', '%', '\x7b'].isPrefixOf t then some [(.directive, t)] else none

/-- `%% …`: a comment. -/
def comment? (t : Text) : Option (Captures Terminal) :=
  if ['%', '%'].isPrefixOf t && (directive? t).isNone then some [(.comment, t)] else none

/-- `participant …` or `actor …`, where the rest is not empty. -/
def participant? (t : Text) : Option (Captures Terminal) :=
  match leadingKeyword? ["participant".toList, "actor".toList] t with
  | some (_, []) => none
  | some (k, rest) => some [(.participantKeyword, k), (.text, rest)]
  | none => none

/-- The keywords of blocks that an `end` line closes. -/
def blockKeywords : List Text := (Vocabulary.members : List BlockKind).map BlockKind.keyword

/-- A block keyword with an optional label. -/
def blockStart? (t : Text) : Option (Captures Terminal) :=
  (leadingKeyword? blockKeywords t).map fun (k, rest) => (.blockKeyword, k) :: label rest

/-- The keywords of brace blocks. -/
def braceKeywords : List Text :=
  (Vocabulary.members : List BraceBlockKind).map BraceBlockKind.keyword

/-- What stands before the final opening brace, without the blanks in front of the brace, if it is
not empty and starts with neither white space nor a brace. -/
def braceName? (t : Text) : Option Text :=
  match t with
  | [] => none
  | c :: _ =>
    if isSpace c || c == '\x7b' then none
    else if t.getLast? = some '\x7b' then some (Text.trimRight isBlank t.dropLast)
    else none

/-- A brace keyword, a name and a final opening brace. -/
def braceBlockStart? (t : Text) : Option (Captures Terminal) := do
  let (k, rest) ← leadingKeyword? braceKeywords t
  let name ← braceName? rest
  return [(.braceKeyword, k), (.braceName, name)]

/-- The line `end`. -/
def blockEnd? (t : Text) : Option (Captures Terminal) := if t = "end".toList then some [] else none

/-- The line that is a closing brace. -/
def braceBlockEnd? (t : Text) : Option (Captures Terminal) := if t = ['\x7d'] then some [] else none

/-- `note` in any case with optional text. -/
def note? (t : Text) : Option (Captures Terminal) :=
  let keyword := t.take 4
  if keyword.map Char.toLower = "note".toList then
    (afterKeyword? keyword t).map fun rest => (.noteKeyword, keyword) :: label rest
  else none

/-- The word that opens a branch of a block, with an optional label. -/
def branch? (word t : Text) : Option (Captures Terminal) := (afterKeyword? word t).map label

/-- What may follow the keyword of a declaration: nothing, or text after optional blanks that does
not start with white space. -/
def declRest? (rest : Text) : Option (Captures Terminal) :=
  match rest with
  | [] => some []
  | _ =>
    match rest.dropWhile isBlank with
    | [] => none
    | c :: r => if isSpace c then none else some [(.declText, c :: r)]

/-- A known diagram keyword with optional text. -/
def knownDecl? (t : Text) : Option (Captures Terminal) := do
  let (k, rest) ← DiagramKind.leading? t
  let captures ← declRest? rest
  return (.knownDiagram, k.keyword) :: captures

/-- A bare word: an ASCII letter, then word characters and hyphens. -/
def bareWord? (t : Text) : Option (Captures Terminal) :=
  match t with
  | [] => none
  | c :: r =>
    if c.isAlpha && r.all (fun d => isWordChar d || d == '-') then some [(.diagramKeyword, t)]
    else none

/-- A declaration, as far as the mode admits one. -/
def declaration? (mode : LineMode) (t : Text) : Option (Captures Terminal) :=
  match mode with
  | .leading => (knownDecl? t).or (bareWord? t)
  | .pending => knownDecl? t
  | .body | .sequence => none

/-- A branch, as far as the mode admits one. -/
def sequenceBranch? (mode : LineMode) (word t : Text) : Option (Captures Terminal) :=
  match mode with
  | .sequence => branch? word t
  | _ => none

/-- The shapes in the order of their precedence, each with its recogniser. -/
def shapes (mode : LineMode) : List (Production × (Text → Option (Captures Terminal))) :=
  [(.blankLine, fun t => if t = [] then some [] else none),
   (.directive, directive?),
   (.comment, comment?),
   (.participant, participant?),
   (.blockStart, blockStart?),
   (.braceBlockStart, braceBlockStart?),
   (.blockOption, sequenceBranch? mode "option".toList),
   (.blockElse, sequenceBranch? mode "else".toList),
   (.blockAnd, sequenceBranch? mode "and".toList),
   (.blockEnd, blockEnd?),
   (.braceBlockEnd, braceBlockEnd?),
   (.note, note?),
   (.diagramDecl, declaration? mode)]

/-- The shape of a line and the parts captured from it. A line of no other shape is generic. -/
def recognise (mode : LineMode) (t : Text) : Production × Captures Terminal :=
  ((shapes mode).findSome? fun (p, f) => (f t).map (p, ·)).getD (.genericLine, [(.text, t)])

end MermaidTidy.Line
