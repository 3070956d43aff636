import MermaidTidy.Diagram.Build
import MermaidTidy.Line.Classify
import MermaidTidy.Text.Lines

/-!
# Reading a source

A source is read line by line, one statement for each line, until the first fault. It may start with
frontmatter, a block between two `---` lines before which only white space may come.

* `frontmatterSpan` finds the frontmatter;
* `Progress` is what reading remembers of the lines so far: the mode of the next line and the
  declared kind;
* `readLines` and `read` give the statements up to the first fault, and the fault;
* `parse` gives the diagram of a source without faults;
* `detect` finds the declared type, reading no further than the declaration.
-/

namespace MermaidTidy.Source

/-- Whether a line is a delimiter of frontmatter. -/
def isDelimiter (line : Text) : Bool := Text.strip line = "---".toList

/-- Whether a line holds white space only. -/
def isWhite (line : Text) : Bool := Text.strip line = []

/-- The indices of the first and the last line of the frontmatter, if there is any. -/
def frontmatterSpan (lines : List Text) : Option (Nat × Nat) :=
  match lines.findIdx? (!isWhite ·) with
  | none => none
  | some start =>
    match lines.drop start with
    | opening :: rest =>
      if isDelimiter opening then
        (rest.findIdx? isDelimiter).map fun i => (start, start + 1 + i)
      else none
    | [] => none

/-- What reading remembers of the lines so far. -/
structure Progress where
  mode : LineMode := .leading
  dialect : Option DiagramKind := none
deriving DecidableEq, Repr

/-- Statements that may come before the declaration. -/
def isPreamble : Statement → Bool
  | .blank | .comment _ | .directive _ | .frontmatter _ => true
  | _ => false

/-- The progress after a statement. The first declaration fixes the mode of all later lines. -/
def Progress.next (p : Progress) (s : Statement) : Progress :=
  match p.mode with
  | .leading | .pending =>
    match s.declared? with
    | some t =>
      { mode := if t.kind = .sequenceDiagram then .sequence else .body, dialect := some t.kind }
    | none => if isPreamble s then p else { p with mode := .pending }
  | .body | .sequence => p

/-- The statements of a source up to its first fault. -/
structure Reading where
  statements : List Statement
  fault : Option Fault
deriving DecidableEq, Repr

/-- A reading with one more statement in front. -/
def Reading.cons (s : Statement) (r : Reading) : Reading :=
  { r with statements := s :: r.statements }

/-- Whether the line with the given index belongs to the frontmatter. -/
def inSpan (span : Option (Nat × Nat)) (index : Nat) : Bool :=
  match span with
  | some (first, last) => first ≤ index && index ≤ last
  | none => false

/-- The statement of a single line outside the frontmatter. -/
def readLine (messages : Bool) (p : Progress) (index : Nat) (raw : Text) :
    Except Fault Statement :=
  match Line.classify raw p.mode (index + 1) with
  | .error d => .error (.diagnostic d)
  | .ok l => Statement.ofLine messages p.dialect l

/-- The statements of the lines from `index` on. -/
def readLines (messages : Bool) (span : Option (Nat × Nat)) :
    Progress → Nat → List Text → Reading
  | _, _, [] => ⟨[], none⟩
  | p, index, raw :: rest =>
    if inSpan span index then
      (readLines messages span p (index + 1) rest).cons (.frontmatter raw)
    else
      match readLine messages p index raw with
      | .error f => ⟨[], some f⟩
      | .ok s => (readLines messages span (p.next s) (index + 1) rest).cons s

/-- The statements of a source text up to its first fault. -/
def read (messages : Bool) (t : Text) : Reading :=
  let lines := Text.splitLines t
  readLines messages (frontmatterSpan lines) {} 0 lines

/-- The diagram of a source text. The empty text has no statements. -/
def parse (messages : Bool) (t : Text) : Except Fault Diagram :=
  if t = [] then .ok {}
  else
    match read messages t with
    | ⟨statements, none⟩ => .ok ⟨statements⟩
    | ⟨_, some f⟩ => .error f

/-- The declared type of a source text. A fault behind the declaration does not matter. -/
def detect (t : Text) : Except Fault (Option DiagramType) :=
  let r := read false t
  match r.statements.findSome? Statement.declared?, r.fault with
  | some type, _ => .ok (some type)
  | none, some f => .error f
  | none, none => .ok none

end MermaidTidy.Source
