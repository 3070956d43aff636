import MermaidTidy.Text.Basic

/-!
# Diagnostics

What is wrong with a source text, and where.

* `Diagnostic.Kind` tells a line that has no shape from a token outside its vocabulary;
* `Diagnostic` adds the message, the place, the offending line and a hint;
* `Diagnostic.render` is the full report, `Diagnostic.shift` moves it to a later line.
-/

namespace MermaidTidy

/-- What kind of fault a diagnostic reports. -/
inductive Diagnostic.Kind
  /-- Any fault of a source text. -/
  | parse
  /-- A line that no production accepts. -/
  | grammar
  /-- A line of known shape with a token outside its vocabulary. -/
  | decode (token : Text)
deriving DecidableEq, Repr

/-- A fault of a source text. Lines and columns count from one; column 0 means that no column is
known. -/
structure Diagnostic where
  kind : Diagnostic.Kind
  message : Text
  line : Int := 0
  column : Int := 0
  context : Option Text := none
  suggestion : Option Text := none
deriving DecidableEq, Repr

namespace Diagnostic

/-- The words that open a report. -/
def Kind.title : Kind → Text
  | .parse => "Parse error".toList
  | .grammar => "Grammar error".toList
  | .decode _ => "Decode error".toList

/-- The token that a decode fault is about. -/
def Kind.token? : Kind → Option Text
  | .decode token => some token
  | _ => none

/-- An optional part of a report; an empty one counts as absent. -/
def present? (part : Option Text) : Option Text := part.filter (· ≠ [])

/-- A further line of a report. -/
def detail (label : Text) (part : Option Text) : List Text :=
  match present? part with
  | some t => ["  ".toList ++ label ++ ": ".toList ++ t]
  | none => []

/-- The report: kind, place and message, then the offending line and the hint if there are any. -/
def render (d : Diagnostic) : Text :=
  Text.joinWith ['\n'] <|
    (d.kind.title ++ " at line ".toList ++ Text.decimal d.line ++ ", column ".toList ++
      Text.decimal d.column ++ ": ".toList ++ d.message) ::
    (detail "Context".toList d.context ++ detail "Suggestion".toList d.suggestion)

/-- The same fault `offset` lines further down. -/
def shift (offset : Int) (d : Diagnostic) : Diagnostic := { d with line := d.line + offset }

theorem shift_shift (m n : Int) (d : Diagnostic) : (d.shift m).shift n = d.shift (m + n) := by
  simp [shift, Int.add_assoc]

@[simp] theorem shift_zero (d : Diagnostic) : d.shift 0 = d := by simp [shift]

end Diagnostic

end MermaidTidy
