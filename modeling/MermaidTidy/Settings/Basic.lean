import MermaidTidy.Vocabulary

/-!
# Settings

What the formatter can be told: how to indent, whether to decode messages, and whether diagrams that
live by their indentation are left alone.
-/

namespace MermaidTidy

/-- What one level of indentation is made of. -/
inductive IndentUnit
  | spaces
  | tabs
deriving DecidableEq, Repr

/-- The name of a unit. -/
def IndentUnit.name : IndentUnit → Text
  | .spaces => "spaces".toList
  | .tabs => "tabs".toList

instance : Vocabulary IndentUnit where
  title := "indent unit".toList
  members := [.spaces, .tabs]
  spelling := IndentUnit.name

/-- The settings of the formatter. The width counts for indentation by spaces only. -/
structure Settings where
  indentUnit : IndentUnit := .spaces
  indentWidth : Nat := 4
  normalizeMessages : Bool := false
  preserveIndentSensitive : Bool := true
  indentWidth_pos : 0 < indentWidth := by decide
deriving DecidableEq, Repr

namespace Settings

/-- Whether indentation is by tabs. -/
def useTabs (s : Settings) : Bool := s.indentUnit = .tabs

/-- The indentation of a line at the given depth. -/
def indent (s : Settings) (depth : Nat) : Text :=
  match s.indentUnit with
  | .tabs => List.replicate depth '\t'
  | .spaces => List.replicate (depth * s.indentWidth) ' '

@[simp] theorem indent_zero (s : Settings) : s.indent 0 = [] := by
  unfold indent
  cases s.indentUnit <;> simp

/-- Indentation holds blanks only. -/
theorem isBlank_of_mem_indent {s : Settings} {depth : Nat} {c : Char} (h : c ∈ s.indent depth) :
    isBlank c = true := by
  unfold indent at h
  cases hu : s.indentUnit <;> rw [hu] at h <;> simp only [List.mem_replicate] at h <;>
    simp [isBlank, h.2]

end Settings

end MermaidTidy
