import Mathlib.Tactic
import MermaidTidy.Proofs.Layout.Parts
import MermaidTidy.Proofs.Markdown.Frame

/-!
# Characters of formatted text

Formatting brings in blanks, line feeds and the letters of one keyword; all other characters of a
formatted text stand in the source.

* `broughtIn` are these characters;
* `not_mem_format` says so of sources and `Markdown.not_mem_format` of documents.
-/

namespace MermaidTidy

open Text

/-- The characters that formatting may bring in. -/
def broughtIn : Text := ' ' :: '\t' :: '\n' :: DiagramKind.flowchart.keyword

variable {settings : Settings} {c : Char} {t out : Text}

theorem isBlank_eq_false_of_not_mem (hc : c ∉ broughtIn) : isBlank c = false := by
  simp only [broughtIn, List.mem_cons, not_or] at hc
  simp [isBlank, hc.1, hc.2.1]

theorem ne_newline_of_not_mem (hc : c ∉ broughtIn) : c ≠ '\n' := by
  rintro rfl
  exact hc (by decide)

theorem not_mem_serialize (hc : c ≠ '\n') {lines : List Text} (h : ∀ l ∈ lines, c ∉ l) :
    c ∉ serialize lines := by
  rw [serialize_eq_flatMap, List.mem_flatMap]
  rintro ⟨l, hl, hmem⟩
  rcases List.mem_append.1 hmem with hmem | hmem
  · exact h l ((List.rdropWhile_prefix _ lines).subset hl) hmem
  · exact hc (List.mem_singleton.1 hmem)

/-- The text of a source has no other characters than the source. -/
theorem not_mem_format (hc : c ∉ broughtIn) (ht : c ∉ t) (h : format settings t = .ok out) :
    c ∉ out := by
  have hlines : ∀ l ∈ splitLines t, c ∉ l := fun l hl hmem =>
    ht (mem_of_mem_pieces_unifyLineEnds (mem_pieces_of_mem_splitLines hl) hmem)
  rcases format_eq_ok_iff.1 h with ⟨-, rfl⟩ | ⟨-, d, hd, rfl⟩
  · exact not_mem_serialize (ne_newline_of_not_mem hc) hlines
  · by_cases hnil : t = []
    · subst hnil
      cases hd
      exact List.not_mem_nil
    · have hread := (Source.parse_eq_ok_iff hnil).1 hd
      have hrender : ∀ s ∈ d.statements, c ∉ s.render := by
        intro s hs
        obtain ⟨l, hl, rfl | ⟨q, hq⟩⟩ := hread.exists_of_mem hs
        · exact hlines l hl
        · have hn : '\n' ∉ stripBlanks l := fun hmem =>
            newline_not_mem_of_mem_splitLines hl (mem_of_mem_trim hmem)
          intro hmem
          rcases mem_of_mem_render hn hq hmem with hmem | rfl | hmem
          · exact hlines l hl (mem_of_mem_trim hmem)
          · exact hc (by decide)
          · exact hc (by simp [broughtIn, hmem])
      refine not_mem_serialize (ne_newline_of_not_mem hc) fun l hl hmem => ?_
      rcases exists_of_mem_layoutFrom hl with rfl | ⟨s, hs, depth, rfl⟩
      · cases hmem
      · rcases List.mem_append.1 hmem with hmem | hmem
        · have hblank := Settings.isBlank_of_mem_indent hmem
          rw [isBlank_eq_false_of_not_mem hc] at hblank
          cases hblank
        · exact hrender s hs hmem

namespace Markdown

theorem Section.not_mem_source (hc : c ≠ '\n') {s : Section} (h : ∀ l ∈ s.inside, c ∉ l) :
    c ∉ s.source := by
  refine CodeBlock.not_mem_source hc (not_mem_unlines hc fun l hl hmem => ?_)
  obtain ⟨l', hl', rfl⟩ := List.mem_map.1 hl
  exact h l' hl' (mem_of_mem_chop hmem)

theorem Reformats.not_mem (hc : c ∉ broughtIn) {s s' : Section} (h : Reformats settings s s')
    (hs : ∀ l ∈ s.lines, c ∉ l) : ∀ l ∈ s'.lines, c ∉ l := by
  cases h with
  | kept _ => exact hs
  | @formatted t ls _ hformat hls _ _ =>
    have hinside : ∀ l ∈ s.inside, c ∉ l := fun l hl => hs l (by simp [Section.lines, hl])
    have ht : c ∉ t :=
      MermaidTidy.not_mem_format hc (Section.not_mem_source (ne_newline_of_not_mem hc) hinside) hformat
    have hnew : ∀ l ∈ ls.map (indentLine s.opening.indent), c ∉ l := by
      intro l hl
      obtain ⟨l', hl', rfl⟩ := List.mem_map.1 hl
      have hl' : c ∉ l' := by
        intro hmem
        rw [hls.1] at ht
        exact ht (List.mem_flatMap.2 ⟨l', hl', List.mem_append_left _ hmem⟩)
      unfold indentLine
      split_ifs
      · exact List.not_mem_nil
      · rw [List.mem_append, not_or]
        refine ⟨fun hmem => ?_, hl'⟩
        have hblank := s.isProper_opening.indent c hmem
        rw [isBlank_eq_false_of_not_mem hc] at hblank
        cases hblank
    rw [Section.lines_withInside]
    simp only [Section.lines, List.forall_mem_append, List.forall_mem_cons] at hs ⊢
    exact ⟨hs.1, hs.2.1, hnew, hs.2.2.2⟩

/-- The text of a document has no other characters than the document. -/
theorem not_mem_format (hc : c ∉ broughtIn) (ht : c ∉ t) (h : format settings t = .ok out) :
    c ∉ out := by
  obtain ⟨d, hd⟩ := exists_document fun l hl => newline_not_mem_of_mem_pieces (t := unifyLineEnds t) hl
  obtain ⟨ss, hss, rfl⟩ := (format_eq_ok_iff_reformats hd).1 h
  have hlines : ∀ l ∈ d.lines, c ∉ l := by
    rw [hd]
    exact fun l hl hmem => ht (mem_of_mem_pieces_unifyLineEnds hl hmem)
  rw [Document.lines, List.forall_mem_append] at hlines
  refine not_mem_unlines (ne_newline_of_not_mem hc) (List.forall_mem_append.2 ⟨?_, hlines.2⟩)
  exact forall_mem_of_reformats (Reformats.not_mem hc) hss hlines.1

end Markdown

end MermaidTidy
