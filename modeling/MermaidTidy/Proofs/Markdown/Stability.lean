import Mathlib.Tactic
import MermaidTidy.Proofs.Format.Stability
import MermaidTidy.Proofs.Markdown.Faults

/-!
# Formatting of documents is stable

Formatting a formatted document is formatting the document, whatever the indentation of the two
runs.

* `interchangeable_unlines`: a source and its formatted text are interchangeable, also without the
  last line end of this;
* `Section.source_eq_unlines`: removing the indentation of a fence undoes adding it;
* `Reformats.again`: a section and its formatted section are formatted to the same section;
* `format_format_eq`: and so are documents.
-/

namespace MermaidTidy

open Text Source

/-! ### The last line end -/

section interchangeable

variable {settings : Settings} {t t' u : Text}

/-- Only the lines of a text matter, and whether it is empty. -/
theorem Interchangeable.congr (h : Interchangeable settings t t') (hlines : splitLines u = splitLines t')
    (hnil : u = [] ↔ t' = []) : Interchangeable settings t u := by
  have hread (messages : Bool) : Source.read messages u = Source.read messages t' := by
    unfold Source.read
    rw [hlines]
  have hpassed : isPassedThrough settings u = isPassedThrough settings t' := by
    unfold isPassedThrough detect
    rw [hread]
  have hparse (messages : Bool) : parse messages u = parse messages t' := by
    unfold parse
    simp only [hread, hnil]
  cases h with
  | passedThrough h h' hser => exact .passedThrough h (hpassed.trans h') (by rw [hlines, hser])
  | laidOut h h' hd hd' hformat hroom =>
    exact .laidOut h (hpassed.trans h') hd ((hparse _).trans hd') hformat hroom

/-- The lines of the formatted text of a plainly spaced source are plain, and the last one is not
white. -/
theorem exists_hasLines_isPlainLine (ht : IsPlainlySpaced t) (h : format settings t = .ok u) :
    ∃ ls, HasLines u ls ∧ (∀ l ∈ ls, IsPlainLine l) ∧ ∀ l ∈ ls.getLast?, strip l ≠ [] := by
  rcases format_eq_ok_iff.1 h with ⟨-, rfl⟩ | ⟨-, d, hd, rfl⟩
  · obtain ⟨ls, hls, hsub, hlast⟩ := exists_hasLines_serialize fun l hl =>
      newline_not_mem_of_mem_splitLines (t := t) hl
    exact ⟨ls, hls, fun l hl => ht.isPlainLine (hsub hl), hlast⟩
  · have hlegible := legibleSource_of_parse ht hd
    have hplain : ∀ l ∈ placedFrom settings {} (canonical d.statements), IsPlainLine l := by
      intro l hl
      obtain ⟨s, hs, depth, rfl⟩ := exists_of_mem_placedFrom hl
      exact (hlegible.isPlainLine_render s hs).append_left fun c hc => Settings.isBlank_of_mem_indent hc
    obtain ⟨ls, hls, hsub, hlast⟩ := exists_hasLines_serialize fun l hl => (hplain l hl).newline_not_mem
    rw [← format_eq_serialize (noEmptyContent_of_canonical hlegible.noEmptyContent)] at hls
    exact ⟨ls, hls, fun l hl => hplain l (hsub hl), hlast⟩

/-- The last line end of a formatted text does not matter. -/
theorem interchangeable_unlines {first second : Settings} {ls : List Text} (ht : IsPlainlySpaced t)
    (hfirst : first.normalizeMessages = false) (hsecond : second.normalizeMessages = false)
    (hpreserve : first.preserveIndentSensitive = second.preserveIndentSensitive)
    (h : format first t = .ok u) (hls : HasLines u ls) : Interchangeable second t (unlines ls) := by
  have hsame := interchangeable_format ht hfirst hsecond hpreserve h
  obtain ⟨ls', hls', hplain, hlast⟩ := exists_hasLines_isPlainLine ht h
  obtain rfl : ls = ls' := hls.unique hls'
  by_cases hnil : ls = []
  · subst hnil
    obtain rfl : u = [] := hls.1
    exact hsame
  · have hn : ∀ l ∈ ls, '\n' ∉ l := fun l hl => (hplain l hl).newline_not_mem
    have hr : ∀ l ∈ ls, '\r' ∉ l := fun l hl => (hplain l hl).not_mem_carriageReturn
    have hu : u = unlines ls ++ ['\n'] := hls.1.trans (flatMap_newline hnil)
    have hlast' : ∀ l ∈ ls.getLast?, l ≠ [] := fun l hl hnil => hlast l hl (by rw [hnil]; rfl)
    have hlines := splitLines_unlines_of_getLast? hnil hn hr hlast'
    refine hsame.congr ?_ ?_
    · rw [hlines, hu, splitLines_unlines hnil hn hr]
    · refine iff_of_false (fun hempty => ?_) (by simp [hu])
      -- the only line of the empty text is empty
      rw [hempty] at hlines
      exact hlast' [] (by rw [← hlines]; rfl) rfl

end interchangeable

namespace Markdown

/-! ### The source of a formatted section -/

theorem dedentLine_indentLine (indent l : Text) : dedentLine indent (indentLine indent l) = l := by
  unfold indentLine
  split_ifs with h
  · rw [h]
    exact dedentLine_nil indent
  · exact dedentLine_append indent l

theorem isPlainLine_dedentLine {indent l : Text} (h : IsPlainLine l) :
    IsPlainLine (dedentLine indent l) := by
  rcases dedentLine_cases indent l with hl | ⟨-, hl⟩
  · rw [hl] at h
    exact h.of_append
  · rwa [hl]

theorem isPlainLine_indentLine {indent l : Text} (hindent : ∀ c ∈ indent, isBlank c = true)
    (h : IsPlainLine l) : IsPlainLine (indentLine indent l) := by
  unfold indentLine
  split_ifs
  · exact .nil
  · exact h.append_left hindent

namespace Section

variable {s : Section}

theorem source_eq (s : Section) :
    s.source = unlines ((pieces s.content).map (dedentLine s.opening.indent)) := by
  rw [← unlines_pieces s.source, source, pieces_source]
  rfl

theorem isPlainlySpaced_source (h : ∀ l ∈ s.inside, IsPlainLine l) : IsPlainlySpaced s.source := by
  rw [source_eq]
  refine isPlainlySpaced_unlines fun l hl => ?_
  obtain ⟨l', hl', rfl⟩ := List.mem_map.1 hl
  refine isPlainLine_dedentLine ?_
  rw [pieces_content] at hl'
  split_ifs at hl'
  · rw [List.mem_singleton.1 hl']
    exact .nil
  · obtain ⟨l'', hl'', rfl⟩ := List.mem_map.1 hl'
    rw [chop_eq_self (h l'' hl'').not_mem_carriageReturn]
    exact h l'' hl''

/-- Removing the indentation of the fence undoes adding it. -/
theorem source_eq_unlines {ls : List Text} (hinside : s.inside = ls.map (indentLine s.opening.indent))
    (h : ∀ l ∈ s.inside, IsPlainLine l) : s.source = unlines ls := by
  have hchop : s.inside.map chop = s.inside := by
    conv_rhs => rw [← List.map_id s.inside]
    exact List.map_congr_left fun l hl => chop_eq_self (h l hl).not_mem_carriageReturn
  rw [source_eq, pieces_content, hchop, hinside]
  split_ifs with hnil
  · have hls : ls = [] := by simpa using hnil
    rw [hls, List.map_singleton, dedentLine_nil]
    rfl
  · rw [List.map_map]
    congr 1
    conv_rhs => rw [← List.map_id ls]
    exact List.map_congr_left fun l _ => dedentLine_indentLine s.opening.indent l

theorem isPlainLine_inside (h : ∀ l ∈ s.lines, IsPlainLine l) : ∀ l ∈ s.inside, IsPlainLine l :=
  fun l hl => h l (by simp [lines, hl])

end Section

/-! ### Sections and documents -/

theorem Reformats.isPlainLine {settings : Settings} {s s' : Section} (h : Reformats settings s s')
    (hs : ∀ l ∈ s.lines, IsPlainLine l) : ∀ l ∈ s'.lines, IsPlainLine l := by
  cases h with
  | kept _ => exact hs
  | @formatted _ ls _ hformat hls _ _ =>
    obtain ⟨ls', hls', hplain, -⟩ := exists_hasLines_isPlainLine
      (Section.isPlainlySpaced_source (Section.isPlainLine_inside hs)) hformat
    obtain rfl : ls = ls' := hls.unique hls'
    have hinside : ∀ l ∈ ls.map (indentLine s.opening.indent), IsPlainLine l := by
      intro l hl
      obtain ⟨l', hl', rfl⟩ := List.mem_map.1 hl
      exact isPlainLine_indentLine s.isProper_opening.indent (hplain l' hl')
    rw [Section.lines_withInside]
    simp only [Section.lines, List.forall_mem_append, List.forall_mem_cons] at hs ⊢
    exact ⟨hs.1, hs.2.1, hinside, hs.2.2.2⟩

section twice

variable {first second : Settings} (hfirst : first.normalizeMessages = false)
  (hsecond : second.normalizeMessages = false)
  (hpreserve : first.preserveIndentSensitive = second.preserveIndentSensitive)

include hfirst hsecond hpreserve

/-- A section and its formatted section are formatted to the same section, and need the same room. -/
theorem Reformats.again {s s₁ : Section} (h : Reformats first s s₁) (hs : ∀ l ∈ s.lines, IsPlainLine l) :
    ∃ s₂, Reformats second s s₂ ∧ Reformats second s₁ s₂ ∧ s₁.opening = s.opening ∧
      ∀ memory n n₁, s.opening.language = some language →
        (s₁.block n₁).fault? memory second = (s.block n).fault? memory second := by
  have hplain := h.isPlainLine hs
  cases h with
  | kept hl => exact ⟨s, .kept hl, .kept hl, rfl, fun _ _ _ h => absurd h hl⟩
  | @formatted _ ls hl hformat hls hclose hn =>
    have hsource := Section.source_eq_unlines (s := s.withInside _ hclose hn) rfl
      (Section.isPlainLine_inside hplain)
    have hsame : Interchangeable second s.source (s.withInside _ hclose hn).source := by
      rw [hsource]
      exact interchangeable_unlines (Section.isPlainlySpaced_source (Section.isPlainLine_inside hs))
        hfirst hsecond hpreserve hformat hls
    obtain ⟨final, hfinal, hfinal₁⟩ := hsame.format_eq
    obtain ⟨s₂, hs₂, -⟩ := exists_reformats hl hfinal
    refine ⟨s₂, hs₂, ?_, rfl, fun memory n n₁ _ => ?_⟩
    · cases hs₂ with
      | kept h => exact absurd hl h
      | formatted _ hfinal' hls₂ hclose₂ hn₂ =>
        rw [hfinal] at hfinal'
        cases hfinal'
        exact .formatted (s := s.withInside _ hclose hn) hl hfinal₁ hls₂ hclose₂ hn₂
    · -- both lack the same room, which is reported without a line
      unfold CodeBlock.fault?
      rw [Section.source_block, Section.source_block, hsame.formatInRoom_eq]
      cases hroom : MermaidTidy.formatInRoom memory second s.source with
      | ok out => rfl
      | error f =>
        cases f with
        | room fault => rfl
        | source f =>
          rw [formatInRoom_eq_source_iff, hfinal] at hroom
          cases hroom

theorem exists_reformats_again {ss ss₁ : List Section} (h : List.Forall₂ (Reformats first) ss ss₁)
    (hs : ∀ l ∈ ss.flatMap Section.lines, IsPlainLine l) :
    ∃ ss₂, List.Forall₂ (Reformats second) ss ss₂ ∧ List.Forall₂ (Reformats second) ss₁ ss₂ ∧
      ∀ memory n n₁, (mermaidFrom n₁ ss₁).findSome? (CodeBlock.fault? memory second) =
        (mermaidFrom n ss).findSome? (CodeBlock.fault? memory second) := by
  induction h with
  | nil => exact ⟨[], .nil, .nil, fun _ _ _ => rfl⟩
  | @cons s s₁ ss ss₁ h _ ih =>
    rw [List.flatMap_cons, List.forall_mem_append] at hs
    obtain ⟨s₂, hs₂, hs₂', hopening, hfault⟩ := h.again hfirst hsecond hpreserve hs.1
    obtain ⟨ss₂, hss₂, hss₂', hfaults⟩ := ih hs.2
    refine ⟨s₂ :: ss₂, .cons hs₂ hss₂, .cons hs₂' hss₂', fun memory n n₁ => ?_⟩
    by_cases hl : s.opening.language = some language
    · rw [mermaidFrom_cons_of_eq hl, mermaidFrom_cons_of_eq (hopening ▸ hl), List.findSome?_cons,
        List.findSome?_cons, hfault memory n n₁ hl,
        hfaults memory (n + s.lines.length) (n₁ + s₁.lines.length)]
    · rw [mermaidFrom_cons_of_ne hl, mermaidFrom_cons_of_ne (hopening ▸ hl)]
      exact hfaults _ _ _

end twice

/-- **Formatting a formatted document is formatting the document**: the indentation of the first run
does not matter. The second run needs the same room, too. -/
theorem format_format_eq {first second : Settings} {t out : Text} (ht : IsPlainlySpaced t)
    (hfirst : first.normalizeMessages = false) (hsecond : second.normalizeMessages = false)
    (hpreserve : first.preserveIndentSensitive = second.preserveIndentSensitive)
    (h : format first t = .ok out) :
    (∃ final, format second t = .ok final ∧ format second out = .ok final) ∧
      ∀ memory, formatInRoom memory second out = formatInRoom memory second t := by
  obtain ⟨d, hd⟩ := exists_document fun l hl => newline_not_mem_of_mem_pieces (t := unifyLineEnds t) hl
  obtain ⟨ss₁, hs₁, rfl⟩ := (format_eq_ok_iff_reformats hd).1 h
  have hplain : ∀ l ∈ d.lines, IsPlainLine l := by
    rw [hd]
    exact fun l hl => ht.isPlainLine_of_mem_pieces hl
  rw [Document.lines, List.forall_mem_append] at hplain
  obtain ⟨ss₂, hs₂, hs₂', hfaults⟩ := exists_reformats_again hfirst hsecond hpreserve hs₁ hplain.1
  have hplain₁ : ∀ l ∈ Document.lines ⟨ss₁, d.rest⟩, IsPlainLine l :=
    List.forall_mem_append.2 ⟨forall_mem_of_reformats Reformats.isPlainLine hs₁ hplain.1, hplain.2⟩
  have hunify : unifyLineEnds (unlines (Document.lines ⟨ss₁, d.rest⟩)) =
      unlines (Document.lines ⟨ss₁, d.rest⟩) :=
    unifyLineEnds_eq_self (not_mem_unlines (by decide) fun l hl => (hplain₁ l hl).not_mem_carriageReturn)
  have hd₁ : Document.lines ⟨ss₁, d.rest⟩ =
      pieces (unifyLineEnds (unlines (Document.lines ⟨ss₁, d.rest⟩))) := by
    rw [hunify, pieces_of_reformats hd hs₁]
  have hformat := (format_eq_ok_iff_reformats hd).2 ⟨ss₂, hs₂, rfl⟩
  have hformat₁ := (format_eq_ok_iff_reformats hd₁).2 ⟨ss₂, hs₂', rfl⟩
  refine ⟨⟨_, hformat, hformat₁⟩, fun memory => ?_⟩
  have herror (e : FormatFault) : formatInRoom memory second (unlines (Document.lines ⟨ss₁, d.rest⟩)) =
      .error e ↔ formatInRoom memory second t = .error e := by
    rw [formatInRoom_eq_error_iff, formatInRoom_eq_error_iff, mermaidBlocks_eq hd, mermaidBlocks_eq hd₁,
      hfaults memory 1 1]
  -- without a fault both have the text that they have without bounds
  cases ht : formatInRoom memory second t with
  | error e => exact (herror e).2 ht
  | ok u =>
    cases hout : formatInRoom memory second (unlines (Document.lines ⟨ss₁, d.rest⟩)) with
    | error e =>
      rw [(herror e).1 hout] at ht
      cases ht
    | ok u' =>
      have hu := hformat.symm.trans (format_of_formatInRoom ht).1
      have hu' := hformat₁.symm.trans (format_of_formatInRoom hout).1
      rw [← Except.ok.inj hu, ← Except.ok.inj hu']

theorem format_format_eq_white_frontmatter :
    let t := ("1.\r\n  ```mermaid\n  ---\n     \n  ---\n graph TD\n\tsubgraph x\nA--> [ B ]\n  ```\n" ++
      "~~~mermaid\n~~~\n\t~~~mermaid\nmindmap\n\t  \ta\n\n\t~~~").toList
    ∃ out final, format { indentUnit := .tabs } t = .ok out ∧
      format { indentWidth := 2 } t = .ok final ∧ format { indentWidth := 2 } out = .ok final := by
  intro t
  have h : format { indentUnit := .tabs } t =
      .ok ("1.\n  ```mermaid\n  ---\n     \n  ---\n  graph TD\n  subgraph x\n  \tA--> [B]\n  ```\n" ++
        "~~~mermaid\n~~~\n\t~~~mermaid\n\tmindmap\n\t  \ta\n\t~~~").toList := by
    decide +kernel
  have ht : IsPlainlySpaced t := by decide +kernel
  have hfirst : ({ indentUnit := .tabs } : Settings).normalizeMessages = false := rfl
  have hsecond : ({ indentWidth := 2 } : Settings).normalizeMessages = false := rfl
  obtain ⟨final, hfinal⟩ := (format_format_eq ht hfirst hsecond rfl h).1
  exact ⟨_, final, h, hfinal⟩

end Markdown

end MermaidTidy
