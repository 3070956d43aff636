import Mathlib.Tactic
import MermaidTidy.Markdown.Format
import MermaidTidy.Proofs.Format.Room
import MermaidTidy.Proofs.Markdown.Closing

/-!
# What formatting of a document touches

Formatting replaces the inside of the mermaid blocks of a document and nothing else, and what it
puts there closes no fence.

* `Section.closes_source`: no line of the source of a section closes its fence;
* `Reformats settings s s'` says that `s'` is the section `s` with its block formatted;
* `format_eq_ok_iff_reformats`: formatting a document is formatting its sections;
* `InsidesReplaced formatted t out` says that the lines of `t` outside its mermaid blocks stay, and that
  a scan of `out` finds the same fences;
* `format_replaces_insides`: so it is with the formatted document, also where room may be short.
-/

namespace MermaidTidy.Markdown

open Text

/-! ### The source of a block -/

theorem dedentLine_cases (indent l : Text) :
    l = indent ++ dedentLine indent l ∨ ¬indent <+: l ∧ dedentLine indent l = l := by
  unfold dedentLine
  cases h : indent.isPrefixOf? l with
  | none => exact .inr ⟨isPrefixOf?_eq_none_iff.1 h, rfl⟩
  | some rest => exact .inl (isPrefixOf?_eq_some_iff.1 h)

theorem dedentLine_append (indent l : Text) : dedentLine indent (indent ++ l) = l := by
  unfold dedentLine
  rw [isPrefixOf?_eq_some_iff.2 rfl]
  rfl

theorem dedentLine_nil (indent : Text) : dedentLine indent [] = [] := by
  rcases dedentLine_cases indent [] with h | ⟨-, h⟩
  · exact (List.append_eq_nil_iff.1 h.symm).2
  · exact h

theorem newline_not_mem_dedentLine {indent l : Text} (h : '\n' ∉ l) : '\n' ∉ dedentLine indent l := by
  rcases dedentLine_cases indent l with hl | ⟨-, hl⟩
  · rw [hl] at h
    exact fun hm => h (List.mem_append_right _ hm)
  · rwa [hl]

theorem closes_dedentLine {o : Opening} {indent : Text} (h : ∀ c ∈ indent, isBlank c = true) (l : Text) :
    closes o (dedentLine indent l) = closes o l := by
  rcases dedentLine_cases indent l with hl | ⟨-, hl⟩
  · conv_rhs => rw [hl]
    exact (closes_append h _).symm
  · rw [hl]

theorem pieces_ne_nil (t : Text) : pieces t ≠ [] := cut_ne_nil '\n' t

theorem pieces_source (b : CodeBlock) :
    pieces b.source = (pieces b.content).map (dedentLine b.indent) := by
  unfold CodeBlock.source
  split_ifs with h
  · rw [h]
    conv_lhs => rw [← List.map_id (pieces b.content)]
    exact List.map_congr_left fun l _ => (dedentLine_append [] l).symm
  · refine pieces_unlines (by simpa using pieces_ne_nil b.content) fun l hl => ?_
    obtain ⟨l', hl', rfl⟩ := List.mem_map.1 hl
    exact newline_not_mem_dedentLine (newline_not_mem_of_mem_pieces hl')

/-- The source of a block has no other characters than its inside. -/
theorem CodeBlock.not_mem_source {b : CodeBlock} {c : Char} (hc : c ≠ '\n') (h : c ∉ b.content) :
    c ∉ b.source := by
  rw [← unlines_pieces b.source, pieces_source]
  refine not_mem_unlines hc fun l hl hmem => ?_
  obtain ⟨q, hq, rfl⟩ := List.mem_map.1 hl
  obtain ⟨x, y, hcontent, -⟩ := exists_of_mem_pieces hq
  have hq : c ∉ q := fun hcq => h (by simp [hcontent, hcq])
  rcases dedentLine_cases b.indent q with hdedent | ⟨-, hdedent⟩
  · rw [hdedent] at hq
    exact hq (List.mem_append_right _ hmem)
  · exact hq (hdedent ▸ hmem)

namespace Section

/-- The source inside a section, which does not depend on the place of the section. -/
def source (s : Section) : Text := (s.block 0).source

theorem source_block (s : Section) (number : Nat) : (s.block number).source = s.source := rfl

theorem pieces_content (s : Section) :
    pieces s.content = if s.inside = [] then [[]] else s.inside.map chop := by
  unfold content
  split_ifs with h
  · rw [h]
    rfl
  · refine pieces_unlines (by simpa using h) fun l hl => ?_
    obtain ⟨l', hl', rfl⟩ := List.mem_map.1 hl
    exact fun hm => s.newline_not_mem_inside l' hl' (mem_of_mem_chop hm)

/-- No line of the source closes the fence around it. -/
theorem closes_source (s : Section) {l : Text} (hl : l ∈ splitLines s.source) :
    closes s.opening l = false := by
  obtain ⟨q, hq, hlq⟩ : ∃ q ∈ pieces s.source, l = chop q ∨ l = q := by
    obtain ⟨ls, q, hp, hu⟩ := pieces_unifyLineEnds s.source
    have hmem := mem_pieces_of_mem_splitLines hl
    rw [hu, List.mem_append, List.mem_map, List.mem_singleton] at hmem
    rw [hp]
    rcases hmem with ⟨q', hq', rfl⟩ | rfl
    · exact ⟨q', by simp [hq'], .inl rfl⟩
    · exact ⟨l, by simp, .inr rfl⟩
  have hclose : closes s.opening l = closes s.opening q := by
    rcases hlq with rfl | rfl
    · exact closes_chop s.opening q
    · rfl
  have hcontent : ∀ q' ∈ pieces s.content, closes s.opening q' = false := by
    rw [pieces_content]
    split_ifs
    · simpa using s.isProper_opening.closes_nil
    · simpa using s.closes_inside
  rw [source, pieces_source] at hq
  obtain ⟨q', hq', rfl⟩ := List.mem_map.1 hq
  calc closes s.opening l = closes s.opening (dedentLine s.opening.indent q') := hclose
    _ = closes s.opening q' := closes_dedentLine s.isProper_opening.indent q'
    _ = false := hcontent q' hq'

end Section

/-! ### Sections formatted -/

/-- A line with the indentation of its fence, which an empty line does not get. -/
def indentLine (indent l : Text) : Text := if l = [] then [] else indent ++ l

theorem indentLines_eq {t : Text} {ls : List Text} (h : HasLines t ls) (indent : Text) :
    indentLines indent t = ls.map (indentLine indent) := by
  unfold indentLines
  rw [h.pieces_eq, List.dropLast_concat]
  rfl

/-- The section `s'` is the section `s` with its block formatted. -/
inductive Reformats (settings : Settings) : Section → Section → Prop
  | kept {s : Section} (h : s.opening.language ≠ some language) : Reformats settings s s
  | formatted {s : Section} {t : Text} {ls : List Text} (h : s.opening.language = some language)
      (hformat : MermaidTidy.format settings s.source = .ok t) (hlines : HasLines t ls)
      (hclose : ∀ l ∈ ls.map (indentLine s.opening.indent), closes s.opening l = false)
      (hn : ∀ l ∈ ls.map (indentLine s.opening.indent), '\n' ∉ l) :
      Reformats settings s (s.withInside (ls.map (indentLine s.opening.indent)) hclose hn)

/-- Where the source can be formatted, the section can. -/
theorem exists_reformats {settings : Settings} {s : Section} {t : Text}
    (h : s.opening.language = some language) (hformat : MermaidTidy.format settings s.source = .ok t) :
    ∃ s', Reformats settings s s' ∧ s'.before = s.before ∧ s'.fence = s.fence ∧
      s'.inside = indentLines s.opening.indent t ∧ s'.closing = s.closing := by
  obtain ⟨ls, hls, hcloses⟩ := exists_hasLines_format hformat
  have hindent := s.isProper_opening.indent
  refine ⟨_, .formatted h hformat hls ?_ ?_, rfl, rfl, (indentLines_eq hls _).symm, rfl⟩
  · intro l hl
    obtain ⟨l', hl', rfl⟩ := List.mem_map.1 hl
    unfold indentLine
    split_ifs
    · exact s.isProper_opening.closes_nil
    · rw [closes_append hindent]
      refine Bool.eq_false_iff.2 fun hc => ?_
      obtain ⟨l'', hl'', hc'⟩ := hcloses l' hl' s.opening s.isProper_opening hc
      rw [s.closes_source hl''] at hc'
      cases hc'
  · intro l hl hmem
    obtain ⟨l', hl', rfl⟩ := List.mem_map.1 hl
    unfold indentLine at hmem
    split_ifs at hmem
    · cases hmem
    · rcases List.mem_append.1 hmem with hmem | hmem
      · exact absurd (hindent _ hmem) (by decide)
      · exact hls.2 l' hl' hmem

/-! ### Documents formatted -/

section documents

variable {settings : Settings}

theorem replaceBlocks_cons_eq_ok_iff {ε : Type} {inside : CodeBlock → Except ε (List Text)}
    {lines : List Text} {cursor : Nat} {b : CodeBlock} {bs : List CodeBlock} {out : List Text} :
    replaceBlocks inside lines cursor (b :: bs) = .ok out ↔
      ∃ new rest, inside b = .ok new ∧ replaceBlocks inside lines (b.endLine - 1) bs = .ok rest ∧
        out = (lines.drop cursor).take (b.startLine - cursor) ++ new ++ rest := by
  rw [replaceBlocks]
  cases inside b with
  | error e => simp [bind, Except.bind]
  | ok new =>
    cases replaceBlocks inside lines (b.endLine - 1) bs with
    | error e => simp [bind, Except.bind]
    | ok rest => simp [bind, Except.bind, pure, Except.pure, eq_comm]

/-- Where the insides of blocks can be replaced, there is one for each of them. -/
theorem exists_inside_of_replaceBlocks {ε : Type} {inside : CodeBlock → Except ε (List Text)}
    {lines : List Text} {cursor : Nat} {bs : List CodeBlock} {out : List Text}
    (h : replaceBlocks inside lines cursor bs = .ok out) : ∀ b ∈ bs, ∃ new, inside b = .ok new := by
  induction bs generalizing cursor out with
  | nil => simp
  | cons b bs ih =>
    obtain ⟨new, rest, hnew, hrest, -⟩ := replaceBlocks_cons_eq_ok_iff.1 h
    exact List.forall_mem_cons.2 ⟨⟨new, hnew⟩, ih hrest⟩

/-- Blocks for which two functions give the same insides are replaced in the same way. -/
theorem replaceBlocks_mono {ε ε' : Type} {inside : CodeBlock → Except ε (List Text)}
    {inside' : CodeBlock → Except ε' (List Text)} {lines : List Text} {cursor : Nat}
    {bs : List CodeBlock} {out : List Text}
    (hinside : ∀ b new, inside b = .ok new → inside' b = .ok new)
    (h : replaceBlocks inside lines cursor bs = .ok out) :
    replaceBlocks inside' lines cursor bs = .ok out := by
  induction bs generalizing cursor out with
  | nil =>
    cases h
    rfl
  | cons b bs ih =>
    obtain ⟨new, rest, hnew, hrest, rfl⟩ := replaceBlocks_cons_eq_ok_iff.1 h
    exact replaceBlocks_cons_eq_ok_iff.2 ⟨new, rest, hinside b new hnew, ih hrest, rfl⟩

theorem CodeBlock.formatted_eq_ok_iff {b : CodeBlock} {new : List Text} :
    b.formatted settings = .ok new ↔
      ∃ t, MermaidTidy.format settings b.source = .ok t ∧ new = indentLines b.indent t := by
  unfold formatted
  cases MermaidTidy.format settings b.source <;> simp [eq_comm]

theorem CodeBlock.formattedInRoom_eq_ok_iff {memory : Nat} {b : CodeBlock} {new : List Text} :
    b.formattedInRoom memory settings = .ok new ↔
      ∃ t, MermaidTidy.formatInRoom memory settings b.source = .ok t ∧ new = indentLines b.indent t := by
  unfold formattedInRoom
  cases MermaidTidy.formatInRoom memory settings b.source <;> simp [eq_comm]

/-- A document with new insides is made up of the lines that replace its own. A document without
mermaid blocks is no exception. -/
theorem replaceInsides_eq_map {ε : Type} (inside : CodeBlock → Except ε (List Text)) (t : Text) :
    replaceInsides inside t = (replaceBlocks inside (pieces (unifyLineEnds t)) 0
      (mermaidBlocks (unifyLineEnds t))).map unlines := by
  unfold replaceInsides
  dsimp only
  generalize mermaidBlocks (unifyLineEnds t) = blocks
  cases blocks with
  | nil => simp [replaceBlocks, Except.map, unlines_pieces]
  | cons b bs => rfl

theorem replaceInsides_eq_ok_iff {ε : Type} {inside : CodeBlock → Except ε (List Text)} {t out : Text} :
    replaceInsides inside t = .ok out ↔
      ∃ lines, replaceBlocks inside (pieces (unifyLineEnds t)) 0 (mermaidBlocks (unifyLineEnds t)) =
        .ok lines ∧ out = unlines lines := by
  rw [replaceInsides_eq_map]
  cases replaceBlocks inside (pieces (unifyLineEnds t)) 0 (mermaidBlocks (unifyLineEnds t)) <;>
    simp [Except.map, eq_comm]

/-- Room does not change what a document is formatted to, and there is room for each block. -/
theorem format_of_formatInRoom {memory : Nat} {t out : Text}
    (h : formatInRoom memory settings t = .ok out) :
    format settings t = .ok out ∧ ∀ b ∈ mermaidBlocks (unifyLineEnds t),
      ∃ u, MermaidTidy.formatInRoom memory settings b.source = .ok u := by
  obtain ⟨lines, hlines, rfl⟩ := replaceInsides_eq_ok_iff.1 h
  refine ⟨replaceInsides_eq_ok_iff.2 ⟨lines, replaceBlocks_mono (fun b new hnew => ?_) hlines, rfl⟩,
    fun b hb => ?_⟩
  · obtain ⟨u, hu, hnew⟩ := CodeBlock.formattedInRoom_eq_ok_iff.1 hnew
    exact CodeBlock.formatted_eq_ok_iff.2 ⟨u, MermaidTidy.format_of_formatInRoom hu, hnew⟩
  · obtain ⟨new, hnew⟩ := exists_inside_of_replaceBlocks hlines b hb
    obtain ⟨u, hu, -⟩ := CodeBlock.formattedInRoom_eq_ok_iff.1 hnew
    exact ⟨u, hu⟩

/-- The mermaid blocks of sections whose first line has the given number. -/
def mermaidFrom (number : Nat) (ss : List Section) : List CodeBlock :=
  (blocksFrom number ss).filter (·.language = some language)

theorem mermaidFrom_cons_of_eq {s : Section} (h : s.opening.language = some language) (number : Nat)
    (ss : List Section) :
    mermaidFrom number (s :: ss) = s.block number :: mermaidFrom (number + s.lines.length) ss :=
  List.filter_cons_of_pos (p := fun b : CodeBlock => decide (b.language = some language))
    (decide_eq_true h)

theorem mermaidFrom_cons_of_ne {s : Section} (h : s.opening.language ≠ some language) (number : Nat)
    (ss : List Section) : mermaidFrom number (s :: ss) = mermaidFrom (number + s.lines.length) ss :=
  List.filter_cons_of_neg (p := fun b : CodeBlock => decide (b.language = some language))
    fun hl => h (of_decide_eq_true hl)

theorem mermaidBlocks_eq {d : Document} {t : Text} (h : d.lines = pieces t) :
    mermaidBlocks t = mermaidFrom 1 d.sections := by
  rw [mermaidBlocks, scan_of_lines h]
  rfl

/-- Sections are formatted one after the other. In front of the cursor stand the lines that are
`done`, and behind it lines that are still to be copied. -/
theorem replaceBlocks_sections (done pending : List Text) (sections : List Section)
    (rest : List Text) {out : List Text} :
    replaceBlocks (CodeBlock.formatted settings)
        (done ++ (pending ++ (sections.flatMap Section.lines ++ rest))) done.length
        (mermaidFrom (done.length + pending.length + 1) sections) = .ok out ↔
      ∃ sections', List.Forall₂ (Reformats settings) sections sections' ∧
        out = pending ++ (sections'.flatMap Section.lines ++ rest) := by
  induction sections generalizing done pending out with
  | nil => simp [mermaidFrom, blocksFrom, replaceBlocks, eq_comm]
  | cons s sections ih =>
    by_cases hl : s.opening.language = some language
    · -- the next cursor is at the closing fence of the block
      obtain ⟨done', hdone⟩ :
          ∃ done', done' = done ++ ((pending ++ (s.before ++ [s.fence])) ++ s.inside) := ⟨_, rfl⟩
      have hlines : done ++ (pending ++ ((s :: sections).flatMap Section.lines ++ rest)) =
          done' ++ ([s.closing] ++ (sections.flatMap Section.lines ++ rest)) := by
        simp [Section.lines, hdone]
      have hlen : done'.length =
          (s.block (done.length + pending.length + 1)).startLine + s.inside.length := by
        rw [hdone, List.length_append, List.length_append, s.startLine_block, Nat.add_assoc]
      have hcursor : (s.block (done.length + pending.length + 1)).endLine - 1 = done'.length := by
        rw [hlen]
        rfl
      have hnumber : done.length + pending.length + 1 + s.lines.length =
          done'.length + [s.closing].length + 1 := by
        rw [s.number_behind, hlen]
      have htake : ((done' ++ ([s.closing] ++ (sections.flatMap Section.lines ++ rest))).drop
            done.length).take ((s.block (done.length + pending.length + 1)).startLine - done.length) =
          pending ++ (s.before ++ [s.fence]) := by
        rw [hdone, List.append_assoc, List.drop_left, List.append_assoc, s.startLine_block,
          Nat.add_sub_cancel_left, List.take_left]
      rw [mermaidFrom_cons_of_eq hl, replaceBlocks_cons_eq_ok_iff, hlines, htake, hcursor, hnumber]
      constructor
      · rintro ⟨new, rest', hnew, hrest, rfl⟩
        obtain ⟨t, hformat, rfl⟩ := CodeBlock.formatted_eq_ok_iff.1 hnew
        obtain ⟨sections', hs, rfl⟩ := (ih done' [s.closing]).1 hrest
        obtain ⟨s', hs', hbefore, hfence, hinside, hclosing⟩ := exists_reformats hl hformat
        refine ⟨s' :: sections', .cons hs' hs, ?_⟩
        simp [Section.lines, Section.block, hbefore, hfence, hinside, hclosing]
      · rintro ⟨_, hall, rfl⟩
        cases hall with
        | cons hs' hs =>
          cases hs' with
          | kept h => exact absurd hl h
          | formatted _ hformat hls _ _ =>
            refine ⟨_, _, CodeBlock.formatted_eq_ok_iff.2 ⟨_, hformat, rfl⟩,
              (ih done' [s.closing]).2 ⟨_, hs, rfl⟩, ?_⟩
            simp [Section.lines_withInside, Section.block, indentLines_eq hls]
    · have hlines : done ++ (pending ++ ((s :: sections).flatMap Section.lines ++ rest)) =
          done ++ ((pending ++ s.lines) ++ (sections.flatMap Section.lines ++ rest)) := by
        simp
      have hnumber : done.length + pending.length + 1 + s.lines.length =
          done.length + (pending ++ s.lines).length + 1 := by
        rw [List.length_append]
        omega
      rw [mermaidFrom_cons_of_ne hl, hlines, hnumber, ih]
      constructor
      · rintro ⟨sections', hs, rfl⟩
        exact ⟨s :: sections', .cons (.kept hl) hs, by simp⟩
      · rintro ⟨_, hall, rfl⟩
        cases hall with
        | cons hs' hs =>
          cases hs' with
          | kept _ => exact ⟨_, hs, by simp⟩
          | formatted h _ _ _ _ => exact absurd h hl

/-- Formatting a document is formatting its sections. -/
theorem format_eq_ok_iff_reformats {d : Document} {t out : Text}
    (hd : d.lines = pieces (unifyLineEnds t)) :
    format settings t = .ok out ↔
      ∃ sections', List.Forall₂ (Reformats settings) d.sections sections' ∧
        out = unlines (Document.lines ⟨sections', d.rest⟩) := by
  have hreplace (lines : List Text) : replaceBlocks (CodeBlock.formatted settings)
        (pieces (unifyLineEnds t)) 0 (mermaidBlocks (unifyLineEnds t)) = .ok lines ↔
      ∃ sections', List.Forall₂ (Reformats settings) d.sections sections' ∧
        lines = Document.lines ⟨sections', d.rest⟩ := by
    rw [mermaidBlocks_eq hd, ← hd]
    exact replaceBlocks_sections [] [] d.sections d.rest.lines
  rw [format, replaceInsides_eq_ok_iff]
  constructor
  · rintro ⟨lines, hlines, rfl⟩
    obtain ⟨sections', hs, rfl⟩ := (hreplace lines).1 hlines
    exact ⟨sections', hs, rfl⟩
  · rintro ⟨sections', hs, rfl⟩
    exact ⟨_, (hreplace _).2 ⟨sections', hs, rfl⟩, rfl⟩

theorem Reformats.newline_not_mem {s s' : Section} (h : Reformats settings s s')
    (hn : ∀ l ∈ s.lines, '\n' ∉ l) : ∀ l ∈ s'.lines, '\n' ∉ l := by
  cases h with
  | kept _ => exact hn
  | formatted _ _ _ _ hn' =>
    rw [Section.lines_withInside]
    simp only [Section.lines, List.forall_mem_append, List.forall_mem_cons] at hn ⊢
    exact ⟨hn.1, hn.2.1, hn', hn.2.2.2⟩

/-- What formatting a section keeps of its lines is kept of all lines. -/
theorem forall_mem_of_reformats {P : Text → Prop}
    (hstep : ∀ {s s'}, Reformats settings s s' → (∀ l ∈ s.lines, P l) → ∀ l ∈ s'.lines, P l)
    {ss ss' : List Section} (h : List.Forall₂ (Reformats settings) ss ss')
    (hP : ∀ l ∈ ss.flatMap Section.lines, P l) : ∀ l ∈ ss'.flatMap Section.lines, P l := by
  induction h with
  | nil => simp
  | cons hs _ ih =>
    rw [List.flatMap_cons, List.forall_mem_append] at hP ⊢
    exact ⟨hstep hs hP.1, ih hP.2⟩

/-- The lines of a formatted document are found again in its text. -/
theorem pieces_of_reformats {d : Document} {t : Text} (hd : d.lines = pieces t)
    {ss' : List Section} (h : List.Forall₂ (Reformats settings) d.sections ss') :
    pieces (unlines (Document.lines ⟨ss', d.rest⟩)) = Document.lines ⟨ss', d.rest⟩ := by
  obtain ⟨ss, rest⟩ := d
  have hn : ∀ l ∈ Document.lines ⟨ss, rest⟩, '\n' ∉ l := by
    rw [hd]
    exact fun l hl => newline_not_mem_of_mem_pieces hl
  have hne : Document.lines ⟨ss, rest⟩ ≠ [] := hd ▸ pieces_ne_nil t
  simp only [Document.lines, List.forall_mem_append] at hn hne ⊢
  refine pieces_unlines ?_ (List.forall_mem_append.2
    ⟨forall_mem_of_reformats Reformats.newline_not_mem h hn.1, hn.2⟩)
  cases h with
  | nil => exact hne
  | cons _ _ => simp [Section.lines]

end documents

/-! ### Insides replaced -/

/-- The lines `lines'` are the lines `lines`, in front of which `n` lines stand, with the inside of
the given blocks formatted: the lines between the fences of a block are those of its source as
`formatted` gives it, indented like the fence. -/
inductive BlocksReplaced {ε : Type} (formatted : Text → Except ε Text) :
    Nat → List CodeBlock → List Text → List Text → Prop
  | nil {n : Nat} {lines : List Text} : BlocksReplaced formatted n [] lines lines
  | cons {n : Nat} {b : CodeBlock} {bs : List CodeBlock} {before inside rest rest' : List Text}
      {t : Text} {ls : List Text} (hstart : b.startLine = n + before.length)
      (hend : b.endLine = b.startLine + inside.length + 1)
      (hformat : formatted b.source = .ok t) (hlines : HasLines t ls)
      (h : BlocksReplaced formatted (b.startLine + inside.length) bs rest rest') :
      BlocksReplaced formatted n (b :: bs) (before ++ (inside ++ rest))
        (before ++ (ls.map (indentLine b.indent) ++ rest'))

/-- What is said of the formatted sources of the blocks may be said with another function that gives
the same. -/
theorem BlocksReplaced.mono {ε ε' : Type} {formatted : Text → Except ε Text}
    {formatted' : Text → Except ε' Text} {n : Nat} {bs : List CodeBlock} {lines lines' : List Text}
    (h : BlocksReplaced formatted n bs lines lines')
    (hformatted : ∀ b ∈ bs, ∀ t, formatted b.source = .ok t → formatted' b.source = .ok t) :
    BlocksReplaced formatted' n bs lines lines' := by
  induction h with
  | nil => exact .nil
  | cons hstart hend hformat hlines _ ih =>
    rw [List.forall_mem_cons] at hformatted
    exact .cons hstart hend (hformatted.1 _ hformat) hlines (ih hformatted.2)

/-- Two blocks between the same fences, with the same content unless it is formatted. -/
structure SameFences (b b' : CodeBlock) : Prop where
  language : b'.language = b.language
  indent : b'.indent = b.indent
  content : b.language ≠ some Markdown.language → b'.content = b.content

/-- The document `out` is the document `t` with unified line ends and with the sources of its mermaid
blocks as `formatted` gives them. All other lines stay, and both have the same fences. -/
structure InsidesReplaced {ε : Type} (formatted : Text → Except ε Text) (t out : Text) : Prop where
  blocks : BlocksReplaced formatted 0 (mermaidBlocks (unifyLineEnds t)) (pieces (unifyLineEnds t))
    (pieces out)
  fences : List.Forall₂ SameFences (scan (unifyLineEnds t)).blocks (scan out).blocks
  /-- What a fence hides that is never closed stays hidden. -/
  unclosed : Option.Rel
    (fun n n' => (pieces out).drop (n' - 1) = (pieces (unifyLineEnds t)).drop (n - 1))
    (scan (unifyLineEnds t)).unclosed (scan out).unclosed

section replaced

variable {settings : Settings}

theorem blocksReplaced_sections {ss ss' : List Section} (h : List.Forall₂ (Reformats settings) ss ss')
    (n : Nat) (pending rest : List Text) :
    BlocksReplaced (MermaidTidy.format settings) n (mermaidFrom (n + pending.length + 1) ss)
      (pending ++ (ss.flatMap Section.lines ++ rest))
      (pending ++ (ss'.flatMap Section.lines ++ rest)) := by
  induction h generalizing n pending with
  | nil => exact .nil
  | @cons s s' ss ss' hs _ ih =>
    cases hs with
    | kept hl =>
      have hlines (ss : List Section) : pending ++ ((s :: ss).flatMap Section.lines ++ rest) =
          (pending ++ s.lines) ++ (ss.flatMap Section.lines ++ rest) := by simp
      have hnumber : n + pending.length + 1 + s.lines.length = n + (pending ++ s.lines).length + 1 := by
        rw [List.length_append]
        omega
      rw [mermaidFrom_cons_of_ne hl, hlines, hlines, hnumber]
      exact ih n (pending ++ s.lines)
    | formatted hl hformat hls _ _ =>
      -- the fence is the last line before the inside, and the closing fence the first one behind it
      have hlines (inside : List Text) (ss : List Section) :
          pending ++ (s.before ++ s.fence :: (inside ++ [s.closing]) ++ ss.flatMap Section.lines ++
              rest) =
            (pending ++ (s.before ++ [s.fence])) ++
              (inside ++ ([s.closing] ++ (ss.flatMap Section.lines ++ rest))) := by simp
      rw [mermaidFrom_cons_of_eq hl, s.number_behind, List.flatMap_cons, List.flatMap_cons,
        Section.lines_withInside, Section.lines, hlines, hlines]
      exact .cons (s.startLine_block n pending) rfl hformat hls (ih _ [s.closing])

theorem forall₂_sameFences {ss ss' : List Section} (h : List.Forall₂ (Reformats settings) ss ss')
    (n n' : Nat) : List.Forall₂ SameFences (blocksFrom n ss) (blocksFrom n' ss') := by
  induction h generalizing n n' with
  | nil => exact .nil
  | cons hs _ ih =>
    refine .cons ?_ (ih _ _)
    cases hs with
    | kept _ => exact ⟨rfl, rfl, fun _ => rfl⟩
    | formatted hl _ _ _ _ => exact ⟨rfl, rfl, fun h => absurd hl h⟩

/-- A fence that is never closed hides the same lines, whatever lines stand before the rest. -/
theorem rel_unclosedLine (r : Rest) (ls ls' : List Text) :
    Option.Rel (fun n n' => (ls' ++ r.lines).drop (n' - 1) = (ls ++ r.lines).drop (n - 1))
      (r.unclosedLine (1 + ls.length)) (r.unclosedLine (1 + ls'.length)) := by
  cases r with
  | plain _ _ => exact .none
  | unclosed before fence _ inside _ _ _ =>
    have hdrop (ls : List Text) : (ls ++ (before ++ fence :: inside)).drop
        (1 + ls.length + before.length - 1) = fence :: inside := by
      rw [← List.append_assoc, show 1 + ls.length + before.length - 1 = (ls ++ before).length by
        rw [List.length_append]; omega, List.drop_left]
    exact .some ((hdrop ls').trans (hdrop ls).symm)

theorem insidesReplaced_of_format {t out : Text} (h : format settings t = .ok out) :
    InsidesReplaced (MermaidTidy.format settings) t out := by
  obtain ⟨d, hd⟩ := exists_document fun l hl => newline_not_mem_of_mem_pieces (t := unifyLineEnds t) hl
  obtain ⟨ss', hs, rfl⟩ := (format_eq_ok_iff_reformats hd).1 h
  have hpieces := pieces_of_reformats hd hs
  constructor
  · rw [mermaidBlocks_eq hd, hpieces, ← hd]
    exact blocksReplaced_sections hs 0 [] d.rest.lines
  · rw [scan_of_lines hd, scan_of_lines hpieces.symm]
    exact forall₂_sameFences hs 1 1
  · rw [scan_of_lines hd, scan_of_lines hpieces.symm, hpieces, ← hd]
    exact rel_unclosedLine d.rest _ _

/-- **Formatting a document touches the inside of its mermaid blocks only.** All other lines stay,
and the formatted document has the same fences: its blocks have the same languages and indentations,
and the same content unless they are formatted, and what an unclosed fence hides stays hidden. The
same holds where there are bounds, if there is room for the blocks. -/
theorem format_replaces_insides (settings : Settings) (t out : Text) :
    (format settings t = .ok out → InsidesReplaced (MermaidTidy.format settings) t out) ∧
    ∀ memory, formatInRoom memory settings t = .ok out →
      InsidesReplaced (MermaidTidy.formatInRoom memory settings) t out := by
  refine ⟨insidesReplaced_of_format, fun memory h => ?_⟩
  obtain ⟨hformat, hroom⟩ := format_of_formatInRoom h
  have hreplaced := insidesReplaced_of_format hformat
  refine { hreplaced with blocks := hreplaced.blocks.mono fun b hb u hu => ?_ }
  -- there is room for the block, and with room it is formatted to the same text
  obtain ⟨u', hu'⟩ := hroom b hb
  rw [MermaidTidy.format_of_formatInRoom hu'] at hu
  cases hu
  exact hu'

/-- An indented block grows by a blank line, a block in another language keeps its spacing, and a fence
inside the last one hides the end of the text. The memory holds one indentation and no more. -/
theorem format_replaces_insides_unclosed :
    let t := ("a\r\n  ~~~mermaid\r\n  graph TD\r\nA-->[ B ]\r\n  subgraph x\n  ~~ ~\n  ~~~~\n" ++
      "```py\n[ 1 ]\n```\n```\n~~~mermaid\n").toList
    ∃ out, format {} t = .ok out ∧ formatInRoom 4 {} t = .ok out ∧
      InsidesReplaced (MermaidTidy.format {}) t out ∧
      InsidesReplaced (MermaidTidy.formatInRoom 4 {}) t out := by
  intro t
  have h : formatInRoom 4 {} t =
      .ok ("a\n  ~~~mermaid\n  graph TD\n      A-->[B]\n\n  subgraph x\n      ~~ ~\n" ++
        "  ~~~~\n```py\n[ 1 ]\n```\n```\n~~~mermaid\n").toList := by
    decide +kernel
  have hformat := (format_of_formatInRoom h).1
  obtain ⟨hplain, hroom⟩ := format_replaces_insides {} t _
  exact ⟨_, hformat, h, hplain hformat, hroom 4 h⟩

end replaced

end MermaidTidy.Markdown
