import Mathlib.Tactic
import MermaidTidy.Layout.Format
import MermaidTidy.Proofs.Source.Legible

/-!
# Formatted texts read again

* `parse_format_eq_ok_iff`: the text of a diagram is parsed like its laid-out statements;
* `Legible.readsAll_respaced`, `LegibleSource.readsSource_respaced`: without messages these are the
  canonical statements again, in normal spacing;
* `isPassedThrough_of_parse`, `format_eq_ok_iff`, `format_eq_error_iff`: what formatting does with a
  source.
-/

namespace MermaidTidy

open Text Line Respacing Source

/-! ### Statements in normal spacing -/

namespace Statement

theorem respaced_eq_blank_iff (s : Statement) : s.respaced = .blank ↔ s = .blank := by
  cases s <;> simp [respaced]

@[simp] theorem declared?_respaced (s : Statement) : s.respaced.declared? = s.declared? := by
  cases s <;> rfl

@[simp] theorem isPreamble_respaced (s : Statement) : isPreamble s.respaced = isPreamble s := by
  cases s <;> rfl

theorem alike_respaced (s : Statement) : Alike s s.respaced where
  blank := s.respaced_eq_blank_iff
  render := s.render_respaced
  placement := by cases s <;> rfl
  opensBlock := by cases s <;> rfl
  isContentBeforeBlock := by cases s <;> rfl
  stateAt := by cases s <;> exact fun _ => rfl
  stateAfter := by cases s <;> exact fun _ => rfl

end Statement

theorem forall₂_alike_respaced (ss : List Statement) :
    List.Forall₂ Alike ss (ss.map Statement.respaced) := by
  rw [List.forall₂_map_right_iff, List.forall₂_same]
  exact fun s _ => s.alike_respaced

theorem nonBlank_map_respaced (ss : List Statement) :
    nonBlank (ss.map Statement.respaced) = (nonBlank ss).map Statement.respaced := by
  unfold nonBlank
  rw [List.filter_map]
  congr 1
  refine List.filter_congr fun s _ => ?_
  simp [s.respaced_eq_blank_iff]

/-! ### Reading without messages -/

/-- Without messages every rendered statement is read as it was, in normal spacing. -/
theorem Source.Legible.readsAll_respaced {p : Progress} {ss : List Statement} (h : Legible false p ss) :
    ReadsAll false p (ss.map Statement.render) (ss.map Statement.respaced) := by
  induction h with
  | nil => exact .nil
  | @cons p t s ss ht hs _ ih =>
    refine (readsAll_render_cons_iff (MermaidTidy.isClean_render ht hs)).2 ⟨_, _, rfl, ?_, ?_⟩
    · exact reads_render ht hs (by simp)
    · rwa [Progress.next_congr s.declared?_respaced s.isPreamble_respaced]

theorem Source.LegibleSource.readsSource_respaced {ss : List Statement} (h : LegibleSource false ss) :
    ReadsSource false (ss.map Statement.render) (ss.map Statement.respaced) := by
  cases h with
  | plain hspan h => exact .plain hspan h.readsAll_respaced
  | @frontmatter front ss hfront _ h =>
    rw [map_render_frontmatter, readsSource_frontmatter_iff hfront]
    refine ⟨_, ?_, h.readsAll_respaced⟩
    rw [List.map_append, List.map_map]
    rfl

/-- Whatever else the rendered statements are, they declare what they declared. -/
theorem Source.Legible.exists_readsAll {messages : Bool} {p : Progress} {ss : List Statement}
    (h : Legible messages p ss) (hmode : p.dialect = some .sequenceDiagram → p.mode = .sequence) :
    ∃ ss', ReadsAll false p (ss.map Statement.render) ss' ∧
      ss'.map Statement.declared? = ss.map Statement.declared? := by
  induction h with
  | nil => exact ⟨[], .nil, rfl⟩
  | @cons p t s ss ht hs _ ih =>
    obtain ⟨s', hs', hd, hnext⟩ : ∃ s', Reads false p s.render s' ∧
        s'.declared? = s.declared? ∧ p.next s' = p.next s := by
      by_cases hseq : p.dialect = some .sequenceDiagram
      · -- a sequence diagram is declared already
        have hmode := hmode hseq
        obtain ⟨s', hs'⟩ | ⟨-, -, hoff, -⟩ := reads_cases false p s.render
        · refine ⟨s', hs', ?_, ?_⟩
          · rw [declared?_eq_none (.inr hmode) hs', declared?_eq_none (.inr hmode) hs]
          · rw [Progress.next_of_sequence hmode, Progress.next_of_sequence hmode]
        · cases hoff
      · obtain ⟨s', hs', hd, hp, -⟩ := reads_messages_off (reads_render ht hs fun _ h => absurd h hseq)
        rw [Statement.declared?_respaced] at hd
        rw [Statement.isPreamble_respaced] at hp
        exact ⟨s', hs', hd, Progress.next_congr hd hp p⟩
    obtain ⟨ss', hss', hds⟩ := ih (p.mode_next hmode s)
    refine ⟨s' :: ss', ?_, by rw [List.map_cons, List.map_cons, hd, hds]⟩
    exact (readsAll_render_cons_iff (MermaidTidy.isClean_render ht hs)).2
      ⟨s', ss', rfl, hs', hnext ▸ hss'⟩

theorem Source.LegibleSource.exists_readsSource {messages : Bool} {ss : List Statement}
    (h : LegibleSource messages ss) :
    ∃ ss', ReadsSource false (ss.map Statement.render) ss' ∧
      ss'.map Statement.declared? = ss.map Statement.declared? := by
  cases h with
  | plain hspan h =>
    obtain ⟨ss', hss', hd⟩ := h.exists_readsAll (by simp)
    exact ⟨ss', .plain hspan hss', hd⟩
  | @frontmatter front ss hfront _ h =>
    obtain ⟨ss', hss', hd⟩ := h.exists_readsAll (by simp)
    refine ⟨front.map .frontmatter ++ ss', ?_, by rw [List.map_append, List.map_append, hd]⟩
    rw [map_render_frontmatter, readsSource_frontmatter_iff hfront]
    exact ⟨ss', rfl, hss'⟩

/-! ### The text of a diagram -/

section diagram

variable {messages messages' : Bool} {settings : Settings} {t : Text} {d d' : Diagram}

theorem noEmptyContent_of_canonical {ss : List Statement} (h : NoEmptyContent (canonical ss)) :
    NoEmptyContent ss := by
  intro s hs hne
  have hmem : s ∈ nonBlank (canonical ss) := by
    rw [nonBlank_canonical]
    exact List.mem_filter.2 ⟨hs, decide_eq_true hne⟩
  exact h s (List.mem_of_mem_filter hmem) hne

/-- The canonical statements of a plainly spaced source. -/
theorem legibleSource_of_parse (ht : IsPlainlySpaced t) (h : parse messages t = .ok d) :
    LegibleSource messages (canonical d.statements) := by
  by_cases hnil : t = []
  · subst hnil
    cases h
    exact .plain rfl .nil
  · exact legibleSource_canonical ((parse_eq_ok_iff hnil).1 h) fun l hl => ht.isPlainLine hl

theorem getLast?_placedFrom {ss : List Statement} (h : LegibleSource messages ss)
    (hlast : ∀ s ∈ ss.getLast?, s ≠ .blank) :
    ∀ l ∈ (placedFrom settings {} ss).getLast?, strip l ≠ [] := by
  have hstrip := h.strip_render_ne_nil
  clear h
  intro l hl
  rcases List.eq_nil_or_concat ss with rfl | ⟨before, s, rfl⟩
  · cases hl
  · rw [List.concat_eq_append, placedFrom_append] at hl
    rw [List.concat_eq_append, List.getLast?_concat] at hlast hstrip
    simp only [placedFrom, List.getLast?_concat] at hl
    cases hl
    obtain ⟨depth, hline⟩ := LayoutState.exists_line_eq settings (before.foldl LayoutState.next {}) s
    rw [hline, strip, trim_append_left fun c hc => isSpace_of_isBlank (Settings.isBlank_of_mem_indent hc)]
    exact hstrip s rfl (hlast s rfl)

/-- The text of a diagram has the laid-out statements as its lines. -/
theorem splitLines_format (h : LegibleSource messages (canonical d.statements))
    (hne : canonical d.statements ≠ []) :
    d.format settings ≠ [] ∧
      splitLines (d.format settings) = placedFrom settings {} (canonical d.statements) := by
  have hplaced : placedFrom settings {} (canonical d.statements) ≠ [] := by
    rw [← List.length_pos_iff, length_placedFrom]
    exact List.length_pos_iff.2 hne
  rw [format_eq_serialize (noEmptyContent_of_canonical h.noEmptyContent),
    serialize_of_getLast? hplaced (getLast?_placedFrom h (getLast?_canonical _))]
  exact ⟨by simp, splitLines_unlines hplaced (fun l hl => h.not_mem_of_mem_placedFrom hl (.inl rfl))
    fun l hl => h.not_mem_of_mem_placedFrom hl (.inr rfl)⟩

theorem format_eq_nil (h : canonical d.statements = []) (hd : NoEmptyContent d.statements)
    (settings : Settings) : d.format settings = [] := by
  rw [format_eq_serialize hd, h]
  rfl

/-- The text of a diagram is parsed like its laid-out statements. -/
theorem parse_format_eq_ok_iff (h : LegibleSource messages (canonical d.statements)) :
    parse messages' (d.format settings) = .ok d' ↔
      ReadsSource messages' ((canonical d.statements).map Statement.render) d'.statements := by
  by_cases hne : canonical d.statements = []
  · rw [format_eq_nil hne (noEmptyContent_of_canonical h.noEmptyContent), hne, List.map_nil,
      readsSource_plain_iff rfl, parse, if_pos rfl]
    constructor
    · rintro ⟨⟩
      exact .nil
    · intro hnil
      cases d'
      cases hnil
      rfl
  · obtain ⟨hformat, hlines⟩ : d.format settings ≠ [] ∧ _ := splitLines_format h hne
    rw [parse_eq_ok_iff hformat, hlines, h.readsSource_placedFrom_iff]

/-- Two diagrams have the same text if their canonical statements are laid out in the same way. -/
theorem format_eq_format_iff (h : LegibleSource messages (canonical d.statements))
    (h' : LegibleSource messages' (canonical d'.statements)) :
    d'.format settings = d.format settings ↔
      placedFrom settings {} (canonical d'.statements) =
        placedFrom settings {} (canonical d.statements) := by
  have hd := noEmptyContent_of_canonical h.noEmptyContent
  have hd' := noEmptyContent_of_canonical h'.noEmptyContent
  constructor
  · intro heq
    -- the lines can be taken from the text unless it is empty
    by_cases hnil : canonical d.statements = []
    · have hnil' : canonical d'.statements = [] := by
        by_contra hne
        exact (splitLines_format h' hne).1 (heq.trans (format_eq_nil hnil hd settings))
      rw [hnil, hnil']
    · have hnil' : canonical d'.statements ≠ [] := fun hnil' =>
        (splitLines_format h hnil).1 (heq.symm.trans (format_eq_nil hnil' hd' settings))
      rw [← (splitLines_format h hnil).2, ← (splitLines_format h' hnil').2, heq]
  · intro heq
    rw [format_eq_serialize hd, format_eq_serialize hd', heq]

end diagram

/-! ### Formatting a source -/

section source

variable {messages : Bool} {settings : Settings} {t out : Text} {d : Diagram}

theorem isPassedThrough_of_parse (h : parse messages t = .ok d) (settings : Settings) :
    isPassedThrough settings t =
      .ok (settings.preserveIndentSensitive && d.type?.any DiagramType.isIndentSensitive) := by
  unfold isPassedThrough
  rw [detect_eq_of_parse h]
  cases settings.preserveIndentSensitive <;> rfl

theorem DiagramType.isIndentSensitive_iff {type : DiagramType} :
    type.isIndentSensitive = true ↔ type.kind = .mindmap ∨ type.kind = .timeline := by
  unfold DiagramType.isIndentSensitive
  cases type.kind <;> decide

theorem isPassedThrough_eq_true_iff :
    isPassedThrough settings t = .ok true ↔ settings.preserveIndentSensitive = true ∧
      ∃ type, detect t = .ok (some type) ∧ type.isIndentSensitive = true := by
  unfold isPassedThrough
  cases settings.preserveIndentSensitive with
  | false => simp
  | true =>
    cases detect t with
    | error f => simp [bind, Except.bind]
    | ok type? => cases type? <;> simp [bind, Except.bind, pure, Except.pure]

theorem isPassedThrough_eq_error_iff {f : Fault} :
    isPassedThrough settings t = .error f ↔
      settings.preserveIndentSensitive = true ∧ detect t = .error f := by
  unfold isPassedThrough
  cases settings.preserveIndentSensitive with
  | false => simp
  | true => cases detect t <;> simp [bind, Except.bind, pure, Except.pure]

/-- A source is passed through or laid out. -/
theorem format_eq_ok_iff :
    format settings t = .ok out ↔
      isPassedThrough settings t = .ok true ∧ out = serialize (splitLines t) ∨
      isPassedThrough settings t = .ok false ∧
        ∃ d, parse settings.normalizeMessages t = .ok d ∧ out = d.format settings := by
  unfold format
  cases isPassedThrough settings t with
  | error f => simp [bind, Except.bind]
  | ok b =>
    cases b with
    | true => simp [bind, Except.bind, pure, Except.pure, eq_comm]
    | false =>
      cases parse settings.normalizeMessages t with
      | error f => simp [bind, Except.bind]
      | ok d => simp [bind, Except.bind, pure, Except.pure, eq_comm]

/-- A source has no text because it has no type, or because it has no statements. -/
theorem format_eq_error_iff {f : Fault} :
    format settings t = .error f ↔
      isPassedThrough settings t = .error f ∨
      isPassedThrough settings t = .ok false ∧ parse settings.normalizeMessages t = .error f := by
  unfold format
  cases isPassedThrough settings t with
  | error f => simp [bind, Except.bind]
  | ok b =>
    cases b with
    | true => simp [bind, Except.bind, pure, Except.pure]
    | false => cases parse settings.normalizeMessages t <;> simp [bind, Except.bind, pure, Except.pure]

/-- The fault of a source that is not passed through is the fault of its formatting. -/
theorem format_of_fault {ss : List Statement} {f : Fault} (h : isPassedThrough settings t = .ok false)
    (hread : Source.read settings.normalizeMessages t = ⟨ss, some f⟩) : format settings t = .error f := by
  have ht : t ≠ [] := by
    rintro rfl
    cases hread
  refine format_eq_error_iff.2 (.inr ⟨h, ?_⟩)
  rw [parse, if_neg ht, hread]

theorem findSome?_declared?_nonBlank (ss : List Statement) :
    (nonBlank ss).findSome? Statement.declared? = ss.findSome? Statement.declared? := by
  induction ss with
  | nil => rfl
  | cons s ss ih =>
    by_cases hs : s = .blank
    · rw [hs, nonBlank_cons_blank, ih]
      rfl
    · rw [nonBlank_cons hs, List.findSome?_cons, List.findSome?_cons, ih]

/-- A diagram keeps its declared type in its text. -/
theorem isPassedThrough_format (h : LegibleSource messages (canonical d.statements))
    (settings settings' : Settings) :
    isPassedThrough settings' (d.format settings) =
      .ok (settings'.preserveIndentSensitive && d.type?.any DiagramType.isIndentSensitive) := by
  obtain ⟨ss', hss', hd⟩ := h.exists_readsSource
  have hparse : parse false (d.format settings) = .ok ⟨ss'⟩ := (parse_format_eq_ok_iff h).2 hss'
  have htype : Diagram.type? ⟨ss'⟩ = d.type? := by
    rw [type?_congr hd]
    unfold Diagram.type?
    rw [← findSome?_declared?_nonBlank, nonBlank_canonical, findSome?_declared?_nonBlank]
  rw [isPassedThrough_of_parse hparse, htype]

end source

end MermaidTidy
