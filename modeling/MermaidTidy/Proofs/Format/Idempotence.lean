import Mathlib.Tactic
import MermaidTidy.Proofs.Format.Messages

/-!
# Formatting twice with messages

With messages, formatting a formatted text may change it once more. `format_idempotent_iff` says when
it does not: the text is passed through, or the statements of its diagram are steady.
-/

namespace MermaidTidy

open Text Line Respacing Source

/-! ### Sources -/

theorem state_after_frontmatter (q : Pass) (front : List Text) :
    (q.after (front.map .frontmatter)).state = q.state := by
  induction front generalizing q with
  | nil => rfl
  | cons l front ih => exact ih (q.step (.frontmatter l))

theorem steadyFrom_frontmatter_iff (p : Progress) (q : Pass) (front : List Text)
    (ss : List Statement) :
    SteadyFrom p q (front.map .frontmatter ++ ss) ↔
      SteadyFrom p (q.after (front.map .frontmatter)) ss := by
  induction front generalizing q with
  | nil => rfl
  | cons l front ih =>
    have hsteady (after : List Statement) : (Statement.frontmatter l).IsSteady q after := trivial
    rw [List.map_cons, List.cons_append, steadyFrom_cons_iff, and_iff_right fun _ => hsteady _,
      Progress.next_of_isPreamble rfl, ih, Pass.after_cons]

/-- A canonical source is laid out as it was, after it has been read again, exactly if its statements
are steady. -/
theorem exists_readsSource_iff {settings : Settings} {ss : List Statement} (h : LegibleSource true ss)
    (hspaced : IsSpaced none false ss) (hlast : ∀ s ∈ ss.getLast?, s ≠ .blank) :
    (∃ ss', ReadsSource true (ss.map Statement.render) ss' ∧
      placedFrom settings {} (canonical ss') = placedFrom settings {} ss) ↔ SteadyFrom {} {} ss := by
  have hstep {q : Pass} : InStep {} q := ⟨by simp, by simp⟩
  have hrender : ∀ l ∈ (ss.map Statement.render).getLast?, strip l ≠ [] := by
    rw [List.getLast?_map]
    rintro l hl
    obtain ⟨s, hs, rfl⟩ := Option.map_eq_some_iff.1 hl
    exact h.strip_render_ne_nil s hs (hlast s hs)
  have hcanonical {ss' : List Statement} (hss' : ReadsSource true (ss.map Statement.render) ss') :
      canonical ss' = spacedFrom none false ss' :=
    canonical_eq_spacedFrom (hss'.getLast?_ne_blank hrender)
  -- no blank line is dropped at the end, so that `canonical` is spacing only
  rw [exists_congr fun ss' => and_congr_right fun hss' => by rw [hcanonical hss']]
  cases h with
  | plain hspan h =>
    have hspaced' : IsSpaced ({} : Pass).previous ({} : Pass).afterText ss := hspaced
    rw [← laidOutAgain_iff h hstep hspaced' rfl]
    simp only [readsSource_plain_iff hspan]
    rfl
  | @frontmatter front ss hfront _ h =>
    have hspaced' : IsSpaced (Pass.after {} (front.map .frontmatter)).previous
        (Pass.after {} (front.map .frontmatter)).afterText ss := IsSpaced.right hspaced
    have hplaced (rest : List Statement) :
        placedFrom settings {} (spacedFrom none false (front.map .frontmatter ++ rest)) =
          front ++ placedFrom settings {} (spacedFrom (Pass.after {} (front.map .frontmatter)).previous
            (Pass.after {} (front.map .frontmatter)).afterText rest) := by
      rw [spacedFrom_frontmatter {}, placedFrom_frontmatter]
    rw [steadyFrom_frontmatter_iff, ← laidOutAgain_iff h hstep hspaced' rfl, LaidOutAgain,
      state_after_frontmatter]
    simp only [map_render_frontmatter, readsSource_frontmatter_iff hfront, placedFrom_frontmatter]
    constructor
    · rintro ⟨_, ⟨rest, rfl, hrest⟩, heq⟩
      rw [hplaced, List.append_cancel_left_eq] at heq
      exact ⟨rest, hrest, heq⟩
    · rintro ⟨rest, hrest, heq⟩
      refine ⟨_, ⟨rest, rfl, hrest⟩, ?_⟩
      rw [hplaced, heq]

/-! ### Depths -/

section depths

variable {messages messages' : Bool} {settings : Settings}

/-- Lines tell the depths of their statements. -/
theorem depthsFrom_eq_of_legible {p p' : Progress} {ss ss' : List Statement}
    (h : Legible messages p ss) (h' : Legible messages' p' ss') {st st' : LayoutState}
    (heq : placedFrom settings st' ss' = placedFrom settings st ss) :
    depthsFrom st' ss' = depthsFrom st ss := by
  induction h generalizing p' ss' st st' with
  | nil =>
    cases h' with
    | nil => rfl
    | cons _ _ _ => cases heq
  | @cons p t s ss ht hs _ ih =>
    cases h' with
    | nil => cases heq
    | @cons _ t' s' ss' ht' hs' h' =>
      rw [placedFrom, placedFrom, List.cons.injEq] at heq
      obtain ⟨hline, hrest⟩ := heq
      by_cases hb : s = .blank <;> by_cases hb' : s' = .blank
      · subst hb hb'
        exact ih h' hrest
      · rw [hb, LayoutState.line_blank] at hline
        exact absurd hline (LayoutState.line_ne_nil hb' (render_ne_nil hs' hb') settings st')
      · rw [hb', LayoutState.line_blank] at hline
        exact absurd hline.symm (LayoutState.line_ne_nil hb (render_ne_nil hs hb) settings st)
      · have hdepth := (line_eq_line_iff hb hb' (isClean_render ht hs) (isClean_render ht' hs')).1 hline
        rw [depthsFrom_cons hb, depthsFrom_cons hb', hdepth.1, ih h' hrest]

theorem depthsFrom_frontmatter (front : List Text) (st : LayoutState) (ss : List Statement) :
    depthsFrom st (front.map .frontmatter ++ ss) = front.map (fun _ => 0) ++ depthsFrom st ss := by
  induction front with
  | nil => rfl
  | cons l front ih =>
    rw [List.map_cons, List.cons_append, depthsFrom_cons (by simp), depthOf_of_margin rfl]
    exact congrArg _ ih

/-- Sources that are laid out alike have the same frontmatter, and the same depths behind it. -/
theorem depthsFrom_eq_of_legibleSource {ss ss' : List Statement}
    (h : LegibleSource messages ss) (h' : LegibleSource messages' ss')
    (heq : placedFrom settings {} ss' = placedFrom settings {} ss) :
    depthsFrom {} ss' = depthsFrom {} ss := by
  have hspan {front rest : List Text} (hfront : IsFrontmatter front) :
      frontmatterSpan (front ++ rest) ≠ none := by
    have := frontmatterSpan_frontmatter (by simp : ∀ l ∈ [], isWhite l = true) hfront rest
    rw [List.nil_append] at this
    simp [this]
  cases h with
  | plain hnone h =>
    rw [← h.frontmatterSpan_placedFrom settings {}] at hnone
    cases h' with
    | plain _ h' => exact depthsFrom_eq_of_legible h h' heq
    | frontmatter hfront' _ _ =>
      rw [placedFrom_frontmatter] at heq
      exact absurd (heq ▸ hnone) (hspan hfront')
  | frontmatter hfront _ h =>
    rw [placedFrom_frontmatter] at heq
    cases h' with
    | plain hnone h' =>
      rw [← h'.frontmatterSpan_placedFrom settings {}, heq] at hnone
      exact absurd hnone (hspan hfront)
    | frontmatter hfront' _ h' =>
      rw [placedFrom_frontmatter] at heq
      obtain ⟨rfl, hrest⟩ := hfront.append_inj hfront' heq
      rw [depthsFrom_frontmatter, depthsFrom_frontmatter, depthsFrom_eq_of_legible h h' hrest]

/-- Diagrams of the same text need the same room. -/
theorem roomFault?_of_format_eq {d d' : Diagram} (h : LegibleSource messages (canonical d.statements))
    (h' : LegibleSource messages' (canonical d'.statements))
    (heq : d'.format settings = d.format settings) (memory : Nat) :
    d'.roomFault? memory settings = d.roomFault? memory settings := by
  have hdepths := depthsFrom_eq_of_legibleSource h h' ((format_eq_format_iff h h').1 heq)
  rw [← depthsFrom_nonBlank, ← depthsFrom_nonBlank _ (canonical d.statements), nonBlank_canonical,
    nonBlank_canonical, depthsFrom_nonBlank, depthsFrom_nonBlank] at hdepths
  rw [Diagram.roomFault?, Diagram.roomFault?, hdepths]

end depths

/-! ### Diagrams -/

/-- The statements of a diagram are steady where they stand, behind the declaration of a sequence
diagram. -/
def Diagram.IsSteady (d : Diagram) : Prop :=
  ∀ before s after, d.statements = before ++ s :: after →
    (Diagram.type? ⟨before⟩).map DiagramType.kind = some .sequenceDiagram →
      s.IsSteady (Pass.after {} before) after

theorem Diagram.isSteady_iff (d : Diagram) : d.IsSteady ↔ SteadyFrom {} {} (canonical d.statements) := by
  rw [steadyFrom_canonical_iff]
  have hdialect (before : List Statement) : (Progress.after {} before).dialect =
      (Diagram.type? ⟨before⟩).map DiagramType.kind := Progress.dialect_after (.inl rfl) rfl before
  unfold IsSteady SteadyFrom
  simp only [hdialect]

/-- The text of a diagram is again that of a legible source. -/
theorem legibleSource_of_parse_format {messages messages' : Bool} {settings : Settings} {d d' : Diagram}
    (h : LegibleSource messages (canonical d.statements))
    (hd' : parse messages' (d.format settings) = .ok d') :
    LegibleSource messages' (canonical d'.statements) := by
  refine legibleSource_canonical ((parse_format_eq_ok_iff h).1 hd') ?_
  intro l hl
  obtain ⟨s, hs, rfl⟩ := List.mem_map.1 hl
  exact h.isPlainLine_render s hs

/-- A diagram has the same text, after its text has been read again, exactly if it is steady. -/
theorem exists_parse_format_iff {settings : Settings} {d : Diagram}
    (h : LegibleSource true (canonical d.statements)) :
    (∃ d', parse true (d.format settings) = .ok d' ∧ d'.format settings = d.format settings) ↔
      d.IsSteady := by
  rw [d.isSteady_iff, ← exists_readsSource_iff h (isSpaced_canonical _) (getLast?_canonical _)]
  constructor
  · rintro ⟨d', hd', heq⟩
    have h' := legibleSource_of_parse_format h hd'
    exact ⟨d'.statements, (parse_format_eq_ok_iff h).1 hd', (format_eq_format_iff h h').1 heq⟩
  · rintro ⟨ss', hss', heq⟩
    have hd' : parse true (d.format settings) = .ok ⟨ss'⟩ := (parse_format_eq_ok_iff h).2 hss'
    have h' := legibleSource_of_parse_format h hd'
    exact ⟨⟨ss'⟩, hd', (format_eq_format_iff h h').2 heq⟩

/-! ### Texts -/

theorem isPlainlySpaced_of_space {t : Text} (ht : ∀ c ∈ t, isSpace c = true → c = ' ' ∨ c = '\n') :
    IsPlainlySpaced t := by
  rintro before c after rfl hspace
  exact (ht c (by simp) hspace).imp_right .inl

/-- A formatted text stays as it is exactly if its source is passed through or has a steady
diagram. -/
theorem format_eq_self_iff {settings : Settings} {t once : Text} (ht : IsPlainlySpaced t)
    (hon : settings.normalizeMessages = true) (h : format settings t = .ok once) :
    format settings once = .ok once ↔
      isPassedThrough settings t = .ok true ∨ ∃ d, parse true t = .ok d ∧ d.IsSteady := by
  rcases format_eq_ok_iff.1 h with ⟨hpassed, rfl⟩ | ⟨hpassed, d, hd, rfl⟩
  · obtain ⟨hagain, hser⟩ := isPassedThrough_serialize ht hpassed
    exact iff_of_true (format_eq_ok_iff.2 (.inl ⟨hagain, hser.symm⟩)) (.inl hpassed)
  · rw [hon] at hd
    have hlegible := legibleSource_of_parse ht hd
    have hagain : isPassedThrough settings (d.format settings) = .ok false := by
      rw [isPassedThrough_format hlegible, ← hpassed, isPassedThrough_of_parse hd]
    rw [format_eq_ok_iff, hagain, hpassed, hon]
    simp only [hd, Except.ok.injEq, Bool.false_eq_true, false_and, false_or, true_and,
      exists_eq_left', eq_comm (a := d.format settings)]
    exact exists_parse_format_iff hlegible

/-- A text that stays as it is has room where its source had. -/
theorem formatInRoom_again {memory : Nat} {settings : Settings} {t once : Text} (ht : IsPlainlySpaced t)
    (h : formatInRoom memory settings t = .ok once) (hagain : format settings once = .ok once) :
    formatInRoom memory settings once = .ok once := by
  rcases format_eq_ok_iff.1 hagain with ⟨hpass, hser⟩ | ⟨hpass, d', hd', heq⟩
  · rw [formatInRoom_of_isPassedThrough memory hpass, ← hser]
  · rcases format_eq_ok_iff.1 (format_of_formatInRoom h) with ⟨hpassed, rfl⟩ | ⟨hpassed, d, hd, rfl⟩
    · rw [(isPassedThrough_serialize ht hpassed).1] at hpass
      cases hpass
    · have hlegible := legibleSource_of_parse ht hd
      have hlegible' := legibleSource_of_parse_format hlegible hd'
      rw [formatInRoom_of_parse memory hpassed hd] at h
      rw [formatInRoom_of_parse memory hpass hd', ← heq,
        roomFault?_of_format_eq hlegible hlegible' heq.symm, h]

/-- A formatted text stays as it is exactly if the source is passed through or has a steady diagram.
Room is not needed anew. -/
theorem format_idempotent_iff {settings : Settings} {t once : Text}
    (ht : ∀ c ∈ t, isSpace c = true → c = ' ' ∨ c = '\n') (hon : settings.normalizeMessages = true)
    (h : format settings t = .ok once) :
    (format settings once = .ok once ↔
      isPassedThrough settings t = .ok true ∨ ∃ d, parse true t = .ok d ∧ d.IsSteady) ∧
    ∀ memory, formatInRoom memory settings t = .ok once →
      (formatInRoom memory settings once = .ok once ↔
        isPassedThrough settings t = .ok true ∨ ∃ d, parse true t = .ok d ∧ d.IsSteady) := by
  have hplain := isPlainlySpaced_of_space ht
  have hiff := format_eq_self_iff hplain hon h
  refine ⟨hiff, fun memory hroom => ?_⟩
  rw [← hiff]
  exact ⟨format_of_formatInRoom, formatInRoom_again hplain hroom⟩

theorem format_idempotent_iff_keywords :
    formatInRoom 4 { normalizeMessages := true }
        "\nsequenceDiagram\nactor->>B:a as b\n\n\nnote-)C: [ x ]\n ( D )".toList =
      .ok "sequenceDiagram\n    actor ->> B: a as b\n\n    note -) C: [x]\n    (D)\n".toList ∧
    formatInRoom 4 { normalizeMessages := true }
        "sequenceDiagram\n    actor ->> B: a as b\n\n    note -) C: [x]\n    (D)\n".toList =
      .ok "sequenceDiagram\n    actor ->> B: a as b\n\n    note -) C: [x]\n    (D)\n".toList ∧
    ∃ d, parse true "\nsequenceDiagram\nactor->>B:a as b\n\n\nnote-)C: [ x ]\n ( D )".toList =
      .ok d ∧ d.IsSteady := by
  have hroom : formatInRoom 4 { normalizeMessages := true }
      "\nsequenceDiagram\nactor->>B:a as b\n\n\nnote-)C: [ x ]\n ( D )".toList =
        .ok "sequenceDiagram\n    actor ->> B: a as b\n\n    note -) C: [x]\n    (D)\n".toList := by
    decide +kernel
  obtain ⟨hiff, hiffInRoom⟩ :=
    format_idempotent_iff (by decide +kernel) rfl (format_of_formatInRoom hroom)
  have hsteady := hiff.1 (by decide +kernel)
  refine ⟨hroom, (hiffInRoom 4 hroom).2 hsteady, ?_⟩
  rcases hsteady with hpassed | hsteady
  · exact absurd hpassed (by decide +kernel)
  · exact hsteady

/-- The line `loop->>B: hi` is a message; formatted, it opens a block and goes to the margin. -/
theorem format_message_opens_block :
    ∃ once, format { normalizeMessages := true } "sequenceDiagram\nloop->>B: hi".toList = .ok once ∧
      once = "sequenceDiagram\n    loop ->> B: hi\n".toList ∧
      format { normalizeMessages := true } once = .ok "sequenceDiagram\nloop ->> B: hi\n".toList ∧
      format { normalizeMessages := true } once ≠ .ok once :=
  ⟨_, by decide +kernel, rfl, by decide +kernel, by decide +kernel⟩

end MermaidTidy
