import Mathlib.Tactic
import MermaidTidy.Proofs.Layout.Spacing
import MermaidTidy.Proofs.Source.Reading
import MermaidTidy.Proofs.Source.Rendered
import MermaidTidy.Proofs.Text.Lines

/-!
# Laid-out sources read again

The statements of a plainly spaced source are laid out as lines. Indentation does not matter to a
reader, so that the laid-out lines are read like the rendered statements.

* `Legible` are the statements of clean lines, read one after the other, and `LegibleSource` those of
  a source, with its frontmatter;
* `legibleSource_canonical`: the canonical statements of a plainly spaced source are legible;
* `readsSource_placedFrom_iff`: laid-out statements are read like rendered ones.
-/

namespace MermaidTidy

open Text Line Respacing

/-! ### Clean lines -/

theorem Line.IsClean.isPlainLine {t : Text} (h : IsClean t) : IsPlainLine t := by
  rintro before c after rfl hspace
  exact .inl (h.eq_space (by simp) hspace)

namespace Source

variable {messages : Bool} {p : Progress} {t l : Text} {s : Statement} {ss : List Statement}

theorem isClean_nil : IsClean [] := ⟨⟨by simp, by simp⟩, by simp⟩

theorem isClean_stripBlanks (h : IsPlainLine l) (hc : ∀ c ∈ stripBlanks l, isControl c = false) :
    IsClean (stripBlanks l) where
  trimmed := isTrimmed_trim isBlank l
  chars := by
    intro c hcl
    cases hspace : isSpace c with
    | true => exact .inl (h.eq_space hcl hspace)
    | false => exact .inr (by simp [isInk, hspace, hc c hcl])

/-- A line of three hyphens has no special shape. -/
theorem reads_delimiter (messages : Bool) (p : Progress) :
    Reads messages p "---".toList (.generic "---".toList) := by
  refine .generic (isUnmarked_of_shapeOfLead (by decide)) ?_ fun _ _ => ?_
  · cases p.mode <;> decide
  · intro l hl
    exact absurd hl (by rw [show MessageLine.read? "---".toList = none by decide]; simp)

/-- Only a delimiter is rendered as one. -/
theorem isDelimiter_of_render (h : IsClean t) (hs : Reads messages p t s)
    (hd : isDelimiter s.render = true) : isDelimiter t = true := by
  have hr : s.render = "---".toList := by
    rw [← (isClean_render h hs).isTrimmed_isSpace.trim_eq]
    exact of_decide_eq_true hd
  -- a rendered statement that is no message and no generic line would be read again as it was
  have hother (hm : ∀ m, s ≠ .message m) (hg : ∀ x, s ≠ .generic x) : isDelimiter t = true := by
    have hread := reads_render h hs fun _ _ => ⟨hm, fun x hx => absurd hx (hg x)⟩
    rw [hr] at hread
    have hs' := reads_unique hread (reads_delimiter messages p)
    cases s with
    | generic x => exact absurd rfl (hg x)
    | _ => cases hs'
  cases hs with
  | @message _ m _ _ _ _ _ =>
    obtain ⟨u, hu⟩ := m.exists_render_eq
    have hcolon : ':' ∈ m.render := by simp [hu]
    rw [show m.render = "---".toList from hr] at hcolon
    exact absurd hcolon (by decide)
  | generic _ _ _ =>
    have ht : t = "---".toList := by
      rw [← normalize_eq_self_of_isInert (t := t)]
      · exact hr
      · rw [show normalize t = "---".toList from hr]
        decide
    rw [ht]
    decide
  | _ => exact hother (by simp) (by simp)

/-! ### Statements of clean lines -/

/-- `ss` are the statements of clean lines that are read from `p` on. -/
inductive Legible (messages : Bool) : Progress → List Statement → Prop
  | nil {p : Progress} : Legible messages p []
  | cons {p : Progress} {t : Text} {s : Statement} {ss : List Statement} (ht : IsClean t)
      (hs : Reads messages p t s) (h : Legible messages (p.next s) ss) : Legible messages p (s :: ss)

theorem ReadsAll.legible {raws : List Text} (h : ReadsAll messages p raws ss)
    (hplain : ∀ l ∈ raws, IsPlainLine l) : Legible messages p ss := by
  induction h with
  | nil => exact .nil
  | cons hc hs _ ih =>
    exact .cons (isClean_stripBlanks (hplain _ List.mem_cons_self) hc) hs
      (ih fun l hl => hplain l (List.mem_cons_of_mem _ hl))

namespace Legible

theorem left {ss' : List Statement} (h : Legible messages p (ss ++ ss')) : Legible messages p ss := by
  induction ss generalizing p with
  | nil => exact .nil
  | cons s ss ih =>
    cases h with
    | cons ht hs h => exact .cons ht hs (ih h)

theorem blank (h : Legible messages p ss) : Legible messages p (.blank :: ss) :=
  .cons isClean_nil .blank (by rwa [Progress.next_blank])

/-- Blank lines can be put in and taken out. -/
theorem spacedFrom (h : Legible messages p ss) (previous : Option Statement) (afterText : Bool) :
    Legible messages p (spacedFrom previous afterText ss) := by
  induction h generalizing previous afterText with
  | nil => exact .nil
  | @cons p t s ss ht hs _ ih =>
    rw [MermaidTidy.spacedFrom]
    split_ifs with hblank ha hg
    · rw [hblank, Progress.next_blank] at ih
      exact (ih previous false).blank
    · rw [hblank, Progress.next_blank] at ih
      exact ih previous false
    · exact Legible.blank (.cons ht hs (ih _ _))
    · exact .cons ht hs (ih _ _)

theorem isClean_render (h : Legible messages p ss) : ∀ s ∈ ss, IsClean s.render := by
  induction h with
  | nil => simp
  | cons ht hs _ ih =>
    rintro s (_ | ⟨_, hmem⟩)
    · exact MermaidTidy.isClean_render ht hs
    · exact ih s hmem

theorem render_ne_nil (h : Legible messages p ss) : ∀ s ∈ ss, s ≠ .blank → s.render ≠ [] := by
  induction h with
  | nil => simp
  | cons _ hs _ ih =>
    rintro s (_ | ⟨_, hmem⟩)
    · exact MermaidTidy.render_ne_nil hs
    · exact ih s hmem

end Legible

/-! ### Indentation does not matter -/

theorem ReadsAll.congr {raws raws' : List Text} (h : ReadsAll messages p raws ss)
    (heq : raws'.map stripBlanks = raws.map stripBlanks) : ReadsAll messages p raws' ss := by
  induction h generalizing raws' with
  | nil =>
    rw [List.map_eq_nil_iff.1 heq]
    exact .nil
  | cons hc hs _ ih =>
    obtain ⟨raw', raws', rfl, hraw, hraws⟩ := List.map_eq_cons_iff.1 heq
    rw [← hraw] at hc hs
    exact .cons hc hs (ih hraws)

theorem stripBlanks_line (settings : Settings) (st : LayoutState) (h : IsClean s.render) :
    stripBlanks (st.line settings s) = s.render := by
  obtain ⟨depth, hline⟩ := st.exists_line_eq settings s
  rw [hline, stripBlanks, trim_append_left fun c hc => Settings.isBlank_of_mem_indent hc,
    h.trimmed.trim_eq]

theorem map_stripBlanks_placedFrom (settings : Settings) (st : LayoutState)
    (h : ∀ s ∈ ss, IsClean s.render) :
    (placedFrom settings st ss).map stripBlanks = ss.map Statement.render := by
  induction ss generalizing st with
  | nil => rfl
  | cons s ss ih =>
    rw [placedFrom, List.map_cons, List.map_cons, stripBlanks_line settings st (h s List.mem_cons_self),
      ih _ fun s' hs' => h s' (List.mem_cons_of_mem s hs')]

/-- Placed statements are read like rendered ones. -/
theorem readsAll_placedFrom_iff {settings : Settings} {st : LayoutState} {ss' : List Statement}
    (h : ∀ s ∈ ss, IsClean s.render) :
    ReadsAll messages p (placedFrom settings st ss) ss' ↔
      ReadsAll messages p (ss.map Statement.render) ss' := by
  have heq : (placedFrom settings st ss).map stripBlanks =
      (ss.map Statement.render).map stripBlanks := by
    rw [map_stripBlanks_placedFrom settings st h, List.map_map]
    exact List.map_congr_left fun s hs => (h s hs).trimmed.trim_eq.symm
  exact ⟨fun hr => hr.congr heq.symm, fun hr => hr.congr heq⟩

/-- The first of some rendered lines is read as it is. -/
theorem readsAll_render_cons_iff {ss' : List Statement} (hclean : IsClean s.render) :
    ReadsAll messages p ((s :: ss).map Statement.render) ss' ↔
      ∃ s' rest, ss' = s' :: rest ∧ Reads messages p s.render s' ∧
        ReadsAll messages (p.next s') (ss.map Statement.render) rest := by
  have hstrip : stripBlanks s.render = s.render := hclean.trimmed.trim_eq
  rw [List.map_cons]
  constructor
  · rintro (_ | ⟨_, hs, h⟩)
    exact ⟨_, _, rfl, hstrip ▸ hs, h⟩
  · rintro ⟨s', rest, rfl, hs, h⟩
    refine .cons ?_ (hstrip.symm ▸ hs) h
    rw [hstrip]
    exact fun c hc => hclean.isControl_eq_false hc

/-! ### Frontmatter of laid-out sources -/

theorem isWhite_iff (h : IsPlainLine l) : isWhite l = true ↔ stripBlanks l = [] := by
  unfold isWhite
  rw [decide_eq_true_iff]
  refine ⟨h.stripBlanks_eq_nil, fun hnil => ?_⟩
  rw [← strip_stripBlanks, hnil]
  rfl

/-- The rendered statements that are not white are those that are not blank. -/
theorem Legible.filter_render (h : Legible messages p ss) :
    (ss.map Statement.render).filter (!isWhite ·) = (nonBlank ss).map Statement.render := by
  have hclean := h.isClean_render
  have hne := h.render_ne_nil
  clear h
  induction ss with
  | nil => rfl
  | cons s ss ih =>
    specialize ih (fun s' hs' => hclean s' (List.mem_cons_of_mem s hs'))
      (fun s' hs' => hne s' (List.mem_cons_of_mem s hs'))
    by_cases hs : s = .blank
    · subst hs
      rw [nonBlank_cons_blank, ← ih]
      rfl
    · have hwhite : isWhite s.render = false := by
        unfold isWhite
        rw [strip, (hclean s List.mem_cons_self).isTrimmed_isSpace.trim_eq]
        exact decide_eq_false (hne s List.mem_cons_self hs)
      rw [List.map_cons, List.filter_cons_of_pos (by simp [hwhite]), ih, nonBlank_cons hs,
        List.map_cons]

/-- Lines that are not white and statements that are not blank correspond, and only a delimiter is
rendered as one. -/
theorem ReadsAll.forall₂_isDelimiter {raws : List Text} (h : ReadsAll messages p raws ss)
    (hplain : ∀ l ∈ raws, IsPlainLine l) :
    List.Forall₂ (fun raw s => isDelimiter s.render = true → isDelimiter raw = true)
      (raws.filter (!isWhite ·)) (nonBlank ss) := by
  induction h with
  | nil => exact .nil
  | @cons p raw raws s ss hc hs _ ih =>
    have hraw : IsPlainLine raw := hplain raw List.mem_cons_self
    specialize ih fun l hl => hplain l (List.mem_cons_of_mem raw hl)
    by_cases hnil : stripBlanks raw = []
    · rw [hnil] at hs
      rw [reads_unique hs .blank, nonBlank_cons_blank, List.filter_cons_of_neg]
      · exact ih
      · simpa using (isWhite_iff hraw).2 hnil
    · have hwhite : isWhite raw = false := Bool.eq_false_iff.2 fun h => hnil ((isWhite_iff hraw).1 h)
      have hblank : s ≠ .blank := by
        rintro rfl
        generalize stripBlanks raw = t at hs hnil
        cases hs
        exact hnil rfl
      rw [nonBlank_cons hblank, List.filter_cons_of_pos (by simp [hwhite])]
      refine .cons (fun hd => ?_) ih
      have hdelimiter := isDelimiter_of_render (isClean_stripBlanks hraw hc) hs hd
      unfold isDelimiter at hdelimiter ⊢
      rwa [strip_stripBlanks] at hdelimiter

/-- Laying out brings no frontmatter about. -/
theorem frontmatterSpan_render {raws : List Text} {ss' : List Statement}
    (h : ReadsAll messages p raws ss) (hplain : ∀ l ∈ raws, IsPlainLine l)
    (hspan : frontmatterSpan raws = none) (h' : Legible messages p ss')
    (heq : nonBlank ss' = nonBlank ss) : frontmatterSpan (ss'.map Statement.render) = none := by
  rw [frontmatterSpan_eq_none_iff] at hspan ⊢
  rw [h'.filter_render, heq]
  have hall := h.forall₂_isDelimiter hplain
  intro opening rest hrender hd l hl
  obtain ⟨s, ss₁, hss, rfl, rfl⟩ := List.map_eq_cons_iff.1 hrender
  rw [hss] at hall
  generalize hraws : raws.filter (!isWhite ·) = lines at hall
  cases hall with
  | @cons raw _ raws₁ _ hs hrest =>
    have hnone := hspan raw raws₁ hraws (hs hd)
    obtain ⟨s', hs', rfl⟩ := List.mem_map.1 hl
    obtain ⟨i, hi, rfl⟩ := List.mem_iff_getElem.1 hs'
    have hlen : i < raws₁.length := hrest.length_eq ▸ hi
    have hrel : isDelimiter ss₁[i].render = true → isDelimiter raws₁[i] = true :=
      List.Forall₂.get hrest hlen hi
    rw [hnone _ (List.getElem_mem hlen)] at hrel
    exact Bool.eq_false_iff.2 fun h => Bool.false_ne_true (hrel h)

/-! ### Sources -/

/-- `ss` are the statements of a source whose lines are clean. -/
inductive LegibleSource (messages : Bool) : List Statement → Prop
  | plain {ss : List Statement} (hspan : frontmatterSpan (ss.map Statement.render) = none)
      (h : Legible messages {} ss) : LegibleSource messages ss
  | frontmatter {front : List Text} {ss : List Statement} (hfront : IsFrontmatter front)
      (hplain : ∀ l ∈ front, IsPlainLine l) (h : Legible messages {} ss) :
      LegibleSource messages (front.map .frontmatter ++ ss)

theorem spacedFrom_append_of_blank {ws : List Statement} (h : ∀ s ∈ ws, s = .blank)
    (previous : Option Statement) (ss : List Statement) :
    spacedFrom previous false (ws ++ ss) = spacedFrom previous false ss := by
  induction ws with
  | nil => rfl
  | cons s ws ih =>
    rw [List.cons_append, spacedFrom, if_pos (h s List.mem_cons_self), if_neg (by simp),
      List.nil_append, ih fun s' hs' => h s' (List.mem_cons_of_mem s hs')]

theorem isSpaced_frontmatter (front : List Text) (previous : Option Statement) (afterText : Bool) :
    IsSpaced previous afterText (front.map .frontmatter) := by
  induction front generalizing previous afterText with
  | nil => exact .nil
  | cons l front ih =>
    exact .cons (by simp) (by simp [needsBlankBefore, Statement.opensBlock]) (ih _ _)

/-- Frontmatter takes no part in spacing. -/
theorem spacedFrom_frontmatter (q : Pass) (front : List Text) (ss : List Statement) :
    spacedFrom q.previous q.afterText (front.map .frontmatter ++ ss) =
      front.map .frontmatter ++ spacedFrom (q.after (front.map .frontmatter)).previous
        (q.after (front.map .frontmatter)).afterText ss := by
  rw [spacedFrom_append, (isSpaced_frontmatter front _ _).spacedFrom_eq]

theorem rdropWhile_append_of_getLast? {α : Type} {q : α → Bool} {xs : List α}
    (hlast : ∀ x ∈ xs.getLast?, q x = false) (ys : List α) :
    (xs ++ ys).rdropWhile q = xs ++ ys.rdropWhile q := by
  induction ys using List.reverseRecOn with
  | nil =>
    rw [List.append_nil, List.rdropWhile_nil, List.append_nil, List.rdropWhile_eq_self_iff]
    intro h
    simpa using hlast _ (List.getLast_mem_getLast? h)
  | append_singleton ys y ih =>
    rw [← List.append_assoc, List.rdropWhile_concat, List.rdropWhile_concat]
    split_ifs with hy
    · exact ih
    · rw [List.append_assoc]

theorem ReadsAll.eq_blank_of_isWhite {raws : List Text} (h : ReadsAll messages p raws ss)
    (hplain : ∀ l ∈ raws, IsPlainLine l) (hwhite : ∀ l ∈ raws, isWhite l = true) :
    ∀ s ∈ ss, s = .blank := by
  induction h with
  | nil => simp
  | @cons p raw raws s ss _ hs _ ih =>
    rw [(isWhite_iff (hplain raw List.mem_cons_self)).1 (hwhite raw List.mem_cons_self)] at hs
    rintro s' (_ | ⟨_, hmem⟩)
    · exact reads_unique hs .blank
    · exact ih (fun l hl => hplain l (List.mem_cons_of_mem raw hl))
        (fun l hl => hwhite l (List.mem_cons_of_mem raw hl)) s' hmem

theorem Progress.after_of_blank {ws : List Statement} (h : ∀ s ∈ ws, s = .blank) (p : Progress) :
    p.after ws = p := by
  induction ws with
  | nil => rfl
  | cons s ws ih =>
    rw [Progress.after_cons, h s List.mem_cons_self, Progress.next_blank,
      ih fun s' hs' => h s' (List.mem_cons_of_mem s hs')]

/-- The canonical statements of a plainly spaced source are legible. -/
theorem legibleSource_canonical {lines : List Text} (h : ReadsSource messages lines ss)
    (hplain : ∀ l ∈ lines, IsPlainLine l) : LegibleSource messages (canonical ss) := by
  cases h with
  | plain hspan h =>
    obtain ⟨blanks, hspaced, -⟩ := exists_spacedFrom_eq ss
    have hlegible : Legible messages {} (canonical ss) :=
      Legible.left (hspaced ▸ (h.legible hplain).spacedFrom none false)
    exact .plain (frontmatterSpan_render h hplain hspan hlegible (nonBlank_canonical ss)) hlegible
  | @frontmatter white front rest ws ss hwhite hfront hw h =>
    have hblank : ∀ s ∈ ws, s = .blank := hw.eq_blank_of_isWhite
      (fun l hl => hplain l (List.mem_append_left _ hl)) hwhite
    rw [Progress.after_of_blank hblank] at h
    set q : Pass := Pass.after {} (front.map .frontmatter)
    -- blank lines before the frontmatter go; those behind it depend on its last line
    have hcanonical : canonical (ws ++ (front.map .frontmatter ++ ss)) =
        front.map .frontmatter ++ (spacedFrom q.previous q.afterText ss).rdropWhile (· = .blank) := by
      rw [canonical, spacedFrom_append_of_blank hblank, spacedFrom_frontmatter {}]
      refine rdropWhile_append_of_getLast? (fun s hs => ?_) _
      obtain ⟨l, -, rfl⟩ := List.mem_map.1 (List.mem_of_mem_getLast? hs)
      rfl
    rw [hcanonical]
    refine .frontmatter hfront
      (fun l hl => hplain l (List.mem_append_right _ (List.mem_append_left _ hl))) ?_
    have hlegible : Legible messages {} (spacedFrom q.previous q.afterText ss) :=
      (h.legible fun l hl => hplain l (List.mem_append_right _ (List.mem_append_right _ hl))).spacedFrom
        q.previous q.afterText
    obtain ⟨blanks, hblanks⟩ :=
      List.rdropWhile_prefix (· = Statement.blank) (spacedFrom q.previous q.afterText ss)
    exact Legible.left (hblanks ▸ hlegible)

/-! ### Laid-out sources -/

theorem placedFrom_frontmatter (settings : Settings) (st : LayoutState) (front : List Text)
    (ss : List Statement) :
    placedFrom settings st (front.map .frontmatter ++ ss) = front ++ placedFrom settings st ss := by
  induction front with
  | nil => rfl
  | cons l front ih =>
    rw [List.map_cons, List.cons_append, placedFrom, LayoutState.line_of_margin rfl, List.cons_append]
    exact congrArg _ ih

theorem map_render_frontmatter (front : List Text) (ss : List Statement) :
    (front.map Statement.frontmatter ++ ss).map Statement.render = front ++ ss.map Statement.render := by
  rw [List.map_append, List.map_map]
  exact congrArg (· ++ _) (List.map_id front)

/-- Indentation does not change where the frontmatter stands. -/
theorem Legible.frontmatterSpan_placedFrom (h : Legible messages p ss) (settings : Settings)
    (st : LayoutState) :
    frontmatterSpan (placedFrom settings st ss) = frontmatterSpan (ss.map Statement.render) := by
  have hstrip : (placedFrom settings st ss).map strip = (ss.map Statement.render).map strip := by
    rw [← map_stripBlanks_placedFrom settings st h.isClean_render, List.map_map]
    exact List.map_congr_left fun l _ => (strip_stripBlanks l).symm
  rw [← frontmatterSpan_map_strip, hstrip, frontmatterSpan_map_strip]

namespace LegibleSource

variable {messages' : Bool} {settings : Settings} {ss' : List Statement}

/-- A laid-out source is read like its rendered statements. -/
theorem readsSource_placedFrom_iff (h : LegibleSource messages ss) :
    ReadsSource messages' (placedFrom settings {} ss) ss' ↔
      ReadsSource messages' (ss.map Statement.render) ss' := by
  cases h with
  | plain hspan h =>
    have hspan' := (h.frontmatterSpan_placedFrom settings {}).trans hspan
    rw [readsSource_plain_iff hspan', readsSource_plain_iff hspan,
      readsAll_placedFrom_iff h.isClean_render]
  | frontmatter hfront _ h =>
    rw [placedFrom_frontmatter, map_render_frontmatter, readsSource_frontmatter_iff hfront,
      readsSource_frontmatter_iff hfront]
    simp only [readsAll_placedFrom_iff h.isClean_render]

theorem isPlainLine_render (h : LegibleSource messages ss) : ∀ s ∈ ss, IsPlainLine s.render := by
  have hclean {ss : List Statement} (h : Legible messages {} ss) : ∀ s ∈ ss, IsPlainLine s.render :=
    fun s hs => (h.isClean_render s hs).isPlainLine
  cases h with
  | plain _ h => exact hclean h
  | frontmatter _ hfront h =>
    intro s hs
    rcases List.mem_append.1 hs with hs | hs
    · obtain ⟨l, hl, rfl⟩ := List.mem_map.1 hs
      exact hfront l hl
    · exact hclean h s hs

/-- The lines of a laid-out source hold no line ends. -/
theorem not_mem_of_mem_placedFrom (h : LegibleSource messages ss) (hl : l ∈ placedFrom settings {} ss)
    {c : Char} (hc : c = '\n' ∨ c = '\r') : c ∉ l := by
  obtain ⟨s, hs, depth, rfl⟩ := exists_of_mem_placedFrom hl
  intro hmem
  rcases List.mem_append.1 hmem with hmem | hmem
  · have hblank := Settings.isBlank_of_mem_indent hmem
    rcases hc with rfl | rfl <;> exact absurd hblank (by decide)
  · obtain ⟨before, after, hsplit⟩ := List.append_of_mem hmem
    have hspace := h.isPlainLine_render s hs before c after hsplit
    rcases hc with rfl | rfl <;> exact absurd (hspace (by decide)) (by simp)

/-- Only blank lines are white, the frontmatter aside. -/
theorem strip_render_ne_nil (h : LegibleSource messages ss) :
    ∀ s ∈ ss.getLast?, s ≠ .blank → strip s.render ≠ [] := by
  have hlast {ss : List Statement} (h : Legible messages {} ss) :
      ∀ s ∈ ss.getLast?, s ≠ .blank → strip s.render ≠ [] := by
    intro s hs hne
    have hmem := List.mem_of_mem_getLast? hs
    rw [strip, (h.isClean_render s hmem).isTrimmed_isSpace.trim_eq]
    exact h.render_ne_nil s hmem hne
  cases h with
  | plain _ h => exact hlast h
  | @frontmatter front ss hfront _ h =>
    by_cases hnil : ss = []
    · obtain ⟨opening, inner, closing, rfl, -, hclosing, -⟩ := hfront
      rw [hnil, List.append_nil, List.map_cons, List.map_append, ← List.cons_append,
        List.map_singleton, List.getLast?_concat]
      rintro s ⟨⟩ -
      rw [show (Statement.frontmatter closing).render = closing from rfl, of_decide_eq_true hclosing]
      decide
    · rw [List.getLast?_append_of_ne_nil _ hnil]
      exact hlast h

theorem noEmptyContent (h : LegibleSource messages ss) : NoEmptyContent ss := by
  have hlegible {ss : List Statement} (h : Legible messages {} ss) : NoEmptyContent ss :=
    fun s hs hne hnil => absurd hnil (h.render_ne_nil s hs hne)
  cases h with
  | plain _ h => exact hlegible h
  | frontmatter _ _ h =>
    intro s hs
    rcases List.mem_append.1 hs with hs | hs
    · obtain ⟨l, -, rfl⟩ := List.mem_map.1 hs
      exact fun _ _ => rfl
    · exact hlegible h s hs

end LegibleSource

end Source

end MermaidTidy
