import Mathlib.Tactic
import MermaidTidy.Proofs.Format.Stability
import MermaidTidy.Proofs.Format.Steady

/-!
# Formatting with messages

With messages, formatting a formatted text may change it again. This happens only where a statement
of a sequence diagram is not steady.

* `opened_iff`: behind a line that opens a brace block anew, only blank lines and statements at the
  margin keep their places;
* `laidOutAgain_iff`: statements are laid out in the same way again exactly if all are steady;
* `steadyFrom_canonical_iff`: for this, blank lines do not matter.
-/

namespace MermaidTidy

open Text Line Respacing Source

/-! ### Indentation tells the depth -/

theorem indent_injective (settings : Settings) : Function.Injective settings.indent := by
  intro d d' h
  have hlen := congrArg List.length h
  rw [Settings.length_indent, Settings.length_indent, Settings.indentLength,
    Settings.indentLength] at hlen
  cases hu : settings.indentUnit with
  | tabs => simpa [hu] using hlen
  | spaces =>
    have hpos := settings.indentWidth_pos
    simp only [hu] at hlen
    exact Nat.eq_of_mul_eq_mul_right hpos hlen

theorem takeWhile_indent_append {settings : Settings} {d : Nat} {r : Text}
    (hr : ∀ c ∈ r.head?, isBlank c = false) :
    (settings.indent d ++ r).takeWhile isBlank = settings.indent d := by
  rw [List.takeWhile_append_of_pos fun c hc => Settings.isBlank_of_mem_indent hc, takeWhile_eq_nil hr,
    List.append_nil]

/-- A line tells the depth of its statement and the rendered text. -/
theorem line_eq_line_iff {settings : Settings} {st st' : LayoutState} {s s' : Statement}
    (hs : s ≠ .blank) (hs' : s' ≠ .blank) (hclean : IsClean s.render) (hclean' : IsClean s'.render) :
    st'.line settings s' = st.line settings s ↔
      st'.depthOf s' = st.depthOf s ∧ s'.render = s.render := by
  rw [LayoutState.line_eq hs, LayoutState.line_eq hs']
  constructor
  · intro h
    have hindent := congrArg (List.takeWhile isBlank) h
    rw [takeWhile_indent_append hclean.trimmed.head,
      takeWhile_indent_append hclean'.trimmed.head] at hindent
    rw [hindent] at h
    exact ⟨indent_injective settings hindent, List.append_cancel_left h⟩
  · rintro ⟨hdepth, hrender⟩
    rw [hdepth, hrender]

/-! ### Layout states behind a declaration -/

variable {settings : Settings} {st st' : LayoutState} {s s' : Statement}

theorem Alike.depthOf (h : Alike s s') (st : LayoutState) : st.depthOf s' = st.depthOf s := by
  simp [LayoutState.depthOf, LayoutState.depth, h.stateAt, h.placement]

/-- One more open brace moves everything that is not at the margin. -/
theorem depthOf_openBrace_ne (h : st.declared = true) (hbraces : 0 < st.braces)
    (hs : s.placement ≠ .margin) : st.openBrace.depthOf s ≠ st.depthOf s := by
  have hopen : st.openBrace.declared = true := h
  cases hplace : s.placement with
  | margin => exact absurd hplace hs
  | content =>
    rw [depthOf_of_content h hplace, depthOf_of_content hopen hplace]
    simp only [LayoutState.openBrace]
    omega
  | brace =>
    cases s with
    | braceBlockStart b name =>
      rw [depthOf_braceBlockStart h, depthOf_braceBlockStart hopen]
      simp [LayoutState.openBrace]
    | braceBlockEnd =>
      simp only [LayoutState.depthOf, LayoutState.depth, Placement.depth, Statement.placement,
        Pass.stateAt, LayoutState.closeBrace, LayoutState.openBrace, Option.map_some, Option.getD_some,
        h, if_true]
      omega
    | _ => cases hplace

theorem line_ne_of_differs (h : Differs s s') (hs : s ≠ .blank) (hs' : s' ≠ .blank)
    (hclean : IsClean s.render) (hclean' : IsClean s'.render) (hst : st.declared = true) :
    st'.line settings s' ≠ st.line settings s := by
  rw [Ne, line_eq_line_iff hs hs' hclean hclean']
  rintro ⟨hdepth, hrender⟩
  rcases h with h | ⟨hmargin, hcontent⟩
  · exact h hrender
  · rw [depthOf_of_margin hmargin, depthOf_of_content hst hcontent] at hdepth
    omega

/-! ### One line -/

/-- The first line that is laid out is `l`, if no blank line comes before it. -/
theorem placedFrom_spacedFrom_cons_iff {previous : Option Statement} {afterText : Bool}
    {ss : List Statement} {l : Text} {rest : List Text} (hs : s ≠ .blank) (hl : l ≠ []) :
    placedFrom settings st (spacedFrom previous afterText (s :: ss)) = l :: rest ↔
      (needsBlankBefore (some s) previous && afterText) = false ∧ st.line settings s = l ∧
        placedFrom settings (st.next s) (spacedFrom (some s) (s.render ≠ []) ss) = rest := by
  rw [spacedFrom, if_neg hs]
  split_ifs with hgap
  · refine iff_of_false (fun h => hl ?_) fun h => by simp [h.1] at hgap
    exact (List.cons.inj h).1.symm
  · rw [List.nil_append, placedFrom, List.cons.injEq]
    simp [hgap]

/-! ### Behind an opened brace -/

section opened

variable {p : Progress} {ss : List Statement}

theorem ne_blank_of_reads_render {t : Text} (hs : Reads true p t s) (hne : s ≠ .blank)
    (hread : Reads true p s.render s') : s' ≠ .blank := by
  rintro rfl
  generalize hr : s.render = r at hread
  cases hread
  exact render_ne_nil hs hne hr

/-- Only statements at the margin keep their places inside one more brace block. -/
theorem line_openBrace_ne {t : Text} (ht : IsClean t) (hs : Reads true p t s)
    (hmode : p.mode = .sequence) (hp : p.dialect = some .sequenceDiagram)
    (hread : Reads true p s.render s') (hne : s ≠ .blank) (hmargin : s.placement ≠ .margin)
    (hst : st.declared = true) (hbraces : 0 < st.braces) :
    st.openBrace.line settings s' ≠ st.line settings s := by
  have hclean := isClean_render ht hs
  have hclean' := isClean_render hclean hread
  have hne' := ne_blank_of_reads_render hs hne hread
  cases outcome ht hs hmode hp with
  | alike hread' h _ =>
    rw [reads_unique hread hread', Ne, line_eq_line_iff hne (reads_unique hread hread' ▸ hne') hclean
      (reads_unique hread hread' ▸ hclean'), h.depthOf]
    exact fun heq => depthOf_openBrace_ne hst hbraces hmargin heq.1
  | differs h _ => exact line_ne_of_differs (h s' hread) hne hne' hclean hclean' hst
  | opens hread' _ hinner _ =>
    have hcontent := Statement.placement_of_isInner hinner
    have hopen : st.openBrace.declared = true := hst
    rw [Ne, line_eq_line_iff hne hne' hclean hclean', reads_unique hread hread',
      depthOf_braceBlockStart hopen, depthOf_of_content hst hcontent]
    simp only [LayoutState.openBrace]
    omega

/-- Fewer statements before which a blank line is due. -/
theorem gap_eq_false_of_imp {previous previous' : Option Statement} {afterText : Bool}
    (hprevious : previous'.any Statement.isContentBeforeBlock = true →
      previous.any Statement.isContentBeforeBlock = true)
    (h : (needsBlankBefore (some s) previous && afterText) = false) :
    (needsBlankBefore (some s) previous' && afterText) = false := by
  rw [needsBlankBefore, Bool.and_eq_false_iff, Bool.and_eq_false_iff] at h ⊢
  refine h.imp_left (Or.imp_right fun hno => Bool.eq_false_iff.2 fun hyes => ?_)
  rw [hprevious hyes] at hno
  cases hno

theorem next_openBrace_of_margin (hs : s.placement = .margin) (st : LayoutState) :
    st.openBrace.next s = (st.next s).openBrace ∧ (st.next s).braces = st.braces := by
  cases s <;> first | exact ⟨rfl, rfl⟩ | cases hs

/-- Behind a line that opens a brace block anew, the other lines are laid out as they were exactly if
they are blank or at the margin. -/
theorem opened_iff (h : Legible true p ss) (hmode : p.mode = .sequence)
    (hp : p.dialect = some .sequenceDiagram) {previous previous' : Option Statement}
    {afterText : Bool} (hspaced : IsSpaced previous afterText ss)
    (hprevious : previous'.any Statement.isContentBeforeBlock = true →
      previous.any Statement.isContentBeforeBlock = true)
    (hst : st.declared = true) (hbraces : 0 < st.braces) :
    (∃ ss', ReadsAll true p (ss.map Statement.render) ss' ∧
      placedFrom settings st.openBrace (spacedFrom previous' afterText ss') =
        placedFrom settings st ss) ↔ ∀ s ∈ ss, s = .blank ∨ s.placement = .margin := by
  induction h generalizing st previous previous' afterText with
  | nil => exact iff_of_true ⟨[], .nil, rfl⟩ (by simp)
  | @cons p t s ss ht hs _ ih =>
    have hclean := isClean_render ht hs
    rw [Progress.next_of_sequence hmode] at ih
    simp only [readsAll_render_cons_iff hclean, Progress.next_of_sequence hmode, List.forall_mem_cons]
    cases hspaced with
    | blank hspaced =>
      rw [← ih hmode hp hspaced hprevious hst hbraces]
      constructor
      · rintro ⟨_, ⟨s', rest, rfl, hs', hrest⟩, heq⟩
        cases reads_unique hs' .blank
        rw [spacedFrom, if_pos rfl, if_pos rfl] at heq
        exact ⟨.inl rfl, rest, hrest, (List.cons.inj heq).2⟩
      · rintro ⟨-, rest, hrest, heq⟩
        refine ⟨_, ⟨.blank, rest, rfl, .blank, hrest⟩, ?_⟩
        rw [spacedFrom, if_pos rfl, if_pos rfl]
        exact congrArg _ heq
    | cons hne hgap hspaced =>
      have hline := LayoutState.line_ne_nil hne (render_ne_nil hs hne) settings st
      rw [or_iff_right hne]
      by_cases hmargin : s.placement = .margin
      · -- a statement at the margin is read as it was, and moves no other statement
        have hread : Reads true p s.render s := reads_render_of_isOther ht hs
          (by rintro m rfl; cases hmargin) (by rintro x rfl; cases hmargin)
        obtain ⟨hopen, hbraces'⟩ := next_openBrace_of_margin hmargin st
        have hgap' := gap_eq_false_of_imp hprevious hgap
        have ih' := ih hmode hp hspaced id (declared_next hst s) (hbraces' ▸ hbraces)
        rw [← hopen] at ih'
        rw [and_iff_right hmargin, ← ih']
        constructor
        · rintro ⟨_, ⟨s', rest, rfl, hs', hrest⟩, heq⟩
          cases reads_unique hs' hread
          exact ⟨rest, hrest, ((placedFrom_spacedFrom_cons_iff hne hline).1 heq).2.2⟩
        · rintro ⟨rest, hrest, heq⟩
          refine ⟨_, ⟨s, rest, rfl, hread, hrest⟩, ?_⟩
          rw [placedFrom, placedFrom_spacedFrom_cons_iff hne hline]
          refine ⟨hgap', ?_, heq⟩
          rw [LayoutState.line_of_margin hmargin, LayoutState.line_of_margin hmargin]
      · -- any other line is indented further
        refine iff_of_false ?_ fun h => hmargin h.1
        rintro ⟨_, ⟨s', rest, rfl, hs', -⟩, heq⟩
        have hne' := ne_blank_of_reads_render hs hne hs'
        exact line_openBrace_ne ht hs hmode hp hs' hne hmargin hst hbraces
          ((placedFrom_spacedFrom_cons_iff hne' hline).1 heq).2.1

end opened

/-! ### Whole diagrams -/

/-- The statements that are read from `p` on and laid out from `q` on are steady, where they belong to
a sequence diagram. -/
def SteadyFrom (p : Progress) (q : Pass) (ss : List Statement) : Prop :=
  ∀ before s after, ss = before ++ s :: after → (p.after before).dialect = some .sequenceDiagram →
    s.IsSteady (q.after before) after

section run

variable {p : Progress} {q : Pass} {ss : List Statement}

theorem steadyFrom_nil (p : Progress) (q : Pass) : SteadyFrom p q [] := by
  intro before s after h
  simp at h

theorem steadyFrom_cons_iff :
    SteadyFrom p q (s :: ss) ↔
      (p.dialect = some .sequenceDiagram → s.IsSteady q ss) ∧ SteadyFrom (p.next s) (q.step s) ss := by
  constructor
  · intro h
    exact ⟨h [] s ss rfl, fun before s' after hss => h (s :: before) s' after (by rw [hss]; rfl)⟩
  · rintro ⟨hs, h⟩ before s' after hss
    cases before with
    | nil =>
      cases hss
      exact hs
    | cons s₀ before =>
      cases hss
      exact h before s' after rfl

/-- At the margin all statements are steady. -/
theorem steadyFrom_of_margin (h : ∀ s ∈ ss, s = .blank ∨ s.placement = .margin) :
    SteadyFrom p q ss := by
  intro before s after hss _
  have hs := h s (by rw [hss]; simp)
  cases s <;> first | trivial | simp [Statement.placement] at hs

/-- Reading and layout have seen the same declaration. -/
structure InStep (p : Progress) (q : Pass) : Prop where
  mode : p.dialect = some .sequenceDiagram → p.mode = .sequence
  declared : p.dialect = some .sequenceDiagram → q.state.declared = true

theorem InStep.next (h : InStep p q) (s : Statement) : InStep (p.next s) (q.step s) := by
  refine ⟨p.mode_next h.mode s, fun hd => ?_⟩
  rw [Pass.state_step]
  rcases p.dialect_next s with hold | ⟨type, rfl, -⟩
  · exact declared_next (h.declared (hold ▸ hd)) s
  · rfl

/-- The lines of the statements are read again, from `p` on, and then laid out as they were, from `q`
on; `previous'` takes the place of the statement before. -/
def LaidOutAgain (settings : Settings) (p : Progress) (q : Pass) (previous' : Option Statement)
    (ss : List Statement) : Prop :=
  ∃ ss', ReadsAll true p (ss.map Statement.render) ss' ∧
    placedFrom settings q.state (spacedFrom previous' q.afterText ss') = placedFrom settings q.state ss

variable {previous' : Option Statement}

theorem laidOutAgain_cons_iff (hclean : IsClean s.render) :
    LaidOutAgain settings p q previous' (s :: ss) ↔
      ∃ s' rest, Reads true p s.render s' ∧
        ReadsAll true (p.next s') (ss.map Statement.render) rest ∧
        placedFrom settings q.state (spacedFrom previous' q.afterText (s' :: rest)) =
          placedFrom settings q.state (s :: ss) := by
  unfold LaidOutAgain
  simp only [readsAll_render_cons_iff hclean]
  constructor
  · rintro ⟨_, ⟨s', rest, rfl, hs', hrest⟩, heq⟩
    exact ⟨s', rest, hs', hrest, heq⟩
  · rintro ⟨s', rest, hs', hrest, heq⟩
    exact ⟨_, ⟨s', rest, rfl, hs', hrest⟩, heq⟩

theorem laidOutAgain_blank_iff (hafter : q.afterText = true) :
    LaidOutAgain settings p q previous' (.blank :: ss) ↔
      LaidOutAgain settings p (q.step .blank) previous' ss := by
  have hplaced (rest : List Statement) :
      placedFrom settings q.state (spacedFrom previous' q.afterText (.blank :: rest)) =
        [] :: placedFrom settings q.state (spacedFrom previous' false rest) := by
    rw [spacedFrom, if_pos rfl, if_pos hafter]
    rfl
  have hclean : IsClean Statement.blank.render := isClean_nil
  rw [laidOutAgain_cons_iff hclean]
  constructor
  · rintro ⟨s', rest, hs', hrest, heq⟩
    cases reads_unique hs' .blank
    rw [hplaced] at heq
    rw [Progress.next_blank] at hrest
    exact ⟨rest, hrest, (List.cons.inj heq).2⟩
  · rintro ⟨rest, hrest, heq⟩
    refine ⟨.blank, rest, .blank, by rwa [Progress.next_blank], ?_⟩
    rw [hplaced]
    exact congrArg _ heq

/-- A statement that is laid out alike leaves the rest as it was. -/
theorem laidOutAgain_alike_iff {t : Text} (ht : IsClean t) (hs : Reads true p t s) (hne : s ≠ .blank)
    (hgap : (needsBlankBefore (some s) q.previous && q.afterText) = false)
    (hprevious : previous'.any Statement.isContentBeforeBlock =
      q.previous.any Statement.isContentBeforeBlock)
    (hread : Reads true p s.render s') (h : Alike s s') (hnext : p.next s' = p.next s) :
    LaidOutAgain settings p q previous' (s :: ss) ↔
      LaidOutAgain settings (p.next s) (q.step s) (some s') ss := by
  have hne' : s' ≠ .blank := fun hb => hne (h.blank.1 hb)
  have hline := LayoutState.line_ne_nil hne (render_ne_nil hs hne) settings q.state
  have hgap' : (needsBlankBefore (some s') previous' && q.afterText) = false := by
    simpa [needsBlankBefore, h.opensBlock, hprevious] using hgap
  have hstate : q.state.next s' = q.state.next s := h.stateAfter _
  have hplaced (rest : List Statement) :
      placedFrom settings q.state (spacedFrom previous' q.afterText (s' :: rest)) =
          placedFrom settings q.state (s :: ss) ↔
        placedFrom settings (q.step s).state (spacedFrom (some s') (q.step s).afterText rest) =
          placedFrom settings (q.step s).state ss := by
    rw [placedFrom, placedFrom_spacedFrom_cons_iff hne' hline, and_iff_right hgap',
      and_iff_right (h.line settings q.state), hstate, h.render, Pass.step_of_ne hne]
  rw [laidOutAgain_cons_iff (isClean_render ht hs)]
  constructor
  · rintro ⟨s'', rest, hs'', hrest, heq⟩
    cases reads_unique hs'' hread
    exact ⟨rest, hnext ▸ hrest, (hplaced rest).1 heq⟩
  · rintro ⟨rest, hrest, heq⟩
    exact ⟨s', rest, hread, hnext ▸ hrest, (hplaced rest).2 heq⟩

section opens

variable {b : BraceBlockKind} {name : Text}

/-- A line that opens a brace block stays where it was only inside a brace block, where no blank line
is due before it. -/
theorem placedFrom_opens_iff (settings : Settings) (ss rest : List Statement)
    (hdeclared : q.state.declared = true)
    (hprevious : previous'.any Statement.isContentBeforeBlock =
      q.previous.any Statement.isContentBeforeBlock)
    (hclean : IsClean s.render) (hnonempty : s.render ≠ []) (hinner : s.isInner = true)
    (hrender : (Statement.braceBlockStart b name).render = s.render) :
    placedFrom settings q.state (spacedFrom previous' q.afterText (.braceBlockStart b name :: rest)) =
        placedFrom settings q.state (s :: ss) ↔
      (q.previous.any Statement.isContentBeforeBlock && q.afterText) = false ∧ 0 < q.state.braces ∧
        placedFrom settings q.state.openBrace (spacedFrom (some (.braceBlockStart b name)) true rest) =
          placedFrom settings q.state ss := by
  have hne : s ≠ .blank := by
    rintro rfl
    cases hinner
  have hcontent := Statement.placement_of_isInner hinner
  have hstate : q.state.next s = q.state := by cases s <;> first | rfl | cases hinner
  have hline := LayoutState.line_ne_nil hne hnonempty settings q.state
  have hgap : (needsBlankBefore (some (.braceBlockStart b name)) previous' && q.afterText) =
      (q.previous.any Statement.isContentBeforeBlock && q.afterText) := by
    rw [← hprevious]
    rfl
  have hdepth : q.state.braces = max q.state.braces 1 ↔ 0 < q.state.braces := by omega
  have htext : decide ((Statement.braceBlockStart b name).render ≠ []) = true := by
    rw [hrender]
    exact decide_eq_true hnonempty
  rw [placedFrom, placedFrom_spacedFrom_cons_iff (by simp) hline, hgap, htext, hstate,
    line_eq_line_iff hne (by simp) hclean (hrender ▸ hclean), depthOf_braceBlockStart hdeclared,
    depthOf_of_content hdeclared hcontent, hdepth, and_iff_left hrender]
  rfl

/-- A statement whose line opens a brace block is laid out as it was only in few places. -/
theorem laidOutAgain_opens_iff {t : Text} (ht : IsClean t) (hs : Reads true p t s)
    (hmode : p.mode = .sequence) (hp : p.dialect = some .sequenceDiagram)
    (hdeclared : q.state.declared = true) (hss : Legible true p ss)
    (hspaced : IsSpaced (q.step s).previous (q.step s).afterText ss)
    (hprevious : previous'.any Statement.isContentBeforeBlock =
      q.previous.any Statement.isContentBeforeBlock)
    (hread : Reads true p s.render (.braceBlockStart b name))
    (hrender : (Statement.braceBlockStart b name).render = s.render) (hinner : s.isInner = true) :
    LaidOutAgain settings p q previous' (s :: ss) ↔
      0 < q.state.braces ∧ (q.previous.any Statement.isContentBeforeBlock && q.afterText) = false ∧
        ∀ s' ∈ ss, s' = .blank ∨ s'.placement = .margin := by
  have hne : s ≠ .blank := by
    rintro rfl
    cases hinner
  have hnonempty : s.render ≠ [] := render_ne_nil hs hne
  have hclean := isClean_render ht hs
  have hplaced (rest : List Statement) :=
    placedFrom_opens_iff settings ss rest hdeclared hprevious hclean hnonempty hinner hrender
  have hrest (hbraces : 0 < q.state.braces) :
      (∃ rest, ReadsAll true p (ss.map Statement.render) rest ∧
        placedFrom settings q.state.openBrace (spacedFrom (some (.braceBlockStart b name)) true rest) =
          placedFrom settings q.state ss) ↔ ∀ s' ∈ ss, s' = .blank ∨ s'.placement = .margin := by
    have htext : (q.step s).afterText = true := by
      rw [Pass.step_of_ne hne]
      exact decide_eq_true hnonempty
    rw [htext] at hspaced
    exact opened_iff hss hmode hp hspaced (by simp [Statement.isContentBeforeBlock]) hdeclared hbraces
  rw [laidOutAgain_cons_iff hclean]
  constructor
  · rintro ⟨s', rest, hs', hrest', heq⟩
    cases reads_unique hs' hread
    rw [Progress.next_of_sequence hmode] at hrest'
    obtain ⟨hgap, hbraces, hplaced'⟩ := (hplaced rest).1 heq
    exact ⟨hbraces, hgap, (hrest hbraces).1 ⟨rest, hrest', hplaced'⟩⟩
  · rintro ⟨hbraces, hgap, hmargin⟩
    obtain ⟨rest, hrest', hplaced'⟩ := (hrest hbraces).2 hmargin
    refine ⟨_, rest, hread, ?_, (hplaced rest).2 ⟨hgap, hbraces, hplaced'⟩⟩
    rwa [Progress.next_of_sequence hmode]

end opens

/-- Legible statements whose blank lines are settled are laid out as they were, after their lines have
been read again, exactly if they are steady. -/
theorem laidOutAgain_iff (h : Legible true p ss) (hstep : InStep p q)
    (hspaced : IsSpaced q.previous q.afterText ss)
    (hprevious : previous'.any Statement.isContentBeforeBlock =
      q.previous.any Statement.isContentBeforeBlock) :
    LaidOutAgain settings p q previous' ss ↔ SteadyFrom p q ss := by
  induction h generalizing q previous' with
  | nil => exact iff_of_true ⟨[], .nil, rfl⟩ (steadyFrom_nil _ _)
  | @cons p t s ss ht hs hss ih =>
    have hclean := isClean_render ht hs
    have hspaced' : IsSpaced (q.after [s]).previous (q.after [s]).afterText ss := hspaced.right
    rw [Pass.after_cons, Pass.after_nil] at hspaced'
    have ih := fun previous' hprevious => @ih (q.step s) previous' (hstep.next s) hspaced' hprevious
    rw [steadyFrom_cons_iff]
    by_cases hne : s = .blank
    · subst hne
      have hsteady : Statement.IsSteady q ss .blank := trivial
      rw [laidOutAgain_blank_iff hspaced.afterText_eq_true, and_iff_right fun _ => hsteady]
      rw [Progress.next_blank] at ih ⊢
      exact ih previous' hprevious
    · have hgap := hspaced.gap_eq_false hne
      -- if `s` is laid out alike, all depends on the rest
      have halike {s' : Statement} (hread : Reads true p s.render s') (h : Alike s s')
          (hnext : p.next s' = p.next s) :
          LaidOutAgain settings p q previous' (s :: ss) ↔ SteadyFrom (p.next s) (q.step s) ss := by
        rw [laidOutAgain_alike_iff ht hs hne hgap hprevious hread h hnext]
        refine ih (some s') ?_
        rw [Pass.step_of_ne hne]
        exact h.isContentBeforeBlock
      by_cases hseq : p.dialect = some .sequenceDiagram
      · have hmode := hstep.mode hseq
        have hdeclared := hstep.declared hseq
        have hnext (s : Statement) : p.next s = p := Progress.next_of_sequence hmode s
        rw [forall_prop_of_true hseq]
        cases outcome ht hs hmode hseq with
        | alike hread h hsteady =>
          rw [and_iff_right (hsteady q ss)]
          exact halike hread h (by rw [hnext, hnext])
        | differs h hsteady =>
          -- the very next line is another one
          refine iff_of_false ?_ fun h => hsteady q ss h.1
          rw [laidOutAgain_cons_iff hclean]
          rintro ⟨s', rest, hs', -, heq⟩
          have hne' := ne_blank_of_reads_render hs hne hs'
          have hline := LayoutState.line_ne_nil hne (render_ne_nil hs hne) settings q.state
          exact line_ne_of_differs (h s' hs') hne hne' hclean (isClean_render hclean hs') hdeclared
            ((placedFrom_spacedFrom_cons_iff hne' hline).1 heq).2.1
        | opens hread hrender hinner hsteady =>
          rw [hnext] at hss ⊢
          rw [laidOutAgain_opens_iff ht hs hmode hseq hdeclared hss hspaced' hprevious hread hrender
            hinner, hsteady q ss, iff_self_and]
          exact fun h => steadyFrom_of_margin h.2.2
      · -- outside sequence diagrams there are no messages, and nothing changes
        rw [and_iff_right fun h => absurd h hseq]
        refine halike (reads_render ht hs fun _ h => absurd h hseq) s.alike_respaced ?_
        exact Progress.next_congr s.declared?_respaced s.isPreamble_respaced p

/-! ### Blank lines do not matter -/

theorem isSteady_congr {q : Pass} {after after' : List Statement} (h : nonBlank after' = nonBlank after)
    (s : Statement) : s.IsSteady q after' ↔ s.IsSteady q after := by
  have hmem (ss : List Statement) : (∀ s ∈ ss, s = .blank ∨ s.placement = .margin) ↔
      ∀ s ∈ nonBlank ss, s.placement = .margin := by
    simp only [nonBlank, List.mem_filter, decide_eq_true_eq, and_imp]
    exact forall₂_congr fun s _ => or_iff_not_imp_left
  cases s with
  | message m =>
    simp only [Statement.IsSteady]
    rw [hmem after', hmem after, h]
  | _ => exact Iff.rfl

theorem steadyFrom_spacedFrom_iff (p : Progress) (q : Pass) (ss : List Statement) :
    SteadyFrom p q (spacedFrom q.previous q.afterText ss) ↔ SteadyFrom p q ss := by
  induction ss generalizing p q with
  | nil => exact Iff.rfl
  | cons s ss ih =>
    have ih := ih (p.next s) (q.step s)
    have hblank (q : Pass) (ss : List Statement) :
        SteadyFrom p q (.blank :: ss) ↔ SteadyFrom p (q.step .blank) ss := by
      have hsteady : Statement.IsSteady q ss .blank := trivial
      rw [steadyFrom_cons_iff, and_iff_right fun _ => hsteady, Progress.next_blank]
    rw [spacedFrom]
    split_ifs with hs ha hg
    · subst hs
      rw [Progress.next_blank] at ih
      rw [List.singleton_append, hblank, hblank]
      exact ih
    · subst hs
      rw [Progress.next_blank] at ih
      rw [List.nil_append, hblank, ← ih]
      have hq : q.step .blank = q := by
        rw [Pass.step_blank]
        cases q
        simp_all
      rw [hq]
      simp only [Bool.not_eq_true] at ha
      rw [ha]
    · -- a blank line is put in before a statement that opens a block, and these are steady
      have hsteady (q : Pass) (after : List Statement) : s.IsSteady q after := by
        cases s <;> trivial
      have hstep : (q.step .blank).step s = q.step s := by
        rw [Pass.step_of_ne hs, Pass.step_of_ne hs]
        rfl
      rw [List.singleton_append, hblank, steadyFrom_cons_iff, steadyFrom_cons_iff, hstep, ← ih,
        Pass.step_of_ne hs]
      exact and_congr_left fun _ => iff_of_true (fun _ => hsteady _ _) fun _ => hsteady _ _
    · rw [List.nil_append, steadyFrom_cons_iff, steadyFrom_cons_iff, ← ih, Pass.step_of_ne hs,
        isSteady_congr (nonBlank_spacedFrom _ _ ss)]

theorem steadyFrom_append_blank_iff {blanks : List Statement} (h : ∀ s ∈ blanks, s = .blank)
    (p : Progress) (q : Pass) (ss : List Statement) :
    SteadyFrom p q (ss ++ blanks) ↔ SteadyFrom p q ss := by
  induction ss generalizing p q with
  | nil => exact iff_of_true (steadyFrom_of_margin fun s hs => .inl (h s hs)) (steadyFrom_nil p q)
  | cons s ss ih =>
    have hnil : nonBlank blanks = [] := by simpa [nonBlank] using h
    have hnonBlank : nonBlank (ss ++ blanks) = nonBlank ss := by
      rw [nonBlank_append, hnil, List.append_nil]
    rw [List.cons_append, steadyFrom_cons_iff, steadyFrom_cons_iff, ih, isSteady_congr hnonBlank]

theorem steadyFrom_canonical_iff (ss : List Statement) :
    SteadyFrom {} {} (canonical ss) ↔ SteadyFrom {} {} ss := by
  obtain ⟨blanks, hspaced, hblanks⟩ := exists_spacedFrom_eq ss
  rw [← steadyFrom_append_blank_iff hblanks, ← hspaced]
  exact steadyFrom_spacedFrom_iff {} {} ss

end run

end MermaidTidy
