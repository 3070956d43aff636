import Mathlib.Data.List.DropRight
import Mathlib.Tactic
import MermaidTidy.Layout.Lines
import MermaidTidy.Proofs.Text.Lines

/-!
# Blank lines and places

A pass over the statements does two things that do not depend on each other: it settles the blank
lines, and it puts every statement in its place. Only the second one knows the settings.

* `spacedFrom` settles the blank lines and `placedFrom` places the statements; `layoutFrom_eq` says
  that a pass is one after the other;
* `IsSpaced` says that the blank lines are settled already, so that `spacedFrom` changes nothing;
* `canonical` are the statements that the text of a diagram shows (`format_eq_serialize`);
* `Alike` relates statements that a pass does not tell apart.
-/

namespace MermaidTidy

open Text

/-! ### Blank lines -/

/-- The statements with the blank lines of the layout. `previous` is the nearest statement before
that is not blank, and `afterText` says whether the line before exists and is not empty. -/
def spacedFrom : Option Statement → Bool → List Statement → List Statement
  | _, _, [] => []
  | previous, afterText, s :: ss =>
    if s = .blank then
      (if afterText then [.blank] else []) ++ spacedFrom previous false ss
    else
      (if needsBlankBefore (some s) previous && afterText then [.blank] else []) ++
        s :: spacedFrom (some s) (s.render ≠ []) ss

/-- The blank lines are those of the layout: one where the rules call for it, never two, and none at
the start. -/
inductive IsSpaced : Option Statement → Bool → List Statement → Prop
  | nil {previous : Option Statement} {afterText : Bool} : IsSpaced previous afterText []
  | blank {previous : Option Statement} {ss : List Statement} (h : IsSpaced previous false ss) :
      IsSpaced previous true (.blank :: ss)
  | cons {previous : Option Statement} {afterText : Bool} {s : Statement} {ss : List Statement}
      (hs : s ≠ .blank) (hgap : (needsBlankBefore (some s) previous && afterText) = false)
      (h : IsSpaced (some s) (s.render ≠ []) ss) : IsSpaced previous afterText (s :: ss)

theorem isSpaced_spacedFrom (previous : Option Statement) (afterText : Bool) (ss : List Statement) :
    IsSpaced previous afterText (spacedFrom previous afterText ss) := by
  induction ss generalizing previous afterText with
  | nil => exact .nil
  | cons s ss ih =>
    rw [spacedFrom]
    split_ifs with hs ha hg
    · subst ha
      exact .blank (ih previous false)
    · simpa [ha] using ih previous false
    · have ha : afterText = true := (Bool.and_eq_true_iff.1 hg).2
      subst ha
      exact .blank (.cons hs (Bool.and_false _) (ih _ _))
    · exact .cons hs (Bool.eq_false_iff.2 hg) (ih _ _)

theorem IsSpaced.spacedFrom_eq {previous : Option Statement} {afterText : Bool} {ss : List Statement}
    (h : IsSpaced previous afterText ss) : spacedFrom previous afterText ss = ss := by
  induction h with
  | nil => rfl
  | blank _ ih => rw [spacedFrom, if_pos rfl, if_pos rfl, ih, List.singleton_append]
  | cons hs hgap _ ih =>
    rw [spacedFrom, if_neg hs, if_neg (by simp [hgap]), ih, List.nil_append]

theorem IsSpaced.gap_eq_false {previous : Option Statement} {afterText : Bool} {s : Statement}
    {ss : List Statement} (h : IsSpaced previous afterText (s :: ss)) (hs : s ≠ .blank) :
    (needsBlankBefore (some s) previous && afterText) = false := by
  cases h with
  | blank => exact absurd rfl hs
  | cons _ hgap _ => exact hgap

theorem IsSpaced.afterText_eq_true {previous : Option Statement} {afterText : Bool}
    {ss : List Statement} (h : IsSpaced previous afterText (.blank :: ss)) : afterText = true := by
  cases h with
  | blank => rfl
  | cons hs => exact absurd rfl hs

theorem IsSpaced.left {previous : Option Statement} {afterText : Bool} {ss ss' : List Statement}
    (h : IsSpaced previous afterText (ss ++ ss')) : IsSpaced previous afterText ss := by
  induction ss generalizing previous afterText with
  | nil => exact .nil
  | cons s ss ih =>
    rw [List.cons_append] at h
    cases h with
    | blank h => exact .blank (ih h)
    | cons hs hgap h => exact .cons hs hgap (ih h)

/-- The statements that are not blank. -/
def nonBlank (ss : List Statement) : List Statement := ss.filter (· ≠ .blank)

@[simp] theorem nonBlank_nil : nonBlank [] = [] := rfl

@[simp] theorem nonBlank_cons_blank (ss : List Statement) : nonBlank (.blank :: ss) = nonBlank ss := rfl

theorem nonBlank_cons {s : Statement} (hs : s ≠ .blank) (ss : List Statement) :
    nonBlank (s :: ss) = s :: nonBlank ss :=
  List.filter_cons_of_pos (decide_eq_true hs)

@[simp] theorem nonBlank_append (ss ss' : List Statement) :
    nonBlank (ss ++ ss') = nonBlank ss ++ nonBlank ss' :=
  List.filter_append ss ss'

/-- Blank lines come and go, and nothing else does. -/
@[simp] theorem nonBlank_spacedFrom (previous : Option Statement) (afterText : Bool)
    (ss : List Statement) : nonBlank (spacedFrom previous afterText ss) = nonBlank ss := by
  induction ss generalizing previous afterText with
  | nil => rfl
  | cons s ss ih =>
    rw [spacedFrom]
    split_ifs with hs ha hg
    · subst hs
      simp [ih]
    · subst hs
      simp [ih]
    · simp [nonBlank_cons hs, ih]
    · simp [nonBlank_cons hs, ih]

/-! ### Places -/

/-- The line of a statement under a layout state. -/
def LayoutState.line (settings : Settings) (st : LayoutState) (s : Statement) : Text :=
  if s = .blank then [] else Pass.line settings { state := st } s

/-- The layout state behind a statement. -/
def LayoutState.next (st : LayoutState) (s : Statement) : LayoutState :=
  Pass.stateAfter { state := st } s

/-- The lines of statements whose blank lines are settled. -/
def placedFrom (settings : Settings) : LayoutState → List Statement → List Text
  | _, [] => []
  | st, s :: ss => st.line settings s :: placedFrom settings (st.next s) ss

variable {settings : Settings} {st : LayoutState} {s : Statement} {ss : List Statement}

@[simp] theorem LayoutState.line_blank (settings : Settings) (st : LayoutState) :
    st.line settings .blank = [] := rfl

@[simp] theorem LayoutState.next_blank (st : LayoutState) : st.next .blank = st := rfl

/-- A line is an indentation and the rendered statement. -/
theorem LayoutState.exists_line_eq (settings : Settings) (st : LayoutState) (s : Statement) :
    ∃ depth, st.line settings s = settings.indent depth ++ s.render := by
  by_cases h : s = .blank
  · subst h
    exact ⟨0, by simp [Statement.render]⟩
  · exact ⟨_, if_neg h⟩

/-- At the margin there is no indentation. -/
theorem LayoutState.line_of_margin (h : s.placement = .margin) (settings : Settings)
    (st : LayoutState) : st.line settings s = s.render := by
  have hs : s ≠ .blank := by
    rintro rfl
    cases h
  have hdepth : (Pass.stateAt { state := st } s).depth (some s) = 0 := by
    simp [LayoutState.depth, Placement.depth, h]
  rw [line, if_neg hs, Pass.line, hdepth, Settings.indent_zero, List.nil_append]

theorem placedFrom_append (settings : Settings) (st : LayoutState) (ss ss' : List Statement) :
    placedFrom settings st (ss ++ ss') =
      placedFrom settings st ss ++ placedFrom settings (ss.foldl LayoutState.next st) ss' := by
  induction ss generalizing st with
  | nil => rfl
  | cons s ss ih => rw [List.cons_append, placedFrom, placedFrom, ih, List.foldl_cons, List.cons_append]

theorem length_placedFrom (settings : Settings) (st : LayoutState) (ss : List Statement) :
    (placedFrom settings st ss).length = ss.length := by
  induction ss generalizing st with
  | nil => rfl
  | cons s ss ih => rw [placedFrom, List.length_cons, List.length_cons, ih]

/-- Every line is that of a statement. -/
theorem exists_of_mem_placedFrom {l : Text} (h : l ∈ placedFrom settings st ss) :
    ∃ s ∈ ss, ∃ depth, l = settings.indent depth ++ s.render := by
  induction ss generalizing st with
  | nil => cases h
  | cons s ss ih =>
    rcases List.mem_cons.1 h with rfl | h
    · exact ⟨s, List.mem_cons_self, LayoutState.exists_line_eq settings st s⟩
    · obtain ⟨s', hs', hl⟩ := ih h
      exact ⟨s', List.mem_cons_of_mem s hs', hl⟩

/-- The depth of a statement under a layout state. -/
def LayoutState.depthOf (st : LayoutState) (s : Statement) : Nat :=
  (Pass.stateAt { state := st } s).depth (some s)

theorem LayoutState.line_eq (hs : s ≠ .blank) (settings : Settings) (st : LayoutState) :
    st.line settings s = settings.indent (st.depthOf s) ++ s.render := if_neg hs

theorem LayoutState.line_ne_nil (hs : s ≠ .blank) (h : s.render ≠ []) (settings : Settings)
    (st : LayoutState) : st.line settings s ≠ [] := by
  rw [line_eq hs]
  exact List.append_ne_nil_of_right_ne_nil _ h

theorem declared_next (h : st.declared = true) (s : Statement) : (st.next s).declared = true := by
  cases s <;> first | exact h | rfl

theorem depthOf_of_margin (hs : s.placement = .margin) (st : LayoutState) : st.depthOf s = 0 := by
  simp [LayoutState.depthOf, LayoutState.depth, Placement.depth, hs]

theorem depthOf_of_content (h : st.declared = true) (hs : s.placement = .content) :
    st.depthOf s = max st.braces 1 := by
  have hstate : Pass.stateAt { state := st } s = st := by cases s <;> first | rfl | cases hs
  simp [LayoutState.depthOf, LayoutState.depth, Placement.depth, hs, hstate, h]

theorem depthOf_braceBlockStart (h : st.declared = true) (b : BraceBlockKind) (name : Text) :
    st.depthOf (.braceBlockStart b name) = st.braces := by
  simp [LayoutState.depthOf, LayoutState.depth, Placement.depth, Statement.placement, Pass.stateAt, h]

/-- A closing brace stands where its block began; without an open block it is at the margin. -/
theorem depthOf_braceBlockEnd (h : st.declared = true ∨ st.braces = 0) :
    st.depthOf .braceBlockEnd = st.braces - 1 := by
  have hdepth : st.depthOf .braceBlockEnd = if st.declared then st.braces - 1 else 0 := rfl
  rw [hdepth]
  rcases h with h | h
  · rw [if_pos h]
  · simp [h]

/-! ### The pass behind some statements -/

namespace Pass

/-- The pass behind a statement that may be blank. -/
def step (q : Pass) (s : Statement) : Pass :=
  if s = .blank then { q with afterText := false } else ⟨q.state.next s, some s, s.render ≠ []⟩

/-- The pass behind some statements. -/
def after (q : Pass) (ss : List Statement) : Pass := ss.foldl step q

@[simp] theorem after_nil (q : Pass) : q.after [] = q := rfl

@[simp] theorem after_cons (q : Pass) (s : Statement) (ss : List Statement) :
    q.after (s :: ss) = (q.step s).after ss := rfl

@[simp] theorem step_blank (q : Pass) : q.step .blank = { q with afterText := false } := rfl

theorem step_of_ne {s : Statement} (hs : s ≠ .blank) (q : Pass) :
    q.step s = ⟨q.state.next s, some s, s.render ≠ []⟩ := if_neg hs

theorem state_step (q : Pass) (s : Statement) : (q.step s).state = q.state.next s := by
  by_cases hs : s = .blank
  · subst hs
    rfl
  · rw [step_of_ne hs]

end Pass

theorem spacedFrom_append (q : Pass) (ss ss' : List Statement) :
    spacedFrom q.previous q.afterText (ss ++ ss') =
      spacedFrom q.previous q.afterText ss ++
        spacedFrom (q.after ss).previous (q.after ss).afterText ss' := by
  induction ss generalizing q with
  | nil => rfl
  | cons s ss ih =>
    rw [List.cons_append, spacedFrom, spacedFrom, Pass.after_cons]
    have ih := ih (q.step s)
    by_cases hs : s = .blank
    · rw [if_pos hs, if_pos hs]
      rw [hs, Pass.step_blank] at ih ⊢
      rw [List.append_assoc, ← ih]
    · rw [if_neg hs, if_neg hs]
      rw [Pass.step_of_ne hs] at ih ⊢
      rw [List.append_assoc, List.cons_append, ← ih]

theorem IsSpaced.right {q : Pass} {ss ss' : List Statement}
    (h : IsSpaced q.previous q.afterText (ss ++ ss')) :
    IsSpaced (q.after ss).previous (q.after ss).afterText ss' := by
  induction ss generalizing q with
  | nil => exact h
  | cons s ss ih =>
    rw [Pass.after_cons]
    apply ih
    rw [List.cons_append] at h
    generalize hp : q.previous = previous at h
    generalize ha : q.afterText = afterText at h
    cases h with
    | blank h => exact hp ▸ h
    | cons hs _ h => rwa [Pass.step_of_ne hs]

/-! ### A pass is spacing and placing -/

/-- Statements whose line is empty are at the margin, so that their line is empty under all
settings. -/
def NoEmptyContent (ss : List Statement) : Prop :=
  ∀ s ∈ ss, s ≠ .blank → s.render = [] → s.placement = .margin

theorem layoutFrom_cons (hs : s ≠ .blank) (settings : Settings) (p : Pass) (ss : List Statement) :
    layoutFrom settings p (s :: ss) =
      (if p.gapBefore s then [[]] else []) ++
        p.line settings s :: layoutFrom settings (p.next settings s) ss := by
  cases s with
  | blank => exact absurd rfl hs
  | _ => rfl

/-- Every line is empty or that of a statement. -/
theorem exists_of_mem_layoutFrom {q : Pass} {l : Text} (h : l ∈ layoutFrom settings q ss) :
    l = [] ∨ ∃ s ∈ ss, ∃ depth, l = settings.indent depth ++ s.render := by
  have later {s : Statement} {ss : List Statement} {l : Text}
      (h : l = [] ∨ ∃ s ∈ ss, ∃ depth, l = settings.indent depth ++ s.render) :
      l = [] ∨ ∃ s' ∈ s :: ss, ∃ depth, l = settings.indent depth ++ s'.render :=
    h.imp_right fun ⟨s', hs', hl⟩ => ⟨s', List.mem_cons_of_mem s hs', hl⟩
  induction ss generalizing q with
  | nil => cases h
  | cons s ss ih =>
    by_cases hs : s = .blank
    · subst hs
      rw [layoutFrom] at h
      split_ifs at h
      · rcases List.mem_cons.1 h with rfl | h
        · exact .inl rfl
        · exact later (ih h)
      · exact later (ih h)
    · rw [layoutFrom_cons hs, List.mem_append, List.mem_cons] at h
      rcases h with h | rfl | h
      · left
        split_ifs at h
        · exact List.mem_singleton.1 h
        · cases h
      · exact .inr ⟨s, List.mem_cons_self, _, rfl⟩
      · exact later (ih h)

theorem layoutFrom_eq (h : NoEmptyContent ss) (settings : Settings) (p : Pass) :
    layoutFrom settings p ss = placedFrom settings p.state (spacedFrom p.previous p.afterText ss) := by
  -- the two halves of a pass meet in `afterText`: a line is empty just if its statement is
  induction ss generalizing p with
  | nil => rfl
  | cons s ss ih =>
    have hss : NoEmptyContent ss := fun s' hs' => h s' (List.mem_cons_of_mem s hs')
    by_cases hs : s = .blank
    · subst hs
      rw [layoutFrom, spacedFrom, if_pos rfl, ih hss, ih hss]
      cases hp : p.afterText with
      | false => simp
      | true => simp [placedFrom]
    · have hline : p.line settings s = p.state.line settings s := (if_neg hs).symm
      have hempty : p.state.line settings s = [] ↔ s.render = [] := by
        constructor
        · intro hl
          obtain ⟨depth, hd⟩ := LayoutState.exists_line_eq settings p.state s
          exact (List.append_eq_nil_iff.1 (hd ▸ hl)).2
        · intro hr
          rw [LayoutState.line_of_margin (h s List.mem_cons_self hs hr), hr]
      have hnext : p.next settings s = ⟨p.state.next s, some s, s.render ≠ []⟩ := by
        unfold Pass.next
        rw [hline]
        simp only [ne_eq, hempty]
        rfl
      rw [layoutFrom_cons hs, spacedFrom, if_neg hs, ih hss, hnext, hline]
      unfold Pass.gapBefore
      split_ifs with hg
      · simp [placedFrom]
      · simp [placedFrom]

/-! ### Lines put together -/

/-- What is kept of some lines in their text. -/
theorem exists_serialize_eq (lines : List Text) :
    ∃ kept white, lines = kept ++ white ∧ (∀ l ∈ white, strip l = []) ∧
      (∀ l ∈ kept.getLast?, strip l ≠ []) ∧
        serialize lines = if kept = [] then [] else unlines kept ++ ['\n'] := by
  refine ⟨lines.rdropWhile (strip · = []), _, List.rdropWhile_append_rtakeWhile.symm,
    fun l hl => by simpa using List.mem_rtakeWhile_imp hl, fun l hl hwhite => ?_, ?_⟩
  · obtain ⟨hne, rfl⟩ := List.mem_getLast?_eq_getLast hl
    exact List.rdropWhile_last_not _ _ hne (decide_eq_true hwhite)
  · unfold serialize
    rw [← List.rdropWhile]
    cases lines.rdropWhile (strip · = []) <;> rfl

/-- The lines that are kept, each with its line feed. -/
theorem serialize_eq_flatMap (lines : List Text) :
    serialize lines = (lines.rdropWhile (strip · = [])).flatMap (· ++ ['\n']) := by
  unfold serialize
  rw [← List.rdropWhile]
  cases h : lines.rdropWhile (strip · = []) with
  | nil => rfl
  | cons l ls => exact (flatMap_newline (List.cons_ne_nil l ls)).symm

theorem hasLines_serialize {lines : List Text} (h : ∀ l ∈ lines, '\n' ∉ l) :
    HasLines (serialize lines) (lines.rdropWhile (strip · = [])) :=
  ⟨serialize_eq_flatMap lines, fun l hl => h l ((List.rdropWhile_prefix _ lines).subset hl)⟩

theorem exists_hasLines_serialize {lines : List Text} (h : ∀ l ∈ lines, '\n' ∉ l) :
    ∃ kept, HasLines (serialize lines) kept ∧ kept ⊆ lines ∧ ∀ l ∈ kept.getLast?, strip l ≠ [] := by
  refine ⟨_, hasLines_serialize h, (List.rdropWhile_prefix _ lines).subset, fun l hl hwhite => ?_⟩
  obtain ⟨hne, rfl⟩ := List.mem_getLast?_eq_getLast hl
  exact List.rdropWhile_last_not _ _ hne (decide_eq_true hwhite)

theorem serialize_append_of_white {lines white : List Text} (h : ∀ l ∈ white, strip l = []) :
    serialize (lines ++ white) = serialize lines := by
  have hdrop : (lines ++ white).reverse.dropWhile (strip · = []) =
      lines.reverse.dropWhile (strip · = []) := by
    rw [List.reverse_append, List.dropWhile_append_of_pos]
    intro l hl
    exact decide_eq_true (h l (List.mem_reverse.1 hl))
  unfold serialize
  rw [hdrop]

theorem serialize_of_getLast? {lines : List Text} (hne : lines ≠ [])
    (hlast : ∀ l ∈ lines.getLast?, strip l ≠ []) : serialize lines = unlines lines ++ ['\n'] := by
  obtain ⟨kept, white, rfl, hwhite, -, hser⟩ := exists_serialize_eq lines
  have hnil : white = [] := by
    by_contra hw
    refine hlast (white.getLast hw) ?_ (hwhite _ (List.getLast_mem hw))
    rw [List.getLast?_append_of_ne_nil _ hw]
    exact List.getLast_mem_getLast? hw
  subst hnil
  rw [List.append_nil] at hne ⊢
  rw [List.append_nil] at hser
  rw [hser, if_neg hne]

/-! ### The text of a diagram -/

/-- The statements that the text of a diagram shows: the blank lines are those of the layout, and
there are none at the end. -/
def canonical (ss : List Statement) : List Statement :=
  (spacedFrom none false ss).rdropWhile (· = .blank)

theorem exists_spacedFrom_eq (ss : List Statement) :
    ∃ blanks, spacedFrom none false ss = canonical ss ++ blanks ∧ ∀ s ∈ blanks, s = .blank := by
  refine ⟨_, List.rdropWhile_append_rtakeWhile.symm, fun s hs => ?_⟩
  simpa using List.mem_rtakeWhile_imp hs

theorem isSpaced_canonical (ss : List Statement) : IsSpaced none false (canonical ss) := by
  obtain ⟨blanks, h, -⟩ := exists_spacedFrom_eq ss
  exact IsSpaced.left (h ▸ isSpaced_spacedFrom none false ss)

@[simp] theorem nonBlank_canonical (ss : List Statement) : nonBlank (canonical ss) = nonBlank ss := by
  obtain ⟨blanks, h, hblanks⟩ := exists_spacedFrom_eq ss
  have hnil : nonBlank blanks = [] := by simpa [nonBlank] using hblanks
  rw [← nonBlank_spacedFrom none false ss, h, nonBlank_append, hnil, List.append_nil]

theorem getLast?_canonical (ss : List Statement) : ∀ s ∈ (canonical ss).getLast?, s ≠ .blank := by
  intro s hs hblank
  obtain ⟨hne, rfl⟩ := List.mem_getLast?_eq_getLast hs
  exact List.rdropWhile_last_not _ _ hne (decide_eq_true hblank)

/-- Spacing puts no blank line at the end. -/
theorem canonical_eq_spacedFrom (h : ∀ s ∈ ss.getLast?, s ≠ .blank) :
    canonical ss = spacedFrom none false ss := by
  rcases List.eq_nil_or_concat ss with rfl | ⟨before, s, rfl⟩
  · rfl
  · rw [List.concat_eq_append] at h ⊢
    have hs : s ≠ .blank := h s (List.getLast?_concat ..)
    have happend := spacedFrom_append {} before [s]
    rw [spacedFrom, if_neg hs, ← List.append_assoc] at happend
    rw [canonical, happend]
    exact List.rdropWhile_concat_neg _ _ _ (by simpa using hs)

/-- Statements in canonical form stay as they are. -/
theorem canonical_eq_self (h : IsSpaced none false ss) (hlast : ∀ s ∈ ss.getLast?, s ≠ .blank) :
    canonical ss = ss := by
  rw [canonical, h.spacedFrom_eq, List.rdropWhile_eq_self_iff]
  intro hne hblank
  exact hlast _ (List.getLast_mem_getLast? hne) (of_decide_eq_true hblank)

/-- The text of a diagram is that of its canonical statements. -/
theorem format_eq_serialize {d : Diagram} (h : NoEmptyContent d.statements) (settings : Settings) :
    d.format settings = serialize (placedFrom settings {} (canonical d.statements)) := by
  obtain ⟨blanks, hspaced, hblanks⟩ := exists_spacedFrom_eq d.statements
  have hwhite : ∀ l ∈ placedFrom settings ((canonical d.statements).foldl LayoutState.next {}) blanks,
      strip l = [] := by
    generalize (canonical d.statements).foldl LayoutState.next {} = st
    clear hspaced
    induction blanks generalizing st with
    | nil => simp [placedFrom]
    | cons s blanks ih =>
      intro l hl
      rcases List.mem_cons.1 hl with rfl | hl
      · rw [hblanks s List.mem_cons_self]
        rfl
      · exact ih (fun s hs => hblanks s (List.mem_cons_of_mem _ hs)) _ l hl
  rw [Diagram.format, layoutLines, layoutFrom_eq h, hspaced, placedFrom_append]
  exact serialize_append_of_white hwhite

/-! ### Statements that are laid out alike -/

/-- Every pass gives the two statements the same place. -/
structure PlacedAlike (s s' : Statement) : Prop where
  blank : s' = .blank ↔ s = .blank
  placement : s'.placement = s.placement
  opensBlock : s'.opensBlock = s.opensBlock
  isContentBeforeBlock : s'.isContentBeforeBlock = s.isContentBeforeBlock
  stateAt : ∀ p : Pass, p.stateAt s' = p.stateAt s
  stateAfter : ∀ p : Pass, p.stateAfter s' = p.stateAfter s

/-- No pass tells the two statements apart. -/
structure Alike (s s' : Statement) : Prop extends PlacedAlike s s' where
  render : s'.render = s.render

theorem PlacedAlike.refl (s : Statement) : PlacedAlike s s :=
  ⟨.rfl, rfl, rfl, rfl, fun _ => rfl, fun _ => rfl⟩

theorem Alike.refl (s : Statement) : Alike s s := ⟨.refl s, rfl⟩

theorem Alike.line {s' : Statement} (h : Alike s s') (settings : Settings) (st : LayoutState) :
    st.line settings s' = st.line settings s := by
  simp [LayoutState.line, Pass.line, h.blank, h.stateAt, LayoutState.depth, h.placement, h.render]

theorem Alike.placedFrom {ss' : List Statement} (h : List.Forall₂ Alike ss ss') (settings : Settings)
    (st : LayoutState) : placedFrom settings st ss' = placedFrom settings st ss := by
  induction h generalizing st with
  | nil => rfl
  | cons hs _ ih =>
    rw [MermaidTidy.placedFrom, MermaidTidy.placedFrom, hs.line, LayoutState.next, hs.stateAfter, ih]
    rfl

theorem Alike.isSpaced {previous previous' : Option Statement} {afterText : Bool}
    {ss' : List Statement} (h : List.Forall₂ Alike ss ss')
    (hprevious : previous'.any Statement.isContentBeforeBlock =
      previous.any Statement.isContentBeforeBlock)
    (hss : IsSpaced previous afterText ss) : IsSpaced previous' afterText ss' := by
  induction hss generalizing previous' ss' with
  | nil =>
    cases h
    exact .nil
  | blank _ ih =>
    cases h with
    | cons hs h =>
      rw [hs.blank.2 rfl]
      exact .blank (ih h hprevious)
  | cons hne hgap _ ih =>
    cases h with
    | cons hs h =>
      refine .cons (fun hb => hne (hs.blank.1 hb)) ?_ ?_
      · simpa [needsBlankBefore, hs.opensBlock, hprevious] using hgap
      · rw [hs.render]
        exact ih h hs.isContentBeforeBlock

end MermaidTidy
