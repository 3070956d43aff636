import Mathlib.Tactic
import MermaidTidy.Proofs.Layout.Parts
import MermaidTidy.Proofs.Layout.Room
import MermaidTidy.Proofs.Source.Reading
import MermaidTidy.Proofs.Source.Rendered

/-!
# Where blank lines are

The lines of a diagram, said without a pass over its statements: each statement that is not blank has
a line, and an empty line stands between two of them just if they have a gap.

* `Diagram.content` are the statements that are not blank, each with its place;
* `Diagram.Gap` says between which of them an empty line stands, and `withGaps` writes it there;
* `Diagram.ShowsContent` says that only blank lines and frontmatter are empty, and that no
  frontmatter ends with an empty line; a source has no other diagram (`showsContent_of_parse`);
* `layoutFrom_eq_linesOf`: a pass gives these lines, from any place of the diagram on.
-/

namespace MermaidTidy

open Text

/-! ### Lines with gaps -/

/-- The lines of the items, with an empty line between two neighbours that have a gap. -/
def withGaps {α : Type} (gap : α → α → Prop) [DecidableRel gap] (line : α → Text) :
    List α → List Text
  | [] => []
  | [a] => [line a]
  | a :: b :: l => line a :: ((if gap a b then [[]] else []) ++ withGaps gap line (b :: l))

theorem getLast?_withGaps {α : Type} (gap : α → α → Prop) [DecidableRel gap] (line : α → Text)
    (l : List α) : (withGaps gap line l).getLast? = l.getLast?.map line := by
  induction l with
  | nil => rfl
  | cons a l ih =>
    cases l with
    | nil => rfl
    | cons b l =>
      have hne : withGaps gap line (b :: l) ≠ [] := by cases l <;> simp [withGaps]
      rw [withGaps, ← List.cons_append, List.getLast?_append_of_ne_nil _ hne, ih,
        List.getLast?_cons_cons]

/-! ### Content and gaps -/

/-- The statements that are not blank, each with its place; places are counted from `n`. -/
def contentFrom (n : Nat) (ss : List Statement) : List (Statement × Nat) :=
  (ss.zipIdx n).filter (·.1 ≠ .blank)

@[simp] theorem contentFrom_nil (n : Nat) : contentFrom n [] = [] := rfl

@[simp] theorem contentFrom_blank (n : Nat) (ss : List Statement) :
    contentFrom n (.blank :: ss) = contentFrom (n + 1) ss := rfl

theorem contentFrom_cons {s : Statement} (hs : s ≠ .blank) (n : Nat) (ss : List Statement) :
    contentFrom n (s :: ss) = (s, n) :: contentFrom (n + 1) ss := by
  rw [contentFrom, List.zipIdx_cons, List.filter_cons_of_pos (by simpa using hs)]
  rfl

theorem le_of_mem_contentFrom {n : Nat} {ss : List Statement} {x : Statement × Nat}
    (hx : x ∈ contentFrom n ss) : n ≤ x.2 :=
  List.le_snd_of_mem_zipIdx (List.mem_of_mem_filter hx)

namespace Diagram

/-- The statements that are not blank, each with its place. -/
def content (d : Diagram) : List (Statement × Nat) := contentFrom 0 d.statements

/-- The layout state at a place. -/
def stateBefore (d : Diagram) (n : Nat) : LayoutState :=
  (d.statements.take n).foldl LayoutState.next {}

/-- The line of a statement at its place: its indentation and its text. -/
def lineAt (settings : Settings) (d : Diagram) (x : Statement × Nat) : Text :=
  settings.indent ((d.stateBefore x.2).depthOf x.1) ++ x.1.render

/-- A blank line lies behind place `i` and before place `j`. -/
def BlankBetween (d : Diagram) (i j : Nat) : Prop := ∃ m < j, i < m ∧ d.statements[m]? = some .blank

instance (d : Diagram) (i j : Nat) : Decidable (d.BlankBetween i j) :=
  inferInstanceAs (Decidable (∃ m < j, i < m ∧ d.statements[m]? = some .blank))

/-- An empty line stands between two neighbours of the content: a blank line lies between them
already, or the second one opens a block that must be set off from the first one. -/
def Gap (d : Diagram) (x y : Statement × Nat) : Prop :=
  d.BlankBetween x.2 y.2 ∨ y.1.opensBlock ∧ x.1.isContentBeforeBlock

instance (d : Diagram) : DecidableRel d.Gap := fun x y =>
  inferInstanceAs (Decidable (d.BlankBetween x.2 y.2 ∨ y.1.opensBlock ∧ x.1.isContentBeforeBlock))

/-- The lines from the first to the last statement that is not blank: each statement has its line, and
an empty line stands between two neighbours that have a gap. -/
def body (settings : Settings) (d : Diagram) : List Text :=
  withGaps d.Gap (d.lineAt settings) d.content

/-- A blank line follows the last statement that is not blank. -/
def EndsBlank (d : Diagram) : Prop :=
  ∃ x ∈ d.content.getLast?, d.BlankBetween x.2 d.statements.length

instance (d : Diagram) : Decidable d.EndsBlank :=
  inferInstanceAs (Decidable (∃ x ∈ d.content.getLast?, d.BlankBetween x.2 d.statements.length))

/-- Only blank lines and lines of frontmatter are empty, and an empty line of frontmatter is followed
by another line of it. -/
structure ShowsContent (d : Diagram) : Prop where
  render_ne_nil : ∀ s ∈ d.statements, s ≠ .blank → (∀ t, s ≠ .frontmatter t) → s.render ≠ []
  frontmatter : ∀ i, d.statements[i]? = some (.frontmatter []) →
    ∃ t, d.statements[i + 1]? = some (.frontmatter t)

variable {settings : Settings} {d : Diagram} {s : Statement} {n : Nat} {rest : List Statement}

theorem stateBefore_succ (hs : d.statements[n]? = some s) :
    d.stateBefore (n + 1) = (d.stateBefore n).next s := by
  rw [stateBefore, List.take_add_one, hs, List.foldl_append]
  rfl

/-! ### What comes behind a line -/

/-- An empty line comes behind `x`, where `next` is the content that follows, if there is any. -/
def GapBehind (d : Diagram) (x : Statement × Nat) (next : Option (Statement × Nat)) : Prop :=
  match next with
  | none => d.BlankBetween x.2 d.statements.length
  | some y => d.Gap x y

instance (d : Diagram) (x : Statement × Nat) (next : Option (Statement × Nat)) :
    Decidable (d.GapBehind x next) :=
  match next with
  | none => inferInstanceAs (Decidable (d.BlankBetween x.2 d.statements.length))
  | some y => inferInstanceAs (Decidable (d.Gap x y))

/-- Whether an empty line comes behind a statement can be seen at the next statement. -/
theorem gapBehind_iff (hrest : d.statements.drop (n + 1) = rest) (s : Statement) :
    d.GapBehind (s, n) (contentFrom (n + 1) rest).head? ↔
      rest.head? = some .blank ∨ needsBlankBefore rest.head? (some s) = true := by
  cases rest with
  | nil =>
    have hlen : d.statements.length ≤ n + 1 := List.drop_eq_nil_iff.1 hrest
    simp only [contentFrom_nil, List.head?_nil, GapBehind, BlankBetween, needsBlankBefore]
    constructor
    · rintro ⟨m, hm, hnm, -⟩
      omega
    · simp
  | cons a rest =>
    obtain ⟨ha, -⟩ := drop_eq_cons_iff.1 hrest
    by_cases hblank : a = .blank
    · -- the next statement is the blank line that lies between
      subst hblank
      refine iff_of_true ?_ (.inl rfl)
      rw [contentFrom_blank]
      cases hnext : (contentFrom (n + 2) rest).head? with
      | none =>
        obtain ⟨hlen, -⟩ := List.getElem?_eq_some_iff.1 ha
        exact ⟨n + 1, hlen, Nat.lt_succ_self n, ha⟩
      | some y =>
        have hy : n + 2 ≤ y.2 := le_of_mem_contentFrom (List.mem_of_mem_head? hnext)
        exact .inl ⟨n + 1, hy, Nat.lt_succ_self n, ha⟩
    · rw [contentFrom_cons hblank]
      have hnone : ¬d.BlankBetween n (n + 1) := by
        rintro ⟨m, hm, hnm, -⟩
        omega
      simp [GapBehind, Gap, hnone, hblank, needsBlankBefore]

/-- Behind an empty line there is no gap. -/
theorem ShowsContent.render_ne_nil_of_gapBehind (h : d.ShowsContent)
    (hs : d.statements[n]? = some s) (hne : s ≠ .blank)
    (hrest : d.statements.drop (n + 1) = rest)
    (hgap : rest.head? = some .blank ∨ needsBlankBefore rest.head? (some s) = true) :
    s.render ≠ [] := by
  intro hr
  obtain ⟨t, rfl⟩ : ∃ t, s = .frontmatter t := by
    by_contra hfront
    exact h.render_ne_nil s (List.mem_of_getElem? hs) hne (not_exists.1 hfront) hr
  rw [show t = [] from hr] at hs
  obtain ⟨t', ht'⟩ := h.frontmatter n hs
  rw [← List.head?_drop, hrest] at ht'
  rw [ht'] at hgap
  rcases hgap with hgap | hgap
  · cases hgap
  · cases hgap

/-! ### A pass and its lines -/

/-- The lines of some of the content, with an empty line at the end if a blank line follows. -/
def linesOf (settings : Settings) (d : Diagram) (items : List (Statement × Nat)) : List Text :=
  withGaps d.Gap (d.lineAt settings) items ++
    if ∃ x ∈ items.getLast?, d.BlankBetween x.2 d.statements.length then [[]] else []

theorem linesOf_cons (settings : Settings) (d : Diagram) (x : Statement × Nat)
    (items : List (Statement × Nat)) :
    d.linesOf settings (x :: items) =
      d.lineAt settings x :: ((if d.GapBehind x items.head? then [[]] else []) ++
        d.linesOf settings items) := by
  cases items with
  | nil =>
    have hlast : (∃ y ∈ [x].getLast?, d.BlankBetween y.2 d.statements.length) ↔
        d.BlankBetween x.2 d.statements.length := by simp
    have hnil : d.linesOf settings [] = [] := rfl
    rw [linesOf, if_congr hlast rfl rfl, hnil, List.append_nil]
    rfl
  | cons y items =>
    simp only [linesOf, withGaps, List.getLast?_cons_cons, List.cons_append, List.append_assoc]
    rfl

end Diagram

/-- An empty line that a pass puts behind text is put there at the next statement. -/
theorem layoutFrom_afterText (settings : Settings) (q : Pass) (ss : List Statement) :
    layoutFrom settings q ss =
      (if q.afterText = true ∧
          (ss.head? = some .blank ∨ needsBlankBefore ss.head? q.previous = true) then [[]] else []) ++
        layoutFrom settings { q with afterText := false } ss := by
  cases ss with
  | nil => simp [layoutFrom, needsBlankBefore]
  | cons s ss =>
    by_cases hs : s = .blank
    · subst hs
      rw [layoutFrom_blank, layoutFrom_blank]
      simp
    · have hline : Pass.line settings { q with afterText := false } s = q.line settings s := rfl
      have hnext : Pass.next settings { q with afterText := false } s = q.next settings s := rfl
      rw [layoutFrom_cons hs, layoutFrom_cons hs, hline, hnext]
      simp [Pass.gapBefore, hs, and_comm]

namespace Diagram

variable {settings : Settings} {d : Diagram}

/-- From any place on, a pass gives the lines of the content there. No text stands before it: the
empty line behind text belongs to the line before. -/
theorem layoutFrom_eq_linesOf (h : d.ShowsContent) (settings : Settings) {n : Nat}
    {rest : List Statement} (hrest : d.statements.drop n = rest) (previous : Option Statement) :
    layoutFrom settings ⟨d.stateBefore n, previous, false⟩ rest =
      d.linesOf settings (contentFrom n rest) := by
  induction rest generalizing n previous with
  | nil => rfl
  | cons s rest ih =>
    obtain ⟨hs, hnext⟩ := drop_eq_cons_iff.1 hrest
    have hstate := stateBefore_succ hs
    by_cases hblank : s = .blank
    · subst hblank
      rw [layoutFrom_blank, contentFrom_blank, ← ih hnext previous, hstate]
      rfl
    · have hline : Pass.line settings ⟨d.stateBefore n, previous, false⟩ s =
          d.lineAt settings (s, n) := rfl
      have hgap := gapBehind_iff hnext s
      have hafter : ((Pass.next settings ⟨d.stateBefore n, previous, false⟩ s).afterText = true ∧
          (rest.head? = some .blank ∨ needsBlankBefore rest.head? (some s) = true)) ↔
            d.GapBehind (s, n) (contentFrom (n + 1) rest).head? := by
        rw [hgap]
        refine and_iff_right_of_imp fun hg => decide_eq_true ?_
        exact List.append_ne_nil_of_right_ne_nil _ (h.render_ne_nil_of_gapBehind hs hblank hnext hg)
      rw [layoutFrom_cons hblank, layoutFrom_afterText, contentFrom_cons hblank, linesOf_cons,
        ← ih hnext (some s), hstate, hline]
      simp only [Pass.gapBefore, Bool.and_false, Bool.false_eq_true, if_false, List.nil_append]
      congr 2
      exact if_congr hafter rfl rfl

/-- The lines of a diagram are its body, with an empty line behind it if a blank line follows. -/
theorem layoutLines_eq (h : d.ShowsContent) (settings : Settings) :
    layoutLines settings d = d.body settings ++ if d.EndsBlank then [[]] else [] :=
  layoutFrom_eq_linesOf h settings List.drop_zero none

theorem format_of_content_eq_nil (h : d.ShowsContent) (hd : d.content = []) (settings : Settings) :
    d.format settings = [] := by
  have hlines : layoutLines settings d = d.linesOf settings d.content := layoutLines_eq h settings
  rw [format, hlines, hd]
  rfl

theorem format_eq_unlines_body (h : d.ShowsContent) {x : Statement × Nat}
    (hx : x ∈ d.content.getLast?) (hline : strip (d.lineAt settings x) ≠ []) :
    d.format settings = unlines (d.body settings) ++ ['\n'] := by
  have hlast : (d.body settings).getLast? = some (d.lineAt settings x) := by
    rw [body, getLast?_withGaps, hx]
    rfl
  have hne : d.body settings ≠ [] := by
    intro hnil
    rw [hnil] at hlast
    cases hlast
  rw [format, layoutLines_eq h, serialize_append_of_white, serialize_of_getLast? hne]
  · rw [hlast]
    rintro l ⟨⟩
    exact hline
  · intro l hl
    split_ifs at hl
    · rw [List.mem_singleton.1 hl]
      rfl
    · cases hl

end Diagram

/-! ### Diagrams of a source -/

namespace Source

variable {messages : Bool} {p : Progress} {t : Text}

/-- A line outside the frontmatter is none of its lines. -/
theorem ReadsAll.getElem?_ne_frontmatter {raws : List Text} {ss : List Statement}
    (h : ReadsAll messages p raws ss) (i : Nat) (t : Text) : ss[i]? ≠ some (.frontmatter t) := by
  intro hi
  obtain ⟨raw, -, q, hread⟩ := h.exists_of_mem (List.mem_of_getElem? hi)
  generalize stripBlanks raw = u at hread
  cases hread

/-- An empty line of frontmatter is not its last one. -/
theorem IsFrontmatter.succ_lt_length {front : List Text} (h : IsFrontmatter front) {i : Nat}
    (hi : front[i]? = some []) : i + 1 < front.length := by
  obtain ⟨opening, inner, closing, rfl, -, hclosing, -⟩ := h
  rw [← List.cons_append] at hi ⊢
  by_contra hlen
  obtain ⟨hlt, -⟩ := List.getElem?_eq_some_iff.1 hi
  have hlast : i = (opening :: inner).length := by
    rw [List.length_append, List.length_singleton] at hlen hlt
    omega
  rw [hlast, List.getElem?_concat_length, Option.some.injEq] at hi
  rw [hi] at hclosing
  exact absurd hclosing (by decide)

theorem ReadsSource.frontmatter_succ {lines : List Text} {ss : List Statement}
    (h : ReadsSource messages lines ss) {i : Nat} (hi : ss[i]? = some (.frontmatter [])) :
    ∃ t, ss[i + 1]? = some (.frontmatter t) := by
  cases h with
  | plain _ h => exact absurd hi (h.getElem?_ne_frontmatter i [])
  | @frontmatter white front rest ws ss _ hfront hw h =>
    rw [List.getElem?_append] at hi
    split_ifs at hi with hws
    · exact absurd hi (hw.getElem?_ne_frontmatter i [])
    · rw [List.getElem?_append] at hi
      split_ifs at hi with hin
      · rw [List.getElem?_map, Option.map_eq_some_iff] at hi
        obtain ⟨l, hl, hnil⟩ := hi
        cases hnil
        have hlt := hfront.succ_lt_length hl
        refine ⟨front.get ⟨i - ws.length + 1, hlt⟩, ?_⟩
        rw [List.getElem?_append_right (by omega),
          show i + 1 - ws.length = i - ws.length + 1 by omega,
          List.getElem?_append_left (by simpa using hlt), List.getElem?_map,
          List.getElem?_eq_getElem hlt]
        rfl
      · exact absurd hi (h.getElem?_ne_frontmatter _ [])

theorem showsContent_of_parse {d : Diagram} (h : parse messages t = .ok d) : d.ShowsContent := by
  by_cases ht : t = []
  · subst ht
    cases h
    exact ⟨by simp, by simp⟩
  · have hread := (parse_eq_ok_iff ht).1 h
    refine ⟨fun s hs hblank hfront => ?_, fun i hi => hread.frontmatter_succ hi⟩
    obtain ⟨l, -, rfl | ⟨q, hq⟩⟩ := hread.exists_of_mem hs
    · exact absurd rfl (hfront l)
    · exact MermaidTidy.render_ne_nil hq hblank

end Source

/-- An empty line stands just where a gap is. In the diagram of a source every statement shows, and
for every diagram of this kind the lines are those of the statements that are not blank, with one
empty line between two neighbours that have a gap, none before the first one, and one behind the last
one if a blank line follows it. The text of the diagram is made of the lines up to the last statement
that is not blank. Where room may be short, there are just these lines and this text, or none. -/
theorem layoutLines_eq_withGaps (settings : Settings) :
    (∀ messages t d, Source.parse messages t = .ok d → d.ShowsContent) ∧
      ∀ d : Diagram, d.ShowsContent →
        layoutLines settings d = d.body settings ++ (if d.EndsBlank then [[]] else []) ∧
          (d.content = [] → d.format settings = []) ∧
          (∀ x ∈ d.content.getLast?, (∃ c ∈ d.lineAt settings x, isSpace c = false) →
            d.format settings = unlines (d.body settings) ++ ['\n']) ∧
          ∀ memory,
            (∀ lines, layoutLinesInRoom memory settings d = .ok lines ↔
              d.HasRoom memory settings ∧
                lines = d.body settings ++ (if d.EndsBlank then [[]] else [])) ∧
            ∀ out, d.formatInRoom memory settings = .ok out ↔
              d.HasRoom memory settings ∧ out = d.format settings := by
  refine ⟨fun _ _ _ => Source.showsContent_of_parse, fun d h => ⟨d.layoutLines_eq h settings,
    fun hd => d.format_of_content_eq_nil h hd settings, ?_,
    fun memory => ⟨fun lines => ?_, fun out => Diagram.formatInRoom_eq_ok_iff⟩⟩⟩
  · rintro x hx ⟨c, hc, hspace⟩
    refine d.format_eq_unlines_body h hx fun hstrip => ?_
    rw [trim_eq_nil_iff.1 hstrip c hc] at hspace
    cases hspace
  · rw [layoutLinesInRoom_eq_ok_iff, d.layoutLines_eq h settings]

/-- Frontmatter with an empty line, a blank line that is there, a block that must be set off and blank
lines at the end. -/
theorem layoutLines_eq_withGaps_frontmatter :
    ∃ d, Source.parse false "---\n\n---\n\n\nflowchart TD\nA\nloop\nend\n\n".toList = .ok d ∧
      d.ShowsContent ∧ d.EndsBlank ∧
      layoutLines {} d = ["---", "", "---", "", "flowchart TD", "    A", "", "loop", "end", ""].map
        String.toList ∧
      d.format {} = "---\n\n---\n\nflowchart TD\n    A\n\nloop\nend\n".toList ∧
      d.formatInRoom 4 {} = .ok (d.format {}) := by
  let d : Diagram := ⟨[.frontmatter "---".toList, .frontmatter [], .frontmatter "---".toList, .blank,
    .blank, .declaration ⟨.flowchart, some "TD".toList, false, none⟩, .generic ['A'],
    .blockStart .loop none, .blockEnd, .blank]⟩
  have hparse : Source.parse false "---\n\n---\n\n\nflowchart TD\nA\nloop\nend\n\n".toList = .ok d := by
    decide +kernel
  have hshows : d.ShowsContent := (layoutLines_eq_withGaps {}).1 _ _ _ hparse
  obtain ⟨hlines, -, hformat, hroom⟩ := (layoutLines_eq_withGaps {}).2 d hshows
  have hlast : (Statement.blockEnd, 8) ∈ d.content.getLast? := by decide
  refine ⟨d, hparse, hshows, by decide, hlines.trans (by decide +kernel), ?_, ?_⟩
  · exact (hformat _ hlast ⟨'e', by decide, by decide⟩).trans (by decide +kernel)
  · exact ((hroom 4).2 _).2 ⟨by decide, rfl⟩

end MermaidTidy
