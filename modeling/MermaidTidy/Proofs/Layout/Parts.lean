import Mathlib.Data.List.DropRight
import Mathlib.Tactic
import MermaidTidy.Proofs.Layout.Spacing
import MermaidTidy.Proofs.Source.Outline

/-!
# Layout in parts

A pass over statements can be cut anywhere: what is laid out before the cut is a beginning of the
whole, and what is laid out behind it depends on the pass at the cut only.

* `Pass.through` is the pass behind some statements, and `layoutFrom_append` cuts a layout;
* `format_outlineBy`: a diagram has the text of its outline;
* `serialize_prefix`, `format_prefix`: the text of the first statements begins the text of all.
-/

namespace MermaidTidy

open Text

variable {settings : Settings}

namespace Pass

/-- The pass behind a statement, which may be blank. -/
def past (settings : Settings) (q : Pass) (s : Statement) : Pass :=
  if s = .blank then { q with afterText := false } else q.next settings s

/-- The pass behind some statements. -/
def through (settings : Settings) (q : Pass) (ss : List Statement) : Pass :=
  ss.foldl (past settings) q

@[simp] theorem past_blank (settings : Settings) (q : Pass) :
    q.past settings .blank = { q with afterText := false } := rfl

theorem past_of_ne {s : Statement} (hs : s ≠ .blank) (settings : Settings) (q : Pass) :
    q.past settings s = q.next settings s := if_neg hs

@[simp] theorem through_cons (settings : Settings) (q : Pass) (s : Statement) (ss : List Statement) :
    q.through settings (s :: ss) = (q.past settings s).through settings ss := rfl

end Pass

/-! ### Blank lines -/

theorem layoutFrom_blank (settings : Settings) (q : Pass) (ss : List Statement) :
    layoutFrom settings q (.blank :: ss) =
      (if q.afterText then [[]] else []) ++ layoutFrom settings (q.past settings .blank) ss := by
  rw [layoutFrom]
  split_ifs with hq
  · rfl
  · have hpast : q.past settings .blank = q := by
      rw [Pass.past_blank, ← Bool.eq_false_iff.2 hq]
    rw [hpast, List.nil_append]

/-- A blank line behind a blank line goes. -/
theorem layoutFrom_blank_blank (settings : Settings) (q : Pass) (ss : List Statement) :
    layoutFrom settings q (.blank :: .blank :: ss) = layoutFrom settings q (.blank :: ss) := by
  rw [layoutFrom_blank, layoutFrom_blank settings (q.past settings .blank), layoutFrom_blank]
  rfl

theorem layoutFrom_squeeze (settings : Settings) (q : Pass) (ss : List Statement) :
    layoutFrom settings q (squeeze (· = .blank) ss) = layoutFrom settings q ss := by
  induction ss generalizing q with
  | nil => rfl
  | cons s ss ih =>
    rw [squeeze]
    split_ifs with hrun
    · obtain ⟨hs, hnext⟩ := Bool.and_eq_true_iff.1 hrun
      rw [ih]
      cases ss with
      | nil => cases hnext
      | cons s' ss =>
        rw [of_decide_eq_true hs, of_decide_eq_true hnext, layoutFrom_blank_blank]
    · by_cases hs : s = .blank
      · rw [hs, layoutFrom_blank, layoutFrom_blank, ih]
      · rw [layoutFrom_cons hs, layoutFrom_cons hs, ih]

/-- Where no text stands before, blank lines are left out. -/
theorem layoutFrom_dropWhile {q : Pass} (hq : q.afterText = false) (ss : List Statement) :
    layoutFrom settings q (ss.dropWhile (· = .blank)) = layoutFrom settings q ss := by
  induction ss with
  | nil => rfl
  | cons s ss ih =>
    by_cases hs : s = .blank
    · rw [List.dropWhile_cons_of_pos (by simpa using hs), ih, hs, layoutFrom, hq, if_neg (by decide)]
    · rw [List.dropWhile_cons_of_neg (by simpa using hs)]

/-! ### Cuts -/

theorem layoutFrom_append (settings : Settings) (q : Pass) (ss ss' : List Statement) :
    layoutFrom settings q (ss ++ ss') =
      layoutFrom settings q ss ++ layoutFrom settings (q.through settings ss) ss' := by
  induction ss generalizing q with
  | nil => rfl
  | cons s ss ih =>
    rw [List.cons_append, Pass.through_cons]
    by_cases hs : s = .blank
    · rw [hs, layoutFrom_blank, layoutFrom_blank, ih, List.append_assoc]
    · rw [layoutFrom_cons hs, layoutFrom_cons hs, ih, Pass.past_of_ne hs]
      simp

theorem strip_eq_nil_of_mem_layoutFrom {q : Pass} {ss : List Statement} (hss : ∀ s ∈ ss, s = .blank)
    {l : Text} (hl : l ∈ layoutFrom settings q ss) : strip l = [] := by
  rcases exists_of_mem_layoutFrom hl with rfl | ⟨s, hs, depth, rfl⟩
  · rfl
  · rw [hss s hs, Statement.render, List.append_nil, strip, trim_eq_nil_iff]
    exact fun c hc => isSpace_of_isBlank (Settings.isBlank_of_mem_indent hc)

theorem serialize_layoutFrom_rdropWhile (settings : Settings) (q : Pass) (ss : List Statement) :
    serialize (layoutFrom settings q (ss.rdropWhile (· = .blank))) =
      serialize (layoutFrom settings q ss) := by
  conv_rhs => rw [← List.rdropWhile_append_rtakeWhile (p := (· = .blank)) (l := ss),
    layoutFrom_append]
  refine (serialize_append_of_white fun l hl => strip_eq_nil_of_mem_layoutFrom (fun s hs => ?_) hl).symm
  simpa using List.mem_rtakeWhile_imp hs

/-- A diagram has the text of its outline. -/
theorem format_outlineBy (settings : Settings) (ss : List Statement) :
    Diagram.format settings ⟨outlineBy (· = .blank) ss⟩ = Diagram.format settings ⟨ss⟩ := by
  unfold Diagram.format layoutLines outlineBy
  rw [serialize_layoutFrom_rdropWhile, layoutFrom_dropWhile rfl, layoutFrom_squeeze]

/-! ### Beginnings -/

theorem rdropWhile_prefix {α : Type} (p : α → Bool) (as bs : List α) :
    as.rdropWhile p <+: (as ++ bs).rdropWhile p := by
  induction bs using List.reverseRecOn with
  | nil => rw [List.append_nil]
  | append_singleton bs b ih =>
    rw [← List.append_assoc, List.rdropWhile_concat]
    split_ifs
    · exact ih
    · exact ((List.rdropWhile_prefix p as).trans (List.prefix_append as bs)).trans
        (List.prefix_append _ _)

/-- The text of the first lines begins the text of all. -/
theorem serialize_prefix (lines lines' : List Text) : serialize lines <+: serialize (lines ++ lines') := by
  obtain ⟨more, hmore⟩ := rdropWhile_prefix (strip · = []) lines lines'
  rw [serialize_eq_flatMap, serialize_eq_flatMap, ← hmore, List.flatMap_append]
  exact List.prefix_append _ _

/-- The text of the first statements begins the text of all. -/
theorem format_prefix (settings : Settings) (ss ss' : List Statement) :
    Diagram.format settings ⟨ss⟩ <+: Diagram.format settings ⟨ss ++ ss'⟩ := by
  unfold Diagram.format layoutLines
  rw [layoutFrom_append]
  exact serialize_prefix _ _

end MermaidTidy
