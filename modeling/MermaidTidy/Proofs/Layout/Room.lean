import Mathlib.Tactic
import MermaidTidy.Layout.Format
import MermaidTidy.Proofs.Layout.Spacing

/-!
# Room for the lines of a diagram

The lines of a diagram lack room because of the first of them whose indentation is too long; where
there is room for all, they are the lines that are computed without bounds.

* `depthsFrom` are the depths of the statements that are not blank, and `Diagram.HasRoom` says that
  there is room for the indentation of each of them;
* `Diagram.roomFault?` says why the first statement without room has none;
* `layoutLinesInRoom_eq` and `Diagram.formatInRoom_eq`: this decides what becomes of the lines and the
  text.
-/

namespace MermaidTidy

variable {memory : Nat} {settings : Settings} {s : Statement} {ss : List Statement} {d : Diagram}

/-! ### Depths -/

/-- The depths of statements, from a layout state on. Blank lines have none. -/
def depthsFrom : LayoutState → List Statement → List Nat
  | _, [] => []
  | st, s :: ss => if s = .blank then depthsFrom st ss else st.depthOf s :: depthsFrom (st.next s) ss

@[simp] theorem depthsFrom_blank (st : LayoutState) (ss : List Statement) :
    depthsFrom st (.blank :: ss) = depthsFrom st ss := rfl

theorem depthsFrom_cons (hs : s ≠ .blank) (st : LayoutState) (ss : List Statement) :
    depthsFrom st (s :: ss) = st.depthOf s :: depthsFrom (st.next s) ss := if_neg hs

theorem depthsFrom_nonBlank (st : LayoutState) (ss : List Statement) :
    depthsFrom st (nonBlank ss) = depthsFrom st ss := by
  induction ss generalizing st with
  | nil => rfl
  | cons s ss ih =>
    by_cases hs : s = .blank
    · rw [hs, nonBlank_cons_blank, ih, depthsFrom_blank]
    · rw [nonBlank_cons hs, depthsFrom_cons hs, depthsFrom_cons hs, ih]

theorem depthsFrom_prefix (st : LayoutState) (ss ss' : List Statement) :
    depthsFrom st ss <+: depthsFrom st (ss ++ ss') := by
  induction ss generalizing st with
  | nil => exact List.nil_prefix
  | cons s ss ih =>
    rw [List.cons_append]
    by_cases hs : s = .blank
    · rw [hs, depthsFrom_blank, depthsFrom_blank]
      exact ih st
    · rw [depthsFrom_cons hs, depthsFrom_cons hs]
      exact (List.prefix_cons_inj _).2 (ih _)

theorem PlacedAlike.depthsFrom {ss' : List Statement} (h : List.Forall₂ PlacedAlike ss ss')
    (st : LayoutState) : depthsFrom st ss' = depthsFrom st ss := by
  induction h generalizing st with
  | nil => rfl
  | @cons s s' ss ss' hs _ ih =>
    have hdepth : st.depthOf s' = st.depthOf s := by
      simp only [LayoutState.depthOf, LayoutState.depth, Option.map_some, Option.getD_some, hs.stateAt,
        hs.placement]
    have hnext : st.next s' = st.next s := hs.stateAfter _
    by_cases hb : s = .blank
    · rw [hs.blank.2 hb, hb, depthsFrom_blank, depthsFrom_blank, ih]
    · rw [depthsFrom_cons hb, depthsFrom_cons fun h => hb (hs.blank.1 h), hdepth, hnext, ih]

/-! ### Room -/

/-- Texts up to the length `memory` fit in memory, and the indentation of each line of the diagram is
such a text. -/
def Diagram.HasRoom (memory : Nat) (settings : Settings) (d : Diagram) : Prop :=
  ∀ depth ∈ depthsFrom {} d.statements,
    settings.indentLength depth ≤ maxLength ∧ settings.indentLength depth ≤ memory

instance (memory : Nat) (settings : Settings) (d : Diagram) : Decidable (d.HasRoom memory settings) :=
  inferInstanceAs (Decidable (∀ _ ∈ _, _))

/-- Why the first line of a diagram that has no room has none. -/
def Diagram.roomFault? (memory : Nat) (settings : Settings) (d : Diagram) : Option RoomFault :=
  (depthsFrom {} d.statements).findSome? (settings.roomFault? memory)

theorem Settings.roomFault?_eq_none_iff {depth : Nat} :
    settings.roomFault? memory depth = none ↔
      settings.indentLength depth ≤ maxLength ∧ settings.indentLength depth ≤ memory := by
  unfold roomFault?
  split_ifs with hlength hmemory
  · simp [hlength]
  · simp [hmemory]
  · simp [Nat.le_of_not_lt hlength, Nat.le_of_not_lt hmemory]

theorem Diagram.roomFault?_eq_none_iff :
    d.roomFault? memory settings = none ↔ d.HasRoom memory settings := by
  simp only [roomFault?, HasRoom, List.findSome?_eq_none_iff, Settings.roomFault?_eq_none_iff]

/-- The first line that lacks room is the same when more lines follow. -/
theorem roomFault?_append {fault : RoomFault} (h : Diagram.roomFault? memory settings ⟨ss⟩ = some fault)
    (ss' : List Statement) : Diagram.roomFault? memory settings ⟨ss ++ ss'⟩ = some fault := by
  unfold Diagram.roomFault? at h ⊢
  obtain ⟨more, hmore⟩ := depthsFrom_prefix {} ss ss'
  rw [← hmore, List.findSome?_append, h]
  rfl

/-! ### Lines -/

theorem layoutFromInRoom_cons (hs : s ≠ .blank) (p : Pass) (ss : List Statement) :
    layoutFromInRoom memory settings p (s :: ss) = do
      let indent ← settings.indentInRoom memory (p.state.depthOf s)
      let lines ← layoutFromInRoom memory settings (p.next settings s) ss
      return (if p.gapBefore s then [[]] else []) ++ (indent ++ s.render) :: lines := by
  cases s with
  | blank => exact absurd rfl hs
  | _ => rfl

theorem layoutFromInRoom_eq (p : Pass) (ss : List Statement) :
    layoutFromInRoom memory settings p ss =
      ((depthsFrom p.state ss).findSome? (settings.roomFault? memory)).elim
        (.ok (layoutFrom settings p ss)) .error := by
  induction ss generalizing p with
  | nil => rfl
  | cons s ss ih =>
    by_cases hs : s = .blank
    · subst hs
      rw [layoutFromInRoom, layoutFrom, depthsFrom_blank]
      split_ifs
      · rw [ih]
        cases (depthsFrom p.state ss).findSome? (settings.roomFault? memory) <;> rfl
      · exact ih p
    · rw [layoutFromInRoom_cons hs, layoutFrom_cons hs, depthsFrom_cons hs, List.findSome?_cons, ih,
        Settings.indentInRoom]
      -- the indentation of this line comes before all that follow
      cases settings.roomFault? memory (p.state.depthOf s) with
      | some fault => rfl
      | none =>
        have hstate : (p.next settings s).state = p.state.next s := rfl
        rw [hstate]
        cases (depthsFrom (p.state.next s) ss).findSome? (settings.roomFault? memory) <;> rfl

theorem layoutLinesInRoom_eq (memory : Nat) (settings : Settings) (d : Diagram) :
    layoutLinesInRoom memory settings d =
      (d.roomFault? memory settings).elim (.ok (layoutLines settings d)) .error :=
  layoutFromInRoom_eq {} d.statements

theorem Diagram.formatInRoom_eq (memory : Nat) (settings : Settings) (d : Diagram) :
    d.formatInRoom memory settings =
      (d.roomFault? memory settings).elim (.ok (d.format settings)) .error := by
  rw [formatInRoom, layoutLinesInRoom_eq]
  cases d.roomFault? memory settings <;> rfl

/-- There are lines just if there is room, and then they are those that are computed without
bounds. -/
theorem layoutLinesInRoom_eq_ok_iff {lines : List Text} :
    layoutLinesInRoom memory settings d = .ok lines ↔
      d.HasRoom memory settings ∧ lines = layoutLines settings d := by
  rw [layoutLinesInRoom_eq, ← Diagram.roomFault?_eq_none_iff]
  cases d.roomFault? memory settings <;> simp [eq_comm]

theorem Diagram.formatInRoom_eq_ok_iff {out : Text} :
    d.formatInRoom memory settings = .ok out ↔ d.HasRoom memory settings ∧ out = d.format settings := by
  rw [Diagram.formatInRoom_eq, ← Diagram.roomFault?_eq_none_iff]
  cases d.roomFault? memory settings <;> simp [eq_comm]

end MermaidTidy
