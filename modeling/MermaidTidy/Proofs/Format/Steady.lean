import Mathlib.Tactic
import MermaidTidy.Proofs.Format.Reread
import MermaidTidy.Proofs.Source.MessageReread

/-!
# Steady statements

With messages a line of a sequence diagram may be read differently once it is formatted. A statement
is steady if its line is laid out in the same way nevertheless.

* `Statement.IsSteady` says when a statement is steady; this depends on its place if the line opens a
  brace block when it is read again;
* `Outcome` lists what becomes of a statement whose line is read again: it is laid out alike, or
  differently, or it opens a brace block; `outcome` says that there is nothing else.
-/

namespace MermaidTidy

open Text Line Respacing Source

/-! ### What becomes of a statement -/

/-- Statements inside a diagram that neither open nor close a block. -/
def Statement.isInner : Statement → Bool
  | .participant _ | .note _ | .message _ | .generic _ => true
  | _ => false

theorem Statement.placement_of_isInner {s : Statement} (h : s.isInner = true) :
    s.placement = .content := by
  cases s <;> first | rfl | cases h

theorem alike_of_isInner {s s' : Statement} (hs : s.isInner = true) (hs' : s'.isInner = true)
    (h : s'.render = s.render) : Alike s s' := by
  cases s <;> cases hs <;> cases s' <;> cases hs' <;>
    exact ⟨⟨by simp, rfl, rfl, rfl, fun _ => rfl, fun _ => rfl⟩, h⟩

/-- Two statements whose lines differ wherever they stand behind a declaration. -/
def Differs (s s' : Statement) : Prop :=
  s'.render ≠ s.render ∨ s'.placement = .margin ∧ s.placement = .content

/-- A statement of a sequence diagram, laid out in the pass `q` and followed by `after`, is laid out
in the same way when its line is read again.

A generic line may look like a message once it is in normal spacing. A message gets a space behind its
source, and a keyword as its source then tells what the line is: blocks and branches go to the
margin; participants lose blanks around ` as `; a brace block must have its brace set off by one
blank, be inside another brace block, need no blank line before it, and have nothing behind it that
would be indented further. -/
def Statement.IsSteady (q : Pass) (after : List Statement) : Statement → Prop
  | .generic x =>
    ¬UnknownArrow (normalize x) ∧ ∀ m, ReadsMessage (normalize x) m → m.render = normalize x
  | .message m =>
    m.source ∉ blockKeywords ∧ m.source ∉ branchWords ∧
    (m.source ∈ participantKeywords →
      ∀ name shown, splitAround? " as ".toList (afterLead m.render) = some (name, shown) →
        name.getLast? ≠ some ' ' ∧ shown.head? ≠ some ' ') ∧
    (m.source ∈ braceKeywords → m.render.getLast? = some '\x7b' →
      (∃ x, afterLead m.render = x ++ [' ', '\x7b'] ∧ x.getLast? ≠ some ' ') ∧
      0 < q.state.braces ∧ (q.previous.any Statement.isContentBeforeBlock && q.afterText) = false ∧
      ∀ s ∈ after, s = .blank ∨ s.placement = .margin)
  | _ => True

/-- What becomes of a statement of a sequence diagram when its line is read again. -/
inductive Outcome (p : Progress) (s : Statement) : Prop
  | alike {s' : Statement} (hread : Reads true p s.render s') (h : Alike s s')
      (hsteady : ∀ q after, s.IsSteady q after)
  | differs (h : ∀ s', Reads true p s.render s' → Differs s s')
      (hsteady : ∀ q after, ¬s.IsSteady q after)
  | opens {b : BraceBlockKind} {name : Text} (hread : Reads true p s.render (.braceBlockStart b name))
      (hrender : (Statement.braceBlockStart b name).render = s.render) (hinner : s.isInner = true)
      (hsteady : ∀ q after, s.IsSteady q after ↔
        0 < q.state.braces ∧ (q.previous.any Statement.isContentBeforeBlock && q.afterText) = false ∧
          ∀ s' ∈ after, s' = .blank ∨ s'.placement = .margin)

section

variable {p : Progress} {t : Text} {s : Statement}

/-- Neither a message nor a generic line: read again as it was. -/
theorem reads_render_of_isOther (ht : IsClean t) (hs : Reads true p t s) (hm : ∀ m, s ≠ .message m)
    (hg : ∀ x, s ≠ .generic x) : Reads true p s.render s := by
  have hread := reads_render ht hs fun _ _ => ⟨hm, fun x hx => absurd hx (hg x)⟩
  cases s with
  | generic x => exact absurd rfl (hg x)
  | _ => exact hread

/-- A line that looks like a message without an arrow has no statement. -/
theorem not_reads_of_unknownArrow (hu : IsUnmarked p.mode t) (hd : declaration? p.mode t = none)
    (hp : p.dialect = some .sequenceDiagram) (h : UnknownArrow t) : ¬Reads true p t s := by
  intro hs
  obtain ⟨arrow, -, herror⟩ := exists_statementOf_eq_error hu hd hp h
  have hok := statementOf_of_reads 0 hs
  rw [herror] at hok
  cases hok

/-- The line is read as `s'`, which is inside the diagram as well: all depends on what is rendered. -/
theorem outcome_of_isInner {s' : Statement} (hread : Reads true p s.render s') (hs : s.isInner = true)
    (hs' : s'.isInner = true) (hsteady : ∀ q after, s.IsSteady q after ↔ s'.render = s.render) :
    Outcome p s := by
  by_cases heq : s'.render = s.render
  · exact .alike hread (alike_of_isInner hs hs' heq) fun q after => (hsteady q after).2 heq
  · refine .differs (fun s'' hs'' => .inl ?_) fun q after h => heq ((hsteady q after).1 h)
    rw [reads_unique hs'' hread]
    exact heq

theorem outcome_generic (ht : IsClean t) (hu : IsUnmarked p.mode t) (hmode : p.mode = .sequence)
    (hp : p.dialect = some .sequenceDiagram) : Outcome p (.generic t) := by
  have hu' : IsUnmarked p.mode (normalize t) := isUnmarked_normalize ht hu
  have hd : declaration? p.mode (normalize t) = none := by
    rw [hmode]
    rfl
  rcases message_cases (normalize t) with hno | ⟨m, hm⟩ | hunknown
  · refine .alike (.generic hu' hd fun _ _ => hno) (Statement.alike_respaced (.generic t)) fun _ _ => ?_
    constructor
    · rintro ⟨l, hl, hclass, -⟩
      rw [hno l hl] at hclass
      cases hclass
    · rintro m ⟨l, -, hl, hclass, -⟩
      rw [hno l hl] at hclass
      cases hclass
  · have hread : Reads true p (normalize t) (.message m) := .message hu' hd rfl hp hm
    refine outcome_of_isInner hread rfl rfl fun _ _ => ⟨fun hsteady => hsteady.2 m hm, fun heq => ?_⟩
    refine ⟨fun hunknown => not_reads_of_unknownArrow hu' hd hp hunknown hread, fun m' hm' => ?_⟩
    cases reads_unique hread (.message hu' hd rfl hp hm')
    exact heq
  · refine .differs (fun s' hs' => ?_) fun _ _ hsteady => hsteady.1 hunknown
    exact absurd hs' (not_reads_of_unknownArrow hu' hd hp hunknown)

/-! ### Messages by their sources -/

variable {m : Message}

theorem outcome_of_margin {s' : Statement} (hread : Reads true p m.render s')
    (hs' : s'.placement = .margin) (h : m.source ∈ blockKeywords ∨ m.source ∈ branchWords) :
    Outcome p (.message m) := by
  refine .differs (fun s'' hs'' => .inr ⟨?_, rfl⟩) fun _ _ hsteady => h.elim hsteady.1 hsteady.2.1
  rw [reads_unique hs'' hread]
  exact hs'

theorem outcome_of_block (h : m.source ∈ blockKeywords) : Outcome p (.message m) := by
  obtain ⟨b, -, hb⟩ := List.mem_map.1 h
  have hlead := (lead_render ((by decide : ∀ w ∈ blockKeywords, ∀ c ∈ w, isBlank c = false) _ h)).1
  exact outcome_of_margin (.blockStart b (hlead.trans hb.symm)) rfl (.inl h)

theorem outcome_of_branch (hmode : p.mode = .sequence) (h : m.source ∈ branchWords) :
    Outcome p (.message m) := by
  have hlead := (lead_render ((by decide : ∀ w ∈ branchWords, ∀ c ∈ w, isBlank c = false) _ h)).1
  have hword := h
  simp only [branchWords, List.mem_cons, List.not_mem_nil, or_false] at hword
  rcases hword with hw | hw | hw
  · exact outcome_of_margin (.blockOption hmode (hlead.trans hw)) rfl (.inr h)
  · exact outcome_of_margin (.blockElse hmode (hlead.trans hw)) rfl (.inr h)
  · exact outcome_of_margin (.blockAnd hmode (hlead.trans hw)) rfl (.inr h)

theorem outcome_of_participant (hclean : IsClean m.render) (h : m.source ∈ participantKeywords) :
    Outcome p (.message m) := by
  obtain ⟨hlead, hafter, hsplit, -⟩ :=
    lead_render ((by decide : ∀ w ∈ participantKeywords, ∀ c ∈ w, isBlank c = false) _ h)
  obtain ⟨k, hk⟩ : ∃ k : ParticipantKeyword, m.source = k.keyword := by
    simp only [participantKeywords, List.mem_cons, List.not_mem_nil, or_false] at h
    exact h.elim (⟨.participant, ·⟩) (⟨.actor, ·⟩)
  have hread : Reads true p m.render (.participant (.declared k (afterLead m.render))) :=
    .participant k (hlead.trans hk) hafter
  have heq := render_declared_eq_iff k hclean.afterLead
  rw [← hk, ← hsplit] at heq
  refine outcome_of_isInner hread rfl rfl fun _ _ => ?_
  refine ⟨fun hsteady => heq.2 (hsteady.2.2.1 h), fun hrender => ⟨?_, ?_, fun _ => heq.1 hrender, ?_⟩⟩
  · exact (by decide : ∀ k ∈ participantKeywords, k ∉ blockKeywords) _ h
  · exact (by decide : ∀ k ∈ participantKeywords, k ∉ branchWords) _ h
  · intro hbrace
    exact absurd hbrace ((by decide : ∀ k ∈ participantKeywords, k ∉ braceKeywords) _ h)

theorem outcome_of_brace (hclean : IsClean m.render) (h : m.source ∈ braceKeywords)
    (hlast : m.render.getLast? = some '\x7b') : Outcome p (.message m) := by
  obtain ⟨hlead, hafter, hsplit, hhead⟩ :=
    lead_render ((by decide : ∀ w ∈ braceKeywords, ∀ c ∈ w, isBlank c = false) _ h)
  obtain ⟨b, -, hb⟩ := List.mem_map.1 h
  obtain ⟨name, hname⟩ : ∃ name, braceName? (afterLead m.render) = some name := by
    refine Option.ne_none_iff_exists'.1 (braceName?_ne_none_iff.2 ⟨?_, ?_⟩)
    · obtain ⟨c, r, hc⟩ := List.exists_cons_of_ne_nil hafter
      exact ⟨c, by simp [hc], hhead c (by simp [hc])⟩
    · rw [getLast?_afterLead hafter, hlast]
  have hread : Reads true p m.render (.braceBlockStart b (strip name)) :=
    .braceBlockStart b (hlead.trans hb.symm) hname
  have heq : (Statement.braceBlockStart b (strip name)).render = m.render ↔
      ∃ x, afterLead m.render = x ++ [' ', '\x7b'] ∧ x.getLast? ≠ some ' ' := by
    rw [← render_braceBlock_eq_iff hclean.afterLead hname, Statement.render, hb]
    conv_lhs => rw [hsplit]
    rw [List.append_cancel_left_eq, List.cons.injEq, and_iff_right rfl]
  by_cases hrender : (Statement.braceBlockStart b (strip name)).render = m.render
  · refine .opens hread hrender rfl fun q after => ⟨fun hsteady => ?_, fun hplace => ⟨?_, ?_, ?_, ?_⟩⟩
    · exact (hsteady.2.2.2 h hlast).2
    · exact (by decide : ∀ k ∈ braceKeywords, k ∉ blockKeywords) _ h
    · exact (by decide : ∀ k ∈ braceKeywords, k ∉ branchWords) _ h
    · intro hparticipant
      exact absurd hparticipant ((by decide : ∀ k ∈ braceKeywords, k ∉ participantKeywords) _ h)
    · exact fun _ _ => ⟨heq.1 hrender, hplace⟩
  · refine .differs (fun s' hs' => .inl ?_)
      fun _ _ hsteady => hrender (heq.2 (hsteady.2.2.2 h hlast).1)
    rw [reads_unique hs' hread]
    exact hrender

theorem outcome_message (ht : IsClean t) (hu : IsUnmarked p.mode t) (hmode : p.mode = .sequence)
    (hp : p.dialect = some .sequenceDiagram) (hm : ReadsMessage t m) : Outcome p (.message m) := by
  have hclean : IsClean m.render := MessageLine.isClean_render ht hm
  by_cases hblock : m.source ∈ blockKeywords
  · exact outcome_of_block hblock
  by_cases hbranch : m.source ∈ branchWords
  · exact outcome_of_branch hmode hbranch
  by_cases hparticipant : m.source ∈ participantKeywords
  · exact outcome_of_participant hclean hparticipant
  by_cases hbrace : m.source ∈ braceKeywords ∧ m.render.getLast? = some '\x7b'
  · exact outcome_of_brace hclean hbrace.1 hbrace.2
  -- no other source makes the line unsteady
  have hsteady : ∀ q after, (Statement.message m).IsSteady q after := fun _ _ =>
    ⟨hblock, hbranch, fun h => absurd h hparticipant, fun h h' => absurd ⟨h, h'⟩ hbrace⟩
  cases hnote : isNoteWord m.source with
  | true =>
    have hlead := (lead_render (isBlank_eq_false_of_isNoteWord hnote)).1
    exact .alike (.note (hlead ▸ hnote)) (alike_of_isInner rfl rfl rfl) hsteady
  | false =>
    have hu' : IsUnmarked p.mode m.render := isUnmarked_render ht hu hm
      ⟨hparticipant, hblock, hbrace, fun h => hbranch h.2, hnote⟩
    have hd : declaration? p.mode m.render = none := by
      rw [hmode]
      rfl
    exact .alike (.message hu' hd rfl hp (MessageLine.readsMessage_render ht.newline_not_mem hm))
      (alike_of_isInner rfl rfl m.render_settled) hsteady

/-- There is nothing else that a statement becomes. -/
theorem outcome (ht : IsClean t) (hs : Reads true p t s) (hmode : p.mode = .sequence)
    (hp : p.dialect = some .sequenceDiagram) : Outcome p s := by
  have hother (hm : ∀ m, s ≠ .message m) (hg : ∀ x, s ≠ .generic x) : Outcome p s := by
    refine .alike (reads_render_of_isOther ht hs hm hg) (.refl s) fun _ _ => ?_
    cases s with
    | message m => exact absurd rfl (hm m)
    | generic x => exact absurd rfl (hg x)
    | _ => trivial
  cases hs with
  | message hu _ _ _ hm => exact outcome_message ht hu hmode hp hm
  | generic hu _ _ => exact outcome_generic ht hu hmode hp
  | _ => exact hother (by simp) (by simp)

end

end MermaidTidy
