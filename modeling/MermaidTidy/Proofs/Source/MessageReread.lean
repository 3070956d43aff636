import Mathlib.Tactic
import MermaidTidy.Proofs.Source.Rendered

/-!
# Rendered messages read again

A rendered message has a space behind its source. If the source is a keyword, the line is thereby no
message any more: the keyword stands alone, and takes precedence.

* `ofLine_render_of_message`: as a line of no special shape a rendered message is the same message;
* `isUnmarked_render`: unless its source is a keyword it is still unmarked, so that it is such a line;
* `render_declared_eq_iff` and `render_braceBlock_eq_iff`: when the participant, or the brace block,
  that such a line is read as is rendered as the line.
-/

namespace MermaidTidy

open Text Line Respacing

variable {t : Text} {m : Message}

/-! ### Lines of no special shape -/

/-- In a sequence diagram such a line is built to a message just if it reads as one. -/
theorem ofLine_genericLine_eq_message_iff {line : Int} {captures : Captures Terminal} :
    Statement.ofLine true (some .sequenceDiagram) ⟨.genericLine, t, line, captures⟩ =
      .ok (.message m) ↔ ReadsMessage t m := by
  set l : ClassifiedLine := ⟨.genericLine, t, line, captures⟩
  have hbuilt : Statement.ofLine true (some .sequenceDiagram) l = (Statement.messageOf? l).map fun m? =>
      (m?.map Statement.message).getD (.generic l.text) := Source.genericOf_sequenceDiagram l
  rw [hbuilt]
  constructor
  · intro h
    rcases Source.message_cases t with hno | ⟨m', hm'⟩ | harrow
    · rw [Source.messageOf?_of_noMessage (l := l) hno] at h
      cases h
    · rw [Source.messageOf?_of_readsMessage (l := l) hm'] at h
      cases h
      exact hm'
    · obtain ⟨arrow, -, herror⟩ := Source.exists_messageOf?_eq_error harrow
      rw [herror l rfl] at h
      cases h
  · intro hm
    rw [Source.messageOf?_of_readsMessage (l := l) hm]
    rfl

/-- A rendered message is built again, for every line without line feeds: with the same source, arrow,
activation and target, and with its text in normal spacing. It shows the visible characters of the
line. -/
theorem ofLine_render_of_message {t : Text} (hn : '\n' ∉ t) {m : Message} {line : Int}
    {captures : Captures Terminal}
    (h : Statement.ofLine true (some .sequenceDiagram) ⟨.genericLine, t, line, captures⟩ =
      .ok (.message m)) :
    (∀ line' captures', Statement.ofLine true (some .sequenceDiagram)
        ⟨.genericLine, (Statement.message m).render, line', captures'⟩ =
      .ok (.message { m with text := m.text.map normalize })) ∧
    visible (Statement.message m).render = visible t := by
  have hm : ReadsMessage t m := ofLine_genericLine_eq_message_iff.1 h
  refine ⟨fun line' captures' => ?_, MessageLine.visible_render hn hm⟩
  exact ofLine_genericLine_eq_message_iff.2 (MessageLine.readsMessage_render hn hm)

/-- The source is white space, and the sign belongs to the target, since there would be none without
it. -/
theorem ofLine_render_of_message_white_source :
    let t := "\u00a0-->>+:  [ x ]".toList
    let m : Message := ⟨[], .dotted, ['+'], some "[ x ]".toList, none⟩
    '\n' ∉ t ∧
      Statement.ofLine true (some .sequenceDiagram) ⟨.genericLine, t, 1, []⟩ = .ok (.message m) ∧
      (Statement.message m).render = " -->> +: [x]".toList ∧
      Statement.ofLine true (some .sequenceDiagram) ⟨.genericLine, (Statement.message m).render, 1, []⟩ =
        .ok (.message { m with text := some "[x]".toList }) ∧
      visible (Statement.message m).render = visible t := by
  intro t m
  have hn : '\n' ∉ t := by decide
  have hm : Statement.ofLine true (some .sequenceDiagram) ⟨.genericLine, t, 1, []⟩ =
      .ok (.message m) := by decide +kernel
  obtain ⟨hagain, hvisible⟩ := ofLine_render_of_message hn hm
  have htext : m.text.map normalize = some "[x]".toList := by decide +kernel
  refine ⟨hn, hm, by decide +kernel, ?_, hvisible⟩
  rw [← htext]
  exact hagain 1 []

/-! ### First words and last characters -/

theorem getLast?_visible (h : IsTrimmed isSpace t) : (visible t).getLast? = t.getLast? := by
  rcases List.eq_nil_or_concat t with rfl | ⟨r, c, rfl⟩
  · rfl
  · have hc : isSpace c = false := h.last c (by simp)
    simp [visible_append, hc]

/-- Messages end as their lines do. -/
theorem getLast?_render (h : IsClean t) (hm : ReadsMessage t m) : m.render.getLast? = t.getLast? := by
  rw [← getLast?_visible (MessageLine.isClean_render h hm).isTrimmed_isSpace,
    MessageLine.visible_render h.newline_not_mem hm, getLast?_visible h.isTrimmed_isSpace]

/-- A source without blanks is the first word of its message. -/
theorem lead_render (hs : ∀ c ∈ m.source, isBlank c = false) :
    lead m.render = m.source ∧ afterLead m.render ≠ [] ∧
      m.render = m.source ++ ' ' :: afterLead m.render ∧
      ∀ c ∈ (afterLead m.render).head?, isSpace c = false ∧ c ≠ '\x7b' := by
  obtain ⟨c, r, hr, hspace, hbrace⟩ := m.exists_render_source
  have hafter : afterLead m.render = c :: r := by
    rw [hr, afterLead_append_blank hs rfl, List.dropWhile_cons_of_neg (by
      simp [isBlank_eq_false hspace])]
  refine ⟨by rw [hr, lead_append_blank hs rfl], by simp [hafter], by rw [hafter, hr], ?_⟩
  rw [hafter]
  rintro d ⟨⟩
  exact ⟨hspace, hbrace⟩

/-- A source with a blank hides the space behind it. -/
theorem lead_render_of_blank (h : IsClean t) (hm : ReadsMessage t m)
    (hs : ∃ c ∈ m.source, isBlank c = true) :
    lead m.render = lead t ∧ (afterLead m.render).head? = (afterLead t).head? ∧
      afterLead t ≠ [] := by
  obtain ⟨-, htrim, x, ht⟩ := MessageLine.exists_eq_source_append h hm
  obtain ⟨d, y, hr, -⟩ := m.exists_render_source
  rcases eq_lead_or_exists m.source with hlead | ⟨c, r, hc, hsource, -⟩
  · obtain ⟨c, hmem, hblank⟩ := hs
    rw [hlead] at hmem
    rw [isBlank_of_mem_lead hmem] at hblank
    cases hblank
  · have hword : ∀ c ∈ lead m.source, isBlank c = false := fun c hc => isBlank_of_mem_lead hc
    have hne : r.dropWhile isBlank ≠ [] := by
      refine dropWhile_ne_nil ?_ fun c hc => isBlank_eq_false (htrim.last c ?_)
      · rintro rfl
        have hlast := htrim.last c (by rw [hsource]; simp)
        rw [isSpace_of_isBlank hc] at hlast
        cases hlast
      · rw [hsource, List.getLast?_append_of_ne_nil _ (by simp), List.getLast?_cons, hc]
        rfl
    have hdrop (z : Text) : (r ++ z).dropWhile isBlank = r.dropWhile isBlank ++ z := by
      rw [List.dropWhile_append, if_neg (by simpa using hne)]
    have hlead (z : Text) : lead (m.source ++ z) = lead m.source ∧
        afterLead (m.source ++ z) = r.dropWhile isBlank ++ z := by
      have hsplit : m.source ++ z = lead m.source ++ c :: (r ++ z) := by
        conv_lhs => rw [hsource]
        simp
      rw [hsplit, lead_append_blank hword hc, afterLead_append_blank hword hc, hdrop]
      exact ⟨rfl, rfl⟩
    rw [hr, ht, (hlead _).1, (hlead _).1, (hlead _).2, (hlead _).2, List.head?_append_of_ne_nil _ hne,
      List.head?_append_of_ne_nil _ hne]
    exact ⟨rfl, rfl, by simp [hne]⟩

/-! ### Sources that are no keywords -/

/-- The source of a message is none of the words that tell the shape of a line behind which a space
stands. -/
structure IsPlainSource (mode : LineMode) (m : Message) : Prop where
  participant : m.source ∉ participantKeywords
  block : m.source ∉ blockKeywords
  brace : ¬(m.source ∈ braceKeywords ∧ m.render.getLast? = some '\x7b')
  branch : ¬(mode = .sequence ∧ m.source ∈ branchWords)
  note : isNoteWord m.source = false

theorem isUnmarked_render {mode : LineMode} (h : IsClean t) (hu : IsUnmarked mode t)
    (hm : ReadsMessage t m) (hs : IsPlainSource mode m) : IsUnmarked mode m.render := by
  obtain ⟨-, -, x, ht⟩ := MessageLine.exists_eq_source_append h hm
  obtain ⟨c, r, hr, -, -⟩ := m.exists_render_source
  have hspace : ' ' ∈ m.render := by simp [hr]
  have hend : m.render ≠ "end".toList := fun he => absurd (he ▸ hspace) (by decide)
  have hclose : m.render ≠ ['\x7d'] := fun he => absurd (he ▸ hspace) (by decide)
  have hnil : m.render ≠ [] := List.ne_nil_of_mem hspace
  obtain ⟨-, hmark, hparticipant, hblock, hbrace, hbranch, -, -, hnote⟩ := isUnmarked_iff.1 hu
  -- a source of several words keeps the first word; any other is the first word from now on
  by_cases hblank : ∃ c ∈ m.source, isBlank c = true
  · obtain ⟨hlead, hhead, hafter⟩ := lead_render_of_blank h hm hblank
    rw [isUnmarked_iff, hlead]
    refine ⟨hnil, hmark, fun hp => hparticipant ⟨hp.1, hafter⟩, hblock, fun hb => hbrace ⟨hb.1, ?_⟩,
      hbranch, hend, hclose, hnote⟩
    have hafter' : afterLead m.render ≠ [] := by
      rw [Ne, ← List.head?_eq_none_iff, hhead, List.head?_eq_none_iff]
      exact hafter
    rw [braceName?_ne_none_iff] at hb ⊢
    rw [← hhead, getLast?_afterLead hafter, ← getLast?_render h hm, ← getLast?_afterLead hafter']
    exact hb.2
  · have hblank' : ∀ c ∈ m.source, isBlank c = false := by simpa using hblank
    obtain ⟨hlead, hafter, -, -⟩ := lead_render hblank'
    rw [isUnmarked_iff, hlead]
    refine ⟨hnil, fun hp => hmark ?_, fun hp => hs.participant hp.1, hs.block,
      fun hb => hs.brace ⟨hb.1, ?_⟩, hs.branch, hend, hclose, by simp [hs.note]⟩
    · rw [ht, lead_append hblank']
      rw [List.isPrefixOf_iff_prefix] at hp ⊢
      exact hp.trans ( List.prefix_append _ _)
    · rw [← getLast?_afterLead hafter]
      exact (braceName?_ne_none_iff.1 hb.2).2

/-! ### Sources that are keywords -/

/-- Texts that are trimmed one by one keep their place only if they were trimmed before. -/
theorem strip_append_strip_eq_iff {u v w : Text} :
    strip u ++ (v ++ strip w) = u ++ (v ++ w) ↔ strip u = u ∧ strip w = w := by
  refine ⟨fun h => ?_, fun h => by rw [h.1, h.2]⟩
  have hle (x : Text) : (strip x).length ≤ x.length := by
    obtain ⟨y, z, hx, -⟩ := exists_eq_append_trim_append isSpace x
    have := congrArg List.length hx
    simp only [List.length_append] at this
    exact le_of_le_of_eq (by unfold strip; omega) this.symm
  have hu := hle u
  have hw := hle w
  have hlen := congrArg List.length h
  simp only [List.length_append] at hlen
  obtain ⟨hu', hvw⟩ := List.append_inj h (by omega)
  exact ⟨hu', List.append_cancel_left hvw⟩

/-- A participant is rendered as its line if its first `as` has no further blank on either side. -/
theorem render_declared_eq_iff (k : ParticipantKeyword) {rest : Text} (h : IsClean rest) :
    (Participant.declared k rest).render = k.keyword ++ ' ' :: rest ↔
      ∀ name shown, splitAround? " as ".toList rest = some (name, shown) →
        name.getLast? ≠ some ' ' ∧ shown.head? ≠ some ' ' := by
  have hsep : " as ".toList ≠ [] := by decide
  have htrim := h.isTrimmed_isSpace
  rcases Participant.declared_cases htrim with ⟨name, shown, hrest, hno, hs, hd⟩ | ⟨hno, hd⟩
  · have hshown : shown ≠ [] := by
      rintro rfl
      exact hs rfl
    have hname : name ≠ [] := by
      rintro rfl
      exact absurd (htrim.head ' ' (by rw [hrest]; rfl)) (by decide)
    have hsplit : splitAround? " as ".toList rest = some (name, shown) :=
      (splitAround?_eq_some_iff hsep).2 ⟨hrest, hno⟩
    have hblank {c : Char} (hc : c ∈ name ∨ c ∈ shown) (hspace : isSpace c = true) : c = ' ' :=
      h.eq_space (by rw [hrest]; simp only [List.mem_append]; tauto) hspace
    have hstrip_name : strip name = name ↔ name.getLast? ≠ some ' ' := by
      constructor
      · intro he hlast
        exact absurd ((isTrimmed_strip name).last ' ' (he.symm ▸ hlast)) (by decide)
      · intro hlast
        refine IsTrimmed.trim_eq ⟨fun c hc => ?_, fun c hc => Bool.eq_false_iff.2 fun hspace => ?_⟩
        · exact htrim.head c (by rwa [hrest, List.head?_append_of_ne_nil _ hname])
        · exact hlast (hblank (.inl (List.mem_of_mem_getLast? hc)) hspace ▸ hc)
    have hstrip_shown : strip shown = shown ↔ shown.head? ≠ some ' ' := by
      constructor
      · intro he hhead
        exact absurd ((isTrimmed_strip shown).head ' ' (he.symm ▸ hhead)) (by decide)
      · intro hhead
        refine IsTrimmed.trim_eq ⟨fun c hc => Bool.eq_false_iff.2 fun hspace => ?_, fun c hc => ?_⟩
        · exact hhead (hblank (.inr (List.mem_of_mem_head? hc)) hspace ▸ hc)
        · refine htrim.last c ?_
          rwa [hrest, List.getLast?_append_of_ne_nil _ (by simp), List.getLast?_append_of_ne_nil _ hshown]
    rw [hd, Participant.render_some hs, List.append_cancel_left_eq, List.cons.injEq, and_iff_right rfl]
    conv_lhs => rw [hrest]
    rw [strip_append_strip_eq_iff, hstrip_name, hstrip_shown, hsplit]
    simp
  · rw [hd, Participant.render_none, (splitAround?_eq_none_iff hsep).2 hno]
    simp

/-- A brace block is rendered as its line if one blank stands before the brace. -/
theorem render_braceBlock_eq_iff {rest name : Text} (h : IsClean rest)
    (hname : braceName? rest = some name) :
    strip name ++ [' ', '\x7b'] = rest ↔ ∃ x, rest = x ++ [' ', '\x7b'] ∧ x.getLast? ≠ some ' ' := by
  constructor
  · intro he
    refine ⟨strip name, he.symm, fun hlast => ?_⟩
    exact absurd ((isTrimmed_strip name).last ' ' hlast) (by decide)
  · rintro ⟨x, hx, hlast⟩
    obtain ⟨c, r, hspace, -, hrest, rfl⟩ := eq_of_braceName? hname
    -- the name is what stands before the blank
    have hcr : c :: r = x ++ [' '] := by
      have hconcat : c :: r ++ ['\x7b'] = (x ++ [' ']) ++ ['\x7b'] := by
        rw [← hrest, hx]
        simp
      exact List.append_cancel_right hconcat
    have hne : x ≠ [] := by
      rintro rfl
      cases hcr
      exact absurd hspace (by decide)
    have htrim : IsTrimmed isSpace x := by
      refine ⟨fun d hd => ?_, fun d hd => Bool.eq_false_iff.2 fun hs => ?_⟩
      · exact h.isTrimmed_isSpace.head d (by rwa [hx, List.head?_append_of_ne_nil _ hne])
      · refine hlast (h.eq_space ?_ hs ▸ hd)
        rw [hx]
        exact List.mem_append_left _ (List.mem_of_mem_getLast? hd)
    have hright : trimRight isBlank (x ++ [' ']) = x := by
      rw [trimRight_append_of_forall (by decide), trimRight_eq_self htrim.blanks.last]
    rw [hcr, hright, strip, htrim.trim_eq, hx]

end MermaidTidy
