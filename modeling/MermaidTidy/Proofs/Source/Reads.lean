import Mathlib.Tactic
import MermaidTidy.Proofs.Diagram.MessageLine
import MermaidTidy.Proofs.Diagram.Participant
import MermaidTidy.Source.Read

/-!
# What a line reads as

`Reads messages p t s` says that the line `t`, without blanks around it, is the statement `s` where
reading has come to `p`. There is one rule for each kind of statement, in terms of the first word of
the line and what follows it; no rule speaks of productions or captured parts.

* `statementOf_of_reads`: the statement that a rule gives is the one that is built;
* `reads_cases`: a line has a statement by one of the rules, unless it looks like a message with an
  arrow that is none.
-/

namespace MermaidTidy

open Text Line

/-- The line `t`, read at `p`, is the statement `s`. -/
inductive Reads (messages : Bool) (p : Source.Progress) : Text → Statement → Prop
  | blank : Reads messages p [] .blank
  | directive {t : Text} (h : ['%', '%', '\x7b'].isPrefixOf (lead t)) :
      Reads messages p t (.directive t)
  | comment {t : Text} (h : ['%', '%'].isPrefixOf (lead t))
      (h' : ¬['%', '%', '\x7b'].isPrefixOf (lead t)) : Reads messages p t (.comment t)
  | participant {t : Text} (k : ParticipantKeyword) (h : lead t = k.keyword)
      (hrest : afterLead t ≠ []) :
      Reads messages p t (.participant (Participant.declared k (afterLead t)))
  | blockStart {t : Text} (b : BlockKind) (h : lead t = b.keyword) :
      Reads messages p t (.blockStart b (stripped? (afterLead t)))
  | braceBlockStart {t name : Text} (b : BraceBlockKind) (h : lead t = b.keyword)
      (hname : braceName? (afterLead t) = some name) :
      Reads messages p t (.braceBlockStart b (strip name))
  | blockOption {t : Text} (hmode : p.mode = .sequence) (h : lead t = "option".toList) :
      Reads messages p t (.blockOption (stripped? (afterLead t)))
  | blockElse {t : Text} (hmode : p.mode = .sequence) (h : lead t = "else".toList) :
      Reads messages p t (.blockElse (stripped? (afterLead t)))
  | blockAnd {t : Text} (hmode : p.mode = .sequence) (h : lead t = "and".toList) :
      Reads messages p t (.blockAnd (stripped? (afterLead t)))
  | blockEnd : Reads messages p "end".toList .blockEnd
  | braceBlockEnd : Reads messages p ['\x7d'] .braceBlockEnd
  | note {t : Text} (h : isNoteWord (lead t) = true) : Reads messages p t (.note t)
  | declaration {t : Text} (hu : IsUnmarked p.mode t) (hd : declaration? p.mode t ≠ none) :
      Reads messages p t (.declaration (DiagramType.decode t))
  | message {t : Text} {m : Message} (hu : IsUnmarked p.mode t) (hd : declaration? p.mode t = none)
      (hmessages : messages = true) (hdialect : p.dialect = some .sequenceDiagram)
      (h : ReadsMessage t m) : Reads messages p t (.message m)
  | generic {t : Text} (hu : IsUnmarked p.mode t) (hd : declaration? p.mode t = none)
      (h : messages = true → p.dialect = some .sequenceDiagram → NoMessage t) :
      Reads messages p t (.generic t)

namespace Source

/-- The statement of a line without blanks around it and without control characters. -/
def statementOf (messages : Bool) (p : Progress) (line : Int) (t : Text) : Except Fault Statement :=
  Statement.ofLine messages p.dialect
    { production := (recognise p.mode t).1, text := t, line, captures := (recognise p.mode t).2 }

theorem readLine_of_obstacle?_eq_none {messages : Bool} {p : Progress} {index : Nat} {raw : Text}
    (h : obstacle? (stripBlanks raw) = none) :
    readLine messages p index raw = statementOf messages p (index + 1) (stripBlanks raw) := by
  unfold readLine classify statementOf
  simp only [h]

variable {messages : Bool} {p : Progress} {t : Text} (line : Int)

/-! ### One line for each rule -/

theorem statementOf_of_marked {q : Production} {f : Text → Option (Captures Terminal)}
    {captures : Captures Terminal} (hmem : (q, f) ∈ marked p.mode) (hf : f t = some captures) :
    statementOf messages p line t =
      Statement.ofLine messages p.dialect { production := q, text := t, line, captures } := by
  unfold statementOf
  rw [recognise_of_marked hmem hf]

theorem token_of_decode? {α : Type} [Vocabulary α] {l : ClassifiedLine} {w : Text} {a : α}
    (h : Vocabulary.decode? w = some a) : Statement.token α l w = .ok a := by
  unfold Statement.token Vocabulary.decode
  rw [h]

/-- The label that is captured behind a keyword, or else looked for there. -/
theorem labelOf_eq {l : ClassifiedLine} (before : Captures Terminal)
    (hcaptures : l.captures = before ++ label (afterLead l.text))
    (hbefore : Captures.first? before .text = none) :
    Statement.labelOf l (lead l.text) = stripped? (afterLead l.text) := by
  have hfield : l.field? .text = Captures.first? (label (afterLead l.text)) .text := by
    unfold ClassifiedLine.field?
    unfold Captures.first? at hbefore ⊢
    rw [hcaptures, List.find?_append, Option.map_eq_none_iff.1 hbefore, Option.none_or]
  unfold Statement.labelOf
  rw [hfield, label]
  split_ifs with hrest
  · -- The label is not captured: blanks only can follow the keyword.
    obtain ⟨w, ht, hw⟩ := exists_eq_lead_append l.text
    rw [hrest, List.append_nil] at ht
    have hstrip : strip w = [] := trim_eq_nil_iff.2 fun c hc => isSpace_of_isBlank (hw c hc)
    rw [isPrefixOf?_eq_some_iff.2 ht, hrest]
    show stripped? w = _
    unfold stripped?
    rw [hstrip]
    rfl
  · rfl

theorem keywordOf_eq {l : ClassifiedLine} {terminal : Terminal} {k : Text}
    (h : l.field? terminal = some k) (hne : k ≠ []) : Statement.keywordOf l terminal = .ok k := by
  unfold Statement.keywordOf
  rw [h, Option.filter_some, if_pos (decide_eq_true hne), Option.some_or]

theorem statementOf_participant (k : ParticipantKeyword) (h : lead t = k.keyword)
    (hrest : afterLead t ≠ []) :
    statementOf messages p line t = .ok (.participant (Participant.declared k (afterLead t))) := by
  have hmem : (Production.participant, participant?) ∈ marked p.mode := by simp [marked, shapes]
  have hkey : lead t ∈ participantKeywords := by
    rw [h]
    cases k <;> decide
  rw [statementOf_of_marked line hmem (by rw [participant?_eq, if_pos ⟨hkey, hrest⟩])]
  have hdecode : Vocabulary.decode? k.keyword = some k := by cases k <;> rfl
  set l : ClassifiedLine :=
    ⟨.participant, t, line, [(.participantKeyword, lead t), (.text, afterLead t)]⟩
  have hspelled : (if "actor".toList.isPrefixOf l.text then "actor".toList else
      "participant".toList) = k.keyword := by
    rw [show l.text = t from rfl, ← isPrefixOf_lead (by decide), h]
    cases k <;> rfl
  have hdeclared : (l.field? .text).getD [] = afterLead t := rfl
  show Statement.participantOf l = _
  unfold Statement.participantOf Participant.declared
  simp only [hspelled, hdeclared, token_of_decode? hdecode, bind, Except.bind]
  cases splitAround? " as ".toList (afterLead t) <;> rfl

theorem statementOf_blockStart (b : BlockKind) (h : lead t = b.keyword) :
    statementOf messages p line t = .ok (.blockStart b (stripped? (afterLead t))) := by
  have hmem : (Production.blockStart, blockStart?) ∈ marked p.mode := by simp [marked, shapes]
  have hkey : lead t ∈ blockKeywords := by
    rw [h]
    cases b <;> decide
  have hdecode : Vocabulary.decode? b.keyword = some b := by cases b <;> rfl
  rw [statementOf_of_marked line hmem (by rw [blockStart?_eq, if_pos hkey])]
  set l : ClassifiedLine := ⟨.blockStart, t, line, (.blockKeyword, lead t) :: label (afterLead t)⟩
  have hkeyword : Statement.keywordOf l .blockKeyword = .ok (lead t) := by
    refine keywordOf_eq rfl ?_
    rw [h]
    cases b <;> decide
  have hlabel : Statement.labelOf l (lead t) = stripped? (afterLead t) :=
    labelOf_eq [(.blockKeyword, lead t)] rfl rfl
  show Statement.blockStartOf l = _
  unfold Statement.blockStartOf
  simp only [hkeyword, hlabel, token_of_decode? (h ▸ hdecode), bind, Except.bind]
  rfl

theorem statementOf_braceBlockStart (b : BraceBlockKind) {name : Text} (h : lead t = b.keyword)
    (hname : braceName? (afterLead t) = some name) :
    statementOf messages p line t = .ok (.braceBlockStart b (strip name)) := by
  have hmem : (Production.braceBlockStart, braceBlockStart?) ∈ marked p.mode := by
    simp [marked, shapes]
  have hkey : lead t ∈ braceKeywords := by
    rw [h]
    cases b <;> decide
  have hdecode : Vocabulary.decode? b.keyword = some b := by cases b <;> rfl
  rw [statementOf_of_marked line hmem (by rw [braceBlockStart?_eq, if_pos hkey, hname]; rfl)]
  set l : ClassifiedLine :=
    ⟨.braceBlockStart, t, line, [(.braceKeyword, lead t), (.braceName, name)]⟩
  have hkeyword : Statement.keywordOf l .braceKeyword = .ok (lead t) := by
    refine keywordOf_eq rfl ?_
    rw [h]
    cases b <;> decide
  show Statement.braceBlockStartOf l = _
  unfold Statement.braceBlockStartOf
  simp only [hkeyword, token_of_decode? (h ▸ hdecode), bind, Except.bind]
  rfl

/-- The recognisers of branches take their word in sequence diagrams only. -/
theorem statementOf_branch {q : Production} {word : Text} {f : Option Text → Statement}
    (hmode : p.mode = .sequence) (h : lead t = word) (hword : ∀ c ∈ word, isBlank c = false)
    (hmem : (q, sequenceBranch? p.mode word) ∈ marked p.mode)
    (hof : ∀ l : ClassifiedLine, l.production = q →
      Statement.ofLine messages p.dialect l = .ok (f (Statement.labelOf l word))) :
    statementOf messages p line t = .ok (f (stripped? (afterLead t))) := by
  have hf : sequenceBranch? p.mode word t = some (label (afterLead t)) := by
    rw [hmode, sequenceBranch?, branch?_eq hword, if_pos h]
  rw [statementOf_of_marked line hmem hf, hof _ rfl]
  subst h
  rw [labelOf_eq [] rfl rfl]

theorem messageOf?_of_noMessage {l : ClassifiedLine} (h : NoMessage l.text) :
    Statement.messageOf? l = .ok none := by
  unfold Statement.messageOf?
  cases hr : MessageLine.read? l.text with
  | none => rfl
  | some m => exact if_pos (h m hr)

theorem messageOf?_of_readsMessage {l : ClassifiedLine} {m : Message} (h : ReadsMessage l.text m) :
    Statement.messageOf? l = .ok (some m) := by
  obtain ⟨ml, a, hr, hc, ha, rfl⟩ := h
  unfold Statement.messageOf?
  rw [hr]
  simp only [MessageLine.namesClass] at hc
  simp only [hc, token_of_decode? ha, bind, Except.bind]
  rfl

theorem messageOf?_of_decode?_eq_none {l : ClassifiedLine} {m : MessageLine}
    (hread : MessageLine.read? l.text = some m) (hclass : m.namesClass = false)
    (harrow : (Vocabulary.decode? m.arrow : Option Arrow) = none) :
    Statement.messageOf? l =
      .error (.diagnostic (Vocabulary.unknown Arrow m.arrow l.line (some l.text))) := by
  unfold Statement.messageOf?
  simp only [MessageLine.namesClass] at hclass
  simp only [hread, hclass, Statement.token, Vocabulary.decode, harrow, bind, Except.bind]
  rfl

/-- The report about a message with an arrow that is none. -/
theorem exists_messageOf?_eq_error {t : Text} (h : UnknownArrow t) :
    ∃ arrow, (∀ a : Arrow, a.token ≠ arrow) ∧ ∀ l : ClassifiedLine, l.text = t →
      Statement.messageOf? l = .error (.diagnostic (Vocabulary.unknown Arrow arrow l.line (some t))) := by
  obtain ⟨ml, hread, hclass, harrow⟩ := h
  refine ⟨ml.arrow, fun a ha => ?_, ?_⟩
  · have hmem : a ∈ (Vocabulary.members : List Arrow) := by cases a <;> decide
    have hnot : (Vocabulary.spelling a == ml.arrow) = false :=
      Bool.eq_false_iff.2 (List.find?_eq_none.1 harrow a hmem)
    exact absurd ha (beq_eq_false_iff_ne.1 hnot)
  · rintro l rfl
    exact messageOf?_of_decode?_eq_none hread hclass harrow

/-- A line is no message, or one, or it has an arrow that is none. -/
theorem message_cases (t : Text) : NoMessage t ∨ (∃ m, ReadsMessage t m) ∨ UnknownArrow t := by
  by_cases hn : NoMessage t
  · exact .inl hn
  · right
    obtain ⟨l, hr, hc⟩ : ∃ l, MessageLine.read? t = some l ∧ l.namesClass = false := by
      simpa [NoMessage] using hn
    cases ha : (Vocabulary.decode? l.arrow : Option Arrow) with
    | none => exact .inr ⟨l, hr, hc, ha⟩
    | some a => exact .inl ⟨l.toMessage a, l, a, hr, hc, ha, rfl⟩

theorem statementOf_of_isUnmarked (hu : IsUnmarked p.mode t) (hd : declaration? p.mode t = none) :
    statementOf messages p line t =
      Statement.genericOf messages p.dialect ⟨.genericLine, t, line, [(.text, t)]⟩ := by
  unfold statementOf
  rw [recognise_of_isUnmarked hu, hd]
  rfl

theorem genericOf_sequenceDiagram (l : ClassifiedLine) :
    Statement.genericOf true (some .sequenceDiagram) l = (Statement.messageOf? l).map fun m? =>
      (m?.map Statement.message).getD (.generic l.text) := by
  unfold Statement.genericOf
  rw [if_pos (by simp)]
  rcases Statement.messageOf? l with _ | _ | _ <;> rfl

theorem exists_statementOf_eq_error (hu : IsUnmarked p.mode t) (hd : declaration? p.mode t = none)
    (hp : p.dialect = some .sequenceDiagram) (h : UnknownArrow t) :
    ∃ arrow, (∀ a : Arrow, a.token ≠ arrow) ∧ ∀ line, statementOf true p line t =
      .error (.diagnostic (Vocabulary.unknown Arrow arrow line (some t))) := by
  obtain ⟨arrow, hnone, herror⟩ := exists_messageOf?_eq_error h
  refine ⟨arrow, hnone, fun line => ?_⟩
  rw [statementOf_of_isUnmarked line hu hd, hp, genericOf_sequenceDiagram, herror _ rfl]
  rfl

/-- A rule gives the statement that is built. -/
theorem statementOf_of_reads {s : Statement} (h : Reads messages p t s) :
    statementOf messages p line t = .ok s := by
  cases h with
  | blank =>
    have hmem : (Production.blankLine, fun t : Text => if t = [] then some [] else none) ∈
        marked p.mode := by simp [marked, shapes]
    rw [statementOf_of_marked line hmem (if_pos rfl)]
    rfl
  | directive h =>
    have hmem : (Production.directive, directive?) ∈ marked p.mode := by simp [marked, shapes]
    rw [statementOf_of_marked line hmem (by rw [directive?_eq, if_pos h])]
    rfl
  | comment h h' =>
    have hmem : (Production.comment, comment?) ∈ marked p.mode := by simp [marked, shapes]
    rw [statementOf_of_marked line hmem (by rw [comment?_eq, if_pos ⟨h, h'⟩])]
    rfl
  | participant k h hrest => exact statementOf_participant line k h hrest
  | blockStart b h => exact statementOf_blockStart line b h
  | braceBlockStart b h hname => exact statementOf_braceBlockStart line b h hname
  | blockOption hmode h =>
    refine statementOf_branch line (q := .blockOption) hmode h (by decide)
      (by simp [marked, shapes]) ?_
    rintro ⟨q, t, n, captures⟩ rfl
    rfl
  | blockElse hmode h =>
    refine statementOf_branch line (q := .blockElse) hmode h (by decide)
      (by simp [marked, shapes]) ?_
    rintro ⟨q, t, n, captures⟩ rfl
    rfl
  | blockAnd hmode h =>
    refine statementOf_branch line (q := .blockAnd) hmode h (by decide)
      (by simp [marked, shapes]) ?_
    rintro ⟨q, t, n, captures⟩ rfl
    rfl
  | blockEnd =>
    have hmem : (Production.blockEnd, blockEnd?) ∈ marked p.mode := by simp [marked, shapes]
    rw [statementOf_of_marked line hmem (if_pos rfl)]
    rfl
  | braceBlockEnd =>
    have hmem : (Production.braceBlockEnd, braceBlockEnd?) ∈ marked p.mode := by
      simp [marked, shapes]
    rw [statementOf_of_marked line hmem (if_pos rfl)]
    rfl
  | note h =>
    have hmem : (Production.note, note?) ∈ marked p.mode := by simp [marked, shapes]
    rw [statementOf_of_marked line hmem (by rw [note?_eq, if_pos h])]
    rfl
  | declaration hu hd =>
    obtain ⟨captures, hc⟩ := Option.ne_none_iff_exists'.1 hd
    unfold statementOf
    rw [recognise_of_isUnmarked hu, hc]
    rfl
  | message hu hd hmessages hdialect h =>
    rw [statementOf_of_isUnmarked line hu hd, hmessages, hdialect, genericOf_sequenceDiagram,
      messageOf?_of_readsMessage h]
    rfl
  | generic hu hd h =>
    rw [statementOf_of_isUnmarked line hu hd]
    by_cases hm : messages = true ∧ p.dialect = some .sequenceDiagram
    · rw [hm.1, hm.2, genericOf_sequenceDiagram, messageOf?_of_noMessage (h hm.1 hm.2)]
      rfl
    · exact if_neg (by simpa using hm)

/-- A line that a recogniser of a mark or keyword takes has a statement. -/
theorem exists_reads_of_marked {q : Production} {f : Text → Option (Captures Terminal)}
    {captures : Captures Terminal} (hmem : (q, f) ∈ marked p.mode) (hf : f t = some captures) :
    ∃ s, Reads messages p t s := by
  have branch : ∀ {word : Text}, (∀ c ∈ word, isBlank c = false) →
      sequenceBranch? p.mode word t = some captures → p.mode = .sequence ∧ lead t = word := by
    intro word hword h
    cases hmode : p.mode with
    | sequence =>
      rw [hmode, sequenceBranch?, branch?_eq hword] at h
      exact ⟨rfl, by_contra fun hne => by rw [if_neg hne] at h; cases h⟩
    | _ =>
      rw [hmode] at h
      cases h
  cases q, f, hmem using marked_cases with
  | blankLine =>
    rw [(Option.ite_none_right_eq_some.1 hf).1]
    exact ⟨_, .blank⟩
  | directive =>
    rw [directive?_eq] at hf
    exact ⟨_, .directive (Option.ite_none_right_eq_some.1 hf).1⟩
  | comment =>
    rw [comment?_eq] at hf
    exact ⟨_, .comment (Option.ite_none_right_eq_some.1 hf).1.1 (Option.ite_none_right_eq_some.1 hf).1.2⟩
  | participant =>
    rw [participant?_eq] at hf
    obtain ⟨⟨hkey, hrest⟩, -⟩ := Option.ite_none_right_eq_some.1 hf
    obtain ⟨k, hk⟩ : ∃ k : ParticipantKeyword, lead t = k.keyword := by
      rcases List.mem_pair.1 hkey with h | h
      · exact ⟨.participant, h⟩
      · exact ⟨.actor, h⟩
    exact ⟨_, .participant k hk hrest⟩
  | blockStart =>
    rw [blockStart?_eq] at hf
    obtain ⟨b, -, hb⟩ := List.mem_map.1 (Option.ite_none_right_eq_some.1 hf).1
    exact ⟨_, .blockStart b hb.symm⟩
  | braceBlockStart =>
    rw [braceBlockStart?_eq] at hf
    obtain ⟨hkey, hname⟩ := Option.ite_none_right_eq_some.1 hf
    obtain ⟨b, -, hb⟩ := List.mem_map.1 hkey
    obtain ⟨name, hn, -⟩ := Option.map_eq_some_iff.1 hname
    exact ⟨_, .braceBlockStart b hb.symm hn⟩
  | blockOption => exact ⟨_, .blockOption (branch (by decide) hf).1 (branch (by decide) hf).2⟩
  | blockElse => exact ⟨_, .blockElse (branch (by decide) hf).1 (branch (by decide) hf).2⟩
  | blockAnd => exact ⟨_, .blockAnd (branch (by decide) hf).1 (branch (by decide) hf).2⟩
  | blockEnd =>
    rw [(Option.ite_none_right_eq_some.1 hf).1]
    exact ⟨_, .blockEnd⟩
  | braceBlockEnd =>
    rw [(Option.ite_none_right_eq_some.1 hf).1]
    exact ⟨_, .braceBlockEnd⟩
  | note =>
    rw [note?_eq] at hf
    exact ⟨_, .note (Option.ite_none_right_eq_some.1 hf).1⟩

/-- Every line has a statement by one of the rules, unless it looks like a message with an arrow
that is none. -/
theorem reads_cases (messages : Bool) (p : Progress) (t : Text) :
    (∃ s, Reads messages p t s) ∨
      IsUnmarked p.mode t ∧ declaration? p.mode t = none ∧ messages = true ∧
        p.dialect = some .sequenceDiagram ∧ UnknownArrow t := by
  rcases recognise_cases p.mode t with ⟨q, f, captures, hmem, hf, -⟩ | ⟨hu, captures, hd, -⟩ |
    ⟨hu, hd, -⟩
  · exact .inl (exists_reads_of_marked hmem hf)
  · exact .inl ⟨_, .declaration hu (by simp [hd])⟩
  · by_cases hm : messages = true ∧ p.dialect = some .sequenceDiagram
    · rcases message_cases t with h | ⟨m, h⟩ | h
      · exact .inl ⟨_, .generic hu hd fun _ _ => h⟩
      · exact .inl ⟨_, .message hu hd hm.1 hm.2 h⟩
      · exact .inr ⟨hu, hd, hm.1, hm.2, h⟩
    · exact .inl ⟨_, .generic hu hd fun h h' => absurd ⟨h, h'⟩ hm⟩

/-- The rules are complete. -/
theorem statementOf_eq_ok_iff {s : Statement} :
    statementOf messages p line t = .ok s ↔ Reads messages p t s := by
  constructor
  · intro h
    rcases reads_cases messages p t with ⟨s', hs⟩ | ⟨hu, hd, hm, hp, ha⟩
    · rw [statementOf_of_reads line hs] at h
      cases h
      exact hs
    · obtain ⟨arrow, -, herror⟩ := exists_statementOf_eq_error hu hd hp ha
      rw [hm, herror] at h
      cases h
  · exact statementOf_of_reads line

/-- A line has one statement. -/
theorem reads_unique {s s' : Statement} (h : Reads messages p t s) (h' : Reads messages p t s') :
    s = s' := by
  have heq : statementOf messages p 0 t = .ok s := statementOf_of_reads 0 h
  rw [statementOf_of_reads 0 h'] at heq
  exact (Except.ok.inj heq).symm

end Source

end MermaidTidy
