import Mathlib.Tactic
import MermaidTidy.Proofs.Format.Content
import MermaidTidy.Proofs.Format.Stability
import MermaidTidy.Proofs.Layout.Depth

/-!
# Formatting without messages

Where messages are off, a line that is a message elsewhere is a generic line, and no arrow is looked
for. Nothing else changes.

* `Verbatim s s'` relates the statements of one line with messages on and off;
* `readLine_verbatim`, `readLines_verbatim`: the two readings go on together until both end, or both
  find the same fault, or an unknown arrow ends the first one;
* `layoutFrom_verbatim`: the two layouts have the same lines, up to the spacing of messages;
* `formatInRoom_verbatim`: so have the two formatted texts.
-/

namespace MermaidTidy

open Text Line Respacing Source

/-- The statements of one line with messages on and off. -/
inductive Verbatim : Statement → Statement → Prop
  | same (s : Statement) : Verbatim s s
  | message {t : Text} {m : Message} (hn : '\n' ∉ t) (h : ReadsMessage t m) :
      Verbatim (.message m) (.generic t)

/-- The report is about a token that is no arrow. -/
def Fault.IsUnknownArrow (f : Fault) : Prop :=
  ∃ d token, f = .diagnostic d ∧ d.kind = .decode token ∧ ∀ a : Arrow, a.token ≠ token

namespace Verbatim

variable {s s' : Statement}

theorem placedAlike (h : Verbatim s s') : PlacedAlike s s' := by
  cases h with
  | same => exact .refl s
  | message => exact ⟨by simp, rfl, rfl, rfl, fun _ => rfl, fun _ => rfl⟩

theorem next (h : Verbatim s s') (p : Progress) : p.next s' = p.next s := by
  cases h with
  | same => rfl
  | message => exact Progress.next_congr rfl rfl p

theorem visible_render (h : Verbatim s s') : visible s'.render = visible s.render := by
  cases h with
  | same => rfl
  | @message t m hn h =>
    show visible (normalize t) = visible m.render
    rw [visible_normalize, MessageLine.visible_render hn h]

end Verbatim

theorem Message.visible_render_ne_nil (m : Message) : visible m.render ≠ [] := by
  obtain ⟨c, r, hr, hc, -⟩ := m.exists_render_source
  simp [hr, hc]

/-! ### Reading -/

namespace Source

variable (p : Progress)

/-- One line with messages on and off. -/
theorem readLine_verbatim (index : Nat) (raw : Text) :
    (∃ s s', readLine true p index raw = .ok s ∧ readLine false p index raw = .ok s' ∧
      Verbatim s s') ∨
    ∃ f, readLine true p index raw = .error f ∧
      (readLine false p index raw = .error f ∨ f.IsUnknownArrow) := by
  cases ho : obstacle? (stripBlanks raw) with
  | some o =>
    -- the line is rejected before it is read
    right
    unfold readLine
    rw [classify_of_obstacle? ho]
    exact ⟨_, rfl, .inl rfl⟩
  | none =>
    rw [readLine_of_obstacle?_eq_none ho, readLine_of_obstacle?_eq_none ho]
    have hn : '\n' ∉ stripBlanks raw := fun hmem =>
      absurd (obstacle?_eq_none_iff.1 ho _ hmem) (by decide)
    rcases reads_cases true p (stripBlanks raw) with ⟨s, hs⟩ | ⟨hu, hd, -, hp, harrow⟩
    · left
      obtain ⟨s', hs', -, -, heq⟩ := reads_messages_off hs
      refine ⟨s, s', statementOf_of_reads _ hs, statementOf_of_reads _ hs', ?_⟩
      rcases heq with rfl | ⟨m, rfl, rfl, hm⟩
      · exact .same s'
      · exact .message hn hm
    · right
      obtain ⟨arrow, hnone, herror⟩ := exists_statementOf_eq_error hu hd hp harrow
      exact ⟨_, herror _, .inr ⟨_, arrow, rfl, rfl, hnone⟩⟩

/-- Lines with messages on and off. -/
theorem readLines_verbatim (span : Option (Nat × Nat)) (index : Nat) (raws : List Text) :
    (∃ ss ss', readLines true span p index raws = ⟨ss, none⟩ ∧
      readLines false span p index raws = ⟨ss', none⟩ ∧ List.Forall₂ Verbatim ss ss') ∨
    ∃ f, (readLines true span p index raws).fault = some f ∧
      ((readLines false span p index raws).fault = some f ∨ f.IsUnknownArrow) := by
  induction raws generalizing p index with
  | nil => exact .inl ⟨[], [], rfl, rfl, .nil⟩
  | cons raw raws ih =>
    rw [readLines, readLines]
    split_ifs with hin
    · rcases ih p (index + 1) with ⟨ss, ss', hr, hr', h⟩ | hfault
      · rw [hr, hr']
        exact .inl ⟨_, _, rfl, rfl, .cons (.same _) h⟩
      · exact .inr hfault
    · rcases readLine_verbatim p index raw with ⟨s, s', hs, hs', hline⟩ | ⟨f, hf, hf'⟩
      · -- the progress is the same behind both statements
        simp only [hs, hs', hline.next]
        rcases ih (p.next s) (index + 1) with ⟨ss, ss', hr, hr', h⟩ | hfault
        · rw [hr, hr']
          exact .inl ⟨_, _, rfl, rfl, .cons hline h⟩
        · exact .inr hfault
      · refine .inr ⟨f, by rw [hf], ?_⟩
        rcases hf' with hf' | harrow
        · exact .inl (by rw [hf'])
        · exact .inr harrow

end Source

/-! ### Layout -/

/-- The two passes lay out every statement in the same way. -/
structure Pass.Agrees (q q' : Pass) : Prop where
  state : q'.state = q.state
  afterText : q'.afterText = q.afterText
  previous : q'.previous.any Statement.isContentBeforeBlock =
    q.previous.any Statement.isContentBeforeBlock

namespace Pass.Agrees

variable {settings : Settings} {q q' : Pass} {s s' : Statement}

theorem line (h : q.Agrees q') (s : Statement) : q'.line settings s = q.line settings s := by
  simp only [Pass.line, Pass.stateAt, h.state]

theorem gapBefore (h : q.Agrees q') (s : Statement) : q'.gapBefore s = q.gapBefore s := by
  simp only [Pass.gapBefore, needsBlankBefore, h.previous, h.afterText]

theorem layoutFrom_singleton (h : q.Agrees q') (s : Statement) :
    layoutFrom settings q' [s] = layoutFrom settings q [s] := by
  by_cases hs : s = .blank
  · rw [hs, layoutFrom_blank, layoutFrom_blank, h.afterText]
    rfl
  · rw [layoutFrom_cons hs, layoutFrom_cons hs, h.line, h.gapBefore]
    rfl

/-- A message has a line, and so has the generic line in its place. -/
theorem line_eq_nil_iff (h : q.Agrees q') (hs : Verbatim s s') :
    q'.line settings s' = [] ↔ q.line settings s = [] := by
  cases hs with
  | same => rw [h.line]
  | @message t m hn hm =>
    have hvisible : visible (q'.line settings (.generic t)) = visible m.render := by
      rw [Pass.visible_line, (Verbatim.message hn hm).visible_render]
      rfl
    refine iff_of_false (fun hnil => ?_) (fun hnil => ?_)
    · rw [hnil] at hvisible
      exact m.visible_render_ne_nil hvisible.symm
    · have hline := q.visible_line settings (.message m)
      rw [hnil] at hline
      exact m.visible_render_ne_nil hline.symm

theorem past (h : q.Agrees q') (hs : Verbatim s s') :
    (q.past settings s).Agrees (q'.past settings s') := by
  by_cases hb : s = .blank
  · rw [hb, hs.placedAlike.blank.2 hb]
    exact ⟨h.state, rfl, h.previous⟩
  · rw [Pass.past_of_ne hb, Pass.past_of_ne fun hb' => hb (hs.placedAlike.blank.1 hb')]
    refine ⟨?_, ?_, hs.placedAlike.isContentBeforeBlock⟩
    · show q'.stateAfter s' = q.stateAfter s
      rw [hs.placedAlike.stateAfter]
      simp only [Pass.stateAfter, Pass.stateAt, h.state]
    · show decide (q'.line settings s' ≠ []) = decide (q.line settings s ≠ [])
      rw [decide_eq_decide, not_iff_not]
      exact h.line_eq_nil_iff hs

/-- One statement with messages on and off: its lines show the same, and only the one line of a
message can change. -/
theorem layoutFrom_verbatim (settings : Settings) (h : q.Agrees q') (hs : Verbatim s s') :
    (layoutFrom settings q' [s']).map visible = (layoutFrom settings q [s]).map visible ∧
      (layoutFrom settings q' [s'] = layoutFrom settings q [s] ∨
        ∃ m l, s = .message m ∧ layoutFrom settings q [s] = [l]) := by
  cases hs with
  | same =>
    rw [h.layoutFrom_singleton]
    exact ⟨rfl, .inl rfl⟩
  | @message t m hn hm =>
    have hline : visible (q'.line settings (.generic t)) = visible (q.line settings (.message m)) := by
      rw [Pass.visible_line, Pass.visible_line, (Verbatim.message hn hm).visible_render]
    have hlines : layoutFrom settings q [.message m] = [q.line settings (.message m)] := rfl
    have hlines' : layoutFrom settings q' [.generic t] = [q'.line settings (.generic t)] := rfl
    rw [hlines, hlines']
    exact ⟨by rw [List.map_singleton, List.map_singleton, hline], .inr ⟨m, _, rfl, rfl⟩⟩

end Pass.Agrees

/-- Of the settings only the indentation matters for a layout. -/
theorem layoutFrom_congr {settings settings' : Settings} (h : settings'.indent = settings.indent)
    (q : Pass) (ss : List Statement) : layoutFrom settings' q ss = layoutFrom settings q ss := by
  have hline (q : Pass) (s : Statement) : q.line settings' s = q.line settings s := by
    rw [Pass.line, Pass.line, h]
  have hpast (q : Pass) (s : Statement) : q.past settings' s = q.past settings s := by
    unfold Pass.past Pass.next
    rw [hline]
  induction ss generalizing q with
  | nil => rfl
  | cons s ss ih =>
    by_cases hs : s = .blank
    · rw [hs, layoutFrom_blank, layoutFrom_blank, ih, hpast]
    · rw [layoutFrom_cons hs, layoutFrom_cons hs, ih, hline, ← Pass.past_of_ne hs, hpast,
        Pass.past_of_ne hs]

/-- The layouts with messages on and off show the same, line by line, and only the lines of messages
can change. -/
theorem layoutFrom_verbatim (settings : Settings) {q q' : Pass} {ss ss' : List Statement}
    (h : List.Forall₂ Verbatim ss ss') (hq : q.Agrees q') :
    (layoutFrom settings q' ss').map visible = (layoutFrom settings q ss).map visible ∧
      ∀ k, (layoutFrom settings q' ss')[k]? = (layoutFrom settings q ss)[k]? ∨
        ∃ n m, ss[n]? = some (.message m) ∧
          (layoutFrom settings q (ss.take (n + 1))).length = k + 1 := by
  have hcut (q : Pass) (s : Statement) (ss : List Statement) : layoutFrom settings q (s :: ss) =
      layoutFrom settings q [s] ++ layoutFrom settings (q.past settings s) ss :=
    layoutFrom_append settings q [s] ss
  induction h generalizing q q' with
  | nil => exact ⟨rfl, fun k => .inl rfl⟩
  | @cons s s' ss ss' hs _ ih =>
    obtain ⟨hhead, hsame⟩ := hq.layoutFrom_verbatim settings hs
    obtain ⟨htail, hrest⟩ := ih (hq.past hs)
    have hlen : (layoutFrom settings q' [s']).length = (layoutFrom settings q [s]).length := by
      simpa using congrArg List.length hhead
    rw [hcut q, hcut q']
    refine ⟨by rw [List.map_append, List.map_append, hhead, htail], fun k => ?_⟩
    rcases lt_or_ge k (layoutFrom settings q [s]).length with hlt | hge
    · rw [List.getElem?_append_left hlt, List.getElem?_append_left (hlen ▸ hlt)]
      rcases hsame with heq | ⟨m, l, rfl, hl⟩
      · exact .inl (by rw [heq])
      · -- the only line is the first one
        refine .inr ⟨0, m, rfl, ?_⟩
        rw [hl, List.length_singleton] at hlt
        rw [List.take_succ_cons, List.take_zero, hl, List.length_singleton]
        omega
    · rw [List.getElem?_append_right hge, List.getElem?_append_right (hlen ▸ hge), hlen]
      rcases hrest (k - (layoutFrom settings q [s]).length) with heq | ⟨n, m, hn, hcount⟩
      · exact .inl heq
      · refine .inr ⟨n + 1, m, hn, ?_⟩
        rw [List.take_succ_cons, hcut, List.length_append, hcount]
        omega

/-! ### Texts -/

/-- Which lines at the end are dropped is decided by what the lines show. -/
theorem map_visible_rdropWhile (lines : List Text) :
    (lines.rdropWhile (strip · = [])).map visible = (lines.map visible).rdropWhile (· = []) := by
  have hwhite : (fun l : Text => decide (strip l = [])) = (fun l => decide (l = [])) ∘ visible := by
    funext l
    rw [Function.comp_apply, decide_eq_decide, strip, trim_eq_nil_iff, visible_eq_nil_iff]
  rw [hwhite, List.rdropWhile, List.rdropWhile, ← List.map_reverse, List.dropWhile_map,
    List.map_reverse]

theorem getElem?_rdropWhile {p : Text → Bool} {lines : List Text} (k : Nat) :
    (lines.rdropWhile p)[k]? = if k < (lines.rdropWhile p).length then lines[k]? else none := by
  split_ifs with hk
  · obtain ⟨dropped, hlines⟩ := List.rdropWhile_prefix p lines
    conv_rhs => rw [← hlines, List.getElem?_append_left hk]
  · exact List.getElem?_eq_none (not_lt.1 hk)

/-- Line `k` of the laid-out source is that of a message. -/
def IsMessageLine (settings : Settings) (t : Text) (k : Nat) : Prop :=
  ∃ d n m, parse true t = .ok d ∧ d.statements[n]? = some (.message m) ∧ d.lineIndex settings n = k

theorem isMessageLine_of_read {settings : Settings} {t : Text} {ss : List Statement} {k n : Nat}
    {m : Message} (h : Source.read true t = ⟨ss, none⟩) (hm : ss[n]? = some (.message m))
    (hk : (layoutFrom settings {} (ss.take (n + 1))).length = k + 1) : IsMessageLine settings t k := by
  refine ⟨⟨ss⟩, n, m, ?_, hm, ?_⟩
  · have ht : t ≠ [] := by
      rintro rfl
      have hss : ss = [.blank] := congrArg Reading.statements h.symm
      have hmem := List.mem_of_getElem? hm
      simp [hss] at hmem
    rw [parse, if_neg ht, h]
  · show (layoutFrom settings {} (ss.take (n + 1))).length - 1 = k
    omega

/-- A source with messages on and off: it is laid out with the same lines up to messages, or rejected
for the same reason, or only rejected with messages on, for an unknown arrow. -/
theorem formatInRoom_cases (memory : Nat) (settings : Settings) (t : Text) :
    (∃ lines lines', (∀ l ∈ lines, '\n' ∉ l) ∧ (∀ l ∈ lines', '\n' ∉ l) ∧
      formatInRoom memory { settings with normalizeMessages := true } t = .ok (serialize lines) ∧
      formatInRoom memory { settings with normalizeMessages := false } t = .ok (serialize lines') ∧
      lines'.map visible = lines.map visible ∧
      ∀ k, lines'[k]? = lines[k]? ∨
        IsMessageLine { settings with normalizeMessages := true } t k) ∨
    ∃ f, formatInRoom memory { settings with normalizeMessages := true } t = .error f ∧
      (formatInRoom memory { settings with normalizeMessages := false } t = .error f ∨
        ∃ g, f = .source g ∧ g.IsUnknownArrow) := by
  set on : Settings := { settings with normalizeMessages := true }
  set off : Settings := { settings with normalizeMessages := false }
  have hpass : isPassedThrough off t = isPassedThrough on t := rfl
  cases hon : isPassedThrough on t with
  | error f =>
    have hfault {s : Settings} (h : isPassedThrough s t = .error f) :
        formatInRoom memory s t = .error (.source f) :=
      formatInRoom_eq_source_iff.2 (format_eq_error_iff.2 (.inl h))
    exact .inr ⟨_, hfault hon, .inl (hfault (hpass.trans hon))⟩
  | ok passed =>
    cases passed with
    | true =>
      have hn : ∀ l ∈ splitLines t, '\n' ∉ l := fun l hl => newline_not_mem_of_mem_splitLines hl
      exact .inl ⟨_, _, hn, hn, formatInRoom_of_isPassedThrough memory hon,
        formatInRoom_of_isPassedThrough memory (hpass.trans hon), rfl, fun k => .inl rfl⟩
    | false =>
      have hoff : isPassedThrough off t = .ok false := hpass.trans hon
      rcases readLines_verbatim {} (frontmatterSpan (splitLines t)) 0 (splitLines t) with
        ⟨ss, ss', hr, hr', h⟩ | ⟨f, hf, hf'⟩
      · have hread : Source.read true t = ⟨ss, none⟩ := hr
        have hread' : Source.read false t = ⟨ss', none⟩ := hr'
        -- the room depends on the places of the statements
        have hroom : Diagram.roomFault? memory off ⟨ss'⟩ = Diagram.roomFault? memory on ⟨ss⟩ := by
          unfold Diagram.roomFault?
          rw [PlacedAlike.depthsFrom (h.imp fun _ _ hs => hs.placedAlike)]
          rfl
        cases hfault : Diagram.roomFault? memory on ⟨ss⟩ with
        | some fault =>
          exact .inr ⟨_, formatInRoom_of_roomFault hon hread hfault,
            .inl (formatInRoom_of_roomFault hoff hread' (hroom.trans hfault))⟩
        | none =>
          have hsame : layoutFrom off {} ss' = layoutFrom on {} ss' :=
            layoutFrom_congr (show off.indent = on.indent from rfl) {} ss'
          obtain ⟨hvisible, hlines⟩ :=
            layoutFrom_verbatim on h (⟨rfl, rfl, rfl⟩ : Pass.Agrees {} {})
          rw [← hsame] at hvisible hlines
          refine .inl ⟨_, _, newline_not_mem_layoutFrom (newline_not_mem_render_of_read hread) {},
            newline_not_mem_layoutFrom (newline_not_mem_render_of_read hread') {},
            formatInRoom_of_room hon hread hfault,
            formatInRoom_of_room hoff hread' (hroom.trans hfault), hvisible, fun k => ?_⟩
          rcases hlines k with heq | ⟨n, m, hm, hcount⟩
          · exact .inl heq
          · exact .inr (isMessageLine_of_read hread hm hcount)
      · refine .inr ⟨_, formatInRoom_of_fault memory hon hf, ?_⟩
        rcases hf' with hf' | harrow
        · exact .inl (formatInRoom_of_fault memory hoff hf')
        · exact .inr ⟨f, rfl, harrow⟩

/-- **Messages change the spacing of their lines only.** Where a source is formatted with messages on,
it is formatted with messages off, too, to as many lines. They are the same lines, except that those of
messages may differ in white space. And a source that is rejected only with messages on has a token in
place of an arrow that is none. -/
theorem formatInRoom_verbatim (memory : Nat) (settings : Settings) (t : Text) :
    (∀ out, formatInRoom memory { settings with normalizeMessages := true } t = .ok out →
      ∃ out' ls ls', formatInRoom memory { settings with normalizeMessages := false } t = .ok out' ∧
        HasLines out ls ∧ HasLines out' ls' ∧ ls'.length = ls.length ∧
        ls'.map visible = ls.map visible ∧
        ∀ k, ls'[k]? = ls[k]? ∨ ∃ d n m, parse true t = .ok d ∧
          d.statements[n]? = some (.message m) ∧
          d.lineIndex { settings with normalizeMessages := true } n = k) ∧
    ∀ f out', formatInRoom memory { settings with normalizeMessages := true } t = .error f →
      formatInRoom memory { settings with normalizeMessages := false } t = .ok out' →
      ∃ d token, f = .source (.diagnostic d) ∧ d.kind = .decode token ∧
        ∀ a : Arrow, a.token ≠ token := by
  rcases formatInRoom_cases memory settings t with
    ⟨lines, lines', hn, hn', hon, hoff, hvisible, hlines⟩ | ⟨g, hon, hg⟩
  · refine ⟨fun out hout => ?_, fun f out' hf => ?_⟩
    · obtain rfl : serialize lines = out := Except.ok.inj (hon.symm.trans hout)
      have hkept : (lines'.rdropWhile (strip · = [])).map visible =
          (lines.rdropWhile (strip · = [])).map visible := by
        rw [map_visible_rdropWhile, map_visible_rdropWhile, hvisible]
      have hlen : (lines'.rdropWhile (strip · = [])).length =
          (lines.rdropWhile (strip · = [])).length := by
        simpa using congrArg List.length hkept
      refine ⟨_, _, _, hoff, hasLines_serialize hn, hasLines_serialize hn', hlen, hkept, fun k => ?_⟩
      rw [getElem?_rdropWhile, getElem?_rdropWhile, hlen]
      rcases hlines k with heq | hmessage
      · exact .inl (by rw [heq])
      · exact .inr hmessage
    · rw [hon] at hf
      cases hf
  · refine ⟨fun out hout => ?_, fun f out' hf hout' => ?_⟩
    · rw [hon] at hout
      cases hout
    · obtain rfl : g = f := Except.error.inj (hon.symm.trans hf)
      rcases hg with hoff | ⟨fault, rfl, d, token, rfl, hkind, hnone⟩
      · rw [hoff] at hout'
        cases hout'
      · exact ⟨d, token, rfl, hkind, hnone⟩

/-- Two messages that are respaced, and an arrow that is too long. -/
theorem formatInRoom_verbatim_messages :
    let on : Settings := { normalizeMessages := true }
    let off : Settings := { normalizeMessages := false }
    let t := "sequenceDiagram\nA->>B:  [ x ]\nalt y\nB -x A :z\nend\n".toList
    let u := "sequenceDiagram\nA--->B: x".toList
    (∃ out' ls ls', formatInRoom maxLength on t =
        .ok "sequenceDiagram\n    A ->> B: [x]\n\nalt y\n    B -x A: z\nend\n".toList ∧
      formatInRoom maxLength off t = .ok out' ∧
      HasLines "sequenceDiagram\n    A ->> B: [x]\n\nalt y\n    B -x A: z\nend\n".toList ls ∧
      HasLines out' ls' ∧ ls'.length = ls.length ∧ ls'.map visible = ls.map visible) ∧
    (∃ d token, formatInRoom maxLength on u = .error (.source (.diagnostic d)) ∧
      formatInRoom maxLength off u = .ok "sequenceDiagram\n    A--->B: x\n".toList ∧
      d.kind = .decode token ∧ ∀ a : Arrow, a.token ≠ token) := by
  intro on off t u
  have hon : formatInRoom maxLength on t =
      .ok "sequenceDiagram\n    A ->> B: [x]\n\nalt y\n    B -x A: z\nend\n".toList := by
    decide +kernel
  have hoff : formatInRoom maxLength off u = .ok "sequenceDiagram\n    A--->B: x\n".toList := by
    decide +kernel
  have hbad : (formatInRoom maxLength on u).toBool = false := by decide +kernel
  constructor
  · obtain ⟨out', ls, ls', hout', hls, hls', hlen, hvisible, -⟩ :=
      (formatInRoom_verbatim maxLength {} t).1 _ hon
    exact ⟨out', ls, ls', hon, hout', hls, hls', hlen, hvisible⟩
  · cases hf : formatInRoom maxLength on u with
    | ok out =>
      rw [hf] at hbad
      cases hbad
    | error f =>
      obtain ⟨d, token, rfl, hkind, hnone⟩ := (formatInRoom_verbatim maxLength {} u).2 f _ hf hoff
      exact ⟨d, token, rfl, hoff, hkind, hnone⟩

end MermaidTidy
