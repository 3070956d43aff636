import Mathlib.Tactic
import MermaidTidy.Proofs.Source.Reads

/-!
# Rendered statements read again

What the rendered text of a statement shows, and how it is read where the line was read.

* `isClean_render`: the rendered text of a clean line is clean;
* `visible_render`: it shows the visible characters of the line, unless the line declares a diagram
  without a known keyword;
* `reads_render`: it is read as the same statement, a generic line as one in normal spacing. Messages
  and, where messages are read, generic lines that look like one after all are left out.
-/

namespace MermaidTidy

open Text Line Respacing

/-! ### Keywords with labels -/

section withLabel

variable {k r : Text}

theorem withLabel_stripped? (k r : Text) :
    withLabel k (stripped? r) = if strip r = [] then k else k ++ ' ' :: strip r := by
  unfold stripped?
  split_ifs with h
  · rfl
  · obtain ⟨c, s, hc⟩ := List.exists_cons_of_ne_nil h
    rw [hc]
    rfl

theorem visible_withLabel (k r : Text) :
    visible (withLabel k (stripped? r)) = visible k ++ visible r := by
  rw [withLabel_stripped?]
  split_ifs with h
  · rw [← visible_strip r, h]
    simp
  · simp [visible_strip]

theorem subset_withLabel (k : Text) (label : Option Text) : k ⊆ withLabel k label := by
  unfold withLabel
  split
  · exact List.Subset.refl k
  · exact List.Subset.refl k
  · exact List.subset_append_left k _

theorem withLabel_subset (k r : Text) : withLabel k (stripped? r) ⊆ ' ' :: (k ++ r) := by
  rw [withLabel_stripped?]
  intro c hc
  split_ifs at hc with h
  · simp [hc]
  · rcases List.mem_append.1 hc with hc | hc
    · simp [hc]
    · rcases List.mem_cons.1 hc with rfl | hc
      · simp
      · simp [mem_of_mem_trim hc]

theorem isTrimmed_append_space (hk : k ≠ []) (hspace : ∀ c ∈ k, isSpace c = false) (hr : r ≠ [])
    (hlast : ∀ c ∈ r.getLast?, isSpace c = false) : IsTrimmed isSpace (k ++ ' ' :: r) := by
  constructor
  · intro c hc
    rw [List.head?_append_of_ne_nil _ hk] at hc
    exact hspace c (List.mem_of_mem_head? hc)
  · rwa [List.getLast?_append_of_ne_nil _ (by simp), List.getLast?_cons_of_ne_nil hr]

theorem isTrimmed_withLabel (hk : k ≠ []) (hspace : ∀ c ∈ k, isSpace c = false) (r : Text) :
    IsTrimmed isSpace (withLabel k (stripped? r)) := by
  rw [withLabel_stripped?]
  split_ifs with h
  · exact ⟨fun c hc => hspace c (List.mem_of_mem_head? hc),
      fun c hc => hspace c (List.mem_of_mem_getLast? hc)⟩
  · exact isTrimmed_append_space hk hspace h (isTrimmed_strip r).last

/-- A label is found again behind its keyword. -/
theorem lead_withLabel (hk : ∀ c ∈ k, isBlank c = false) (r : Text) :
    lead (withLabel k (stripped? r)) = k ∧
      stripped? (afterLead (withLabel k (stripped? r))) = stripped? r := by
  rw [withLabel_stripped?]
  split_ifs with h
  · rw [afterLead_eq_nil hk]
    refine ⟨lead_eq_self hk, ?_⟩
    unfold stripped?
    rw [h]
    rfl
  · rw [afterLead_append_blank hk rfl, dropWhile_eq_self (isTrimmed_strip r).blanks.head,
      stripped?_strip]
    exact ⟨lead_append_blank hk rfl, rfl⟩

end withLabel

/-! ### Brace blocks -/

section braceName

variable {rest name : Text}

/-- The name is not empty, and it is found again in front of a brace. -/
theorem braceName?_strip (h : braceName? rest = some name) :
    strip name ≠ [] ∧ braceName? (strip name ++ [' ', '\x7b']) = some (strip name) := by
  obtain ⟨c, r, hspace, hne, rfl, rfl⟩ := eq_of_braceName? h
  obtain ⟨n, hn⟩ : ∃ n, strip (trimRight isBlank (c :: r)) = c :: n := by
    refine List.head?_eq_some_iff.1 ?_
    have hname : (trimRight isBlank (c :: r)).head? = some c :=
      head?_trimRight (by rintro d ⟨⟩; exact isBlank_eq_false hspace)
    have hfirst : ∀ d ∈ (trimRight isBlank (c :: r)).head?, isSpace d = false := by
      rw [hname]
      rintro d ⟨⟩
      exact hspace
    rw [strip, trim, dropWhile_eq_self hfirst, head?_trimRight hfirst, hname]
  have hlast := (isTrimmed_strip (trimRight isBlank (c :: r))).blanks.last
  rw [hn] at hlast ⊢
  have hsplit : c :: n ++ [' ', '\x7b'] = c :: (n ++ [' ']) ++ ['\x7b'] := by simp
  rw [hsplit, braceName?_concat hspace hne, ← List.cons_append,
    trimRight_append_of_forall (by simp [isBlank]), trimRight_eq_self hlast]
  exact ⟨by simp, rfl⟩

theorem subset_of_braceName? (h : braceName? rest = some name) :
    strip name ++ [' ', '\x7b'] ⊆ ' ' :: rest := by
  obtain ⟨c, r, -, -, rfl, rfl⟩ := eq_of_braceName? h
  obtain ⟨v, hv, -⟩ := exists_eq_trimRight_append isBlank (c :: r)
  intro d hd
  rcases List.mem_append.1 hd with hd | hd
  · have hmem : d ∈ c :: r := by
      rw [hv]
      exact List.mem_append_left v (mem_of_mem_trim hd)
    exact List.mem_cons_of_mem _ (List.mem_append_left _ hmem)
  · rcases List.mem_pair.1 hd with rfl | rfl <;> simp

theorem visible_of_braceName? (h : braceName? rest = some name) :
    visible rest = visible (strip name) ++ ['\x7b'] := by
  obtain ⟨c, r, -, -, rfl, rfl⟩ := eq_of_braceName? h
  obtain ⟨v, hv, hblank⟩ := exists_eq_trimRight_append isBlank (c :: r)
  conv_lhs => rw [hv]
  simp [visible_strip, visible_eq_nil_iff.2 fun c hc => isSpace_of_isBlank (hblank c hc),
    (by decide : isSpace '\x7b' = false)]

end braceName

/-! ### Declarations -/

/-- A diagram keyword starts none of the other keywords, so that a line that starts with one has no
other shape. -/
theorem isUnmarked_of_keyword (k : DiagramKind) (mode : LineMode) (r : Text) :
    IsUnmarked mode (k.keyword ++ r) := by
  have hblank : ∀ c ∈ k.keyword, isBlank c = false := fun c hc =>
    isBlank_eq_false (DiagramKind.isSpace_of_mem_keyword c hc)
  refine isUnmarked_of_shapeOfLead ?_
  rw [lead_append hblank]
  have hno : ∀ w ∈ markedWords, ¬k.keyword <+: w := by cases k <;> decide
  refine shapeOfLead_of_not_mem (fun hmem => hno _ hmem ⟨lead r, rfl⟩) ?_ ?_
  · cases k <;> exact fun h => by cases h
  · refine decide_eq_false fun h => ?_
    cases k <;> exact absurd (List.cons.inj h).1 (by decide)

theorem isClean_format {t : Text} (h : IsClean t) : IsClean (DiagramType.decode t).format where
  trimmed := (DiagramType.isTrimmed_format_decode t).blanks
  chars c hc := by
    rcases DiagramType.mem_of_mem_format_decode hc with hc | rfl | hc
    · exact h.chars c hc
    · exact .inl rfl
    · exact .inr ((by decide : ∀ d ∈ DiagramKind.flowchart.keyword, isInk d = true) c hc)

/-- The canonical declaration of a line that declares a diagram declares one again. -/
theorem declaration?_format {mode : LineMode} {t : Text} (h : IsClean t)
    (hd : declaration? mode t ≠ none) :
    declaration? mode (DiagramType.decode t).format ≠ none := by
  have hclean := isClean_format h
  have hknown : knownDecl? (DiagramType.decode t).format ≠ none := by
    rw [knownDecl?_ne_none_iff hclean]
    obtain ⟨k, r, hk⟩ := DiagramType.leading?_format_decode t
    simp [hk]
  cases mode with
  | leading => exact fun hnone => hknown (Option.or_eq_none_iff.1 hnone).1
  | pending => exact hknown
  | body => exact hd
  | sequence => exact hd

/-! ### All statements -/

/-- The statement with a generic line brought into normal spacing. -/
def Statement.respaced : Statement → Statement
  | .generic t => .generic (normalize t)
  | s => s

@[simp] theorem Statement.render_respaced (s : Statement) : s.respaced.render = s.render := by
  cases s with
  | generic t => exact normalize_normalize t
  | _ => rfl

section rendered

variable {messages : Bool} {p : Source.Progress} {t : Text} {s : Statement}

/-- Rendering writes spaces and perhaps the keyword of a flowchart; all else comes from the line. -/
theorem mem_of_mem_render (hn : '\n' ∉ t) (hs : Reads messages p t s) {c : Char}
    (hc : c ∈ s.render) : c ∈ t ∨ c = ' ' ∨ c ∈ DiagramKind.flowchart.keyword := by
  have hlead {k : Text} (hk : lead t = k) (hc : c ∈ k) : c ∈ t :=
    (List.takeWhile_sublist _).mem (hk ▸ hc)
  have hsub {u : Text} (hu : u ⊆ ' ' :: t) (hc : c ∈ u) :
      c ∈ t ∨ c = ' ' ∨ c ∈ DiagramKind.flowchart.keyword :=
    (List.mem_cons.1 (hu hc)).elim (.inr ∘ .inl) .inl
  have label {k : Text} (hk : lead t = k) : withLabel k (stripped? (afterLead t)) ⊆ ' ' :: t := by
    refine List.Subset.trans (withLabel_subset _ _) (List.cons_subset_cons _ ?_)
    rw [← hk]
    exact List.append_subset.2
      ⟨(List.takeWhile_sublist _).subset, fun c hc => mem_of_mem_afterLead hc⟩
  cases hs with
  | blank => cases hc
  | directive _ => exact .inl hc
  | comment _ _ => exact .inl hc
  | participant k hk _ =>
    rcases Participant.mem_of_mem_render_declared hc with hc | rfl | hc
    · exact .inl (hlead hk hc)
    · exact .inr (.inl rfl)
    · exact .inl (mem_of_mem_afterLead hc)
  | blockStart b hk => exact hsub (label hk) hc
  | braceBlockStart b hk hname =>
    rcases List.mem_append.1 hc with hc | hc
    · exact .inl (hlead hk hc)
    · refine hsub (List.cons_subset.2 ⟨by simp, List.Subset.trans (subset_of_braceName? hname) ?_⟩) hc
      exact List.cons_subset_cons _ fun c hc => mem_of_mem_afterLead hc
  | blockOption _ hk => exact hsub (label hk) hc
  | blockElse _ hk => exact hsub (label hk) hc
  | blockAnd _ hk => exact hsub (label hk) hc
  | blockEnd => exact .inl hc
  | braceBlockEnd => exact .inl hc
  | note _ => exact .inl hc
  | declaration _ _ => exact DiagramType.mem_of_mem_format_decode hc
  | message _ _ _ _ hm =>
    obtain ⟨l, a, hl, -, ha, rfl⟩ := hm
    exact hsub (MessageLine.render_subset hn hl ha) hc
  | generic _ _ _ => exact hsub (normalize_subset t) hc

theorem newline_not_mem_render (hn : '\n' ∉ t) (hs : Reads messages p t s) : '\n' ∉ s.render := by
  intro h
  rcases mem_of_mem_render hn hs h with h | h | h
  · exact hn h
  · cases h
  · exact absurd h (by decide)

/-- Only the empty line is rendered as the empty text. -/
theorem render_ne_nil (hs : Reads messages p t s) (hne : s ≠ .blank) : s.render ≠ [] := by
  have ht : t ≠ [] := by
    rintro rfl
    exact hne (Source.reads_unique hs .blank)
  have hlabel {k : Text} (hk : k ≠ []) (label : Option Text) : withLabel k label ≠ [] := by
    obtain ⟨c, hc⟩ := List.exists_mem_of_ne_nil k hk
    exact List.ne_nil_of_mem (subset_withLabel k label hc)
  cases hs with
  | blank => exact absurd rfl hne
  | directive _ => exact ht
  | comment _ _ => exact ht
  | participant k _ _ => exact hlabel (List.append_ne_nil_of_right_ne_nil _ (List.cons_ne_nil _ _)) _
  | blockStart b _ => exact hlabel (by cases b <;> decide) _
  | braceBlockStart b _ _ => exact List.append_ne_nil_of_right_ne_nil _ (List.cons_ne_nil _ _)
  | blockOption _ _ => exact hlabel (by decide) _
  | blockElse _ _ => exact hlabel (by decide) _
  | blockAnd _ _ => exact hlabel (by decide) _
  | blockEnd => decide
  | braceBlockEnd => decide
  | note _ => exact ht
  | declaration _ _ =>
    refine List.append_ne_nil_of_left_ne_nil (List.append_ne_nil_of_left_ne_nil ?_ _) _
    exact DiagramKind.keyword_ne_nil _
  | message _ _ _ _ _ => exact List.append_ne_nil_of_right_ne_nil _ (List.cons_ne_nil _ _)
  | generic _ _ _ => exact mt normalize_eq_nil_iff.1 ht

/-- Rendered text of clean lines is clean. -/
theorem isClean_render (h : IsClean t) (hs : Reads messages p t s) : IsClean s.render := by
  have label {k r : Text} (hk : k ≠ []) (hspace : ∀ c ∈ k, isSpace c = false) :
      IsTrimmed isBlank (withLabel k (stripped? r)) := (isTrimmed_withLabel hk hspace r).blanks
  refine ⟨?_, fun c hc => ?_⟩
  · cases hs with
    | blank => exact h.trimmed
    | directive _ => exact h.trimmed
    | comment _ _ => exact h.trimmed
    | participant k _ hrest =>
      obtain ⟨r, hr, hne, htrim, -⟩ :=
        Participant.exists_render_declared (k := k) hrest h.afterLead
      show IsTrimmed isBlank (Participant.declared k (afterLead t)).render
      rw [hr]
      exact (isTrimmed_append_space (by cases k <;> decide) (by cases k <;> decide) hne
        htrim.last).blanks
    | blockStart b _ => exact label (by cases b <;> decide) (by cases b <;> decide)
    | braceBlockStart b _ _ =>
      refine (isTrimmed_append_space (by cases b <;> decide) (by cases b <;> decide) (by simp) ?_).blanks
      rw [List.getLast?_append_of_ne_nil _ (by simp)]
      rintro c ⟨⟩
      decide
    | blockOption _ _ => exact label (by decide) (by decide)
    | blockElse _ _ => exact label (by decide) (by decide)
    | blockAnd _ _ => exact label (by decide) (by decide)
    | blockEnd => exact h.trimmed
    | braceBlockEnd => exact h.trimmed
    | note _ => exact h.trimmed
    | declaration _ _ => exact (isClean_format h).trimmed
    | message _ _ _ _ hm => exact (MessageLine.isClean_render h hm).trimmed
    | generic _ _ _ => exact h.normalize.trimmed
  · rcases mem_of_mem_render h.isBlankSpaced.newline_not_mem hs hc with hc | rfl | hc
    · exact h.chars c hc
    · exact .inl rfl
    · exact .inr ((by decide : ∀ d ∈ DiagramKind.flowchart.keyword, isInk d = true) c hc)

/-- **Rendered text is read as the statement it renders**, where generic lines are brought into
normal spacing. Messages are left out, and so are generic lines of a sequence diagram that look like
a message once their spacing is normal. -/
theorem reads_render (h : IsClean t) (hs : Reads messages p t s)
    (hm : messages = true → p.dialect = some .sequenceDiagram →
      (∀ m, s ≠ .message m) ∧ ∀ x, s = .generic x → NoMessage (normalize x)) :
    Reads messages p s.render s.respaced := by
  cases hs with
  | blank => exact .blank
  | directive hpre => exact .directive hpre
  | comment hpre hno => exact .comment hpre hno
  | participant k hlead hrest =>
    obtain ⟨r, hr, hne, htrim, hd⟩ :=
      Participant.exists_render_declared (k := k) hrest h.afterLead
    have hk : ∀ c ∈ k.keyword, isBlank c = false := by cases k <;> decide
    have hafter : afterLead (k.keyword ++ ' ' :: r) = r := by
      rw [afterLead_append_blank hk rfl, dropWhile_eq_self htrim.blanks.head]
    have hread : Reads messages p (k.keyword ++ ' ' :: r) _ :=
      .participant k (lead_append_blank hk rfl) (by rwa [hafter])
    rwa [hafter, hd, ← hr] at hread
  | blockStart b hlead =>
    obtain ⟨hl, ha⟩ := lead_withLabel (k := b.keyword) (by cases b <;> decide) (afterLead t)
    have hread : Reads messages p (withLabel b.keyword (stripped? (afterLead t))) _ := .blockStart b hl
    rwa [ha] at hread
  | @braceBlockStart _ name b hlead hname =>
    obtain ⟨hne, hagain⟩ := braceName?_strip hname
    have hb : ∀ c ∈ b.keyword, isBlank c = false := by cases b <;> decide
    have hafter : afterLead (b.keyword ++ ' ' :: (strip name ++ [' ', '\x7b'])) =
        strip name ++ [' ', '\x7b'] := by
      rw [afterLead_append_blank hb rfl, dropWhile_eq_self]
      rw [List.head?_append_of_ne_nil _ hne]
      exact (isTrimmed_strip name).blanks.head
    have hread : Reads messages p (b.keyword ++ ' ' :: (strip name ++ [' ', '\x7b'])) _ :=
      .braceBlockStart b (lead_append_blank hb rfl) (by rw [hafter, hagain])
    rwa [strip_strip] at hread
  | blockOption hmode hlead =>
    obtain ⟨hl, ha⟩ := lead_withLabel (k := "option".toList) (by decide) (afterLead t)
    have hread : Reads messages p (withLabel "option".toList (stripped? (afterLead t))) _ :=
      .blockOption hmode hl
    rwa [ha] at hread
  | blockElse hmode hlead =>
    obtain ⟨hl, ha⟩ := lead_withLabel (k := "else".toList) (by decide) (afterLead t)
    have hread : Reads messages p (withLabel "else".toList (stripped? (afterLead t))) _ :=
      .blockElse hmode hl
    rwa [ha] at hread
  | blockAnd hmode hlead =>
    obtain ⟨hl, ha⟩ := lead_withLabel (k := "and".toList) (by decide) (afterLead t)
    have hread : Reads messages p (withLabel "and".toList (stripped? (afterLead t))) _ :=
      .blockAnd hmode hl
    rwa [ha] at hread
  | blockEnd => exact .blockEnd
  | braceBlockEnd => exact .braceBlockEnd
  | note hnote => exact .note hnote
  | declaration hu hd =>
    -- the canonical form starts with a diagram keyword, whatever the line started with
    obtain ⟨k, r, hk⟩ := DiagramType.leading?_format_decode t
    have hunmarked : IsUnmarked p.mode (DiagramType.decode t).format := by
      rw [(DiagramKind.eq_append_of_leading? hk).1]
      exact isUnmarked_of_keyword k p.mode r
    have hread : Reads messages p (DiagramType.decode t).format _ :=
      .declaration hunmarked (declaration?_format h hd)
    rwa [DiagramType.decode_format_decode] at hread
  | message hu hd hmessages hdialect _ => exact absurd rfl ((hm hmessages hdialect).1 _)
  | generic hu hd hno =>
    exact .generic (isUnmarked_normalize h hu) (declaration?_normalize h hd)
      fun hmessages hdialect => (hm hmessages hdialect).2 _ rfl

/-- A line without a known keyword declares a plain flowchart. -/
theorem decode_of_leading?_eq_none (ht : IsTrimmed isSpace t) (h : DiagramKind.leading? t = none) :
    DiagramType.decode t = .plainFlowchart :=
  DiagramType.decode_eq_plainFlowchart (.inr (by rw [strip, ht.trim_eq, h]))

/-- **Rendered text shows the visible characters of its line**, unless the line declares a diagram
without a known keyword. White space other than blanks is left out. -/
theorem visible_render (h : IsBlankSpaced t) (hs : Reads messages p t s) :
    visible s.render =
      if s.declared?.isSome && (DiagramKind.leading? t).isNone then "flowchart".toList
      else visible t := by
  have label : ∀ {k : Text}, lead t = k →
      visible (withLabel k (stripped? (afterLead t))) = visible t := by
    rintro k rfl
    rw [visible_withLabel, ← visible_eq_lead_append]
  cases hs with
  | blank => rfl
  | directive _ => rfl
  | comment _ _ => rfl
  | participant k hlead _ =>
    refine (Participant.visible_render_declared h.afterLead.isTrimmed_isSpace).trans ?_
    rw [← hlead, ← visible_eq_lead_append]
    rfl
  | blockStart b hlead => exact label hlead
  | @braceBlockStart _ name b hlead hname =>
    show visible (b.keyword ++ ' ' :: (strip name ++ [' ', '\x7b'])) = visible t
    rw [visible_eq_lead_append t, hlead, visible_of_braceName? hname]
    simp [(by decide : isSpace '\x7b' = false)]
  | blockOption _ hlead => exact label hlead
  | blockElse _ hlead => exact label hlead
  | blockAnd _ hlead => exact label hlead
  | blockEnd => rfl
  | braceBlockEnd => rfl
  | note _ => rfl
  | declaration _ _ =>
    show visible (DiagramType.decode t).format = _
    cases hl : DiagramKind.leading? t with
    | none =>
      rw [decode_of_leading?_eq_none h.isTrimmed_isSpace hl]
      rfl
    | some kr =>
      refine DiagramType.visible_format_decode (fun hn => h.newline_not_mem (mem_of_mem_trim hn)) ?_
      rw [strip, h.isTrimmed_isSpace.trim_eq, hl]
      rfl
  | message _ _ _ _ hm => exact MessageLine.visible_render h.newline_not_mem hm
  | generic _ _ _ => exact visible_normalize t

end rendered

end MermaidTidy
