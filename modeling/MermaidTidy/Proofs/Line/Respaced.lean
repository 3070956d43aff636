import Mathlib.Tactic
import MermaidTidy.Proofs.Diagram.Declaration
import MermaidTidy.Proofs.Line.Lead
import MermaidTidy.Proofs.Respacing.Normal

/-!
# Lines in normal spacing

A line of no special shape keeps having none when its spacing is made normal: no mark and no keyword
comes about, and no declaration (`isUnmarked_normalize`, `declaration?_normalize`). This is for clean
lines, whose only white space is the space.
-/

namespace MermaidTidy.Line

open Text Respacing

/-- A line without blanks around it, whose white space is blanks only. -/
structure IsBlankSpaced (t : Text) : Prop where
  trimmed : IsTrimmed isBlank t
  blank : ∀ c ∈ t, isSpace c = true → isBlank c = true

namespace IsBlankSpaced

variable {t : Text}

theorem isSpace_eq_false (h : IsBlankSpaced t) {c : Char} (hc : c ∈ t) (hb : isBlank c = false) :
    isSpace c = false :=
  Bool.eq_false_iff.2 fun hs => by simp [h.blank c hc hs] at hb

/-- There is no white space around such a line at all. -/
theorem isTrimmed_isSpace (h : IsBlankSpaced t) : IsTrimmed isSpace t where
  head c hc := h.isSpace_eq_false (List.mem_of_mem_head? hc) (h.trimmed.head c hc)
  last c hc := h.isSpace_eq_false (List.mem_of_mem_getLast? hc) (h.trimmed.last c hc)

theorem newline_not_mem (h : IsBlankSpaced t) : '\n' ∉ t := fun hn =>
  absurd (h.blank '\n' hn (by decide)) (by decide)

theorem afterLead (h : IsBlankSpaced t) : IsBlankSpaced (afterLead t) where
  trimmed := isTrimmed_afterLead h.trimmed
  blank c hc := h.blank c (mem_of_mem_afterLead hc)

end IsBlankSpaced

/-- A character that is neither white space nor a control character. -/
def isInk (c : Char) : Bool := !isSpace c && !isControl c

/-- A line without blanks around it, whose only white space is the space, and without control
characters. -/
structure IsClean (t : Text) : Prop where
  trimmed : IsTrimmed isBlank t
  chars : ∀ c ∈ t, c = ' ' ∨ isInk c = true

namespace IsClean

variable {t : Text}

theorem eq_space (h : IsClean t) {c : Char} (hc : c ∈ t) (hs : isSpace c = true) : c = ' ' := by
  rcases h.chars c hc with rfl | hi
  · rfl
  · simp [isInk, hs] at hi

theorem isBlank_eq (h : IsClean t) {c : Char} (hc : c ∈ t) : isBlank c = isSpace c := by
  by_cases hs : isSpace c
  · rw [h.eq_space hc hs]
    rfl
  · have hb : ¬isBlank c := fun hb => hs (isSpace_of_isBlank hb)
    rw [Bool.eq_false_iff.2 hs, Bool.eq_false_iff.2 hb]

theorem isControl_eq_false (h : IsClean t) {c : Char} (hc : c ∈ t) : isControl c = false := by
  rcases h.chars c hc with rfl | hi
  · decide
  · simpa [isInk] using (Bool.and_eq_true_iff.1 hi).2

theorem isBlankSpaced (h : IsClean t) : IsBlankSpaced t where
  trimmed := h.trimmed
  blank c hc hs := by rwa [h.isBlank_eq hc]

theorem isTrimmed_isSpace (h : IsClean t) : IsTrimmed isSpace t := h.isBlankSpaced.isTrimmed_isSpace

theorem newline_not_mem (h : IsClean t) : '\n' ∉ t := h.isBlankSpaced.newline_not_mem

/-- A text between visible characters is clean if its characters are those of a clean line. -/
theorem of_subset {s : Text} (h : IsClean t) (hs : IsTrimmed isSpace s) (hst : s ⊆ ' ' :: t) :
    IsClean s where
  trimmed := hs.blanks
  chars c hc := by
    rcases List.mem_cons.1 (hst hc) with rfl | hc
    · exact .inl rfl
    · exact h.chars c hc

theorem afterLead (h : IsClean t) : IsClean (afterLead t) where
  trimmed := isTrimmed_afterLead h.trimmed
  chars c hc := h.chars c (mem_of_mem_afterLead hc)

theorem normalize (h : IsClean t) : IsClean (normalize t) := by
  refine h.of_subset ⟨fun c hc => ?_, fun c hc => ?_⟩ (normalize_subset t)
  · rw [head?_normalize] at hc
    exact h.isTrimmed_isSpace.head c hc
  · rw [getLast?_normalize h.isTrimmed_isSpace.last] at hc
    exact h.isTrimmed_isSpace.last c hc

end IsClean

/-! ### The first word in normal spacing -/

variable {t : Text}

/-- A first word without special characters is left alone, and what follows is made normal. -/
theorem lead_normalize (h : IsClean t) (hlead : ∀ c ∈ lead t, isInert c = true) :
    lead (normalize t) = lead t ∧ afterLead (normalize t) = normalize (afterLead t) := by
  have hblank : ∀ c ∈ lead t, isBlank c = false := fun c hc => isBlank_of_mem_lead hc
  rcases eq_lead_or_exists t with ht | ⟨c, r, hc, ht, hafter⟩
  · have hnil : afterLead t = [] := by
      rw [ht]
      exact afterLead_eq_nil hblank
    have hnorm : normalize t = lead t := by
      conv_lhs => rw [ht, ← List.append_nil (lead t)]
      rw [normalize_append_of_isInert hlead, normalize_eq_nil_iff.2 rfl, List.append_nil]
    rw [hnorm, hnil, normalize_eq_nil_iff.2 rfl]
    exact ⟨lead_eq_self hblank, afterLead_eq_nil hblank⟩
  · have hspace : ∀ d ∈ t, isBlank d = (d == ' ') := by
      intro d hd
      rw [h.isBlank_eq hd, Bool.eq_iff_iff, beq_iff_eq]
      exact ⟨h.eq_space hd, fun hs => hs ▸ rfl⟩
    have hmem : ∀ d ∈ c :: r, d ∈ t := by
      intro d hd
      rw [ht]
      exact List.mem_append_right _ hd
    have hcs : c = ' ' := h.eq_space (hmem c List.mem_cons_self) (isSpace_of_isBlank hc)
    have hdrop : r.dropWhile (· == ' ') = afterLead t := by
      rw [hafter]
      exact dropWhile_congr fun d hd => (hspace d (hmem d (List.mem_cons_of_mem c hd))).symm
    have hnorm : normalize t = lead t ++ ' ' :: normalize (afterLead t) := by
      conv_lhs => rw [ht]
      rw [normalize_append_of_isInert hlead, hcs, normalize_space_cons, hdrop]
    have hhead : (normalize (afterLead t)).dropWhile isBlank = normalize (afterLead t) := by
      refine dropWhile_eq_self fun d hd => ?_
      rw [head?_normalize] at hd
      exact head?_afterLead t d hd
    rw [hnorm]
    exact ⟨lead_append_blank hblank rfl, by rw [afterLead_append_blank hblank rfl, hhead]⟩

/-- A first word of a normal line that has no special characters was there before. -/
theorem lead_of_lead_normalize (hlead : ∀ c ∈ lead (normalize t), isInert c = true) :
    lead t = lead (normalize t) := by
  have hblank : ∀ c ∈ lead (normalize t), isBlank c = false := fun c hc => isBlank_of_mem_lead hc
  rcases eq_lead_or_exists (normalize t) with hn | ⟨c, r, hc, hn, -⟩
  · rw [normalize_eq_self_of_isInert (hn ▸ hlead)]
  · obtain ⟨r', ht, hr'⟩ := exists_of_normalize_eq_append hlead hn
    have hhead : r'.head? = some c := by
      rw [← head?_normalize, ← hr']
      rfl
    obtain ⟨r'', rfl⟩ := List.head?_eq_some_iff.1 hhead
    conv_lhs => rw [ht]
    exact lead_append_blank hblank hc

/-- Where the first word of the normal line has no special characters, both lines have the same
first word and what follows it is made normal. -/
theorem lead_afterLead_of_normalize (h : IsClean t) {w : Text} (hw : lead (normalize t) = w)
    (hinert : ∀ c ∈ w, isInert c = true) :
    lead t = w ∧ afterLead (normalize t) = normalize (afterLead t) := by
  have hlead : lead t = w := by rw [lead_of_lead_normalize (hw ▸ hinert), hw]
  exact ⟨hlead, (lead_normalize h (hlead ▸ hinert)).2⟩

theorem isInert_of_isNoteWord {w : Text} (h : isNoteWord w = true) : ∀ c ∈ w, isInert c = true := by
  intro c hc
  have hmem := toLower_mem_of_isNoteWord h hc
  by_contra hb
  simp only [isInert, Bool.not_eq_true', Bool.not_eq_false, List.contains_eq_mem,
    decide_eq_true_eq] at hb
  revert hmem
  exact (by decide : ∀ d ∈ [' ', ':', '|', '[', '(', '\x7b'], d.toLower ∉ "note".toList) c hb

/-- Whether there is a brace name depends on the two ends of a text only. -/
theorem braceName?_ne_none_iff : braceName? t ≠ none ↔
    (∃ c ∈ t.head?, isSpace c = false ∧ c ≠ '\x7b') ∧ t.getLast? = some '\x7b' := by
  cases t with
  | nil => simp [braceName?]
  | cons c r =>
    rw [braceName?]
    split_ifs with hc hl
    · have hnot : ¬(isSpace c = false ∧ c ≠ '\x7b') := by
        rintro ⟨hs, hne⟩
        simp [hs, hne] at hc
      simp [hnot]
    · simpa [hl] using hc
    · simp [hl]

theorem braceName?_concat {c : Char} (hspace : isSpace c = false) (hne : c ≠ '\x7b') (r : Text) :
    braceName? (c :: r ++ ['\x7b']) = some (trimRight isBlank (c :: r)) := by
  rw [List.cons_append, braceName?, if_neg (by simp [hspace, hne]), ← List.cons_append,
    if_pos List.getLast?_concat, List.dropLast_concat]

/-- A brace name stands in front of a brace and starts visibly. -/
theorem eq_of_braceName? {rest name : Text} (h : braceName? rest = some name) :
    ∃ c r, isSpace c = false ∧ c ≠ '\x7b' ∧ rest = c :: r ++ ['\x7b'] ∧
      name = trimRight isBlank (c :: r) := by
  obtain ⟨⟨c, hc, hspace, hne⟩, hlast⟩ := braceName?_ne_none_iff.1 (h ▸ Option.some_ne_none name)
  obtain ⟨s, rfl⟩ := List.getLast?_eq_some_iff.1 hlast
  cases s with
  | nil =>
    cases hc
    exact absurd rfl hne
  | cons d r =>
    cases hc
    rw [braceName?_concat hspace hne, Option.some.injEq] at h
    exact ⟨c, r, hspace, hne, rfl, h.symm⟩

/-- Marks without special characters come through. -/
theorem prefix_of_prefix_normalize {k : Text} (hk : ∀ c ∈ k, isInert c = true)
    (h : k <+: normalize t) : k <+: t := by
  obtain ⟨r, hr⟩ := h
  obtain ⟨r', ht, -⟩ := exists_of_normalize_eq_append hk hr.symm
  exact ⟨r', ht.symm⟩

/-- A mark that has a special character at its end comes through as well. -/
theorem isPrefixOf_append_normalize {k : Text} (hk : ∀ c ∈ k, isInert c = true) (c : Char) :
    (k ++ [c]).isPrefixOf (normalize t) = (k ++ [c]).isPrefixOf t := by
  have hcons : ∀ {r : Text}, k ++ [c] <+: k ++ r ↔ r.head? = some c := by
    intro r
    rw [ List.prefix_append_right_inj]
    cases r <;> simp [eq_comm]
  rw [Bool.eq_iff_iff, List.isPrefixOf_iff_prefix, List.isPrefixOf_iff_prefix]
  constructor
  · intro h
    obtain ⟨r', rfl⟩ := prefix_of_prefix_normalize hk ((List.prefix_append k [c]).trans h)
    rw [normalize_append_of_isInert hk, hcons, head?_normalize] at h
    exact hcons.2 h
  · intro h
    obtain ⟨r, rfl⟩ := (List.prefix_append k [c]).trans h
    rw [normalize_append_of_isInert hk, hcons, head?_normalize]
    exact hcons.1 h

/-! ### No shape comes about -/

/-- What a mark or keyword takes in normal spacing it takes before. -/
theorem marked_of_normalize (h : IsClean t) {mode : LineMode} {q : Production}
    {f : Text → Option (Captures Terminal)} (hmem : (q, f) ∈ marked mode)
    (hf : f (normalize t) ≠ none) : f t ≠ none := by
  have keyword : ∀ {ks : List Text}, (∀ k ∈ ks, ∀ c ∈ k, isInert c = true) →
      lead (normalize t) ∈ ks →
      lead t = lead (normalize t) ∧ afterLead (normalize t) = normalize (afterLead t) :=
    fun hks hmem => lead_afterLead_of_normalize h rfl (hks _ hmem)
  -- keywords and marks hold no special character but for the brace of a directive, which ends it
  have branch : ∀ {word : Text}, (∀ c ∈ word, isBlank c = false) → (∀ c ∈ word, isInert c = true) →
      sequenceBranch? mode word (normalize t) ≠ none → sequenceBranch? mode word t ≠ none := by
    intro word hword hinert h'
    rw [sequenceBranch?_ne_none_iff hword] at h' ⊢
    exact ⟨h'.1, (lead_afterLead_of_normalize h h'.2 hinert).1⟩
  have whole : ∀ {w : Text}, (∀ c ∈ w, isInert c = true) → normalize t = w → t = w := by
    intro w hinert hw
    rw [← hw, normalize_eq_self_of_isInert (hw ▸ hinert)]
  have directive : ['%', '%', '\x7b'].isPrefixOf (lead (normalize t)) =
      ['%', '%', '\x7b'].isPrefixOf (lead t) := by
    rw [isPrefixOf_lead (by decide), isPrefixOf_lead (by decide)]
    exact isPrefixOf_append_normalize (k := ['%', '%']) (by decide) '\x7b'
  have comment : ['%', '%'].isPrefixOf (lead (normalize t)) = ['%', '%'].isPrefixOf (lead t) := by
    rw [isPrefixOf_lead (by decide), isPrefixOf_lead (by decide)]
    exact isPrefixOf_append_normalize (k := ['%']) (by decide) '%'
  cases q, f, hmem using marked_cases with
  | blankLine => simpa using hf
  | directive => rwa [directive?_ne_none_iff, ← directive, ← directive?_ne_none_iff]
  | comment => rwa [comment?_ne_none_iff, ← comment, ← directive, ← comment?_ne_none_iff]
  | participant =>
    rw [participant?_ne_none_iff] at hf ⊢
    obtain ⟨hlead, hafter⟩ := keyword (by decide) hf.1
    rw [hafter, Ne, normalize_eq_nil_iff] at hf
    exact ⟨hlead ▸ hf.1, hf.2⟩
  | blockStart =>
    rw [blockStart?_ne_none_iff] at hf ⊢
    exact (keyword (by decide) hf).1 ▸ hf
  | braceBlockStart =>
    rw [braceBlockStart?_ne_none_iff] at hf ⊢
    obtain ⟨hlead, hafter⟩ := keyword (by decide) hf.1
    rw [hafter, braceName?_ne_none_iff, head?_normalize,
      getLast?_normalize h.afterLead.isTrimmed_isSpace.last, ← braceName?_ne_none_iff] at hf
    exact ⟨hlead ▸ hf.1, hf.2⟩
  | blockOption | blockElse | blockAnd => exact branch (by decide) (by decide) hf
  | blockEnd =>
    have hend : t = "end".toList := whole (by decide) (by simpa [blockEnd?] using hf)
    simp [blockEnd?, hend]
  | braceBlockEnd =>
    have hbrace : t = ['\x7d'] := whole (by decide) (by simpa [braceBlockEnd?] using hf)
    simp [braceBlockEnd?, hbrace]
  | note =>
    rw [note?_ne_none_iff] at hf ⊢
    rwa [lead_of_lead_normalize (isInert_of_isNoteWord hf)]

theorem isUnmarked_normalize (h : IsClean t) {mode : LineMode} (hu : IsUnmarked mode t) :
    IsUnmarked mode (normalize t) := by
  intro f hf
  by_contra hne
  exact marked_of_normalize h hf hne (hu f hf)

/-- A clean line declares a known kind if it starts with the keyword of one. -/
theorem knownDecl?_ne_none_iff (h : IsClean t) :
    knownDecl? t ≠ none ↔ DiagramKind.leading? t ≠ none := by
  unfold knownDecl?
  cases hl : DiagramKind.leading? t with
  | none => simp
  | some kr =>
    obtain ⟨k, rest⟩ := kr
    obtain ⟨rfl, -⟩ := DiagramKind.eq_append_of_leading? hl
    refine iff_of_true ?_ (by simp)
    have hrest : declRest? rest ≠ none := by
      cases rest with
      | nil => simp [declRest?]
      | cons c r =>
        have hlast : ∀ d ∈ (c :: r).getLast?, isBlank d = false := by
          intro d hd
          refine h.trimmed.last d ?_
          rwa [List.getLast?_append_of_ne_nil _ (by simp)]
        have hne := dropWhile_ne_nil (List.cons_ne_nil c r) hlast
        obtain ⟨d, s, hds⟩ := List.exists_cons_of_ne_nil hne
        have hblank : isBlank d = false := head?_dropWhile isBlank (c :: r) d (by rw [hds]; rfl)
        have hmem : d ∈ k.keyword ++ c :: r := by
          refine List.mem_append_right _ ((List.dropWhile_sublist isBlank).mem ?_)
          rw [hds]
          exact List.mem_cons_self
        simp only [declRest?, hds]
        rw [← h.isBlank_eq hmem, hblank]
        simp
    obtain ⟨captures, hc⟩ := Option.ne_none_iff_exists'.1 hrest
    simp [hc]

theorem leading?_ne_none_iff : DiagramKind.leading? t ≠ none ↔
    ∃ (k : DiagramKind) (r : Text), t = k.keyword ++ r ∧ atWordEnd r = true := by
  constructor
  · intro h
    obtain ⟨⟨k, r⟩, hk⟩ := Option.ne_none_iff_exists'.1 h
    exact ⟨k, r, DiagramKind.eq_append_of_leading? hk⟩
  · rintro ⟨k, r, ht, hr⟩ hnone
    unfold DiagramKind.leading? at hnone
    rw [List.findSome?_eq_none_iff] at hnone
    have hk := hnone k (List.mem_cons_of_mem _ k.mem_all)
    rw [Option.map_eq_none_iff, DiagramKind.after?, isPrefixOf?_eq_some_iff.2 ht] at hk
    simp [hr] at hk

theorem atWordEnd_normalize (r : Text) : atWordEnd (normalize r) = atWordEnd r := by
  have hhead := head?_normalize r
  cases r <;> cases hn : normalize _ <;> simp_all

/-- The characters of a bare word are not special. -/
theorem isInert_of_mem_bareWord {c : Char} (hb : bareWord? t ≠ none) (hc : c ∈ t) :
    isInert c = true := by
  cases t with
  | nil => cases hc
  | cons d r =>
    have hword : d.isAlpha = true ∧ ∀ e ∈ r, isWordChar e = true ∨ e = '-' := by
      simpa [bareWord?, or_iff_not_imp_left] using hb
    by_contra hspecial
    simp only [isInert, Bool.not_eq_true', Bool.not_eq_false, List.contains_eq_mem,
      decide_eq_true_eq] at hspecial
    have hno : ∀ e ∈ [' ', ':', '|', '[', '(', '\x7b'],
        ¬(e.isAlpha = true ∨ isWordChar e = true ∨ e = '-') := by decide
    refine hno c hspecial ?_
    rcases List.mem_cons.1 hc with rfl | hc
    · exact .inl hword.1
    · exact .inr (hword.2 c hc)

/-- Normal spacing makes no declaration. -/
theorem declaration?_normalize (h : IsClean t) {mode : LineMode} (hd : declaration? mode t = none) :
    declaration? mode (normalize t) = none := by
  have hknown : knownDecl? t = none → knownDecl? (normalize t) = none := by
    intro hnone
    by_contra hne
    obtain ⟨k, r, hk, hr⟩ := leading?_ne_none_iff.1 ((knownDecl?_ne_none_iff h.normalize).1 hne)
    obtain ⟨r', ht, rfl⟩ := exists_of_normalize_eq_append (by cases k <;> decide) hk
    rw [atWordEnd_normalize] at hr
    exact (knownDecl?_ne_none_iff h).2 (leading?_ne_none_iff.2 ⟨k, r', ht, hr⟩) hnone
  have hbare : bareWord? t = none → bareWord? (normalize t) = none := by
    intro hnone
    by_contra hne
    rw [normalize_eq_self_of_isInert fun c hc => isInert_of_mem_bareWord hne hc] at hne
    exact hne hnone
  cases mode with
  | leading =>
    obtain ⟨hk, hb⟩ := Option.or_eq_none_iff.1 hd
    exact Option.or_eq_none_iff.2 ⟨hknown hk, hbare hb⟩
  | pending => exact hknown hd
  | body => rfl
  | sequence => rfl

end MermaidTidy.Line
