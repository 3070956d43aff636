import Mathlib.Tactic
import MermaidTidy.Line.Classify
import MermaidTidy.Proofs.Text.Trim

/-!
# The first word of a line

All shapes but declarations and generic lines are told by the first word of a line, which ends at
the first blank.

* `lead t` is the first word and `afterLead t` what follows it, without the blanks between;
* `leadingKeyword?_eq` reads the recognisers of keywords off these two;
* `marked_cases` goes through the recognisers of marks and keywords;
* `shapeOfLead` is the only shape of this kind that a first word admits, so that at most one of the
  recognisers in `marked` takes a line;
* `recognise_cases` says what the classification of a line can be.
-/

namespace MermaidTidy.Line

open Text

variable {t : Text}

/-! ### First word and rest -/

/-- The first word of a line. -/
def lead (t : Text) : Text := t.takeWhile (!isBlank ·)

/-- What follows the first word of a line and the blanks behind it. -/
def afterLead (t : Text) : Text := (t.dropWhile (!isBlank ·)).dropWhile isBlank

theorem lead_append {k r : Text} (hk : ∀ c ∈ k, isBlank c = false) : lead (k ++ r) = k ++ lead r := by
  unfold lead
  exact List.takeWhile_append_of_pos fun c hc => by simp [hk c hc]

theorem afterLead_append {k r : Text} (hk : ∀ c ∈ k, isBlank c = false) :
    afterLead (k ++ r) = afterLead r := by
  unfold afterLead
  rw [List.dropWhile_append_of_pos fun c hc => by simp [hk c hc]]

theorem lead_eq_self {k : Text} (hk : ∀ c ∈ k, isBlank c = false) : lead k = k := by
  simpa [lead] using lead_append (r := []) hk

theorem afterLead_eq_nil {k : Text} (hk : ∀ c ∈ k, isBlank c = false) : afterLead k = [] := by
  simpa [afterLead] using afterLead_append (r := []) hk

theorem lead_append_blank {k r : Text} {c : Char} (hk : ∀ c ∈ k, isBlank c = false)
    (hc : isBlank c = true) : lead (k ++ c :: r) = k := by
  rw [lead_append hk, lead, List.takeWhile_cons_of_neg (by simp [hc]), List.append_nil]

theorem afterLead_append_blank {k r : Text} {c : Char} (hk : ∀ c ∈ k, isBlank c = false)
    (hc : isBlank c = true) : afterLead (k ++ c :: r) = r.dropWhile isBlank := by
  rw [afterLead_append hk, afterLead, List.dropWhile_cons_of_neg (by simp [hc]),
    List.dropWhile_cons_of_pos hc]

theorem isBlank_of_mem_lead {c : Char} (h : c ∈ lead t) : isBlank c = false := by
  simpa using List.mem_takeWhile_imp h

/-- A line is its first word, blanks, and the rest. -/
theorem exists_eq_lead_append (t : Text) :
    ∃ w, t = lead t ++ (w ++ afterLead t) ∧ ∀ c ∈ w, isBlank c = true := by
  refine ⟨(t.dropWhile (!isBlank ·)).takeWhile isBlank, ?_, fun c hc => List.mem_takeWhile_imp hc⟩
  unfold lead afterLead
  rw [List.takeWhile_append_dropWhile, List.takeWhile_append_dropWhile]

/-- Without a blank behind it the first word is the whole line. -/
theorem eq_lead_or_exists (t : Text) :
    t = lead t ∨ ∃ c r, isBlank c = true ∧ t = lead t ++ c :: r ∧ afterLead t = r.dropWhile isBlank := by
  cases h : t.dropWhile (!isBlank ·) with
  | nil =>
    left
    conv_lhs => rw [← List.takeWhile_append_dropWhile (p := (!isBlank ·)) (l := t)]
    rw [h, List.append_nil]
    rfl
  | cons c r =>
    have hc : isBlank c = true := by
      have := head?_dropWhile (!isBlank ·) t c (by rw [h]; rfl)
      simpa using this
    refine .inr ⟨c, r, hc, ?_, ?_⟩
    · conv_lhs => rw [← List.takeWhile_append_dropWhile (p := (!isBlank ·)) (l := t)]
      rw [h]
      rfl
    · rw [afterLead, h, List.dropWhile_cons_of_pos hc]

theorem visible_eq_lead_append (t : Text) : visible t = visible (lead t) ++ visible (afterLead t) := by
  obtain ⟨w, ht, hw⟩ := exists_eq_lead_append t
  conv_lhs => rw [ht]
  rw [visible_append, visible_append,
    visible_eq_nil_iff.2 fun c hc => isSpace_of_isBlank (hw c hc), List.nil_append]

theorem head?_afterLead (t : Text) : ∀ c ∈ (afterLead t).head?, isBlank c = false :=
  head?_dropWhile isBlank _

theorem getLast?_afterLead (h : afterLead t ≠ []) : (afterLead t).getLast? = t.getLast? := by
  obtain ⟨w, ht, -⟩ := exists_eq_lead_append t
  conv_rhs => rw [ht]
  rw [List.getLast?_append_of_ne_nil _ (by simp [h]), List.getLast?_append_of_ne_nil _ h]

/-- The rest of a line without blanks at its end has none at either end. -/
theorem isTrimmed_afterLead (h : IsTrimmed isBlank t) : IsTrimmed isBlank (afterLead t) where
  head := head?_afterLead t
  last := by
    intro c hc
    have hne : afterLead t ≠ [] := by
      intro hn
      rw [hn] at hc
      cases hc
    exact h.last c (getLast?_afterLead hne ▸ hc)

theorem mem_of_mem_afterLead {c : Char} (h : c ∈ afterLead t) : c ∈ t :=
  (List.dropWhile_sublist _).mem ((List.dropWhile_sublist _).mem h)

/-! ### Keywords -/

theorem afterKeyword?_eq {k : Text} (hk : ∀ c ∈ k, isBlank c = false) (t : Text) :
    afterKeyword? k t = if lead t = k then some (afterLead t) else none := by
  unfold afterKeyword?
  split
  · rename_i h
    have ht := isPrefixOf?_eq_some_iff.1 h
    rw [List.append_nil] at ht
    rw [ht, lead_eq_self hk, if_pos rfl, afterLead_eq_nil hk]
  · rename_i c rest h
    rw [isPrefixOf?_eq_some_iff.1 h]
    by_cases hc : isBlank c
    · rw [if_pos hc, lead_append_blank hk hc, if_pos rfl, afterLead_append_blank hk hc]
    · rw [if_neg hc, lead_append hk, if_neg]
      rw [lead, List.takeWhile_cons_of_pos (by simpa using hc)]
      simp
  · rename_i h
    rw [if_neg]
    rintro rfl
    obtain ⟨w, ht, -⟩ := exists_eq_lead_append t
    rw [isPrefixOf?_eq_some_iff.2 ht] at h
    cases h

theorem leadingKeyword?_eq {ks : List Text} (hks : ∀ k ∈ ks, ∀ c ∈ k, isBlank c = false) (t : Text) :
    leadingKeyword? ks t = if lead t ∈ ks then some (lead t, afterLead t) else none := by
  unfold leadingKeyword?
  induction ks with
  | nil => rfl
  | cons k ks ih =>
    rw [List.findSome?_cons, afterKeyword?_eq (hks k List.mem_cons_self)]
    by_cases h : lead t = k
    · simp [h]
    · rw [if_neg h, Option.map_none, ih fun k' hk' => hks k' (List.mem_cons_of_mem k hk')]
      simp [h]

/-- The keywords of participants. -/
def participantKeywords : List Text := ["participant".toList, "actor".toList]

theorem participant?_eq (t : Text) :
    participant? t =
      if lead t ∈ participantKeywords ∧ afterLead t ≠ [] then
        some [(.participantKeyword, lead t), (.text, afterLead t)]
      else none := by
  have hkey : leadingKeyword? ["participant".toList, "actor".toList] t =
      if lead t ∈ participantKeywords then some (lead t, afterLead t) else none :=
    leadingKeyword?_eq (by decide) t
  unfold participant?
  rw [hkey]
  by_cases h : lead t ∈ participantKeywords
  · rw [if_pos h]
    cases ha : afterLead t with
    | nil => simp
    | cons c r => simp [h]
  · rw [if_neg h, if_neg fun h' => h h'.1]

theorem blockStart?_eq (t : Text) :
    blockStart? t =
      if lead t ∈ blockKeywords then some ((.blockKeyword, lead t) :: label (afterLead t)) else none := by
  unfold blockStart?
  rw [leadingKeyword?_eq (by decide)]
  split_ifs <;> rfl

theorem braceBlockStart?_eq (t : Text) :
    braceBlockStart? t =
      if lead t ∈ braceKeywords then
        (braceName? (afterLead t)).map fun name => [(.braceKeyword, lead t), (.braceName, name)]
      else none := by
  unfold braceBlockStart?
  rw [leadingKeyword?_eq (by decide)]
  split_ifs
  · rw [Option.map_eq_bind]
    rfl
  · rfl

theorem branch?_eq {word : Text} (hw : ∀ c ∈ word, isBlank c = false) (t : Text) :
    branch? word t = if lead t = word then some (label (afterLead t)) else none := by
  unfold branch?
  rw [afterKeyword?_eq hw]
  split_ifs <;> rfl

/-- The spellings of `note`: upper and lower case do not matter. -/
def isNoteWord (w : Text) : Bool := w.map Char.toLower = "note".toList

theorem toLower_mem_of_isNoteWord {w : Text} (h : isNoteWord w = true) {c : Char} (hc : c ∈ w) :
    c.toLower ∈ "note".toList := by
  rw [← of_decide_eq_true h]
  exact List.mem_map_of_mem hc

theorem isBlank_eq_false_of_isNoteWord {w : Text} (h : isNoteWord w = true) :
    ∀ c ∈ w, isBlank c = false := by
  intro c hc
  have hmem := toLower_mem_of_isNoteWord h hc
  by_contra hb
  simp only [isBlank, Bool.not_eq_false, Bool.or_eq_true, beq_iff_eq] at hb
  rcases hb with rfl | rfl <;> revert hmem <;> decide

theorem note?_eq (t : Text) :
    note? t =
      if isNoteWord (lead t) then some ((.noteKeyword, lead t) :: label (afterLead t)) else none := by
  have hlen : ∀ {w : Text}, isNoteWord w = true → w.length = 4 := by
    intro w hw
    have := congrArg List.length (of_decide_eq_true hw)
    simpa using this
  unfold note?
  by_cases htake : isNoteWord (t.take 4)
  · rw [if_pos (of_decide_eq_true htake), afterKeyword?_eq (isBlank_eq_false_of_isNoteWord htake)]
    by_cases hlead : lead t = t.take 4
    · rw [if_pos hlead, if_pos (hlead ▸ htake), hlead]
      rfl
    · rw [if_neg hlead, if_neg]
      · rfl
      · intro hn
        apply hlead
        obtain ⟨w, ht, -⟩ := exists_eq_lead_append t
        conv_rhs => rw [ht]
        rw [← hlen hn, List.take_left]
  · have hmap : (t.take 4).map Char.toLower ≠ "note".toList := fun h => htake (decide_eq_true h)
    rw [if_neg hmap, if_neg]
    intro hn
    apply htake
    obtain ⟨w, ht, -⟩ := exists_eq_lead_append t
    rw [ht, ← hlen hn, List.take_left]
    exact hn

/-- A mark without blanks at the start of a line is at the start of its first word. -/
theorem isPrefixOf_lead {k : Text} (hk : ∀ c ∈ k, isBlank c = false) (t : Text) :
    k.isPrefixOf (lead t) = k.isPrefixOf t := by
  rw [Bool.eq_iff_iff, List.isPrefixOf_iff_prefix, List.isPrefixOf_iff_prefix]
  constructor
  · intro h
    exact h.trans (List.takeWhile_prefix _)
  · rintro ⟨r, rfl⟩
    exact ⟨lead r, (lead_append hk).symm⟩

theorem directive?_eq (t : Text) :
    directive? t =
      if ['%', '%', '\x7b'].isPrefixOf (lead t) then some [(.directive, t)] else none := by
  rw [isPrefixOf_lead (by decide)]
  rfl

theorem comment?_eq (t : Text) :
    comment? t =
      if ['%', '%'].isPrefixOf (lead t) ∧ ¬['%', '%', '\x7b'].isPrefixOf (lead t) then
        some [(.comment, t)]
      else none := by
  rw [isPrefixOf_lead (by decide), isPrefixOf_lead (by decide), comment?, directive?]
  cases ['%', '%', '\x7b'].isPrefixOf t <;> simp

theorem directive?_ne_none_iff : directive? t ≠ none ↔ ['%', '%', '\x7b'].isPrefixOf (lead t) := by
  rw [directive?_eq]
  split_ifs with h <;> simp [h]

theorem comment?_ne_none_iff : comment? t ≠ none ↔
    ['%', '%'].isPrefixOf (lead t) ∧ ¬['%', '%', '\x7b'].isPrefixOf (lead t) := by
  rw [comment?_eq]
  split_ifs with h
  · exact iff_of_true (by simp) h
  · exact iff_of_false (by simp) h

theorem participant?_ne_none_iff :
    participant? t ≠ none ↔ lead t ∈ participantKeywords ∧ afterLead t ≠ [] := by
  rw [participant?_eq]
  split_ifs with h <;> simp [h]

theorem blockStart?_ne_none_iff : blockStart? t ≠ none ↔ lead t ∈ blockKeywords := by
  rw [blockStart?_eq]
  split_ifs with h <;> simp [h]

theorem braceBlockStart?_ne_none_iff :
    braceBlockStart? t ≠ none ↔ lead t ∈ braceKeywords ∧ braceName? (afterLead t) ≠ none := by
  rw [braceBlockStart?_eq]
  split_ifs with h <;> simp [h]

theorem sequenceBranch?_ne_none_iff {mode : LineMode} {word : Text}
    (hw : ∀ c ∈ word, isBlank c = false) :
    sequenceBranch? mode word t ≠ none ↔ mode = .sequence ∧ lead t = word := by
  cases mode with
  | sequence =>
    rw [sequenceBranch?, branch?_eq hw]
    split_ifs with h <;> simp [h]
  | _ => simp [sequenceBranch?]

theorem note?_ne_none_iff : note? t ≠ none ↔ isNoteWord (lead t) = true := by
  rw [note?_eq]
  split_ifs with h <;> simp [h]

/-! ### At most one shape -/

/-- The shapes that a mark or a keyword tells, in the order of their precedence. -/
def marked (mode : LineMode) : List (Production × (Text → Option (Captures Terminal))) :=
  (shapes mode).dropLast

theorem shapes_eq (mode : LineMode) :
    shapes mode = marked mode ++ [(.diagramDecl, declaration? mode)] := rfl

/-- One case for each recogniser in `marked`. -/
@[elab_as_elim]
theorem marked_cases {mode : LineMode}
    {motive : (p : Production) → (f : Text → Option (Captures Terminal)) →
      (p, f) ∈ marked mode → Prop}
    (blankLine : ∀ h, motive .blankLine (fun t => if t = [] then some [] else none) h)
    (directive : ∀ h, motive .directive directive? h)
    (comment : ∀ h, motive .comment comment? h)
    (participant : ∀ h, motive .participant participant? h)
    (blockStart : ∀ h, motive .blockStart blockStart? h)
    (braceBlockStart : ∀ h, motive .braceBlockStart braceBlockStart? h)
    (blockOption : ∀ h, motive .blockOption (sequenceBranch? mode "option".toList) h)
    (blockElse : ∀ h, motive .blockElse (sequenceBranch? mode "else".toList) h)
    (blockAnd : ∀ h, motive .blockAnd (sequenceBranch? mode "and".toList) h)
    (blockEnd : ∀ h, motive .blockEnd blockEnd? h)
    (braceBlockEnd : ∀ h, motive .braceBlockEnd braceBlockEnd? h)
    (note : ∀ h, motive .note note? h)
    (p : Production) (f : Text → Option (Captures Terminal)) (hmem : (p, f) ∈ marked mode) :
    motive p f hmem := by
  have hcases := hmem
  simp only [marked, shapes, List.dropLast, List.mem_cons, Prod.mk.injEq, List.not_mem_nil,
    or_false] at hcases
  rcases hcases with ⟨rfl, rfl⟩ | ⟨rfl, rfl⟩ | ⟨rfl, rfl⟩ | ⟨rfl, rfl⟩ | ⟨rfl, rfl⟩ | ⟨rfl, rfl⟩ |
    ⟨rfl, rfl⟩ | ⟨rfl, rfl⟩ | ⟨rfl, rfl⟩ | ⟨rfl, rfl⟩ | ⟨rfl, rfl⟩ | ⟨rfl, rfl⟩
  exacts [blankLine _, directive _, comment _, participant _, blockStart _, braceBlockStart _,
    blockOption _, blockElse _, blockAnd _, blockEnd _, braceBlockEnd _, note _]

/-- The only shape in `marked` that a line with the first word `w` may have; a generic line where
there is none. -/
def shapeOfLead (w : Text) : Production :=
  if w = [] then .blankLine
  else if ['%', '%', '\x7b'].isPrefixOf w then .directive
  else if ['%', '%'].isPrefixOf w then .comment
  else if w ∈ participantKeywords then .participant
  else if w ∈ blockKeywords then .blockStart
  else if w ∈ braceKeywords then .braceBlockStart
  else if w = "option".toList then .blockOption
  else if w = "else".toList then .blockElse
  else if w = "and".toList then .blockAnd
  else if w = "end".toList then .blockEnd
  else if w = ['\x7d'] then .braceBlockEnd
  else if isNoteWord w then .note
  else .genericLine

/-- The words that tell a shape, but for the spellings of `note`. -/
def markedWords : List Text :=
  [] :: participantKeywords ++ blockKeywords ++ braceKeywords ++
    ["option".toList, "else".toList, "and".toList, "end".toList, ['\x7d']]

theorem shapeOfLead_of_not_mem {w : Text} (hw : w ∉ markedWords) (hmark : w.head? ≠ some '%')
    (hnote : isNoteWord w = false) : shapeOfLead w = .genericLine := by
  have hword : ∀ u ∈ markedWords, w ≠ u := fun u hu h => hw (h ▸ hu)
  have hnot : ∀ {ks : List Text}, (∀ u ∈ ks, u ∈ markedWords) → w ∉ ks := fun hks h => hw (hks w h)
  have hpercent : ∀ k : Text, ¬('%' :: k).isPrefixOf w := by
    intro k h
    obtain ⟨r, rfl⟩ := List.isPrefixOf_iff_prefix.1 h
    exact hmark rfl
  rw [shapeOfLead, if_neg (hword _ (by decide)), if_neg (hpercent _), if_neg (hpercent _),
    if_neg (hnot (by decide)), if_neg (hnot (by decide)), if_neg (hnot (by decide)),
    if_neg (hword _ (by decide)), if_neg (hword _ (by decide)), if_neg (hword _ (by decide)),
    if_neg (hword _ (by decide)), if_neg (hword _ (by decide)), if_neg (by simp [hnote])]

/-- No spelling of `note` is a mark or a keyword of another shape. -/
theorem shapeOfLead_of_isNoteWord {w : Text} (h : isNoteWord w = true) : shapeOfLead w = .note := by
  have hmap : w.map Char.toLower = "note".toList := of_decide_eq_true h
  have hnot : ∀ {ks : List Text}, (∀ k ∈ ks, isNoteWord k = false) → w ∉ ks := by
    intro ks hks hw
    rw [hks w hw] at h
    cases h
  have hmark : ∀ k : Text, ('%' :: k).isPrefixOf w = false := by
    intro k
    rw [Bool.eq_false_iff, Ne, List.isPrefixOf_iff_prefix]
    rintro ⟨r, rfl⟩
    exact absurd (List.cons.inj hmap).1 (by decide)
  have hwords : w ∉ [[], "option".toList, "else".toList, "and".toList, "end".toList, ['\x7d']] :=
    hnot (by decide)
  simp only [List.mem_cons, List.not_mem_nil, or_false, not_or] at hwords
  obtain ⟨hnil, hoption, helse, hand, hend, hbrace⟩ := hwords
  rw [shapeOfLead, if_neg hnil, if_neg (by simp [hmark]), if_neg (by simp [hmark]),
    if_neg (hnot (by decide)), if_neg (hnot (by decide)), if_neg (hnot (by decide)), if_neg hoption,
    if_neg helse, if_neg hand, if_neg hend, if_neg hbrace, if_pos h]

theorem shapeOfLead_of_marked {mode : LineMode} {p : Production}
    {f : Text → Option (Captures Terminal)} (hmem : (p, f) ∈ marked mode) (hf : f t ≠ none) :
    shapeOfLead (lead t) = p := by
  have nonempty : ∀ {k : Text}, k ≠ [] → k.isPrefixOf (lead t) = true → lead t ≠ [] := by
    intro k hk hpre hnil
    rw [hnil, List.isPrefixOf_iff_prefix, List.prefix_nil] at hpre
    exact hk hpre
  have branch : ∀ {word : Text} {q : Production}, (∀ c ∈ word, isBlank c = false) →
      shapeOfLead word = q → sequenceBranch? mode word t ≠ none → shapeOfLead (lead t) = q := by
    intro word q hword hq h
    rw [((sequenceBranch?_ne_none_iff hword).1 h).2, hq]
  cases p, f, hmem using marked_cases with
  | blankLine =>
    have ht : t = [] := by simpa using hf
    rw [ht]
    rfl
  | directive =>
    have hpre := directive?_ne_none_iff.1 hf
    rw [shapeOfLead, if_neg (nonempty (by simp) hpre), if_pos hpre]
  | comment =>
    have hpre := comment?_ne_none_iff.1 hf
    rw [shapeOfLead, if_neg (nonempty (by simp) hpre.1), if_neg hpre.2, if_pos hpre.1]
  | participant =>
    exact (by decide : ∀ k ∈ participantKeywords, shapeOfLead k = .participant) _
      (participant?_ne_none_iff.1 hf).1
  | blockStart =>
    exact (by decide : ∀ k ∈ blockKeywords, shapeOfLead k = .blockStart) _
      (blockStart?_ne_none_iff.1 hf)
  | braceBlockStart =>
    exact (by decide : ∀ k ∈ braceKeywords, shapeOfLead k = .braceBlockStart) _
      (braceBlockStart?_ne_none_iff.1 hf).1
  | blockOption | blockElse | blockAnd => exact branch (by decide) rfl hf
  | blockEnd =>
    have ht : t = "end".toList := by simpa [blockEnd?] using hf
    rw [ht]
    rfl
  | braceBlockEnd =>
    have ht : t = ['\x7d'] := by simpa [braceBlockEnd?] using hf
    rw [ht]
    rfl
  | note => exact shapeOfLead_of_isNoteWord (note?_ne_none_iff.1 hf)

/-! ### Classification -/

/-- No mark and no keyword tells the shape of a line. -/
def IsUnmarked (mode : LineMode) (t : Text) : Prop := ∀ f ∈ marked mode, f.2 t = none

theorem isUnmarked_of_shapeOfLead {mode : LineMode} (h : shapeOfLead (lead t) = .genericLine) :
    IsUnmarked mode t := by
  rintro ⟨p, f⟩ hf
  by_contra hne
  have hp := shapeOfLead_of_marked hf hne
  rw [h] at hp
  subst hp
  simp [marked, shapes] at hf

/-- The words of the branches of sequence diagrams. -/
def branchWords : List Text := ["option".toList, "else".toList, "and".toList]

/-- What it takes for a line to be unmarked. -/
theorem isUnmarked_iff {mode : LineMode} : IsUnmarked mode t ↔
    t ≠ [] ∧ ¬['%', '%'].isPrefixOf (lead t) ∧
      ¬(lead t ∈ participantKeywords ∧ afterLead t ≠ []) ∧ lead t ∉ blockKeywords ∧
      ¬(lead t ∈ braceKeywords ∧ braceName? (afterLead t) ≠ none) ∧
      ¬(mode = .sequence ∧ lead t ∈ branchWords) ∧ t ≠ "end".toList ∧ t ≠ ['\x7d'] ∧
      ¬isNoteWord (lead t) = true := by
  have hcomment : ['%', '%'].isPrefixOf (lead t) ↔ directive? t ≠ none ∨ comment? t ≠ none := by
    have hdirective : ['%', '%', '\x7b'].isPrefixOf (lead t) → ['%', '%'].isPrefixOf (lead t) := by
      rw [List.isPrefixOf_iff_prefix, List.isPrefixOf_iff_prefix]
      exact List.IsPrefix.trans ⟨['\x7b'], rfl⟩
    rw [directive?_ne_none_iff, comment?_ne_none_iff, or_and_left, and_iff_left (em _), or_comm,
      or_iff_left_of_imp hdirective]
  have hbranch : mode = .sequence ∧ lead t ∈ branchWords ↔
      sequenceBranch? mode "option".toList t ≠ none ∨ sequenceBranch? mode "else".toList t ≠ none ∨
        sequenceBranch? mode "and".toList t ≠ none := by
    rw [sequenceBranch?_ne_none_iff (by decide), sequenceBranch?_ne_none_iff (by decide),
      sequenceBranch?_ne_none_iff (by decide)]
    simp only [branchWords, List.mem_cons, List.not_mem_nil, or_false, and_or_left]
  have hmarked : IsUnmarked mode t ↔ t ≠ [] ∧ directive? t = none ∧ comment? t = none ∧
      participant? t = none ∧ blockStart? t = none ∧ braceBlockStart? t = none ∧
      sequenceBranch? mode "option".toList t = none ∧ sequenceBranch? mode "else".toList t = none ∧
      sequenceBranch? mode "and".toList t = none ∧ t ≠ "end".toList ∧ t ≠ ['\x7d'] ∧
      note? t = none := by
    simp [IsUnmarked, marked, shapes, blockEnd?, braceBlockEnd?]
  rw [hmarked, hcomment, hbranch, ← participant?_ne_none_iff, ← blockStart?_ne_none_iff,
    ← braceBlockStart?_ne_none_iff, ← note?_ne_none_iff]
  simp only [ne_eq, not_or, not_not, and_assoc]

theorem recognise_eq (mode : LineMode) (t : Text) :
    recognise mode t =
      ((shapes mode).findSome? fun g => (g.2 t).map (g.1, ·)).getD (.genericLine, [(.text, t)]) := rfl

/-- A line that a recogniser of a mark or keyword takes has that shape. -/
theorem recognise_of_marked {mode : LineMode} {p : Production}
    {f : Text → Option (Captures Terminal)} {captures : Captures Terminal}
    (hmem : (p, f) ∈ marked mode) (hf : f t = some captures) :
    recognise mode t = (p, captures) := by
  have hnodup : ((marked mode).map Prod.fst).Nodup := by cases mode <;> decide
  obtain ⟨before, after, hsplit⟩ := List.append_of_mem hmem
  -- the first word has one shape, so that no recogniser before takes the line
  have hnone : ∀ g ∈ before, (g.2 t).map (g.1, ·) = none := by
    intro g hg
    rw [Option.map_eq_none_iff]
    by_contra hne
    have hgm : g ∈ marked mode := by
      rw [hsplit]
      simp [hg]
    have hp : shapeOfLead (lead t) = p := shapeOfLead_of_marked hmem (by simp [hf])
    have hq : shapeOfLead (lead t) = g.1 := shapeOfLead_of_marked hgm hne
    rw [hsplit, List.map_append, List.nodup_append] at hnodup
    exact hnodup.2.2 g.1 (List.mem_map_of_mem hg) p (by simp) (hq.symm.trans hp)
  have hfound : (shapes mode).findSome? (fun g => (g.2 t).map (g.1, ·)) = some (p, captures) := by
    rw [shapes_eq, hsplit]
    exact List.findSome?_eq_some_iff.2 ⟨before, (p, f),
      after ++ [(.diagramDecl, declaration? mode)], by simp, by simp [hf], hnone⟩
  rw [recognise_eq, hfound]
  rfl

theorem recognise_of_isUnmarked {mode : LineMode} (h : IsUnmarked mode t) :
    recognise mode t =
      ((declaration? mode t).map (.diagramDecl, ·)).getD (.genericLine, [(.text, t)]) := by
  have hnone : (marked mode).findSome? (fun g => (g.2 t).map (g.1, ·)) = none := by
    rw [List.findSome?_eq_none_iff]
    intro g hg
    rw [Option.map_eq_none_iff]
    exact h g hg
  rw [recognise_eq, shapes_eq, List.findSome?_append, hnone, Option.none_or]
  cases h : declaration? mode t <;> simp [h]

/-- What the classification of a line can be. -/
theorem recognise_cases (mode : LineMode) (t : Text) :
    (∃ p f captures, (p, f) ∈ marked mode ∧ f t = some captures ∧
      recognise mode t = (p, captures)) ∨
    IsUnmarked mode t ∧ (∃ captures, declaration? mode t = some captures ∧
      recognise mode t = (.diagramDecl, captures)) ∨
    IsUnmarked mode t ∧ declaration? mode t = none ∧
      recognise mode t = (.genericLine, [(.text, t)]) := by
  by_cases h : IsUnmarked mode t
  · have hr := recognise_of_isUnmarked h
    cases hd : declaration? mode t with
    | none => exact .inr (.inr ⟨h, rfl, by rw [hr, hd]; rfl⟩)
    | some captures => exact .inr (.inl ⟨h, captures, rfl, by rw [hr, hd]; rfl⟩)
  · obtain ⟨⟨p, f⟩, hmem, hf⟩ : ∃ f ∈ marked mode, f.2 t ≠ none := by
      simpa [IsUnmarked] using h
    obtain ⟨captures, hc⟩ := Option.ne_none_iff_exists'.1 hf
    exact .inl ⟨p, f, captures, hmem, hc, recognise_of_marked hmem hc⟩

/-! ### Control characters -/

theorem obstacle?_eq_none_iff {t : Text} : obstacle? t = none ↔ ∀ c ∈ t, isControl c = false := by
  have hall : t.dropWhile (!isControl ·) = [] ↔ ∀ c ∈ t, isControl c = false := by
    simp [List.dropWhile_eq_nil_iff]
  rw [← hall]
  unfold obstacle?
  split <;> simp_all

end MermaidTidy.Line
