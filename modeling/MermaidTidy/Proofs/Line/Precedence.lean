import Mathlib.Tactic
import MermaidTidy.Proofs.Line.Respaced

/-!
# The precedence of shapes

Which shape a line has, said of its text alone.

* `IsMarkedAs mode t p` says that a mark or a keyword gives the line `t` the shape `p`, and
  `IsDeclaration mode t` that the line may declare a diagram;
* `HasShape` puts the two in order: marks and keywords come first, declarations next, and a line that
  has neither is generic;
* `classify_production_iff`: every line without control characters is classified, by the one shape
  that it has.
-/

namespace MermaidTidy.Line

open Text

/-! ### Words and keywords at the start of a line -/

/-- The text starts with the word `k`, and a blank or the end of the text follows it. -/
def StartsWithWord (k t : Text) : Prop := t = k ∨ ∃ b r, isBlank b = true ∧ t = k ++ b :: r

/-- The text is the word `k`, then blanks, then `r`. -/
def IsWordThen (k r t : Text) : Prop :=
  ∃ blanks, blanks ≠ [] ∧ (∀ b ∈ blanks, isBlank b = true) ∧ t = k ++ (blanks ++ r)

/-- The text is the keyword of `k` and `r`, and the keyword ends at a word boundary. -/
def StartsWithKeyword (k : DiagramKind) (r t : Text) : Prop :=
  t = k.keyword ++ r ∧ ∀ c ∈ r.head?, isWordChar c = false

/-- Of the keywords that the text starts with, that of `k` is the longest, and `r` follows it. -/
def IsLongestKeyword (k : DiagramKind) (r t : Text) : Prop :=
  StartsWithKeyword k r t ∧
    ∀ k' r', StartsWithKeyword k' r' t → k'.keyword.length ≤ k.keyword.length

/-- The longest keyword at the start is followed by the end, or by optional blanks and a character
that is not white space. -/
def DeclaresKnown (t : Text) : Prop :=
  ∃ k r, IsLongestKeyword k r t ∧
    (r = [] ∨ ∃ blanks c r', (∀ b ∈ blanks, isBlank b = true) ∧ isSpace c = false ∧
      r = blanks ++ c :: r')

/-- An ASCII letter, then word characters and hyphens. -/
def IsBareWord (t : Text) : Prop :=
  ∃ c r, t = c :: r ∧ c.isAlpha = true ∧ ∀ d ∈ r, isWordChar d = true ∨ d = '-'

/-! ### Shapes -/

/-- A mark or a keyword gives the line `t`, without blanks around it, the shape. -/
def IsMarkedAs (mode : LineMode) (t : Text) : Production → Prop
  | .blankLine => t = []
  | .directive => ['%', '%', '\x7b'] <+: t
  | .comment => ['%', '%'] <+: t ∧ ¬['%', '%', '\x7b'] <+: t
  | .participant => ∃ k ∈ ["participant".toList, "actor".toList], ∃ r, r ≠ [] ∧ IsWordThen k r t
  | .blockStart =>
    ∃ k ∈ ["critical".toList, "alt".toList, "loop".toList, "par".toList, "opt".toList, "break".toList,
      "rect".toList, "subgraph".toList], StartsWithWord k t
  | .braceBlockStart =>
    ∃ k ∈ ["state".toList, "class".toList, "namespace".toList], ∃ r, IsWordThen k r t ∧
      (∃ c ∈ r.head?, isSpace c = false ∧ c ≠ '\x7b') ∧ r.getLast? = some '\x7b'
  | .blockOption => mode = .sequence ∧ StartsWithWord "option".toList t
  | .blockElse => mode = .sequence ∧ StartsWithWord "else".toList t
  | .blockAnd => mode = .sequence ∧ StartsWithWord "and".toList t
  | .blockEnd => t = "end".toList
  | .braceBlockEnd => t = ['\x7d']
  | .note => ∃ w : Text, w.map Char.toLower = "note".toList ∧ StartsWithWord w t
  | .diagramDecl | .genericLine => False

/-- The line declares a diagram where no mark and no keyword gives it another shape: by a known
keyword until the declaration is found, by a bare word only before all content. -/
def IsDeclaration (mode : LineMode) (t : Text) : Prop :=
  (mode = .leading ∨ mode = .pending) ∧ DeclaresKnown t ∨ mode = .leading ∧ IsBareWord t

/-- The shape of a line: marks and keywords come before declarations, and all else is generic. -/
inductive HasShape (mode : LineMode) (t : Text) : Production → Prop
  | marked {p : Production} (h : IsMarkedAs mode t p) : HasShape mode t p
  | declaration (hu : ∀ p, ¬IsMarkedAs mode t p) (hd : IsDeclaration mode t) :
      HasShape mode t .diagramDecl
  | generic (hu : ∀ p, ¬IsMarkedAs mode t p) (hd : ¬IsDeclaration mode t) :
      HasShape mode t .genericLine

/-! ### Words and the first word -/

section words

variable {k r t : Text}

theorem startsWithWord_iff (hk : ∀ c ∈ k, isBlank c = false) : StartsWithWord k t ↔ lead t = k := by
  constructor
  · rintro (rfl | ⟨b, r, hb, rfl⟩)
    · exact lead_eq_self hk
    · exact lead_append_blank hk hb
  · rintro rfl
    rcases eq_lead_or_exists t with ht | ⟨b, r, hb, ht, -⟩
    · exact .inl ht
    · exact .inr ⟨b, r, hb, ht⟩

theorem IsWordThen.lead_eq (h : IsWordThen k r t) (hk : ∀ c ∈ k, isBlank c = false) :
    lead t = k ∧ afterLead t = r.dropWhile isBlank := by
  obtain ⟨blanks, hne, hblanks, rfl⟩ := h
  obtain ⟨b, bs, rfl⟩ := List.exists_cons_of_ne_nil hne
  obtain ⟨hb, hbs⟩ := List.forall_mem_cons.1 hblanks
  rw [List.cons_append]
  refine ⟨lead_append_blank hk hb, ?_⟩
  rw [afterLead_append_blank hk hb, List.dropWhile_append_of_pos hbs]

theorem isWordThen_afterLead (h : afterLead t ≠ []) : IsWordThen (lead t) (afterLead t) t := by
  rcases eq_lead_or_exists t with ht | ⟨b, r, hb, ht, hafter⟩
  · refine absurd ?_ h
    rw [ht]
    exact afterLead_eq_nil fun c hc => isBlank_of_mem_lead hc
  · refine ⟨b :: r.takeWhile isBlank, by simp, ?_, ?_⟩
    · exact List.forall_mem_cons.2 ⟨hb, fun c hc => List.mem_takeWhile_imp hc⟩
    · rw [hafter, List.cons_append, List.takeWhile_append_dropWhile]
      exact ht

/-- In a line without blanks at its end, blanks behind a word are followed by more. -/
theorem exists_isWordThen_iff (ht : IsTrimmed isBlank t) (hk : ∀ c ∈ k, isBlank c = false) :
    (∃ r, r ≠ [] ∧ IsWordThen k r t) ↔ lead t = k ∧ afterLead t ≠ [] := by
  constructor
  · rintro ⟨r, hr, h⟩
    obtain ⟨hlead, hafter⟩ := h.lead_eq hk
    refine ⟨hlead, hafter ▸ dropWhile_ne_nil hr ?_⟩
    obtain ⟨blanks, -, -, rfl⟩ := h
    intro c hc
    refine ht.last c ?_
    rwa [List.getLast?_append_of_ne_nil _ (by simp [hr]), List.getLast?_append_of_ne_nil _ hr]
  · rintro ⟨rfl, hne⟩
    exact ⟨afterLead t, hne, isWordThen_afterLead hne⟩

/-- Where the rest starts visibly, it is all that follows the blanks. -/
theorem isWordThen_iff (hk : ∀ c ∈ k, isBlank c = false) {c : Char} (hc : c ∈ r.head?)
    (hspace : isSpace c = false) : IsWordThen k r t ↔ lead t = k ∧ afterLead t = r := by
  have hr : r.dropWhile isBlank = r := by
    refine dropWhile_eq_self fun d hd => ?_
    rw [Option.mem_unique hd hc]
    exact isBlank_eq_false hspace
  constructor
  · intro h
    rw [← hr]
    exact h.lead_eq hk
  · rintro ⟨rfl, rfl⟩
    refine isWordThen_afterLead fun hnil => ?_
    rw [hnil] at hc
    cases hc

end words

/-! ### Marks and keywords -/

section marks

variable {mode : LineMode} {t : Text} {p : Production}

theorem isMarkedAs_participant_iff (ht : IsTrimmed isBlank t) :
    IsMarkedAs mode t .participant ↔ participant? t ≠ none := by
  have hword : ∀ k ∈ participantKeywords, ∀ c ∈ k, isBlank c = false := by decide
  rw [participant?_ne_none_iff]
  constructor
  · rintro ⟨k, hk, hr⟩
    obtain ⟨hlead, hne⟩ := (exists_isWordThen_iff ht (hword k hk)).1 hr
    exact ⟨hlead ▸ hk, hne⟩
  · rintro ⟨hk, hne⟩
    exact ⟨lead t, hk, afterLead t, hne, isWordThen_afterLead hne⟩

theorem isMarkedAs_blockStart_iff : IsMarkedAs mode t .blockStart ↔ blockStart? t ≠ none := by
  have hword : ∀ k ∈ blockKeywords, ∀ c ∈ k, isBlank c = false := by decide
  rw [blockStart?_ne_none_iff]
  constructor
  · rintro ⟨k, hk, h⟩
    rw [(startsWithWord_iff (hword k hk)).1 h]
    exact hk
  · intro hk
    exact ⟨lead t, hk, (startsWithWord_iff (hword _ hk)).2 rfl⟩

theorem isMarkedAs_braceBlockStart_iff :
    IsMarkedAs mode t .braceBlockStart ↔ braceBlockStart? t ≠ none := by
  have hword : ∀ k ∈ braceKeywords, ∀ c ∈ k, isBlank c = false := by decide
  rw [braceBlockStart?_ne_none_iff, braceName?_ne_none_iff]
  constructor
  · rintro ⟨k, hk, r, h, ⟨c, hc, hspace, hbrace⟩, hlast⟩
    obtain ⟨rfl, rfl⟩ := (isWordThen_iff (hword k hk) hc hspace).1 h
    exact ⟨hk, ⟨c, hc, hspace, hbrace⟩, hlast⟩
  · rintro ⟨hk, ⟨c, hc, hspace, hbrace⟩, hlast⟩
    exact ⟨lead t, hk, afterLead t, (isWordThen_iff (hword _ hk) hc hspace).2 ⟨rfl, rfl⟩,
      ⟨c, hc, hspace, hbrace⟩, hlast⟩

theorem isMarkedAs_note_iff : IsMarkedAs mode t .note ↔ note? t ≠ none := by
  rw [note?_ne_none_iff]
  constructor
  · rintro ⟨w, hw, h⟩
    have hnote : isNoteWord w = true := decide_eq_true hw
    rwa [(startsWithWord_iff (isBlank_eq_false_of_isNoteWord hnote)).1 h]
  · intro hnote
    exact ⟨lead t, of_decide_eq_true hnote,
      (startsWithWord_iff (isBlank_eq_false_of_isNoteWord hnote)).2 rfl⟩

/-- A mark or keyword gives a line the shape whose recogniser takes it. -/
theorem isMarkedAs_iff (ht : IsTrimmed isBlank t) :
    IsMarkedAs mode t p ↔ ∃ f, (p, f) ∈ marked mode ∧ f t ≠ none := by
  have hbranch {word : Text} (hword : ∀ c ∈ word, isBlank c = false) :
      mode = .sequence ∧ StartsWithWord word t ↔ sequenceBranch? mode word t ≠ none := by
    rw [sequenceBranch?_ne_none_iff hword, startsWithWord_iff hword]
  have hprefix {k : Text} (hk : ∀ c ∈ k, isBlank c = false) : k <+: t ↔ k.isPrefixOf (lead t) := by
    rw [isPrefixOf_lead hk, List.isPrefixOf_iff_prefix]
  -- each shape stands once in the list, so that the right-hand side is about its own recogniser
  cases p with
  | blankLine => simp [IsMarkedAs, marked, shapes]
  | directive =>
    rw [IsMarkedAs, hprefix (by decide), ← directive?_ne_none_iff]
    simp [marked, shapes]
  | comment =>
    rw [IsMarkedAs, hprefix (by decide), hprefix (by decide), ← comment?_ne_none_iff]
    simp [marked, shapes]
  | participant =>
    rw [isMarkedAs_participant_iff ht]
    simp [marked, shapes]
  | blockStart =>
    rw [isMarkedAs_blockStart_iff]
    simp [marked, shapes]
  | braceBlockStart =>
    rw [isMarkedAs_braceBlockStart_iff]
    simp [marked, shapes]
  | blockOption =>
    rw [IsMarkedAs, hbranch (by decide)]
    simp [marked, shapes]
  | blockElse =>
    rw [IsMarkedAs, hbranch (by decide)]
    simp [marked, shapes]
  | blockAnd =>
    rw [IsMarkedAs, hbranch (by decide)]
    simp [marked, shapes]
  | blockEnd => simp [IsMarkedAs, marked, shapes, blockEnd?]
  | braceBlockEnd => simp [IsMarkedAs, marked, shapes, braceBlockEnd?]
  | note =>
    rw [isMarkedAs_note_iff]
    simp [marked, shapes]
  | diagramDecl => simp [IsMarkedAs, marked, shapes]
  | genericLine => simp [IsMarkedAs, marked, shapes]

theorem isUnmarked_iff_forall_not (ht : IsTrimmed isBlank t) :
    IsUnmarked mode t ↔ ∀ p, ¬IsMarkedAs mode t p := by
  simp only [isMarkedAs_iff ht, not_exists, not_and, not_not]
  exact ⟨fun h p f hf => h (p, f) hf, fun h ⟨p, f⟩ hf => h p f hf⟩

/-- No line is marked in two ways. -/
theorem isMarkedAs_unique (ht : IsTrimmed isBlank t) {q : Production} (hp : IsMarkedAs mode t p)
    (hq : IsMarkedAs mode t q) : p = q := by
  obtain ⟨f, hf, hft⟩ := (isMarkedAs_iff ht).1 hp
  obtain ⟨g, hg, hgt⟩ := (isMarkedAs_iff ht).1 hq
  exact (shapeOfLead_of_marked hf hft).symm.trans (shapeOfLead_of_marked hg hgt)

end marks

/-! ### Declarations -/

section declarations

variable {k : DiagramKind} {r t : Text}

theorem startsWithKeyword_iff : StartsWithKeyword k r t ↔ t = k.keyword ++ r ∧ atWordEnd r = true := by
  unfold StartsWithKeyword
  cases r <;> simp

/-- Only `stateDiagram` starts another keyword. -/
theorem eq_or_of_keyword_prefix {k k' : DiagramKind} (h : k.keyword <+: k'.keyword) :
    k = k' ∨ k' = .stateDiagramV2 := by
  have hall : ∀ k ∈ DiagramKind.all, ∀ k' ∈ DiagramKind.all, k.keyword <+: k'.keyword →
      k = k' ∨ k' = .stateDiagramV2 := by decide +kernel
  exact hall k k.mem_all k' k'.mem_all h

theorem isLongestKeyword_of_leading? (h : DiagramKind.leading? t = some (k, r)) :
    IsLongestKeyword k r t := by
  have hk := DiagramKind.eq_append_of_leading? h
  refine ⟨startsWithKeyword_iff.2 hk, fun k' r' h' => ?_⟩
  by_contra hlt
  obtain ⟨ht, hend⟩ := startsWithKeyword_iff.1 h'
  have hprefix : k.keyword <+: k'.keyword :=
    List.prefix_of_prefix_length_le ⟨r, hk.1.symm⟩ ⟨r', ht.symm⟩ (by omega)
  rcases eq_or_of_keyword_prefix hprefix with rfl | rfl
  · exact hlt le_rfl
  · -- the longer keyword is looked for first
    have hafter : DiagramKind.after? .stateDiagramV2 t = some r' := by
      rw [DiagramKind.after?, isPrefixOf?_eq_some_iff.2 ht, Option.filter_some, if_pos hend]
    rw [DiagramKind.leading?, DiagramKind.longestFirst, List.findSome?_cons, hafter] at h
    cases h
    exact hlt le_rfl

/-- The keyword that is found is the longest one. -/
theorem leading?_eq_some_iff : DiagramKind.leading? t = some (k, r) ↔ IsLongestKeyword k r t := by
  refine ⟨isLongestKeyword_of_leading?, fun h => ?_⟩
  obtain ⟨ht, hend⟩ := startsWithKeyword_iff.1 h.1
  obtain ⟨⟨k', r'⟩, hfound⟩ :=
    Option.ne_none_iff_exists'.1 (leading?_ne_none_iff.2 ⟨k, r, ht, hend⟩)
  have hlongest := isLongestKeyword_of_leading? hfound
  have hlen : k.keyword.length = k'.keyword.length :=
    le_antisymm (hlongest.2 k r h.1) (h.2 k' r' hlongest.1)
  obtain ⟨hkeyword, rfl⟩ := List.append_inj (ht.symm.trans hlongest.1.1) hlen
  have hkind : some (k, ([] : Text)) = some (k', []) := by
    rw [← DiagramKind.leading?_keyword, hkeyword, DiagramKind.leading?_keyword]
  cases hkind
  exact hfound

theorem declRest?_ne_none_iff : declRest? r ≠ none ↔
    r = [] ∨ ∃ blanks c r', (∀ b ∈ blanks, isBlank b = true) ∧ isSpace c = false ∧
      r = blanks ++ c :: r' := by
  cases r with
  | nil => simp [declRest?]
  | cons d s =>
    have hsplit : d :: s = (d :: s).takeWhile isBlank ++ (d :: s).dropWhile isBlank :=
      (List.takeWhile_append_dropWhile).symm
    simp only [declRest?, List.cons_ne_nil, false_or]
    constructor
    · intro h
      cases hdrop : (d :: s).dropWhile isBlank with
      | nil => simp [hdrop] at h
      | cons c r' =>
        refine ⟨(d :: s).takeWhile isBlank, c, r', fun b hb => List.mem_takeWhile_imp hb, ?_, ?_⟩
        · simpa [hdrop] using h
        · rw [← hdrop]
          exact hsplit
    · rintro ⟨blanks, c, r', hblanks, hc, hr⟩
      have hdrop : (d :: s).dropWhile isBlank = c :: r' := by
        rw [hr, List.dropWhile_append_of_pos hblanks,
          List.dropWhile_cons_of_neg (by simp [isBlank_eq_false hc])]
      simp [hdrop, hc]

theorem knownDecl?_ne_none_iff_declaresKnown : knownDecl? t ≠ none ↔ DeclaresKnown t := by
  unfold knownDecl? DeclaresKnown
  simp only [← leading?_eq_some_iff, ← declRest?_ne_none_iff]
  cases DiagramKind.leading? t with
  | none => simp
  | some kr =>
    obtain ⟨k, r⟩ := kr
    cases hr : declRest? r <;> simp [hr]

theorem bareWord?_ne_none_iff : bareWord? t ≠ none ↔ IsBareWord t := by
  cases t with
  | nil => simp [bareWord?, IsBareWord]
  | cons c r => simp [bareWord?, IsBareWord, or_iff_not_imp_left]

theorem declaration?_ne_none_iff {mode : LineMode} :
    declaration? mode t ≠ none ↔ IsDeclaration mode t := by
  unfold IsDeclaration
  rw [← knownDecl?_ne_none_iff_declaresKnown, ← bareWord?_ne_none_iff]
  cases mode with
  | leading => simp [declaration?, Option.or_eq_none_iff, or_iff_not_imp_left]
  | pending => simp [declaration?]
  | body => simp [declaration?]
  | sequence => simp [declaration?]

end declarations

/-! ### Classification -/

/-- A line has one shape. -/
theorem hasShape_unique {mode : LineMode} {t : Text} {p q : Production} (ht : IsTrimmed isBlank t)
    (hp : HasShape mode t p) (hq : HasShape mode t q) : p = q := by
  cases hp with
  | marked h =>
    cases hq with
    | marked h' => exact isMarkedAs_unique ht h h'
    | declaration hu _ => exact absurd h (hu p)
    | generic hu _ => exact absurd h (hu p)
  | declaration hu hd =>
    cases hq with
    | marked h' => exact absurd h' (hu q)
    | declaration _ _ => rfl
    | generic _ hd' => exact absurd hd hd'
  | generic hu hd =>
    cases hq with
    | marked h' => exact absurd h' (hu q)
    | declaration _ hd' => exact absurd hd' hd
    | generic _ _ => rfl

theorem hasShape_recognise (mode : LineMode) {t : Text} (ht : IsTrimmed isBlank t) :
    HasShape mode t (recognise mode t).1 := by
  rcases recognise_cases mode t with ⟨p, f, captures, hmem, hf, hr⟩ | ⟨hu, captures, hd, hr⟩ |
    ⟨hu, hd, hr⟩
  · rw [hr]
    exact .marked ((isMarkedAs_iff ht).2 ⟨f, hmem, by simp [hf]⟩)
  · rw [hr]
    exact .declaration ((isUnmarked_iff_forall_not ht).1 hu) (declaration?_ne_none_iff.1 (by simp [hd]))
  · rw [hr]
    exact .generic ((isUnmarked_iff_forall_not ht).1 hu) fun h => declaration?_ne_none_iff.2 h hd

/-- **Every line without control characters is classified, by the only shape that it has.** The
shapes are those of the line without the blanks around it. -/
theorem classify_production_iff {raw : Text} (hraw : ∀ c ∈ raw, isControl c = false) (mode : LineMode)
    (line : Int) :
    ∃ l, classify raw mode line = .ok l ∧ l.text = stripBlanks raw ∧ l.line = line ∧
      ∀ p, l.production = p ↔ HasShape mode (stripBlanks raw) p := by
  have hclear : obstacle? (stripBlanks raw) = none :=
    obstacle?_eq_none_iff.2 fun c hc => hraw c (mem_of_mem_trim hc)
  have htrim : IsTrimmed isBlank (stripBlanks raw) := isTrimmed_trim isBlank raw
  have hshape := hasShape_recognise mode htrim
  refine ⟨⟨(recognise mode (stripBlanks raw)).1, stripBlanks raw, line,
    (recognise mode (stripBlanks raw)).2⟩, ?_, rfl, rfl, fun p => ⟨?_, hasShape_unique htrim hshape⟩⟩
  · unfold classify
    simp only [hclear]
  · rintro rfl
    exact hshape

theorem classify_production_iff_longest_keyword :
    (∀ c ∈ "\t stateDiagram-v2 LR ".toList, isControl c = false) ∧
      ∃ l, classify "\t stateDiagram-v2 LR ".toList .pending 3 = .ok l ∧
        l.production = .diagramDecl ∧ l.text = "stateDiagram-v2 LR".toList ∧
        HasShape .pending "stateDiagram-v2 LR".toList .diagramDecl := by
  have hraw : ∀ c ∈ "\t stateDiagram-v2 LR ".toList, isControl c = false := by decide
  have hclass : classify "\t stateDiagram-v2 LR ".toList .pending 3 =
      .ok ⟨.diagramDecl, "stateDiagram-v2 LR".toList, 3,
        [(.knownDiagram, "stateDiagram-v2".toList), (.declText, "LR".toList)]⟩ := by decide +kernel
  obtain ⟨l, hl, -, -, hshape⟩ := classify_production_iff hraw .pending 3
  rw [hclass] at hl
  cases hl
  exact ⟨hraw, _, hclass, rfl, rfl, (hshape .diagramDecl).1 rfl⟩

end MermaidTidy.Line
