import Mathlib.Tactic
import MermaidTidy.Proofs.Line.Precedence
import MermaidTidy.Proofs.Source.Reading
import MermaidTidy.Proofs.Source.Rendered
import MermaidTidy.Settings.Basic

/-!
# Which line declares the diagram

Reading keeps a mode, and the mode decides which lines may declare a diagram. Here the mode is read
off the statements so far, and the declaring line off the lines alone.

* `mode_after_eq_leading_iff`, `isOpen_after_iff`, `exists_declaration_of_sequence`: what the mode
  says about the statements read so far;
* `readLines_getElem?`: the statement of a line is the one that its mode gives, and the mode is that
  of the statements before it;
* `DeclaresAt lines i`: the line with index `i` may declare the diagram, said without any mode;
* `parse_declaration_iff`: the first such line declares the diagram, and no other line does. Branches
  and messages belong to sequence diagrams.
-/

namespace MermaidTidy.Source

open Text Line

/-! ### What the mode remembers -/

namespace Progress

/-- No declaration has been found yet. -/
def IsOpen (p : Progress) : Prop := p.mode = .leading ∨ p.mode = .pending

theorem next_of_declared?_eq_some {p : Progress} {s : Statement} {type : DiagramType} (h : p.IsOpen)
    (hs : s.declared? = some type) :
    p.next s = ⟨if type.kind = .sequenceDiagram then .sequence else .body, some type.kind⟩ := by
  rcases h with h | h <;> simp only [next, h, hs]

theorem next_of_declared?_eq_none {p : Progress} {s : Statement} (h : p.IsOpen)
    (hs : s.declared? = none) :
    p.next s = if isPreamble s then p else { p with mode := .pending } := by
  rcases h with h | h <;> simp only [next, h, hs]

theorem next_of_not_isOpen {p : Progress} (h : ¬p.IsOpen) (s : Statement) : p.next s = p := by
  apply next_of_declared
  unfold IsOpen at h
  cases hm : p.mode <;> simp_all

theorem declared?_of_isPreamble {s : Statement} (h : isPreamble s = true) : s.declared? = none := by
  cases s <;> simp_all [isPreamble, Statement.declared?]

/-! Each fact about the mode is proved for one statement first and then for all that were read. -/

theorem mode_next_eq_leading_iff (p : Progress) (s : Statement) :
    (p.next s).mode = .leading ↔ p.mode = .leading ∧ isPreamble s = true := by
  by_cases hopen : p.IsOpen
  · cases hd : s.declared? with
    | some type =>
      have hp : ¬isPreamble s = true := fun hp => by
        rw [declared?_of_isPreamble hp] at hd
        cases hd
      rw [next_of_declared?_eq_some hopen hd]
      by_cases hk : type.kind = .sequenceDiagram <;> simp [hk, hp]
    | none =>
      rw [next_of_declared?_eq_none hopen hd]
      by_cases hp : isPreamble s = true <;> simp [hp]
  · have hm : p.mode ≠ .leading := fun hm => hopen (.inl hm)
    simp [next_of_not_isOpen hopen, hm]

theorem isOpen_next_iff (p : Progress) (s : Statement) :
    (p.next s).IsOpen ↔ p.IsOpen ∧ s.declared? = none := by
  by_cases hopen : p.IsOpen
  · cases hd : s.declared? with
    | some type =>
      rw [next_of_declared?_eq_some hopen hd]
      by_cases hk : type.kind = .sequenceDiagram <;> simp [IsOpen, hk]
    | none =>
      rw [next_of_declared?_eq_none hopen hd]
      by_cases hp : isPreamble s = true
      · simp [hp, hopen]
      · simp only [hp, hopen, and_self, iff_true]
        exact .inr rfl
  · simp [next_of_not_isOpen hopen, hopen]

theorem mode_next_eq_sequence {p : Progress} {s : Statement} (h : (p.next s).mode = .sequence) :
    p.mode = .sequence ∨ ∃ type, s = .declaration type ∧ type.kind = .sequenceDiagram := by
  by_cases hopen : p.IsOpen
  · cases s with
    | declaration type =>
      rw [next_of_declared?_eq_some hopen rfl] at h
      refine .inr ⟨type, rfl, ?_⟩
      by_contra hk
      simp [hk] at h
    | _ =>
      rw [next_of_declared?_eq_none hopen rfl] at h
      split_ifs at h
      exact .inl h
  · rw [next_of_not_isOpen hopen] at h
    exact .inl h

theorem mode_after_eq_leading_iff (p : Progress) (ss : List Statement) :
    (p.after ss).mode = .leading ↔ p.mode = .leading ∧ ∀ s ∈ ss, isPreamble s = true := by
  induction ss generalizing p with
  | nil => simp
  | cons s ss ih => rw [after_cons, ih, mode_next_eq_leading_iff, List.forall_mem_cons, and_assoc]

theorem isOpen_after_iff (p : Progress) (ss : List Statement) :
    (p.after ss).IsOpen ↔ p.IsOpen ∧ ∀ s ∈ ss, s.declared? = none := by
  induction ss generalizing p with
  | nil => simp
  | cons s ss ih => rw [after_cons, ih, isOpen_next_iff, List.forall_mem_cons, and_assoc]

theorem mode_after_eq_sequence {p : Progress} {ss : List Statement}
    (h : (p.after ss).mode = .sequence) :
    p.mode = .sequence ∨ ∃ type, .declaration type ∈ ss ∧ type.kind = .sequenceDiagram := by
  induction ss generalizing p with
  | nil => exact .inl h
  | cons s ss ih =>
    rcases ih h with hm | ⟨type, hmem, hk⟩
    · rcases mode_next_eq_sequence hm with hm | ⟨type, rfl, hk⟩
      · exact .inl hm
      · exact .inr ⟨type, List.mem_cons_self, hk⟩
    · exact .inr ⟨type, List.mem_cons_of_mem s hmem, hk⟩

theorem mode_after_of_dialect {p : Progress}
    (h : p.dialect = some .sequenceDiagram → p.mode = .sequence) (ss : List Statement) :
    (p.after ss).dialect = some .sequenceDiagram → (p.after ss).mode = .sequence := by
  induction ss generalizing p with
  | nil => exact h
  | cons s ss ih => exact ih (p.mode_next h s)

end Progress

/-- Lines are read as those of a sequence diagram only behind its declaration. -/
theorem exists_declaration_of_sequence {ss : List Statement}
    (h : (Progress.after {} ss).mode = .sequence) :
    ∃ type, .declaration type ∈ ss ∧ type.kind = .sequenceDiagram :=
  (Progress.mode_after_eq_sequence h).resolve_left fun h => by cases h

/-! ### The statement of each line -/

variable {messages : Bool} {span : Option (Nat × Nat)} {p : Progress}

theorem Reading.cons_eq_iff {r : Reading} {s : Statement} {ss : List Statement}
    {fault : Option Fault} : r.cons s = ⟨ss, fault⟩ ↔ ∃ ss', ss = s :: ss' ∧ r = ⟨ss', fault⟩ := by
  obtain ⟨rs, rf⟩ := r
  constructor
  · intro h
    simp only [cons, mk.injEq] at h
    exact ⟨rs, h.1.symm, by rw [h.2]⟩
  · rintro ⟨ss', rfl, h⟩
    cases h
    rfl

/-- One line and the lines behind it, where all are read without fault. -/
theorem readLines_cons_eq_iff {index : Nat} {raw : Text} {raws : List Text} {ss : List Statement} :
    readLines messages span p index (raw :: raws) = ⟨ss, none⟩ ↔
      ∃ s ss', ss = s :: ss' ∧
        (if inSpan span index then s = .frontmatter raw
          else readLine messages p index raw = .ok s) ∧
        readLines messages span (p.next s) (index + 1) raws = ⟨ss', none⟩ := by
  rw [readLines]
  by_cases hin : inSpan span index = true
  · have hnext : p.next (.frontmatter raw) = p := Progress.next_of_isPreamble rfl
    simp only [hin, if_true, Reading.cons_eq_iff]
    constructor
    · rintro ⟨ss', rfl, h⟩
      exact ⟨_, ss', rfl, rfl, by rw [hnext]; exact h⟩
    · rintro ⟨s, ss', rfl, rfl, h⟩
      exact ⟨ss', rfl, by rw [hnext] at h; exact h⟩
  · simp only [hin, Bool.false_eq_true, if_false]
    cases hl : readLine messages p index raw with
    | error f => simp
    | ok s =>
      rw [Reading.cons_eq_iff]
      constructor
      · rintro ⟨ss', rfl, h⟩
        exact ⟨s, ss', rfl, rfl, h⟩
      · rintro ⟨s', ss', rfl, hs, h⟩
        cases hs
        exact ⟨ss', rfl, h⟩

/-- There is one statement for each line. -/
theorem length_of_readLines {index : Nat} {raws : List Text} {ss : List Statement}
    (h : readLines messages span p index raws = ⟨ss, none⟩) : ss.length = raws.length := by
  induction raws generalizing p index ss with
  | nil =>
    cases h
    rfl
  | cons raw raws ih =>
    obtain ⟨s, ss', rfl, -, h⟩ := readLines_cons_eq_iff.1 h
    rw [List.length_cons, List.length_cons, ih h]

/-- A line of the frontmatter is kept; any other line is read in the mode that the statements before
it bring about. -/
theorem readLines_getElem? {index : Nat} {raws : List Text} {ss : List Statement}
    (h : readLines messages span p index raws = ⟨ss, none⟩) {i : Nat} {raw : Text}
    (hraw : raws[i]? = some raw) :
    ∃ s, ss[i]? = some s ∧
      if inSpan span (index + i) then s = .frontmatter raw
      else readLine messages (p.after (ss.take i)) (index + i) raw = .ok s := by
  induction raws generalizing p index ss i with
  | nil => cases hraw
  | cons raw' raws ih =>
    obtain ⟨s, ss', rfl, hs, h⟩ := readLines_cons_eq_iff.1 h
    cases i with
    | zero =>
      cases hraw
      exact ⟨s, rfl, hs⟩
    | succ i =>
      obtain ⟨s', hs', hread⟩ := ih h hraw
      refine ⟨s', hs', ?_⟩
      rw [show index + (i + 1) = index + 1 + i by omega]
      exact hread

/-! ### Lines that may declare a diagram -/

/-- Bare words that open a block, close one or start a note. -/
def IsReservedWord (t : Text) : Prop :=
  t ∈ blockKeywords ∨ t = "end".toList ∨ t.map Char.toLower = "note".toList

/-- The line is classified as blank, as a comment or as a directive. -/
def IsPreambleLine (raw : Text) (line : Int) : Prop :=
  ∃ l, classify raw .leading line = .ok l ∧
    l.production ∈ [Production.blankLine, .comment, .directive]

/-- The line with index `i` stands outside the frontmatter, and it starts with a known keyword or is
a bare word that is not reserved. A bare word counts only if all lines before it are blank, comments
or directives. -/
def DeclaresAt (lines : List Text) (i : Nat) : Prop :=
  inSpan (frontmatterSpan lines) i = false ∧ ∃ l, lines[i]? = some l ∧
    (DeclaresKnown (stripBlanks l) ∨
      IsBareWord (stripBlanks l) ∧ ¬IsReservedWord (stripBlanks l) ∧
        ∀ j < i, inSpan (frontmatterSpan lines) j = false →
          ∀ l', lines[j]? = some l' → IsPreambleLine l' (j + 1))

theorem isBlank_of_isBareWord {t : Text} (h : IsBareWord t) : ∀ c ∈ t, isBlank c = false := by
  obtain ⟨c, r, rfl, hc, hr⟩ := h
  have hblank : ∀ d : Char, (d.isAlpha = true ∨ isWordChar d = true ∨ d = '-') → isBlank d = false := by
    intro d hd
    refine Bool.eq_false_iff.2 fun hb => ?_
    rcases (by simpa [isBlank] using hb : d = ' ' ∨ d = '\t') with rfl | rfl <;>
      exact absurd hd (by decide)
  exact List.forall_mem_cons.2 ⟨hblank c (.inl hc), fun d hd => hblank d (.inr (hr d hd))⟩

/-- Of the marks and keywords only the reserved words are bare words. -/
theorem isUnmarked_iff_of_isBareWord {t : Text} (h : IsBareWord t) :
    IsUnmarked .leading t ↔ ¬IsReservedWord t := by
  have hlead : lead t = t := lead_eq_self (isBlank_of_isBareWord h)
  have hafter : afterLead t = [] := afterLead_eq_nil (isBlank_of_isBareWord h)
  have hname : braceName? ([] : Text) = none := rfl
  obtain ⟨c, r, rfl, hc, -⟩ := h
  have hpercent : ¬['%', '%'].isPrefixOf (c :: r) = true := by
    rw [List.isPrefixOf_iff_prefix]
    rintro ⟨r', hr⟩
    rw [← (List.cons.inj hr).1] at hc
    cases hc
  have hbrace : c :: r ≠ ['\x7d'] := by
    intro hr
    rw [(List.cons.inj hr).1] at hc
    cases hc
  rw [isUnmarked_iff, hlead, hafter, hname]
  unfold IsReservedWord isNoteWord
  simp [hpercent, hbrace]

theorem isUnmarked_of_declaresKnown {t : Text} (h : DeclaresKnown t) (mode : LineMode) :
    IsUnmarked mode t := by
  obtain ⟨k, r, ⟨⟨rfl, -⟩, -⟩, -⟩ := h
  exact isUnmarked_of_keyword k mode r

/-- A line declares the diagram by a known keyword until the declaration is found, by any other bare
word only before all content. -/
theorem exists_reads_declaration_iff {t : Text} :
    (∃ type, Reads messages p t (.declaration type)) ↔
      p.IsOpen ∧ DeclaresKnown t ∨ p.mode = .leading ∧ IsBareWord t ∧ ¬IsReservedWord t := by
  have hreads : (∃ type, Reads messages p t (.declaration type)) ↔
      IsUnmarked p.mode t ∧ IsDeclaration p.mode t := by
    rw [← declaration?_ne_none_iff]
    constructor
    · rintro ⟨type, h⟩
      cases h with
      | declaration hu hd => exact ⟨hu, hd⟩
    · rintro ⟨hu, hd⟩
      exact ⟨_, .declaration hu hd⟩
  rw [hreads]
  constructor
  · rintro ⟨hu, ⟨hopen, hknown⟩ | ⟨hmode, hword⟩⟩
    · exact .inl ⟨hopen, hknown⟩
    · rw [hmode] at hu
      exact .inr ⟨hmode, hword, (isUnmarked_iff_of_isBareWord hword).1 hu⟩
  · rintro (⟨hopen, hknown⟩ | ⟨hmode, hword, hfree⟩)
    · exact ⟨isUnmarked_of_declaresKnown hknown p.mode, .inl ⟨hopen, hknown⟩⟩
    · rw [hmode]
      exact ⟨(isUnmarked_iff_of_isBareWord hword).2 hfree, .inr ⟨rfl, hword⟩⟩

/-! ### Preamble -/

/-- Blank lines, comments and directives are told by the start of the line, in every mode. -/
theorem recognise_mem_preamble_iff (mode : LineMode) {t : Text} (ht : IsTrimmed isBlank t) :
    (recognise mode t).1 ∈ [Production.blankLine, .comment, .directive] ↔
      t = [] ∨ ['%', '%'] <+: t := by
  have hshape := hasShape_recognise mode ht
  constructor
  · intro hmem
    simp only [List.mem_cons, List.not_mem_nil, or_false] at hmem
    rcases hmem with hq | hq | hq <;> rw [hq] at hshape <;> obtain h | - := hshape
    · exact .inl h
    · exact .inr h.1
    · exact .inr (List.IsPrefix.trans ⟨['\x7b'], rfl⟩ h)
  · have hmarked {q : Production} (hq : IsMarkedAs mode t q) : (recognise mode t).1 = q :=
      hasShape_unique ht hshape (.marked hq)
    rintro (hnil | hpercent)
    · rw [hmarked (q := .blankLine) hnil]
      decide
    · by_cases hbrace : ['%', '%', '\x7b'] <+: t
      · rw [hmarked (q := .directive) hbrace]
        decide
      · rw [hmarked (q := .comment) ⟨hpercent, hbrace⟩]
        decide

/-- A line whose first word is no mark is no preamble. -/
theorem not_preamble_of_lead {t w : Text} (h : lead t = w) (hne : w ≠ [])
    (hmark : w.head? ≠ some '%') : ¬(t = [] ∨ ['%', '%'] <+: t) := by
  rintro (rfl | hpercent)
  · exact hne h.symm
  · rw [← List.isPrefixOf_iff_prefix, ← isPrefixOf_lead (by decide), h,
      List.isPrefixOf_iff_prefix] at hpercent
    obtain ⟨r, rfl⟩ := hpercent
    exact hmark rfl

theorem not_preamble_of_isUnmarked {mode : LineMode} {t : Text} (h : IsUnmarked mode t) :
    ¬(t = [] ∨ ['%', '%'] <+: t) := by
  obtain ⟨hne, hpercent, -⟩ := isUnmarked_iff.1 h
  rw [isPrefixOf_lead (by decide), List.isPrefixOf_iff_prefix] at hpercent
  exact not_or.2 ⟨hne, hpercent⟩

theorem isPreamble_iff_of_reads {t : Text} {s : Statement} (h : Reads messages p t s) :
    isPreamble s = true ↔ t = [] ∨ ['%', '%'] <+: t := by
  have hmark {k : Text} (hk : k.isPrefixOf (lead t) = true) (hblank : ∀ c ∈ k, isBlank c = false) :
      k <+: t := by
    rwa [isPrefixOf_lead hblank, List.isPrefixOf_iff_prefix] at hk
  cases h with
  | blank => exact iff_of_true rfl (.inl rfl)
  | directive h =>
    exact iff_of_true rfl (.inr (List.IsPrefix.trans ⟨['\x7b'], rfl⟩ (hmark h (by decide))))
  | comment h _ => exact iff_of_true rfl (.inr (hmark h (by decide)))
  | participant k h _ =>
    exact iff_of_false (by simp [isPreamble])
      (not_preamble_of_lead h (by cases k <;> decide) (by cases k <;> decide))
  | blockStart b h =>
    exact iff_of_false (by simp [isPreamble])
      (not_preamble_of_lead h (by cases b <;> decide) (by cases b <;> decide))
  | braceBlockStart b h _ =>
    exact iff_of_false (by simp [isPreamble])
      (not_preamble_of_lead h (by cases b <;> decide) (by cases b <;> decide))
  | blockOption _ h =>
    exact iff_of_false (by simp [isPreamble]) (not_preamble_of_lead h (by decide) (by decide))
  | blockElse _ h =>
    exact iff_of_false (by simp [isPreamble]) (not_preamble_of_lead h (by decide) (by decide))
  | blockAnd _ h =>
    exact iff_of_false (by simp [isPreamble]) (not_preamble_of_lead h (by decide) (by decide))
  | blockEnd => exact iff_of_false (by simp [isPreamble]) (by decide)
  | braceBlockEnd => exact iff_of_false (by simp [isPreamble]) (by decide)
  | note h =>
    have hnote : (lead t).map Char.toLower = "note".toList := of_decide_eq_true h
    refine iff_of_false (by simp [isPreamble]) (not_preamble_of_lead rfl ?_ ?_)
    · intro hnil
      rw [hnil] at hnote
      cases hnote
    · intro hhead
      obtain ⟨r, hr⟩ := List.head?_eq_some_iff.1 hhead
      rw [hr] at hnote
      exact absurd (List.cons.inj hnote).1 (by decide)
  | declaration hu _ => exact iff_of_false (by simp [isPreamble]) (not_preamble_of_isUnmarked hu)
  | message hu _ _ _ _ => exact iff_of_false (by simp [isPreamble]) (not_preamble_of_isUnmarked hu)
  | generic hu _ _ => exact iff_of_false (by simp [isPreamble]) (not_preamble_of_isUnmarked hu)

theorem isPreamble_iff_of_readLine {index : Nat} {raw : Text} {s : Statement}
    (h : readLine messages p index raw = .ok s) :
    isPreamble s = true ↔ IsPreambleLine raw (index + 1) := by
  obtain ⟨hclean, hreads⟩ := readLine_eq_ok_iff.1 h
  have hclassify : classify raw .leading (index + 1) =
      .ok ⟨(recognise .leading (stripBlanks raw)).1, stripBlanks raw, index + 1,
        (recognise .leading (stripBlanks raw)).2⟩ := by
    unfold classify
    simp only [obstacle?_eq_none_iff.2 hclean]
  unfold IsPreambleLine
  simp only [hclassify, Except.ok.injEq, exists_eq_left']
  rw [isPreamble_iff_of_reads hreads]
  exact (recognise_mem_preamble_iff .leading (isTrimmed_trim isBlank raw)).symm

/-! ### The declaration of a source -/

theorem mem_take_iff_getElem? {α : Type} {as : List α} {a : α} {i : Nat} :
    a ∈ as.take i ↔ ∃ j < i, as[j]? = some a := by
  rw [List.mem_iff_getElem?]
  refine exists_congr fun j => ?_
  rw [List.getElem?_take]
  split_ifs with hj
  · simp [hj]
  · simp [hj]

section declaration

variable {lines : List Text} {ss : List Statement}
  (h : readLines messages (frontmatterSpan lines) {} 0 lines = ⟨ss, none⟩)

include h

/-- All statements up to a line are preamble if the lines outside the frontmatter are. -/
theorem forall_isPreamble_take_iff {i : Nat} (hi : i ≤ lines.length) :
    (∀ s ∈ ss.take i, isPreamble s = true) ↔
      ∀ j < i, inSpan (frontmatterSpan lines) j = false →
        ∀ l, lines[j]? = some l → IsPreambleLine l (j + 1) := by
  constructor
  · intro hall j hj hspan l hl
    obtain ⟨s, hs, hread⟩ := readLines_getElem? h hl
    rw [Nat.zero_add, hspan, if_neg (by simp)] at hread
    exact (isPreamble_iff_of_readLine hread).1 (hall s (mem_take_iff_getElem?.2 ⟨j, hj, hs⟩))
  · intro hall s hs
    obtain ⟨j, hji, hj⟩ := mem_take_iff_getElem?.1 hs
    obtain ⟨l, hl⟩ : ∃ l, lines[j]? = some l :=
      ⟨_, List.getElem?_eq_getElem (show j < lines.length by omega)⟩
    obtain ⟨s', hs', hread⟩ := readLines_getElem? h hl
    cases hj.symm.trans hs'
    rw [Nat.zero_add] at hread
    split_ifs at hread with hspan
    · rw [hread]
      rfl
    · apply (isPreamble_iff_of_readLine hread).2
      exact hall j hji (by simpa using hspan) l hl

/-- A line is a declaration if it may declare the diagram and none before it does. -/
theorem exists_declaration_iff {i : Nat} :
    (∃ type, ss[i]? = some (.declaration type)) ↔
      (∀ s ∈ ss.take i, s.declared? = none) ∧ DeclaresAt lines i := by
  have hopen : (Progress.after {} (ss.take i)).IsOpen ↔ ∀ s ∈ ss.take i, s.declared? = none := by
    rw [Progress.isOpen_after_iff]
    exact and_iff_right (.inl rfl)
  have hleading : (Progress.after {} (ss.take i)).mode = .leading ↔
      ∀ s ∈ ss.take i, isPreamble s = true := by
    rw [Progress.mode_after_eq_leading_iff]
    exact and_iff_right rfl
  by_cases hi : i < lines.length
  · obtain ⟨s, hs, hread⟩ := readLines_getElem? h (List.getElem?_eq_getElem hi)
    have hpreamble := forall_isPreamble_take_iff h hi.le
    rw [Nat.zero_add] at hread
    by_cases hspan : inSpan (frontmatterSpan lines) i = true
    · rw [if_pos hspan] at hread
      refine iff_of_false ?_ fun hd => ?_
      · rintro ⟨type, htype⟩
        cases (hs.symm.trans htype).symm.trans (congrArg some hread)
      · rw [hd.2.1] at hspan
        cases hspan
    · rw [if_neg hspan] at hread
      obtain ⟨-, hreads⟩ := readLine_eq_ok_iff.1 hread
      have hdecl : (∃ type, ss[i]? = some (.declaration type)) ↔
          ∃ type, Reads messages (Progress.after {} (ss.take i)) (stripBlanks lines[i])
            (.declaration type) := by
        rw [hs]
        constructor
        · rintro ⟨type, htype⟩
          cases htype
          exact ⟨type, hreads⟩
        · rintro ⟨type, htype⟩
          exact ⟨type, congrArg some (reads_unique hreads htype)⟩
      rw [hdecl, exists_reads_declaration_iff, hopen, hleading]
      unfold DeclaresAt
      simp only [List.getElem?_eq_getElem hi, Option.some.injEq, exists_eq_left', ← hpreamble]
      constructor
      · rintro (⟨hnone, hknown⟩ | ⟨hpre, hword, hfree⟩)
        · exact ⟨hnone, by simpa using hspan, .inl hknown⟩
        · refine ⟨fun s hs => Progress.declared?_of_isPreamble (hpre s hs), by simpa using hspan, ?_⟩
          exact .inr ⟨hword, hfree, hpre⟩
      · rintro ⟨hnone, -, hknown | ⟨hword, hfree, hpre⟩⟩
        · exact .inl ⟨hnone, hknown⟩
        · exact .inr ⟨hpre, hword, hfree⟩
  · have hnone : ss[i]? = none := by
      rw [List.getElem?_eq_none_iff, length_of_readLines h]
      omega
    refine iff_of_false (by simp [hnone]) ?_
    rintro ⟨-, -, l, hl, -⟩
    rw [List.getElem?_eq_none_iff.2 (by omega)] at hl
    cases hl

/-- The declaration is the first line that may declare the diagram. -/
theorem exists_declaration_iff_isLeast {i : Nat} :
    (∃ type, ss[i]? = some (.declaration type)) ↔ IsLeast {i | DeclaresAt lines i} i := by
  have hbefore {i : Nat} : (∀ s ∈ ss.take i, s.declared? = none) ↔
      ∀ j < i, ¬∃ type, ss[j]? = some (.declaration type) := by
    constructor
    · rintro hall j hj ⟨type, htype⟩
      cases hall _ (mem_take_iff_getElem?.2 ⟨j, hj, htype⟩)
    · intro hall s hs
      obtain ⟨j, hji, hj⟩ := mem_take_iff_getElem?.1 hs
      cases s with
      | declaration type => exact absurd ⟨type, hj⟩ (hall j hji)
      | _ => rfl
  constructor
  · intro hd
    obtain ⟨hnone, hdeclares⟩ := (exists_declaration_iff h).1 hd
    refine ⟨hdeclares, fun j hj => ?_⟩
    -- an earlier candidate would be the declaration itself
    by_contra hlt
    rw [hbefore] at hnone
    apply hnone j (by omega)
    apply (exists_declaration_iff h).2
    exact ⟨hbefore.2 fun k hk => hnone k (by omega), hj⟩
  · rintro ⟨hdeclares, hleast⟩
    apply (exists_declaration_iff h).2
    refine ⟨hbefore.2 fun j hj hd => ?_, hdeclares⟩
    have hle : i ≤ j := hleast ((exists_declaration_iff h).1 hd).2
    omega

end declaration

/-- Statements that only sequence diagrams have. -/
def isSequenceOnly : Statement → Bool
  | .blockOption _ | .blockElse _ | .blockAnd _ | .message _ => true
  | _ => false

theorem mode_of_isSequenceOnly {t : Text} {s : Statement} (hs : isSequenceOnly s = true)
    (h : Reads messages p t s) : p.mode = .sequence ∨ p.dialect = some .sequenceDiagram := by
  cases h with
  | blockOption hmode => exact .inl hmode
  | blockElse hmode => exact .inl hmode
  | blockAnd hmode => exact .inl hmode
  | message _ _ _ hdialect => exact .inr hdialect
  | _ => cases hs

theorem exists_declaration_of_isSequenceOnly {lines : List Text} {ss : List Statement}
    (h : readLines messages span {} 0 lines = ⟨ss, none⟩) {i : Nat} {s : Statement}
    (hs : ss[i]? = some s) (honly : isSequenceOnly s = true) :
    ∃ j < i, ∃ type, ss[j]? = some (.declaration type) ∧ type.kind = .sequenceDiagram := by
  have hi : i < lines.length := by
    rw [← length_of_readLines h]
    exact (List.getElem?_eq_some_iff.1 hs).1
  obtain ⟨s', hs', hread⟩ := readLines_getElem? h (List.getElem?_eq_getElem hi)
  cases hs.symm.trans hs'
  split_ifs at hread
  · rw [hread] at honly
    cases honly
  · have hmode : (Progress.after {} (ss.take i)).mode = .sequence := by
      rcases mode_of_isSequenceOnly honly (readLine_eq_ok_iff.1 hread).2 with hmode | hdialect
      · exact hmode
      · exact Progress.mode_after_of_dialect (fun h => by cases h) _ hdialect
    obtain ⟨type, hmem, hkind⟩ := exists_declaration_of_sequence hmode
    obtain ⟨j, hji, hj⟩ := mem_take_iff_getElem?.1 hmem
    exact ⟨j, hji, type, hj, hkind⟩

theorem messages_of_mem {lines : List Text} {ss : List Statement}
    (h : ReadsSource messages lines ss) {m : Message} (hm : .message m ∈ ss) : messages = true := by
  obtain ⟨l, -, hl | ⟨q, hread⟩⟩ := h.exists_of_mem hm
  · cases hl
  · generalize stripBlanks l = t at hread
    cases hread with
    | message _ _ hmessages => exact hmessages

/-- A diagram has one declaration at most. It is the first line that may declare the diagram, and
where no line may, there is none. Branches and messages come only behind the declaration of a
sequence diagram, and messages only if they are asked for. -/
theorem parse_declaration_iff (settings : Settings) {t : Text} {d : Diagram}
    (h : parse settings.normalizeMessages t = .ok d) :
    {i : Nat | ∃ type, d.statements[i]? = some (.declaration type)}.Subsingleton ∧
    (∀ i, (∃ type, d.statements[i]? = some (.declaration type)) ↔
      IsLeast {i | DeclaresAt (splitLines t) i} i) ∧
    (∀ (i : Nat) s, d.statements[i]? = some s → isSequenceOnly s = true →
      ∃ j < i, ∃ type, d.statements[j]? = some (.declaration type) ∧
        type.kind = .sequenceDiagram) ∧
    (∀ m, .message m ∈ d.statements → settings.normalizeMessages = true) := by
  by_cases ht : t = []
  · subst ht
    cases h
    -- the only line of the empty text is blank
    have hread : readLines settings.normalizeMessages (frontmatterSpan (splitLines [])) {} 0
        (splitLines []) = ⟨[.blank], none⟩ := by
      cases settings.normalizeMessages <;> decide
    refine ⟨by simp, fun i => ?_, by simp, by simp⟩
    rw [← exists_declaration_iff_isLeast hread]
    refine iff_of_false (by simp) ?_
    rintro ⟨type, htype⟩
    cases i <;> simp at htype
  · have hsource := (parse_eq_ok_iff ht).1 h
    have hread : readLines settings.normalizeMessages (frontmatterSpan (splitLines t)) {} 0
        (splitLines t) = ⟨d.statements, none⟩ := read_eq_iff.2 hsource
    refine ⟨fun i hi j hj => ?_, fun i => exists_declaration_iff_isLeast hread,
      fun i s => exists_declaration_of_isSequenceOnly hread, fun m => messages_of_mem hsource⟩
    apply IsLeast.unique
    · exact (exists_declaration_iff_isLeast hread).1 hi
    · exact (exists_declaration_iff_isLeast hread).1 hj

/-- Behind content no bare word declares, nor does a keyword in the frontmatter. -/
theorem parse_declaration_iff_behind_content :
    let t := "---\ngraph TD\n---\n%% note\nA to B\nword\n sequenceDiagram \nelse\nA->>B:hi\npie".toList
    let settings : Settings := { normalizeMessages := true }
    ∃ d, parse settings.normalizeMessages t = .ok d ∧
      IsLeast {i | DeclaresAt (splitLines t) i} 6 ∧
      ∃ j < 8, ∃ type, d.statements[j]? = some (.declaration type) ∧
        type.kind = .sequenceDiagram := by
  intro t settings
  have hparse : parse settings.normalizeMessages t = .ok ⟨[.frontmatter "---".toList,
      .frontmatter "graph TD".toList, .frontmatter "---".toList, .comment "%% note".toList,
      .generic "A to B".toList, .generic "word".toList, .declaration { kind := .sequenceDiagram },
      .blockElse none, .message ⟨"A".toList, .solid, "B".toList, some "hi".toList, none⟩,
      .generic "pie".toList]⟩ := by decide +kernel
  obtain ⟨-, hleast, honly, -⟩ := parse_declaration_iff settings hparse
  exact ⟨_, hparse, (hleast 6).1 ⟨_, rfl⟩, honly 8 _ rfl rfl⟩

end MermaidTidy.Source
