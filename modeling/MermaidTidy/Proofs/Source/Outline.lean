import Mathlib.Data.List.DropRight
import Mathlib.Tactic
import MermaidTidy.Proofs.Source.Failure
import MermaidTidy.Proofs.Source.Legible

/-!
# Outlines

The outline of a source is what is left of its lines when indentation is taken off and the number of
empty lines is disregarded. What is read of a source without frontmatter depends on its outline, up to
the places that faults name.

* `outlineBy p` makes every run of elements with `p` a single one and drops those at either end;
  `outline t` is the outline of a source;
* `readLine_cases`: whether a line is read, and what is reported otherwise, is decided by its text
  without the blanks around it;
* `readLines_writtenLines`: empty lines can be left out of a reading;
* `ReadsAll.outlineBy`: the outline of lines is read as the outline of their statements;
* `nonBlank_read_of_outline_eq`, `outlineBy_read_of_outline_eq`: two sources with one outline.
-/

namespace MermaidTidy

open Text Line

/-! ### Runs -/

section squeeze

variable {α : Type} {p : α → Bool}

/-- The list with every run of elements that satisfy `p` made a single one. -/
def squeeze (p : α → Bool) : List α → List α
  | [] => []
  | a :: as => if p a && as.head?.any p then squeeze p as else a :: squeeze p as

/-- The list with runs made single, and without those at either end. -/
def outlineBy (p : α → Bool) (as : List α) : List α := ((squeeze p as).dropWhile p).rdropWhile p

theorem filter_squeeze (as : List α) : (squeeze p as).filter (!p ·) = as.filter (!p ·) := by
  induction as with
  | nil => rfl
  | cons a as ih =>
    rw [squeeze]
    split_ifs with h
    · have ha : p a = true := (Bool.and_eq_true_iff.1 h).1
      rw [ih, List.filter_cons_of_neg (by simp [ha])]
    · rw [List.filter_cons, List.filter_cons, ih]

theorem filter_dropWhile (as : List α) : (as.dropWhile p).filter (!p ·) = as.filter (!p ·) := by
  induction as with
  | nil => rfl
  | cons a as ih =>
    by_cases ha : p a = true
    · rw [List.dropWhile_cons_of_pos ha, ih, List.filter_cons_of_neg (by simp [ha])]
    · rw [List.dropWhile_cons_of_neg ha]

theorem filter_rdropWhile (as : List α) : (as.rdropWhile p).filter (!p ·) = as.filter (!p ·) := by
  have hnil : (as.rtakeWhile p).filter (!p ·) = [] := by
    rw [List.filter_eq_nil_iff]
    intro a ha
    simp [List.mem_rtakeWhile_imp ha]
  conv_rhs => rw [← List.rdropWhile_append_rtakeWhile (p := p) (l := as), List.filter_append, hnil,
    List.append_nil]

/-- An outline keeps all other elements. -/
theorem filter_outlineBy (as : List α) : (outlineBy p as).filter (!p ·) = as.filter (!p ·) := by
  rw [outlineBy, filter_rdropWhile, filter_dropWhile, filter_squeeze]

end squeeze

/-- The lines of a source without the blanks around them, with runs of empty lines made single and
without empty lines at either end. -/
def outline (t : Text) : List Text := outlineBy (· = []) ((splitLines t).map stripBlanks)

/-- The lines without the blanks around them, and without the empty ones. -/
def writtenLines (raws : List Text) : List Text :=
  (raws.map stripBlanks).filter fun l => !decide (l = [])

theorem writtenLines_cons_of_pos {raw : Text} (h : stripBlanks raw = []) (raws : List Text) :
    writtenLines (raw :: raws) = writtenLines raws := by
  simp [writtenLines, h]

theorem writtenLines_cons_of_neg {raw : Text} (h : stripBlanks raw ≠ []) (raws : List Text) :
    writtenLines (raw :: raws) = stripBlanks raw :: writtenLines raws := by
  simp [writtenLines, h]

/-- The outline tells the lines that are not empty. -/
theorem writtenLines_of_outline_eq {t₁ t₂ : Text} (h : outline t₁ = outline t₂) :
    writtenLines (splitLines t₁) = writtenLines (splitLines t₂) := by
  have hwritten (t : Text) : (outline t).filter (fun l => !decide (l = [])) = writtenLines (splitLines t) :=
    filter_outlineBy _
  rw [← hwritten, ← hwritten, h]

/-! ### Reports -/

/-- The report without its place and without the line that it quotes. -/
def Diagnostic.placeless (d : Diagnostic) : Diagnostic := { d with line := 0, column := 0, context := none }

/-- The fault without its place. -/
def Fault.placeless : Fault → Fault
  | .diagnostic d => .diagnostic d.placeless
  | f => f

namespace Source

variable {messages : Bool} {p : Progress}

@[simp] theorem stripBlanks_stripBlanks (t : Text) : stripBlanks (stripBlanks t) = stripBlanks t :=
  (isTrimmed_trim isBlank t).trim_eq

/-! ### One line -/

/-- A line without control characters is read, or its arrow is reported. -/
theorem statementOf_cases (messages : Bool) (p : Progress) (t : Text) :
    (∃ s, ∀ line, statementOf messages p line t = .ok s) ∨
      ∃ arrow, ∀ line, statementOf messages p line t =
        .error (.diagnostic (Vocabulary.unknown Arrow arrow line (some t))) := by
  rcases reads_cases messages p t with ⟨s, hs⟩ | ⟨hu, hd, hm, hp, harrow⟩
  · exact .inl ⟨s, fun line => statementOf_of_reads line hs⟩
  · obtain ⟨arrow, -, herror⟩ := exists_statementOf_eq_error hu hd hp harrow
    exact .inr ⟨arrow, hm ▸ herror⟩

/-- Whether a line is read, and what is reported otherwise, is decided by its text without the
blanks around it. -/
theorem readLine_cases (messages : Bool) (p : Progress) (t : Text) :
    (∃ s, ∀ index raw, stripBlanks raw = t → readLine messages p index raw = .ok s) ∨
      ∃ report : Diagnostic, ∀ (index : Nat) raw, stripBlanks raw = t →
        ∃ d, readLine messages p index raw = .error (.diagnostic d) ∧ d.placeless = report ∧
          d.line = index + 1 := by
  cases ho : obstacle? t with
  | some o =>
    refine .inr ⟨(obstacleReport [] 0 0 o).placeless, ?_⟩
    rintro index raw rfl
    refine ⟨obstacleReport raw (index + 1) (raw.takeWhile isBlank).length o, ?_, rfl, rfl⟩
    unfold readLine
    rw [classify_of_obstacle? ho]
  | none =>
    rcases statementOf_cases messages p t with ⟨s, hs⟩ | ⟨arrow, harrow⟩
    · refine .inl ⟨s, ?_⟩
      rintro index raw rfl
      rw [readLine_of_obstacle?_eq_none ho, hs]
    · refine .inr ⟨(Vocabulary.unknown Arrow arrow 0 none).placeless, ?_⟩
      rintro index raw rfl
      rw [readLine_of_obstacle?_eq_none ho, harrow]
      exact ⟨_, rfl, rfl, rfl⟩

/-- Only the empty line is blank. -/
theorem eq_blank_iff_of_reads {t : Text} {s : Statement} (h : Reads messages p t s) :
    s = .blank ↔ t = [] := by
  constructor
  · rintro rfl
    cases h
    rfl
  · rintro rfl
    exact reads_unique h .blank

theorem readLine_of_stripBlanks_eq_nil {raw : Text} (h : stripBlanks raw = []) (index : Nat) :
    readLine messages p index raw = .ok .blank := by
  rw [readLine_eq_ok_iff, h]
  exact ⟨by simp, .blank⟩

/-! ### Readings without empty lines -/

/-- Empty lines and the blanks around lines can be left out: the statements that are not blank stay,
and the fault stays up to its place. -/
theorem readLines_writtenLines (messages : Bool) (p : Progress) (index index' : Nat) (raws : List Text) :
    (readLines messages none p index' (writtenLines raws)).statements =
        nonBlank (readLines messages none p index raws).statements ∧
      (readLines messages none p index' (writtenLines raws)).fault.map Fault.placeless =
        (readLines messages none p index raws).fault.map Fault.placeless := by
  induction raws generalizing p index index' with
  | nil => exact ⟨rfl, rfl⟩
  | cons raw raws ih =>
    by_cases hraw : stripBlanks raw = []
    · rw [writtenLines_cons_of_pos hraw]
      simp only [readLines, inSpan, readLine_of_stripBlanks_eq_nil hraw, Progress.next_blank,
        Bool.false_eq_true, if_false]
      exact ih p (index + 1) index'
    · rw [writtenLines_cons_of_neg hraw]
      simp only [readLines, inSpan, Bool.false_eq_true, if_false]
      rcases readLine_cases messages p (stripBlanks raw) with ⟨s, hs⟩ | ⟨report, hreport⟩
      · have hne : s ≠ .blank := fun hblank =>
          hraw ((eq_blank_iff_of_reads (readLine_eq_ok_iff.1 (hs index raw rfl)).2).1 hblank)
        rw [hs index raw rfl, hs index' _ (stripBlanks_stripBlanks raw)]
        obtain ⟨hstatements, hfault⟩ := ih (p.next s) (index + 1) (index' + 1)
        refine ⟨?_, hfault⟩
        simp only [Reading.cons, nonBlank_cons hne, hstatements]
      · obtain ⟨d, hd, hplace, -⟩ := hreport index raw rfl
        obtain ⟨d', hd', hplace', -⟩ := hreport index' _ (stripBlanks_stripBlanks raw)
        rw [hd, hd']
        refine ⟨rfl, ?_⟩
        simp only [Option.map_some, Fault.placeless, hplace, hplace']

/-- Every fault is a report about one of the lines. -/
theorem exists_diagnostic_of_fault {span : Option (Nat × Nat)} {index : Nat} {raws : List Text}
    {f : Fault} (h : (readLines messages span p index raws).fault = some f) :
    ∃ d, f = .diagnostic d ∧ index < d.line ∧ d.line ≤ index + raws.length := by
  induction raws generalizing p index with
  | nil => cases h
  | cons raw raws ih =>
    have later {p : Progress} (h : (readLines messages span p (index + 1) raws).fault = some f) :
        ∃ d, f = .diagnostic d ∧ index < d.line ∧ d.line ≤ index + (raw :: raws).length := by
      obtain ⟨d, hd, hlow, hhigh⟩ := ih h
      refine ⟨d, hd, ?_, ?_⟩
      · omega
      · rw [List.length_cons]
        omega
    rw [readLines] at h
    split_ifs at h
    · exact later h
    · rcases readLine_cases messages p (stripBlanks raw) with ⟨s, hs⟩ | ⟨report, hreport⟩
      · rw [hs index raw rfl] at h
        exact later h
      · obtain ⟨d, hd, -, hline⟩ := hreport index raw rfl
        rw [hd] at h
        refine ⟨d, (Option.some.inj h).symm, ?_, ?_⟩
        · omega
        · rw [List.length_cons]
          omega

theorem fault_of_detect {t : Text} {f : Fault} (h : detect t = .error f) :
    (read false t).fault = some f := by
  unfold detect at h
  dsimp only at h
  cases hdeclared : (read false t).statements.findSome? Statement.declared? with
  | some type => simp [hdeclared] at h
  | none =>
    cases hfault : (read false t).fault with
    | none => simp [hdeclared, hfault] at h
    | some g => simpa [hdeclared, hfault] using h

theorem fault_of_parse {t : Text} {f : Fault} (h : parse messages t = .error f) :
    (read messages t).fault = some f := by
  unfold parse at h
  split_ifs at h
  rcases hread : read messages t with ⟨ss, fault⟩
  cases fault with
  | none => simp [hread] at h
  | some g => simpa [hread] using h

/-! ### Outlines of readings -/

section outline

variable {raws : List Text} {ss : List Statement}

theorem ReadsAll.unique {ss' : List Statement} (h : ReadsAll messages p raws ss)
    (h' : ReadsAll messages p raws ss') : ss = ss' := by
  induction h generalizing ss' with
  | nil =>
    cases h'
    rfl
  | cons hc hs h ih =>
    cases h' with
    | cons hc' hs' h' =>
      cases reads_unique hs hs'
      rw [ih h']

theorem readsAll_concat {raw : Text} (h : ReadsAll messages p (raws ++ [raw]) ss) :
    ∃ ss' s, ss = ss' ++ [s] ∧ ReadsAll messages p raws ss' ∧
      Reads messages (p.after ss') (stripBlanks raw) s := by
  induction raws generalizing p ss with
  | nil =>
    cases h with
    | cons hc hs h =>
      cases h
      exact ⟨[], _, rfl, .nil, hs⟩
  | cons raw' raws ih =>
    cases h with
    | cons hc hs h =>
      obtain ⟨ss', s, rfl, h', hs'⟩ := ih h
      exact ⟨_ :: ss', s, rfl, .cons hc hs h', hs'⟩

theorem ReadsAll.head?_any_blank (h : ReadsAll messages p raws ss)
    (htrim : ∀ l ∈ raws, stripBlanks l = l) :
    ss.head?.any (· = .blank) = raws.head?.any (· = []) := by
  cases h with
  | nil => rfl
  | cons hc hs h =>
    rw [htrim _ List.mem_cons_self] at hs
    simp [eq_blank_iff_of_reads hs]

/-- Where a line is empty, its statement is blank, so that runs go together. -/
theorem ReadsAll.squeeze (h : ReadsAll messages p raws ss) (htrim : ∀ l ∈ raws, stripBlanks l = l) :
    ReadsAll messages p (squeeze (· = []) raws) (squeeze (· = .blank) ss) := by
  induction h with
  | nil => exact .nil
  | @cons p raw raws s ss hc hs h ih =>
    have htail : ∀ l ∈ raws, stripBlanks l = l := fun l hl => htrim l (List.mem_cons_of_mem raw hl)
    have hblank : s = .blank ↔ raw = [] := by
      rw [eq_blank_iff_of_reads hs, htrim raw List.mem_cons_self]
    rw [MermaidTidy.squeeze, MermaidTidy.squeeze, h.head?_any_blank htail]
    simp only [hblank]
    split_ifs with hrun
    · have hraw : raw = [] := by simpa using (Bool.and_eq_true_iff.1 hrun).1
      have hnext : p.next s = p := by
        rw [hblank.2 hraw]
        exact Progress.next_blank p
      rw [← hnext]
      exact ih htail
    · exact .cons hc hs (ih htail)

theorem mem_of_mem_squeeze {α : Type} {q : α → Bool} {a : α} {as : List α} (h : a ∈ squeeze q as) :
    a ∈ as := by
  induction as with
  | nil => exact h
  | cons b as ih =>
    rw [MermaidTidy.squeeze] at h
    split_ifs at h
    · exact List.mem_cons_of_mem b (ih h)
    · rcases List.mem_cons.1 h with rfl | h
      · exact List.mem_cons_self
      · exact List.mem_cons_of_mem b (ih h)

theorem ReadsAll.dropWhile (h : ReadsAll messages p raws ss) (htrim : ∀ l ∈ raws, stripBlanks l = l) :
    ReadsAll messages p (raws.dropWhile (· = [])) (ss.dropWhile (· = .blank)) := by
  induction h with
  | nil => exact .nil
  | @cons p raw raws s ss hc hs h ih =>
    have hblank : s = .blank ↔ raw = [] := by
      rw [eq_blank_iff_of_reads hs, htrim raw List.mem_cons_self]
    by_cases hraw : raw = []
    · rw [List.dropWhile_cons_of_pos (by simpa using hraw),
        List.dropWhile_cons_of_pos (by simpa using hblank.2 hraw)]
      have hnext : p.next s = p := by
        rw [hblank.2 hraw]
        exact Progress.next_blank p
      rw [← hnext]
      exact ih fun l hl => htrim l (List.mem_cons_of_mem raw hl)
    · rw [List.dropWhile_cons_of_neg (by simpa using hraw),
        List.dropWhile_cons_of_neg (by simpa [hblank] using hraw)]
      exact .cons hc hs h

theorem ReadsAll.rdropWhile (h : ReadsAll messages p raws ss) (htrim : ∀ l ∈ raws, stripBlanks l = l) :
    ReadsAll messages p (raws.rdropWhile (· = [])) (ss.rdropWhile (· = .blank)) := by
  induction raws using List.reverseRecOn generalizing ss with
  | nil =>
    cases h
    exact .nil
  | append_singleton raws raw ih =>
    obtain ⟨ss', s, rfl, h', hs⟩ := readsAll_concat h
    have hblank : s = .blank ↔ raw = [] := by
      rw [eq_blank_iff_of_reads hs, htrim raw (by simp)]
    rw [List.rdropWhile_concat, List.rdropWhile_concat]
    simp only [hblank]
    split_ifs
    · exact ih h' fun l hl => htrim l (by simp [hl])
    · exact h

/-- The outline of lines is read as the outline of their statements. -/
theorem ReadsAll.outlineBy (h : ReadsAll messages p raws ss)
    (htrim : ∀ l ∈ raws, stripBlanks l = l) :
    ReadsAll messages p (outlineBy (· = []) raws) (outlineBy (· = .blank) ss) := by
  have hsqueeze : ∀ l ∈ MermaidTidy.squeeze (· = []) raws, stripBlanks l = l :=
    fun l hl => htrim l (mem_of_mem_squeeze hl)
  apply ReadsAll.rdropWhile
  · exact (h.squeeze htrim).dropWhile hsqueeze
  · exact fun l hl => hsqueeze l (List.dropWhile_subset _ hl)

end outline

/-! ### Whole sources -/

section source

variable {t₁ t₂ : Text}

theorem filter_map_strip_writtenLines (ls : List Text) :
    ((writtenLines ls).map strip).filter (!isWhite ·) = (ls.map strip).filter (!isWhite ·) := by
  induction ls with
  | nil => rfl
  | cons l ls ih =>
    by_cases hl : stripBlanks l = []
    · have hwhite : isWhite (strip l) = true := by
        rw [← strip_stripBlanks, hl]
        decide
      rw [writtenLines_cons_of_pos hl, List.map_cons, List.filter_cons_of_neg (by simp [hwhite]), ih]
    · rw [writtenLines_cons_of_neg hl, List.map_cons, List.map_cons, strip_stripBlanks, List.filter_cons,
        List.filter_cons, ih]

theorem frontmatterSpan_writtenLines_eq_none_iff {ls : List Text} :
    frontmatterSpan (writtenLines ls) = none ↔ frontmatterSpan ls = none := by
  rw [← frontmatterSpan_map_strip ls, ← frontmatterSpan_map_strip (writtenLines ls),
    frontmatterSpan_eq_none_iff, frontmatterSpan_eq_none_iff, filter_map_strip_writtenLines]

/-- Whether there is frontmatter can be told from the lines that are not empty. -/
theorem frontmatterSpan_of_outline_eq (h : outline t₁ = outline t₂)
    (hspan : frontmatterSpan (splitLines t₁) = none) : frontmatterSpan (splitLines t₂) = none := by
  rw [← frontmatterSpan_writtenLines_eq_none_iff] at hspan ⊢
  rwa [← writtenLines_of_outline_eq h]

/-- Without frontmatter all lines are read. -/
theorem read_of_plain {t : Text} (h : frontmatterSpan (splitLines t) = none) (messages : Bool) :
    read messages t = readLines messages none {} 0 (splitLines t) := by
  unfold read
  dsimp only
  rw [h]

theorem nonBlank_read_of_outline_eq (h : outline t₁ = outline t₂)
    (h₁ : frontmatterSpan (splitLines t₁) = none) (messages : Bool) :
    nonBlank (read messages t₁).statements = nonBlank (read messages t₂).statements ∧
      (read messages t₁).fault.map Fault.placeless = (read messages t₂).fault.map Fault.placeless := by
  rw [read_of_plain h₁, read_of_plain (frontmatterSpan_of_outline_eq h h₁)]
  obtain ⟨hstatements₁, hfault₁⟩ := readLines_writtenLines messages {} 0 0 (splitLines t₁)
  obtain ⟨hstatements₂, hfault₂⟩ := readLines_writtenLines messages {} 0 0 (splitLines t₂)
  rw [writtenLines_of_outline_eq h] at hstatements₁ hfault₁
  exact ⟨hstatements₁.symm.trans hstatements₂, hfault₁.symm.trans hfault₂⟩

/-- Sources with the same outline that are both read without fault have statements with the same
outline. -/
theorem outlineBy_read_of_outline_eq (h : outline t₁ = outline t₂)
    (h₁ : frontmatterSpan (splitLines t₁) = none) {ss₁ ss₂ : List Statement}
    (hr₁ : read messages t₁ = ⟨ss₁, none⟩) (hr₂ : read messages t₂ = ⟨ss₂, none⟩) :
    outlineBy (· = .blank) ss₁ = outlineBy (· = .blank) ss₂ := by
  have hread {t : Text} {ss : List Statement} (hspan : frontmatterSpan (splitLines t) = none)
      (hr : read messages t = ⟨ss, none⟩) :
      ReadsAll messages {} (outline t) (outlineBy (· = .blank) ss) := by
    have hall := (readsSource_plain_iff hspan).1 (read_eq_iff.1 hr)
    apply ReadsAll.outlineBy
    · apply hall.congr
      simp
    · simp
  have hread₁ := hread h₁ hr₁
  rw [h] at hread₁
  exact hread₁.unique (hread (frontmatterSpan_of_outline_eq h h₁) hr₂)

end source

end Source

end MermaidTidy
