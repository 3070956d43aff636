import Mathlib.Tactic
import MermaidTidy.Proofs.Source.Declaring
import MermaidTidy.Proofs.Source.Outline

/-!
# What a report points at

A reading stops at the first line that has no statement, and its fault is a report about that line:
about a stray character, or about a token that stands where an arrow should.

* `exists_readLine_of_fault`: the lines before the reported one have one statement each;
* `readLine_eq_error_cases`: the two kinds of reports, each with what it says of the line;
* `indexOf?_eq_some_iff`: a token is looked for from the start of a text;
* `parse_decode_fault`: the column of a report about a token counts from the first character of its
  line that is no blank, so that it is the column of the token if the line is not indented, and only
  then.
-/

namespace MermaidTidy

open Text Line

/-! ### Lines and their reports -/

namespace Source

variable {messages : Bool} {p : Progress}

/-- The fault of a reading is that of the line behind its statements, read where they have led to. -/
theorem exists_readLine_of_fault {span : Option (Nat × Nat)} {index : Nat} {raws : List Text}
    {ss : List Statement} {f : Fault} (h : readLines messages span p index raws = ⟨ss, some f⟩) :
    ∃ raw, raws[ss.length]? = some raw ∧
      readLine messages (p.after ss) (index + ss.length) raw = .error f := by
  induction raws generalizing p index ss with
  | nil => cases h
  | cons raw raws ih =>
    -- what is known of the lines behind a statement `s`
    have later {s : Statement} {ss' : List Statement}
        (h : readLines messages span (p.next s) (index + 1) raws = ⟨ss', some f⟩) :
        ∃ raw', (raw :: raws)[(s :: ss').length]? = some raw' ∧
          readLine messages (p.after (s :: ss')) (index + (s :: ss').length) raw' = .error f := by
      obtain ⟨raw', hraw, hread⟩ := ih h
      refine ⟨raw', by simpa using hraw, ?_⟩
      rwa [Progress.after_cons, List.length_cons, Nat.add_comm ss'.length, ← Nat.add_assoc]
    rw [readLines] at h
    split_ifs at h
    · obtain ⟨ss', rfl, htail⟩ := Reading.cons_eq_iff.1 h
      exact later (by rwa [Progress.next_of_isPreamble rfl])
    · cases hl : readLine messages p index raw with
      | error g =>
        rw [hl] at h
        cases h
        exact ⟨raw, rfl, hl⟩
      | ok s =>
        rw [hl] at h
        obtain ⟨ss', rfl, htail⟩ := Reading.cons_eq_iff.1 h
        exact later htail

/-- A line without control characters that is at fault looks like a message with an arrow that is
none. -/
theorem exists_of_statementOf_eq_error {line : Int} {t : Text} {f : Fault}
    (h : statementOf messages p line t = .error f) :
    ∃ m, MessageLine.read? t = some m ∧
      f = .diagnostic (Vocabulary.unknown Arrow m.arrow line (some t)) := by
  rcases reads_cases messages p t with ⟨s, hs⟩ | ⟨hu, hd, hm, hp, m, hread, hclass, harrow⟩
  · rw [statementOf_of_reads line hs] at h
    cases h
  · refine ⟨m, hread, ?_⟩
    rw [hm, statementOf_of_isUnmarked line hu hd, hp, genericOf_sequenceDiagram,
      messageOf?_of_decode?_eq_none hread hclass harrow] at h
    exact (Except.error.inj h).symm

/-- What can be reported about a line. -/
theorem readLine_eq_error_cases {index : Nat} {raw : Text} {f : Fault}
    (h : readLine messages p index raw = .error f) :
    (∃ o, f = .diagnostic (obstacleReport raw (index + 1) (raw.takeWhile isBlank).length o)) ∨
    (∀ c ∈ stripBlanks raw, isControl c = false) ∧
      ∃ m, MessageLine.read? (stripBlanks raw) = some m ∧
        f = .diagnostic (Vocabulary.unknown Arrow m.arrow (index + 1) (some (stripBlanks raw))) := by
  cases ho : obstacle? (stripBlanks raw) with
  | some o =>
    left
    unfold readLine at h
    rw [classify_of_obstacle? ho] at h
    exact ⟨o, (Except.error.inj h).symm⟩
  | none =>
    right
    rw [readLine_of_obstacle?_eq_none ho] at h
    exact ⟨obstacle?_eq_none_iff.1 ho, exists_of_statementOf_eq_error h⟩

end Source

/-! ### Tokens in a line -/

/-- The place that is found is the first one. -/
theorem Text.indexOf?_eq_some_iff {needle t : Text} {i : Nat} :
    indexOf? needle t = some i ↔ IsLeast {i | needle <+: t.drop i} i := by
  induction t generalizing i with
  | nil =>
    rw [indexOf?]
    split_ifs with hnil
    · subst hnil
      refine ⟨fun h => ?_, fun h => ?_⟩
      · cases h
        exact ⟨List.nil_prefix, fun j _ => Nat.zero_le j⟩
      · rw [Nat.le_zero.1 (h.2 List.nil_prefix)]
    · refine iff_of_false (by simp) fun h => hnil ?_
      have hprefix : needle <+: [].drop i := h.1
      rwa [List.drop_nil, List.prefix_nil] at hprefix
  | cons c r ih =>
    rw [indexOf?]
    split_ifs with hstart
    · rw [List.isPrefixOf_iff_prefix] at hstart
      refine ⟨fun h => ?_, fun h => ?_⟩
      · cases h
        exact ⟨hstart, fun j _ => Nat.zero_le j⟩
      · rw [Nat.le_zero.1 (h.2 (show needle <+: (c :: r).drop 0 from hstart))]
    · rw [List.isPrefixOf_iff_prefix] at hstart
      rw [Option.map_eq_some_iff]
      constructor
      · rintro ⟨j, hj, rfl⟩
        obtain ⟨hmem, hleast⟩ := ih.1 hj
        refine ⟨hmem, fun k hk => ?_⟩
        cases k with
        | zero => exact absurd hk hstart
        | succ k => exact Nat.succ_le_succ (hleast hk)
      · rintro ⟨hmem, hleast⟩
        cases i with
        | zero => exact absurd hmem hstart
        | succ i => exact ⟨i, ih.2 ⟨hmem, fun k hk => Nat.le_of_succ_le_succ (hleast (a := k + 1) hk)⟩, rfl⟩

theorem Vocabulary.columnIn_of_indexOf? {t token : Text} {i : Nat} (h : indexOf? token t = some i)
    (hne : token ≠ []) : columnIn (some t) token = i + 1 := by
  have ht : t ≠ [] := by
    rintro rfl
    rw [indexOf?, if_neg hne] at h
    cases h
  unfold columnIn Diagnostic.present?
  rw [Option.filter_some, if_pos (decide_eq_true ht)]
  simp only [hne, h, if_false]

section indented

variable {token : Text}

theorem prefix_append_blanks_iff (htoken : ∀ c ∈ token, isBlank c = false) {a v : Text}
    (hv : ∀ c ∈ v, isBlank c = true) : token <+: a ++ v ↔ token <+: a := by
  refine ⟨?_, fun h => h.trans (List.prefix_append a v)⟩
  rintro ⟨r, hr⟩
  rcases List.append_eq_append_iff.1 hr with ⟨u, rfl, -⟩ | ⟨u, rfl, rfl⟩
  · exact List.prefix_append token u
  · -- what would reach into the blanks is empty
    cases u with
    | nil => simp
    | cons c u =>
      have hc := htoken c (by simp)
      rw [hv c (by simp)] at hc
      cases hc

/-- A token stands in a line as far behind the indentation as it stands in the line without blanks
around it. -/
theorem prefix_drop_indent_iff (htoken : ∀ c ∈ token, isBlank c = false) (raw : Text) (j : Nat) :
    token <+: raw.drop ((raw.takeWhile isBlank).length + j) ↔ token <+: (stripBlanks raw).drop j := by
  obtain ⟨v, hv, hblank⟩ := exists_eq_trimRight_append isBlank (raw.dropWhile isBlank)
  have hdrop : raw.drop ((raw.takeWhile isBlank).length + j) =
      (stripBlanks raw).drop j ++ v.drop (j - (stripBlanks raw).length) := by
    conv_lhs =>
      arg 2
      rw [← List.takeWhile_append_dropWhile (p := isBlank) (l := raw), hv]
    rw [List.drop_length_add_append, List.drop_append]
    rfl
  rw [hdrop, prefix_append_blanks_iff htoken fun c hc => hblank c (List.mem_of_mem_drop hc)]

/-- The first place of a token in a line without its indentation is a place of the token in the line
only if there is no indentation. -/
theorem prefix_drop_iff_of_isLeast (hne : token ≠ []) (htoken : ∀ c ∈ token, isBlank c = false)
    {raw : Text} {k : Nat} (hk : IsLeast {i | token <+: (stripBlanks raw).drop i} k) :
    token <+: raw.drop k ↔ raw.takeWhile isBlank = [] := by
  have hplace := prefix_drop_indent_iff htoken raw
  constructor
  · intro h
    by_contra hindent
    have hpos := List.length_pos_iff.2 hindent
    rcases lt_or_ge k (raw.takeWhile isBlank).length with hlt | hge
    · -- in the indentation there are only blanks
      obtain ⟨c, rest, rfl⟩ := List.exists_cons_of_ne_nil hne
      obtain ⟨r, hr⟩ := h
      have hget : raw[k]? = some c := by
        rw [← Nat.add_zero k, ← List.getElem?_drop, ← hr]
        rfl
      rw [← List.takeWhile_append_dropWhile (p := isBlank) (l := raw),
        List.getElem?_append_left hlt] at hget
      have hblank : isBlank c = true := List.mem_takeWhile_imp (List.mem_of_getElem? hget)
      rw [htoken c List.mem_cons_self] at hblank
      cases hblank
    · -- behind it the token would stand further to the left
      obtain ⟨j, rfl⟩ := Nat.exists_eq_add_of_le hge
      have hle := hk.2 ((hplace j).1 h)
      omega
  · intro hindent
    have h := (hplace k).2 hk.1
    rwa [hindent, List.length_nil, Nat.zero_add] at h

end indented

/-- An arrow has a first place in its line. -/
theorem MessageLine.exists_isLeast_arrow {t : Text} (hn : '\n' ∉ t) {m : MessageLine}
    (h : read? t = some m) : ∃ k, IsLeast {i | m.arrow <+: t.drop i} k := by
  obtain ⟨w, r, hp⟩ := exists_isParted hn h
  have hplace : m.arrow <+: t.drop (m.source ++ w).length := by
    rw [hp.eq, ← List.append_assoc, List.drop_left]
    exact List.prefix_append _ _
  exact ⟨_, isLeast_csInf ⟨_, hplace⟩⟩

namespace Source

/-- **A report about a token points at it in the line without its indentation.** The lines before the
reported one have a statement each. The column counts from the first character that is no blank, so
the token stands at that column of the line exactly if the line is not indented. -/
theorem parse_decode_fault (settings : Settings) {t : Text} {d : Diagnostic} {token : Text}
    (h : parse settings.normalizeMessages t = .error (.diagnostic d)) (hkind : d.kind = .decode token) :
    ∃ (i k : Nat) (raw : Text) (ss : List Statement),
      d.line = i + 1 ∧ (splitLines t)[i]? = some raw ∧
      read settings.normalizeMessages t = ⟨ss, some (.diagnostic d)⟩ ∧ ss.length = i ∧
      d.column = k + 1 ∧ token <+: raw.drop ((raw.takeWhile isBlank).length + k) ∧
      (token <+: raw.drop k ↔ raw.takeWhile isBlank = []) := by
  rcases hread : read settings.normalizeMessages t with ⟨ss, fault⟩
  obtain rfl : fault = some (.diagnostic d) := (congrArg Reading.fault hread).symm.trans (fault_of_parse h)
  obtain ⟨raw, hraw, hline⟩ := exists_readLine_of_fault hread
  rw [Nat.zero_add] at hline
  rcases readLine_eq_error_cases hline with ⟨o, ho⟩ | ⟨hclean, m, hm, hd⟩
  · cases ho
    cases hkind
  · cases hd
    obtain rfl : m.arrow = token := Diagnostic.Kind.decode.inj hkind
    have hn : '\n' ∉ stripBlanks raw := fun hmem => absurd (hclean _ hmem) (by decide)
    obtain ⟨w, r, hp⟩ := MessageLine.exists_isParted hn hm
    have hunblank : ∀ c ∈ m.arrow, isBlank c = false := fun c hc =>
      isBlank_eq_false (hp.arrow.isSpace_eq_false c hc)
    obtain ⟨k, hk⟩ := MessageLine.exists_isLeast_arrow hn hm
    refine ⟨ss.length, k, raw, ss, rfl, hraw, rfl, rfl, ?_, ?_, ?_⟩
    · exact Vocabulary.columnIn_of_indexOf? (indexOf?_eq_some_iff.2 hk) hp.arrow.ne_nil
    · exact (prefix_drop_indent_iff hunblank raw k).2 hk.1
    · exact prefix_drop_iff_of_isLeast hp.arrow.ne_nil hunblank hk

/-- A line that is not indented, behind frontmatter and a message: the sign is no part of the token. -/
theorem parse_decode_fault_at_margin :
    let settings : Settings := { normalizeMessages := true }
    let t := "---\nx\n---\nsequenceDiagram\n  A->>B: x\nB <<-->+A: <<-->".toList
    let token := "<<-->".toList
    ∃ d, parse settings.normalizeMessages t = .error (.diagnostic d) ∧ d.kind = .decode token ∧
      ∃ (i k : Nat) (raw : Text), d.line = i + 1 ∧ (splitLines t)[i]? = some raw ∧ d.column = k + 1 ∧
        (token <+: raw.drop k ↔ raw.takeWhile isBlank = []) := by
  intro settings t token
  have h : parse settings.normalizeMessages t = .error (.diagnostic
      { kind := .decode token, message := "Unknown arrow '<<-->'".toList, line := 6, column := 3,
        context := some "B <<-->+A: <<-->".toList,
        suggestion := some
          "Expected one of: ->, -->, ->>, -->>, -x, --x, -), --), <<->>, <<-->>".toList }) := by
    decide +kernel
  obtain ⟨i, k, raw, -, hline, hraw, -, -, hcolumn, -, hiff⟩ := parse_decode_fault settings h rfl
  exact ⟨_, h, rfl, i, k, raw, hline, hraw, hcolumn, hiff⟩

/-- The column of an indented line is too small: it does not count the indentation. -/
theorem parse_decode_fault_indented :
    let t := "sequenceDiagram\n    A --->> B: hi".toList
    let raw := "    A --->> B: hi".toList
    let token := "--->>".toList
    (∃ d, parse true t = .error (.diagnostic d) ∧ d.kind = .decode token ∧ d.line = 2 ∧ d.column = 3) ∧
      (splitLines t)[1]? = some raw ∧ ¬token <+: raw.drop 2 ∧ token <+: raw.drop 6 := by
  intro t raw token
  have h : parse true t = .error (.diagnostic
      { kind := .decode token, message := "Unknown arrow '--->>'".toList, line := 2, column := 3,
        context := some "A --->> B: hi".toList,
        suggestion := some
          "Expected one of: ->, -->, ->>, -->>, -x, --x, -), --), <<->>, <<-->>".toList }) := by
    decide +kernel
  exact ⟨⟨_, h, rfl, rfl, rfl⟩, by decide +kernel, by decide +kernel, by decide +kernel⟩

end Source

end MermaidTidy
