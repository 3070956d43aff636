import Mathlib.Tactic
import MermaidTidy.Proofs.Source.Reading
import MermaidTidy.Proofs.Text.Lines
import MermaidTidy.Settings.Basic

/-!
# When a source is refused

As long as messages are not decoded, a source is refused for control characters and for nothing
else, and the report names the first of them.

* `IsStray c` says that `c` is a control character other than the tab; `IsStrayAt l k` places one in
  a line, `IsStrayLine lines i` places a line with one outside the frontmatter;
* `classify_of_isLeast`: the report about a line points at its first stray character, whatever blanks
  the line begins with;
* `readLines_of_clean`, `readLines_of_stray`: the loop takes every line up to the first stray one and
  stops there;
* `parse_error_iff`: when a source is refused, what is reported, and how many statements there are
  otherwise.
-/

namespace MermaidTidy

open Text Line

/-! ### Stray characters -/

/-- Control characters that no line may hold. -/
def IsStray (c : Char) : Prop :=
  c.toNat ≤ 0x08 ∨ (0x0A ≤ c.toNat ∧ c.toNat ≤ 0x1F) ∨ c.toNat = 0x7F

instance (c : Char) : Decidable (IsStray c) :=
  inferInstanceAs (Decidable (_ ∨ _ ∧ _ ∨ _))

/-- The character with index `k` is stray. -/
def IsStrayAt (l : Text) (k : Nat) : Prop := ∃ c ∈ l[k]?, IsStray c

instance (l : Text) (k : Nat) : Decidable (IsStrayAt l k) :=
  inferInstanceAs (Decidable (∃ c ∈ l[k]?, IsStray c))

theorem isStray_iff {c : Char} : IsStray c ↔ isControl c = true := by
  have htab : c = '\t' ↔ c.toNat = 9 := ⟨fun h => h ▸ rfl, fun h => Char.toNat_inj.1 h⟩
  unfold IsStray isControl
  simp only [Bool.or_eq_true, Bool.and_eq_true, decide_eq_true_eq, bne_iff_ne, ne_eq, htab,
    beq_iff_eq]
  omega

theorem exists_isLeast_isStrayAt {l : Text} (h : ∃ c ∈ l, IsStray c) :
    ∃ k, IsLeast {k | IsStrayAt l k} k := by
  obtain ⟨c, hmem, hc⟩ := h
  obtain ⟨k, hk⟩ := List.mem_iff_getElem?.1 hmem
  exact ⟨_, isLeast_csInf ⟨k, c, hk, hc⟩⟩

/-- What stands before and behind the first stray character of a line. -/
theorem exists_eq_of_isLeast {l : Text} {k : Nat} (h : IsLeast {k | IsStrayAt l k} k) :
    ∃ before c after, l = before ++ c :: after ∧ before.length = k ∧ isControl c = true ∧
      ∀ d ∈ before, isControl d = false := by
  obtain ⟨⟨c, hk, hc⟩, hleast⟩ := h
  obtain ⟨hlt, rfl⟩ := List.getElem?_eq_some_iff.1 hk
  refine ⟨l.take k, l[k], l.drop (k + 1), by simp, by simp; omega, isStray_iff.1 hc, ?_⟩
  intro d hd
  obtain ⟨j, hj⟩ := List.mem_iff_getElem?.1 hd
  rw [List.getElem?_take] at hj
  split_ifs at hj with hjk
  refine Bool.eq_false_iff.2 fun hctrl => ?_
  have : k ≤ j := hleast ⟨d, hj, isStray_iff.2 hctrl⟩
  omega

/-! ### One line -/

theorem isBlank_of_isControl {c : Char} (h : isControl c = true) : isBlank c = false := by
  refine Bool.eq_false_iff.2 fun hb => ?_
  rcases (by simpa [isBlank] using hb : c = ' ' ∨ c = '\t') with rfl | rfl <;> cases h

/-- The first stray character of a line is the obstacle. -/
theorem obstacle?_append {before after : Text} {c : Char} (hb : ∀ d ∈ before, isControl d = false)
    (hc : isControl c = true) (hn : c ≠ '\n') :
    obstacle? (before ++ c :: after) = some ⟨before.length, c⟩ := by
  have hdrop : (before ++ c :: after).dropWhile (!isControl ·) = c :: after := by
    rw [List.dropWhile_append_of_pos (by simpa using hb)]
    simp [hc]
  have htake : (before ++ c :: after).takeWhile (!isControl ·) = before := by
    rw [List.takeWhile_append_of_pos (by simpa using hb)]
    simp [hc]
  unfold obstacle?
  rw [hdrop, htake]
  split <;> simp_all

theorem classify_of_obstacle? {raw : Text} {o : Obstacle} (h : obstacle? (stripBlanks raw) = some o)
    (mode : LineMode) (line : Int) :
    classify raw mode line = .error (obstacleReport raw line (raw.takeWhile isBlank).length o) := by
  unfold classify
  simp only [h]

/-- The report about a line points at its first stray character. -/
theorem classify_of_isLeast {raw : Text} {k : Nat} (hn : '\n' ∉ raw)
    (hk : IsLeast {k | IsStrayAt raw k} k) (mode : LineMode) (line : Int) :
    ∃ d, classify raw mode line = .error d ∧ d.kind = .grammar ∧ d.line = line ∧
      d.column = k + 1 := by
  obtain ⟨before, c, after, rfl, rfl, hc, hbefore⟩ := exists_eq_of_isLeast hk
  have hblank := isBlank_of_isControl hc
  have hstrip : stripBlanks (before ++ c :: after) =
      before.dropWhile isBlank ++ c :: trimRight isBlank after := by
    unfold stripBlanks trim
    rw [dropWhile_append_cons hblank, trimRight_append_cons hblank]
  have hlen : (before.takeWhile isBlank).length + (before.dropWhile isBlank).length =
      before.length := by
    rw [← List.length_append, List.takeWhile_append_dropWhile]
  have hobstacle : obstacle? (stripBlanks (before ++ c :: after)) =
      some ⟨(before.dropWhile isBlank).length, c⟩ := by
    rw [hstrip]
    exact obstacle?_append (fun d hd => hbefore d (List.dropWhile_subset isBlank hd)) hc
      fun h => hn (by simp [h])
  refine ⟨_, classify_of_obstacle? hobstacle mode line, rfl, rfl, ?_⟩
  show (((before.dropWhile isBlank).length : Int) + 1 +
    ((before ++ c :: after).takeWhile isBlank).length) = before.length + 1
  -- the leading blanks of the line are those of the part before the character
  rw [takeWhile_append_cons hblank]
  omega

namespace Source

variable {span : Option (Nat × Nat)}

/-- A line without stray characters has a statement. -/
theorem exists_readLine_eq_ok {raw : Text} (h : ∀ c ∈ raw, ¬IsStray c) (p : Progress) (index : Nat) :
    ∃ s, readLine false p index raw = .ok s := by
  have hclean : ∀ c ∈ stripBlanks raw, isControl c = false := fun c hc =>
    Bool.eq_false_iff.2 fun hctrl => h c (mem_of_mem_trim hc) (isStray_iff.2 hctrl)
  rcases reads_cases false p (stripBlanks raw) with ⟨s, hs⟩ | ⟨-, -, hoff, -⟩
  · exact ⟨s, readLine_eq_ok_iff.2 ⟨hclean, hs⟩⟩
  · cases hoff

/-! ### The loop over the lines -/

/-- No line outside the frontmatter holds a stray character, where the first line has the given
index. -/
def IsCleanFrom (span : Option (Nat × Nat)) (index : Nat) (raws : List Text) : Prop :=
  ∀ i l, raws[i]? = some l → inSpan span (index + i) = false → ∀ c ∈ l, ¬IsStray c

theorem IsCleanFrom.tail {index : Nat} {raw : Text} {raws : List Text}
    (h : IsCleanFrom span index (raw :: raws)) : IsCleanFrom span (index + 1) raws := fun i l hl hi =>
  h (i + 1) l hl (by rwa [show index + (i + 1) = index + 1 + i by omega])

/-- Clean lines have one statement each. -/
theorem readLines_of_clean (p : Progress) {index : Nat} {raws : List Text}
    (h : IsCleanFrom span index raws) :
    ∃ ss, readLines false span p index raws = ⟨ss, none⟩ ∧ ss.length = raws.length := by
  induction raws generalizing p index with
  | nil => exact ⟨[], rfl, rfl⟩
  | cons raw raws ih =>
    rw [readLines]
    split_ifs with hin
    · obtain ⟨ss, hss, hlen⟩ := ih p h.tail
      exact ⟨.frontmatter raw :: ss, by rw [hss]; rfl, by simp [hlen]⟩
    · obtain ⟨s, hs⟩ := exists_readLine_eq_ok (h 0 raw rfl (by simpa using hin)) p index
      obtain ⟨ss, hss, hlen⟩ := ih (p.next s) h.tail
      exact ⟨s :: ss, by simp only [hs, hss]; rfl, by simp [hlen]⟩

/-- The first stray line ends the reading with a report that points at its first stray character. -/
theorem readLines_of_stray {raws : List Text} {raw : Text} {k : Nat} (h : IsCleanFrom span 0 raws)
    (hspan : inSpan span raws.length = false) (hn : '\n' ∉ raw)
    (hk : IsLeast {k | IsStrayAt raw k} k) (rest : List Text) :
    ∃ d, (readLines false span {} 0 (raws ++ raw :: rest)).fault = some (.diagnostic d) ∧
      d.kind = .grammar ∧ d.line = raws.length + 1 ∧ d.column = k + 1 := by
  obtain ⟨ss, hss, -⟩ := readLines_of_clean {} h
  obtain ⟨d, hd, hkind, hline, hcolumn⟩ :=
    classify_of_isLeast hn hk (Progress.after {} ss).mode (raws.length + 1)
  have hread : readLine false (Progress.after {} ss) raws.length raw = .error (.diagnostic d) := by
    unfold readLine
    rw [hd]
  refine ⟨d, ?_, hkind, hline, hcolumn⟩
  rw [readLines_append, hss]
  simp only [Nat.zero_add, readLines, hspan, hread, Bool.false_eq_true, if_false]

/-! ### Whole sources -/

/-- The line with index `i` stands outside the frontmatter and holds a stray character. -/
def IsStrayLine (lines : List Text) (i : Nat) : Prop :=
  inSpan (frontmatterSpan lines) i = false ∧ ∃ l ∈ lines[i]?, ∃ c ∈ l, IsStray c

instance (lines : List Text) (i : Nat) : Decidable (IsStrayLine lines i) :=
  inferInstanceAs (Decidable (_ ∧ ∃ l ∈ lines[i]?, ∃ c ∈ l, IsStray c))

/-- A source without stray lines is read to its end. -/
theorem parse_of_clean {t : Text} (h : ∀ i, ¬IsStrayLine (splitLines t) i) :
    ∃ d, parse false t = .ok d ∧
      d.statements.length = if t = [] then 0 else (splitLines t).length := by
  unfold parse
  split_ifs with ht
  · exact ⟨{}, rfl, rfl⟩
  · have hclean : IsCleanFrom (frontmatterSpan (splitLines t)) 0 (splitLines t) :=
      fun i l hl hi c hmem hc => h i ⟨by simpa using hi, l, hl, c, hmem, hc⟩
    obtain ⟨ss, hss, hlen⟩ := readLines_of_clean {} hclean
    exact ⟨⟨ss⟩, by simp only [read, hss], hlen⟩

/-- The report about a source with stray lines is about the first of them. -/
theorem parse_of_isLeast {t : Text} {i : Nat} (h : IsLeast {i | IsStrayLine (splitLines t) i} i) :
    ∃ d l k, parse false t = .error (.diagnostic d) ∧ d.kind = .grammar ∧
      (splitLines t)[i]? = some l ∧ IsLeast {k | IsStrayAt l k} k ∧
        d.line = i + 1 ∧ d.column = k + 1 := by
  obtain ⟨⟨hspan, l, hl, hstray⟩, hleast⟩ := h
  obtain ⟨k, hk⟩ := exists_isLeast_isStrayAt hstray
  obtain ⟨hi, hget⟩ := List.getElem?_eq_some_iff.1 hl
  have hlen : ((splitLines t).take i).length = i := by simp; omega
  have hsplit : (splitLines t).take i ++ l :: (splitLines t).drop (i + 1) = splitLines t := by
    rw [← hget]
    simp
  have hclean : IsCleanFrom (frontmatterSpan (splitLines t)) 0 ((splitLines t).take i) := by
    intro j l' hl' hj c hmem hc
    rw [List.getElem?_take] at hl'
    rw [Nat.zero_add] at hj
    split_ifs at hl' with hji
    exact absurd (hleast ⟨hj, l', hl', c, hmem, hc⟩) (by omega)
  have hn : '\n' ∉ l := newline_not_mem_of_mem_splitLines (List.mem_of_getElem? hl)
  obtain ⟨d, hd, hkind, hline, hcolumn⟩ :=
    readLines_of_stray hclean (by rwa [hlen]) hn hk ((splitLines t).drop (i + 1))
  rw [hsplit] at hd
  rw [hlen] at hline
  have ht : t ≠ [] := by
    rintro rfl
    -- the only line of the empty text is empty
    rw [List.mem_singleton.1 (List.mem_of_getElem? hl)] at hstray
    simp at hstray
  refine ⟨d, l, k, ?_, hkind, hl, hk, hline, hcolumn⟩
  unfold parse read
  rw [if_neg ht]
  simp only
  generalize readLines false (frontmatterSpan (splitLines t)) {} 0 (splitLines t) = r at hd
  obtain ⟨ss, fault⟩ := r
  cases hd
  rfl

/-- As long as messages are not decoded, a source is refused exactly if a line outside its
frontmatter holds a stray character. The report is about the shape of the first such line and
points at its first stray character. Otherwise there is one statement for each line. -/
theorem parse_error_iff (settings : Settings) (hoff : settings.normalizeMessages = false) (t : Text) :
    ((∃ f, parse settings.normalizeMessages t = .error f) ↔ ∃ i, IsStrayLine (splitLines t) i) ∧
    (∀ f, parse settings.normalizeMessages t = .error f →
      ∃ d i l k, f = .diagnostic d ∧ d.kind = .grammar ∧
        IsLeast {i | IsStrayLine (splitLines t) i} i ∧ (splitLines t)[i]? = some l ∧
          IsLeast {k | IsStrayAt l k} k ∧ d.line = i + 1 ∧ d.column = k + 1) ∧
    (∀ d, parse settings.normalizeMessages t = .ok d →
      d.statements.length = if t = [] then 0 else (splitLines t).length) := by
  rw [hoff]
  by_cases hstray : ∃ i, IsStrayLine (splitLines t) i
  · have hi := isLeast_csInf (s := {i | IsStrayLine (splitLines t) i}) hstray
    obtain ⟨d, l, k, hparse, hkind, hl, hk, hline, hcolumn⟩ := parse_of_isLeast hi
    refine ⟨iff_of_true ⟨_, hparse⟩ hstray, ?_, ?_⟩
    · intro f hf
      rw [hparse] at hf
      cases hf
      exact ⟨d, _, l, k, rfl, hkind, hi, hl, hk, hline, hcolumn⟩
    · intro d' hd'
      rw [hparse] at hd'
      cases hd'
  · obtain ⟨d, hparse, hlen⟩ := parse_of_clean (not_exists.1 hstray)
    refine ⟨iff_of_false ?_ hstray, ?_, ?_⟩
    · rintro ⟨f, hf⟩
      rw [hparse] at hf
      cases hf
    · intro f hf
      rw [hparse] at hf
      cases hf
    · intro d' hd'
      rw [hparse] at hd'
      cases hd'
      exact hlen

/-- Control characters in the frontmatter do no harm, and the column counts the indentation. -/
theorem parse_error_iff_behind_frontmatter :
    let t := "---\ntitle: \x01\n---\ngraph TD\n\t A\x07B\n\x00".toList
    ({} : Settings).normalizeMessages = false ∧ ∃ d, parse false t = .error (.diagnostic d) ∧
      d.kind = .grammar ∧ d.line = 5 ∧ d.column = 4 := by
  intro t
  obtain ⟨hiff, hplace, -⟩ := parse_error_iff {} rfl t
  obtain ⟨f, hf⟩ := hiff.2 ⟨4, by decide⟩
  obtain ⟨d, i, l, k, rfl, hkind, hi, hl, hk, hline, hcolumn⟩ := hplace f hf
  obtain rfl : i = 4 := by
    have hle : i ≤ 4 := hi.2 (show IsStrayLine (splitLines t) 4 by decide)
    have hstray : IsStrayLine (splitLines t) i := hi.1
    interval_cases i <;> first | rfl | exact absurd hstray (by decide)
  obtain rfl : l = "\t A\x07B".toList := Option.some.inj (hl.symm.trans (by decide))
  obtain rfl : k = 3 := by
    have hle : k ≤ 3 := hk.2 (show IsStrayAt "\t A\x07B".toList 3 by decide)
    have hstray : IsStrayAt "\t A\x07B".toList k := hk.1
    interval_cases k <;> first | rfl | exact absurd hstray (by decide)
  exact ⟨rfl, d, hf, hkind, hline, hcolumn⟩

end Source

end MermaidTidy
