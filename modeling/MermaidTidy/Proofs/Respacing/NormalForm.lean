import Mathlib.Algebra.Group.Even
import Mathlib.Tactic
import MermaidTidy.Proofs.Respacing.Padding

/-!
# Normal spacing by places

The rules of normal spacing, said of the places of a text: which characters stand where, how many pipes
stand before a place, and where the nesting count of a bracket is zero again.

* `IsNormalByPlace` are the rules, and `isNormalByPlace_iff` says that they are those of `IsNormal`;
* `normalize_normalForm`: `normalize` gives a normal text, leaves just the normal texts as they are,
  and changes white space only.
-/

namespace MermaidTidy

open Text

/-- Normal spacing, place by place. -/
structure IsNormalByPlace (t : Text) : Prop where
  /-- No two spaces stand next to each other. -/
  spaces (i : Nat) : ¬(t[i]? = some ' ' ∧ t[i + 1]? = some ' ')
  /-- No colon is followed by two white-space characters. -/
  colons (i : Nat) : t[i]? = some ':' →
    ¬((∃ c ∈ t[i + 1]?, isSpace c = true) ∧ ∃ c ∈ t[i + 2]?, isSpace c = true)
  /-- No bracket is padded and closed. -/
  brackets (b : BracketPair) (hb : b ∈ BracketPair.standard) (i j : Nat) : ¬b.IsPadded t i j
  /-- No pipe with an even number of pipes before it and one behind it is followed by a space. -/
  labels (i j : Nat) : t[i]? = some '|' → Even ((t.take i).count '|') → i < j → t[j]? = some '|' →
    t[i + 1]? ≠ some ' '

variable {t : Text}

/-- The suffixes of a text are what stands behind its places. -/
theorem cons_suffix_iff {c : Char} {r : Text} :
    c :: r <:+ t ↔ ∃ i, t[i]? = some c ∧ t.drop (i + 1) = r := by
  simp only [← drop_eq_cons_iff]
  constructor
  · rintro ⟨u, rfl⟩
    exact ⟨u.length, List.drop_left⟩
  · rintro ⟨i, hi⟩
    exact hi ▸ List.drop_suffix i t

theorem noSpaceRun_iff : NoSpaceRun t ↔ ∀ i, ¬(t[i]? = some ' ' ∧ t[i + 1]? = some ' ') := by
  rw [NoSpaceRun, List.isChain_iff_getElem]
  constructor
  · rintro h i ⟨hfirst, hsecond⟩
    obtain ⟨hi, hfirst⟩ := List.getElem?_eq_some_iff.1 hfirst
    obtain ⟨hi, hsecond⟩ := List.getElem?_eq_some_iff.1 hsecond
    exact h i hi ⟨hfirst, hsecond⟩
  · rintro h i hi ⟨hfirst, hsecond⟩
    exact h i ⟨List.getElem?_eq_some_iff.2 ⟨_, hfirst⟩, List.getElem?_eq_some_iff.2 ⟨_, hsecond⟩⟩

theorem noGapAfterColon_iff : NoGapAfterColon t ↔ ∀ i, t[i]? = some ':' →
    ¬((∃ c ∈ t[i + 1]?, isSpace c = true) ∧ ∃ c ∈ t[i + 2]?, isSpace c = true) := by
  have hrun (r : Text) : (r.takeWhile isSpace).length < 2 ↔
      ¬((∃ c ∈ r[0]?, isSpace c = true) ∧ ∃ c ∈ r[1]?, isSpace c = true) := by
    rcases r with _ | ⟨c, _ | ⟨d, r⟩⟩
    · simp
    · by_cases hc : isSpace c <;> simp [hc]
    · by_cases hc : isSpace c <;> by_cases hd : isSpace d <;> simp [hc, hd]
  unfold NoGapAfterColon
  simp only [cons_suffix_iff, hrun]
  constructor
  · intro h i hi
    simpa using h (t.drop (i + 1)) ⟨i, hi, rfl⟩
  · rintro h r ⟨i, hi, rfl⟩
    simpa using h i hi

theorem noPadded_iff {b : BracketPair} (hb : b.IsProper) :
    b.NoPadded t ↔ ∀ i j, ¬b.IsPadded t i j := by
  simp only [BracketPair.isPadded_iff hb]
  constructor
  · rintro h i j ⟨r, inner, rest, hr, hp, -⟩
    rw [h r (hr ▸ List.drop_suffix i t)] at hp
    cases hp
  · intro h r hr
    obtain ⟨i, hi⟩ := cons_suffix_iff.1 hr
    cases hp : b.padded? r with
    | none => rfl
    | some p => exact absurd ⟨r, p.1, p.2, drop_eq_cons_iff.2 hi, hp, rfl⟩ (h i _)

theorem noPaddedLabel_iff : NoPaddedLabel t ↔ ∀ i j, t[i]? = some '|' →
    Even ((t.take i).count '|') → i < j → t[j]? = some '|' → t[i + 1]? ≠ some ' ' := by
  constructor
  · intro h i j hi heven hij hj
    have hdrop : t.drop i = '|' :: t.drop (i + 1) := drop_eq_cons_iff.2 ⟨hi, rfl⟩
    rw [← List.head?_drop]
    refine h (t.take i) _ ?_ heven (List.mem_of_getElem? (i := j - (i + 1)) ?_)
    · rw [← hdrop, List.take_append_drop]
    · rw [List.getElem?_drop, ← hj]
      congr 1
      omega
  · rintro h before r rfl heven hmem
    obtain ⟨k, hk⟩ := List.mem_iff_getElem?.1 hmem
    have hplace (k : Nat) : (before ++ '|' :: r)[before.length + 1 + k]? = r[k]? := by
      rw [List.getElem?_append_right (by omega),
        show before.length + 1 + k - before.length = k + 1 by omega, List.getElem?_cons_succ]
    have := h before.length (before.length + 1 + k) (by simp) (by simpa using heven) (by omega)
      ((hplace k).trans hk)
    rw [← Nat.add_zero (before.length + 1), hplace, ← List.head?_eq_getElem?] at this
    exact this

theorem isNormalByPlace_iff : IsNormalByPlace t ↔ IsNormal t := by
  constructor
  · rintro ⟨hspaces, hcolons, hbrackets, hlabels⟩
    exact ⟨noSpaceRun_iff.2 hspaces, noGapAfterColon_iff.2 hcolons,
      fun b hb => (noPadded_iff (BracketPair.isProper_of_mem_standard hb)).2 (hbrackets b hb),
      noPaddedLabel_iff.2 hlabels⟩
  · rintro ⟨hspaces, hcolons, hbrackets, hlabels⟩
    exact ⟨noSpaceRun_iff.1 hspaces, noGapAfterColon_iff.1 hcolons,
      fun b hb => (noPadded_iff (BracketPair.isProper_of_mem_standard hb)).1 (hbrackets b hb),
      noPaddedLabel_iff.1 hlabels⟩

/-- **Normal spacing is a normal form.** It is reached from every text, the texts that have it are just
those that stay as they are, and only white space changes on the way. -/
theorem normalize_normalForm (t : Text) :
    IsNormalByPlace (Respacing.normalize t) ∧
    (IsNormalByPlace t ↔ Respacing.normalize t = t) ∧
    Respacing.normalize (Respacing.normalize t) = Respacing.normalize t ∧
    visible (Respacing.normalize t) = visible t := by
  have hnormal : IsNormalByPlace (Respacing.normalize t) :=
    isNormalByPlace_iff.2 (Respacing.isNormal_normalize t)
  refine ⟨hnormal, ⟨fun h => ?_, fun h => h ▸ hnormal⟩, Respacing.normalize_normalize t,
    Respacing.visible_normalize t⟩
  exact Respacing.normalize_eq_self (isNormalByPlace_iff.1 h)

end MermaidTidy
