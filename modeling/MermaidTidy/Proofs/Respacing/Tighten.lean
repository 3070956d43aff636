import MermaidTidy.Proofs.Text.Trim
import MermaidTidy.Respacing.Normalize

/-!
# Tightened texts

Trimming of brackets and edge labels removes whole runs of white space, and nothing else. The
relation `Tightened s t` says so: `s` is `t` without some of its runs of white space, none of them
at the start.

* `Tightened.suffix_of_space` finds a place of `s` that is followed by white space again in `t`;
* `Tightened.enclose` tightens what stands between two visible characters;
* `tightened_trim` and `tightened_trimEdgeLabels` are the two trimming passes.

The nesting count of brackets sees visible characters only (`isSome_splitAtCloser_congr`), so that
tightening neither opens nor closes a bracket.
-/

namespace MermaidTidy

open Text

/-- `s` is `t` without some whole runs of white space, none of them at the start. -/
inductive Tightened : Text → Text → Prop
  | nil : Tightened [] []
  | cons (c : Char) {s t : Text} (h : Tightened s t) : Tightened (c :: s) (c :: t)
  | drop {c : Char} {v s t : Text} (hc : isSpace c = false) (hv : ∀ d ∈ v, isSpace d = true)
      (ht : ∀ d ∈ t.head?, isSpace d = false) (h : Tightened s t) : Tightened (c :: s) (c :: (v ++ t))

namespace Tightened

variable {s t s' t' : Text}

theorem refl (t : Text) : Tightened t t := by
  induction t with
  | nil => exact nil
  | cons c r ih => exact ih.cons c

theorem head?_eq (h : Tightened s t) : s.head? = t.head? := by cases h <;> rfl

theorem visible_eq (h : Tightened s t) : visible s = visible t := by
  induction h with
  | nil => rfl
  | cons c _ ih => simp [ih]
  | drop hc hv _ _ ih => simp [hc, visible_eq_nil_iff.2 hv, ih]

theorem eq_nil_iff (h : Tightened s t) : s = [] ↔ t = [] := by cases h <;> simp

theorem subset (h : Tightened s t) : s ⊆ t := by
  induction h with
  | nil => exact List.Subset.refl _
  | cons c _ ih => exact List.cons_subset_cons c ih
  | @drop c v s t _ _ _ _ ih =>
    exact List.cons_subset_cons c (List.Subset.trans ih (List.subset_append_right v t))

/-- A visible character at the end stays there. -/
theorem getLast?_eq (h : Tightened s t) (ht : ∀ c ∈ t.getLast?, isSpace c = false) :
    s.getLast? = t.getLast? := by
  induction h with
  | nil => rfl
  | @cons c s t h ih =>
    by_cases hs : s = []
    · rw [hs, h.eq_nil_iff.1 hs]
    · have hne : t ≠ [] := fun hn => hs (h.eq_nil_iff.2 hn)
      rw [List.getLast?_cons_of_ne_nil hne] at ht ⊢
      rw [List.getLast?_cons_of_ne_nil hs, ih ht]
  | @drop c v s t _ hv _ h ih =>
    by_cases hs : s = []
    · have htn : t = [] := h.eq_nil_iff.1 hs
      subst hs htn
      rw [List.append_nil] at ht ⊢
      rcases eq_or_ne v [] with rfl | hvn
      · rfl
      · rw [List.getLast?_cons_of_ne_nil hvn] at ht
        have hlast := hv _ (List.getLast_mem hvn)
        rw [ht _ (List.getLast?_eq_some_getLast hvn)] at hlast
        cases hlast
    · have hne : t ≠ [] := fun hn => hs (h.eq_nil_iff.2 hn)
      have hend : (c :: (v ++ t)).getLast? = t.getLast? := by
        rw [List.getLast?_cons_of_ne_nil (by simp [hne]), List.getLast?_append_of_ne_nil _ hne]
      rw [hend] at ht ⊢
      rw [List.getLast?_cons_of_ne_nil hs, ih ht]

/-- White space alone cannot be tightened. -/
theorem eq_of_forall_isSpace (h : Tightened s t) (hs : ∀ c ∈ s, isSpace c = true) : s = t := by
  induction h with
  | nil => rfl
  | cons c _ ih => rw [ih fun d hd => hs d (by simp [hd])]
  | drop hc =>
    have := hs _ List.mem_cons_self
    rw [hc] at this
    cases this

theorem takeWhile_isSpace_eq (h : Tightened s t) : s.takeWhile isSpace = t.takeWhile isSpace := by
  induction h with
  | nil => rfl
  | cons c _ ih => simp [List.takeWhile_cons, ih]
  | drop hc => simp [hc]

theorem dropWhile_isSpace (h : Tightened s t) :
    Tightened (s.dropWhile isSpace) (t.dropWhile isSpace) := by
  induction h with
  | nil => exact nil
  | cons c h ih =>
    by_cases hc : isSpace c
    · simpa [hc] using ih
    · simpa [hc] using h.cons c
  | drop hc hv ht h => simpa [hc] using h.drop hc hv ht

theorem append (h : Tightened s t) (h' : Tightened s' t') (ht' : ∀ d ∈ t'.head?, isSpace d = false) :
    Tightened (s ++ s') (t ++ t') := by
  induction h with
  | nil => exact h'
  | cons c _ ih => exact ih.cons c
  | @drop c v s t hc hv ht _ ih =>
    rw [List.cons_append, List.cons_append, List.append_assoc]
    refine ih.drop hc hv ?_
    cases t with
    | nil => exact ht'
    | cons d r => exact ht

/-- The white space at the end of a text may go when a visible character follows. -/
theorem append_of_isSpace {u w : Text} (hu : u ≠ []) (hlast : ∀ c ∈ u.getLast?, isSpace c = false)
    (hw : ∀ c ∈ w, isSpace c = true) (h : Tightened (u ++ w) t) (h' : Tightened s' t')
    (ht' : ∀ d ∈ t'.head?, isSpace d = false) : Tightened (u ++ s') (t ++ t') := by
  induction u generalizing t with
  | nil => exact absurd rfl hu
  | cons c u ih =>
    by_cases hnil : u = []
    · -- the last visible character, where the run `w` goes
      subst hnil
      have hc : isSpace c = false := hlast c rfl
      cases h with
      | cons _ h =>
        rw [← h.eq_of_forall_isSpace hw]
        exact h'.drop hc hw ht'
      | @drop _ v _ r _ hv ht h =>
        have hwr : w = r := h.eq_of_forall_isSpace hw
        have hnil : r = [] := by
          cases r with
          | nil => rfl
          | cons d r => exact absurd (ht d rfl) (by simp [hw d (by simp [hwr])])
        rw [hnil, List.append_nil]
        exact h'.drop hc hv ht'
    · have hlast' : ∀ d ∈ u.getLast?, isSpace d = false := by
        rw [List.getLast?_cons_of_ne_nil hnil] at hlast
        exact hlast
      cases h with
      | cons _ h => exact (ih hnil hlast' h).cons c
      | @drop _ v _ r hc hv ht h =>
        rw [List.cons_append, List.cons_append, List.append_assoc]
        refine (ih hnil hlast' h).drop hc hv ?_
        cases r with
        | nil => exact ht'
        | cons d r => exact ht

/-- What stands between two visible characters may be stripped. -/
theorem enclose {o c : Char} (ho : isSpace o = false) (hc : isSpace c = false) (h : Tightened s t)
    (h' : Tightened s' t') : Tightened (o :: (strip s ++ c :: s')) (o :: (t ++ c :: t')) := by
  have hct : ∀ d ∈ (c :: t').head?, isSpace d = false := by simp [hc]
  have hv : ∀ d ∈ t.takeWhile isSpace, isSpace d = true := fun d hd => List.mem_takeWhile_imp hd
  have hd := h.dropWhile_isSpace
  rw [← List.takeWhile_append_dropWhile (p := isSpace) (l := t), List.append_assoc]
  have hhead : ∀ d ∈ (t.dropWhile isSpace ++ c :: t').head?, isSpace d = false := by
    cases ht : t.dropWhile isSpace with
    | nil => exact hct
    | cons d r =>
      have := head?_dropWhile isSpace t
      rw [ht] at this
      exact this
  by_cases hnil : s.dropWhile isSpace = []
  · rw [hd.eq_nil_iff.1 hnil, strip, trim, hnil]
    exact (h'.cons c).drop ho hv hct
  · obtain ⟨w, hw, hws⟩ := exists_eq_trimRight_append isSpace (s.dropWhile isSpace)
    have hne : strip s ≠ [] := by
      intro hs
      have hsame := head?_trimRight (head?_dropWhile isSpace s)
      rw [strip, trim] at hs
      rw [hs] at hsame
      exact hnil (List.head?_eq_none_iff.1 hsame.symm)
    rw [hw] at hd
    exact (append_of_isSpace hne (getLast?_trimRight isSpace _) hws hd (h'.cons c) hct).drop ho hv
      hhead

/-- A place of the tightened text with white space behind it is a place of the text, with the same
white space behind it. -/
theorem suffix_of_space (h : Tightened s t) {c : Char} {r : Text} (hs : c :: r <:+ s)
    (hr : ∃ d ∈ r.head?, isSpace d = true) : ∃ r', c :: r' <:+ t ∧ Tightened r r' := by
  induction h with
  | nil => simp at hs
  | @cons e s t h ih =>
    rcases List.suffix_cons_iff.1 hs with heq | hs
    · cases heq
      exact ⟨t, List.suffix_refl _, h⟩
    · obtain ⟨r', hr', hrr⟩ := ih hs
      exact ⟨r', hr'.trans (List.suffix_cons e t), hrr⟩
  | @drop e v s t hc hv ht h ih =>
    rcases List.suffix_cons_iff.1 hs with heq | hs
    · -- the run behind this place was dropped, so what follows is visible
      cases heq
      obtain ⟨d, hd, hsp⟩ := hr
      rw [h.head?_eq] at hd
      rw [ht d hd] at hsp
      cases hsp
    · obtain ⟨r', hr', hrr⟩ := ih hs
      exact ⟨r', (hr'.trans (List.suffix_append v t)).trans (List.suffix_cons e _), hrr⟩

end Tightened

/-! ### Brackets -/

namespace BracketPair

/-- The brackets of a pair are two different visible characters. -/
structure IsProper (b : BracketPair) : Prop where
  opener : isSpace b.opener = false
  closer : isSpace b.closer = false
  ne : b.opener ≠ b.closer

theorem isProper_of_mem_standard {b : BracketPair} (h : b ∈ standard) : b.IsProper := by
  simp only [standard, List.mem_cons, List.not_mem_nil, or_false] at h
  rcases h with rfl | rfl | rfl <;> exact ⟨by decide, by decide, by decide⟩

variable {b : BracketPair}

theorem eq_append_of_splitAtCloser {depth : Nat} {t inner rest : Text}
    (h : b.splitAtCloser depth t = some (inner, rest)) : t = inner ++ b.closer :: rest := by
  induction t generalizing depth inner with
  | nil => simp [splitAtCloser] at h
  | cons c r ih =>
    have step : ∀ {depth' : Nat},
        (b.splitAtCloser depth' r).map (fun (p : Text × Text) => (c :: p.1, p.2)) =
          some (inner, rest) → c :: r = inner ++ b.closer :: rest := by
      intro depth' h'
      obtain ⟨⟨i, s⟩, hi, he⟩ := Option.map_eq_some_iff.1 h'
      cases he
      rw [ih hi, List.cons_append]
    unfold splitAtCloser at h
    split at h
    · exact step h
    · split at h
      · rename_i hc
        split at h
        · cases h
          rw [hc, List.nil_append]
        · exact step h
      · exact step h

/-- The nesting count sees visible characters only. -/
theorem isSome_splitAtCloser_visible (hb : b.IsProper) (depth : Nat) (t : Text) :
    (b.splitAtCloser depth (visible t)).isSome = (b.splitAtCloser depth t).isSome := by
  induction t generalizing depth with
  | nil => rfl
  | cons c r ih =>
    by_cases hc : isSpace c
    · have ho : c ≠ b.opener := by
        rintro rfl
        simp [hb.opener] at hc
      have hcl : c ≠ b.closer := by
        rintro rfl
        simp [hb.closer] at hc
      simp [hc, splitAtCloser, ho, hcl, ih]
    · simp only [visible_cons, hc, Bool.false_eq_true, if_false, splitAtCloser]
      split_ifs <;> simp [ih]

theorem isSome_splitAtCloser_congr (hb : b.IsProper) {depth : Nat} {s t : Text}
    (h : visible s = visible t) :
    (b.splitAtCloser depth s).isSome = (b.splitAtCloser depth t).isSome := by
  rw [← isSome_splitAtCloser_visible hb, h, isSome_splitAtCloser_visible hb]

theorem tightened_trim (hb : b.IsProper) (t : Text) : Tightened (b.trim t) t := by
  fun_induction b.trim t with
  | case1 => exact .nil
  | case2 r inner rest h _ ih₁ ih₂ =>
    unfold padded? at h
    split at h
    · rw [eq_append_of_splitAtCloser h]
      exact ih₁.enclose hb.opener hb.closer ih₂
    · cases h
  | case3 r _ ih => exact ih.cons _
  | case4 c r _ ih => exact ih.cons c

end BracketPair

/-! ### Edge labels -/

namespace Respacing

theorem eq_append_of_splitAtPipe {t before after : Text}
    (h : splitAtPipe t = some (before, after)) : t = before ++ '|' :: after ∧ '|' ∉ before := by
  induction t generalizing before with
  | nil => simp [splitAtPipe] at h
  | cons c r ih =>
    unfold splitAtPipe at h
    split at h
    · rename_i hc
      cases h
      simp [hc]
    · rename_i hc
      obtain ⟨⟨i, s⟩, hi, he⟩ := Option.map_eq_some_iff.1 h
      cases he
      obtain ⟨rfl, hnot⟩ := ih hi
      refine ⟨rfl, ?_⟩
      simp [hnot, Ne.symm hc]

theorem tightened_trimEdgeLabels (t : Text) : Tightened (trimEdgeLabels t) t := by
  have hpipe : isSpace '|' = false := by decide
  fun_induction trimEdgeLabels t with
  | case1 t h => exact .refl t
  | case2 t before r h h' => exact .refl t
  | case3 t before r h label rest h' _ _ ih =>
    obtain ⟨rfl, -⟩ := eq_append_of_splitAtPipe h
    obtain ⟨rfl, -⟩ := eq_append_of_splitAtPipe h'
    refine (Tightened.refl before).append ?_ (by simp [hpipe])
    unfold trimLabel
    split_ifs
    · exact (Tightened.refl label).enclose hpipe hpipe ih
    · exact ((Tightened.refl label).append (ih.cons '|') (by simp [hpipe])).cons '|'

end Respacing

end MermaidTidy
