import Mathlib.Data.List.Chain
import MermaidTidy.Proofs.Respacing.Tighten

/-!
# Normal spacing is a normal form

`IsNormal t` says what normal spacing is, without the passes that make it: no two spaces in a row,
at most one white-space character behind a colon, no padded bracket that is closed, no padded edge
label.

* `isNormal_normalize`: `normalize` gives a normal text;
* `normalize_eq_self`: a normal text is left as it is, so that `normalize` is idempotent;
* `visible_normalize`: only white space changes.

Each pass makes its own rule true. The later passes keep the rules of the earlier ones, because they
only tighten the text (`Tightened`).
-/

namespace MermaidTidy

open Text

/-! ### The rules -/

/-- No two spaces stand next to each other. -/
def NoSpaceRun (t : Text) : Prop := t.IsChain fun c d => ¬(c = ' ' ∧ d = ' ')

/-- No colon is followed by two white-space characters. -/
def NoGapAfterColon (t : Text) : Prop :=
  ∀ r, ':' :: r <:+ t → (r.takeWhile isSpace).length < 2

/-- No bracket of the pair `b` is padded and closed. -/
def BracketPair.NoPadded (b : BracketPair) (t : Text) : Prop :=
  ∀ r, b.opener :: r <:+ t → b.padded? r = none

/-- No pipe that opens an edge label is followed by a space. -/
def NoPaddedLabel (t : Text) : Prop :=
  ∀ before r, t = before ++ '|' :: r → Even (before.count '|') → '|' ∈ r → r.head? ≠ some ' '

/-- Normal spacing. -/
structure IsNormal (t : Text) : Prop where
  spaces : NoSpaceRun t
  colons : NoGapAfterColon t
  brackets : ∀ b ∈ BracketPair.standard, b.NoPadded t
  labels : NoPaddedLabel t

/-! ### Tightening keeps the rules -/

namespace Tightened

variable {s t : Text}

theorem noSpaceRun (h : Tightened s t) (ht : NoSpaceRun t) : NoSpaceRun s := by
  unfold NoSpaceRun at ht ⊢
  induction h with
  | nil => exact ht
  | cons c h ih =>
    rw [List.isChain_cons] at ht ⊢
    rw [h.head?_eq]
    exact ⟨ht.1, ih ht.2⟩
  | @drop c v s t hc _ _ _ ih =>
    have hsp : c ≠ ' ' := by
      rintro rfl
      cases hc
    rw [List.isChain_cons] at ht ⊢
    exact ⟨fun d _ hcd => hsp hcd.1, ih (ht.2.suffix (List.suffix_append v t))⟩

theorem noGapAfterColon (h : Tightened s t) (ht : NoGapAfterColon t) : NoGapAfterColon s := by
  intro r hr
  by_contra hlen
  have hsp : ∃ d ∈ r.head?, isSpace d = true := by
    cases r with
    | nil => simp at hlen
    | cons d r =>
      by_cases hd : isSpace d
      · exact ⟨d, rfl, hd⟩
      · simp [hd] at hlen
  obtain ⟨r', hr', hrr⟩ := h.suffix_of_space hr hsp
  rw [hrr.takeWhile_isSpace_eq] at hlen
  exact hlen (ht r' hr')

/-- A padded bracket and its closer are there before tightening too. -/
theorem padded?_isSome {b : BracketPair} (hb : b.IsProper) (h : Tightened s t)
    (hs : (b.padded? s).isSome) : (b.padded? t).isSome := by
  unfold BracketPair.padded? at hs ⊢
  split_ifs at hs with hh
  · rw [if_pos (h.head?_eq ▸ hh), ← BracketPair.isSome_splitAtCloser_congr hb h.visible_eq]
    exact hs
  · cases hs

theorem noPadded {b : BracketPair} (hb : b.IsProper) (h : Tightened s t) (ht : b.NoPadded t) :
    b.NoPadded s := by
  intro r hr
  by_contra hne
  have hsome : (b.padded? r).isSome := Option.isSome_iff_ne_none.2 hne
  have hsp : ∃ d ∈ r.head?, isSpace d = true := by
    unfold BracketPair.padded? at hne
    split_ifs at hne with hh
    · exact ⟨' ', hh, by decide⟩
    · exact absurd rfl hne
  obtain ⟨r', hr', hrr⟩ := h.suffix_of_space hr hsp
  have := hrr.padded?_isSome hb hsome
  rw [ht r' hr'] at this
  cases this

end Tightened

/-! ### Runs -/

namespace Respacing

@[simp] theorem head?_collapseSpaces (t : Text) : (collapseSpaces t).head? = t.head? := by
  fun_induction collapseSpaces t with
  | case1 => rfl
  | case2 c => rfl
  | case3 c d r h ih =>
    rw [ih, h.1, h.2]
    rfl
  | case4 c d r h => rfl

theorem noSpaceRun_collapseSpaces (t : Text) : NoSpaceRun (collapseSpaces t) := by
  unfold NoSpaceRun
  fun_induction collapseSpaces t with
  | case1 => exact .nil
  | case2 c => exact .singleton c
  | case3 c d r h ih => exact ih
  | case4 c d r h ih =>
    rw [List.isChain_cons]
    refine ⟨fun e he => ?_, ih⟩
    rw [head?_collapseSpaces] at he
    cases he
    exact h

theorem collapseSpaces_eq_self {t : Text} (h : NoSpaceRun t) : collapseSpaces t = t := by
  unfold NoSpaceRun at h
  fun_induction collapseSpaces t with
  | case1 => rfl
  | case2 c => rfl
  | case3 c d r hcd => exact absurd hcd (List.isChain_cons_cons.1 h).1
  | case4 c d r _ ih => rw [ih (List.isChain_cons_cons.1 h).2]

/-- The white space at the start of a text does not change behind a colon. -/
theorem takeWhile_isSpace_collapseAfterColon (t : Text) :
    (collapseAfterColon t).takeWhile isSpace = t.takeWhile isSpace := by
  have hcolon : isSpace ':' = false := by decide
  fun_induction collapseAfterColon t with
  | case1 => rfl
  | case2 c r h =>
    rw [h.1]
    simp [hcolon]
  | case3 c r h ih => simp [List.takeWhile_cons, ih]

@[simp] theorem head?_collapseAfterColon (t : Text) : (collapseAfterColon t).head? = t.head? := by
  unfold collapseAfterColon
  split
  · rfl
  · split_ifs with h
    · rw [h.1]
      rfl
    · rfl

theorem noGapAfterColon_collapseAfterColon (t : Text) : NoGapAfterColon (collapseAfterColon t) := by
  intro q hq
  fun_induction collapseAfterColon t with
  | case1 => simp at hq
  | case2 c r h ih =>
    rcases List.suffix_cons_iff.1 hq with heq | hq
    · cases heq
      have hnone : (collapseAfterColon (r.dropWhile isSpace)).takeWhile isSpace = [] := by
        rw [takeWhile_isSpace_collapseAfterColon, takeWhile_eq_nil (head?_dropWhile isSpace r)]
      simp [hnone, show isSpace ' ' = true by decide]
    · rcases List.suffix_cons_iff.1 hq with heq | hq
      · cases heq
      · exact ih hq
  | case3 c r h ih =>
    rcases List.suffix_cons_iff.1 hq with heq | hq
    · cases heq
      rw [takeWhile_isSpace_collapseAfterColon]
      by_contra hlen
      exact h ⟨rfl, by omega⟩
    · exact ih hq

theorem collapseAfterColon_eq_self {t : Text} (h : NoGapAfterColon t) : collapseAfterColon t = t := by
  induction t with
  | nil => simp [collapseAfterColon]
  | cons c r ih =>
    rw [collapseAfterColon, if_neg, ih]
    · exact fun q hq => h q (hq.trans (List.suffix_cons c r))
    · rintro ⟨rfl, hlen⟩
      have := h r (List.suffix_refl _)
      omega

theorem noSpaceRun_collapseAfterColon {t : Text} (h : NoSpaceRun t) :
    NoSpaceRun (collapseAfterColon t) := by
  unfold NoSpaceRun at h ⊢
  fun_induction collapseAfterColon t with
  | case1 => exact .nil
  | case2 c r hc ih =>
    have hr : (r.dropWhile isSpace).IsChain fun c d => ¬(c = ' ' ∧ d = ' ') :=
      (List.isChain_cons.1 h).2.suffix (List.dropWhile_suffix isSpace)
    rw [List.isChain_cons, List.isChain_cons]
    refine ⟨fun d _ hd => absurd hd.1 (by decide), fun d hd hsp => ?_, ih hr⟩
    rw [head?_collapseAfterColon] at hd
    have := head?_dropWhile isSpace r d hd
    rw [hsp.2] at this
    cases this
  | case3 c r hc ih =>
    rw [List.isChain_cons] at h ⊢
    rw [head?_collapseAfterColon]
    exact ⟨h.1, ih h.2⟩

end Respacing

/-! ### Brackets -/

namespace BracketPair

variable {b : BracketPair}

/-- On the way from a nesting count of `n` to zero every smaller count is reached inside. -/
theorem isSome_splitAtCloser_of_lt (hb : b.IsProper) {n e : Nat} {t inner rest : Text}
    (h : b.splitAtCloser n t = some (inner, rest)) (he : 1 ≤ e) (hen : e < n) :
    (b.splitAtCloser e inner).isSome := by
  induction t generalizing n e inner with
  | nil => simp [splitAtCloser] at h
  | cons c r ih =>
    unfold splitAtCloser at h
    split_ifs at h with ho hc hn
    · obtain ⟨⟨i, s⟩, hi, heq⟩ := Option.map_eq_some_iff.1 h
      cases heq
      simpa [splitAtCloser, ho] using ih hi (by omega : 1 ≤ e + 1) (by omega)
    · omega
    · obtain ⟨⟨i, s⟩, hi, heq⟩ := Option.map_eq_some_iff.1 h
      cases heq
      by_cases he1 : e ≤ 1
      · simp [splitAtCloser, hc, hb.ne.symm, he1]
      · simpa [splitAtCloser, hc, hb.ne.symm, he1] using ih hi (by omega : 1 ≤ e - 1) (by omega)
    · obtain ⟨⟨i, s⟩, hi, heq⟩ := Option.map_eq_some_iff.1 h
      cases heq
      simpa [splitAtCloser, ho, hc] using ih hi he hen

/-- What a bracket holds is balanced: every opener in it is closed in it. -/
theorem isSome_splitAtCloser_of_inner (hb : b.IsProper) {n : Nat} {t inner rest r : Text}
    (hn : 1 ≤ n) (h : b.splitAtCloser n t = some (inner, rest)) (hr : b.opener :: r <:+ inner) :
    (b.splitAtCloser 1 r).isSome := by
  induction t generalizing n inner with
  | nil => simp [splitAtCloser] at h
  | cons c t ih =>
    unfold splitAtCloser at h
    split_ifs at h with ho hc hle
    · obtain ⟨⟨i, s⟩, hi, heq⟩ := Option.map_eq_some_iff.1 h
      cases heq
      rcases List.suffix_cons_iff.1 hr with heq | hr
      · cases heq
        exact isSome_splitAtCloser_of_lt hb hi le_rfl (by omega)
      · exact ih (by omega) hi hr
    · cases h
      simp at hr
    · obtain ⟨⟨i, s⟩, hi, heq⟩ := Option.map_eq_some_iff.1 h
      cases heq
      rcases List.suffix_cons_iff.1 hr with heq | hr
      · cases heq
        exact absurd rfl ho
      · exact ih (by omega) hi hr
    · obtain ⟨⟨i, s⟩, hi, heq⟩ := Option.map_eq_some_iff.1 h
      cases heq
      rcases List.suffix_cons_iff.1 hr with heq | hr
      · cases heq
        exact absurd rfl ho
      · exact ih hn hi hr

theorem padded?_eq_none_of_head? {r : Text} (h : r.head? ≠ some ' ') : b.padded? r = none := by
  rw [padded?, if_neg h]

/-- Inside a padded bracket no padded bracket is left by trimming. Since the inside is balanced, a
padded bracket in it would be closed in it. -/
theorem head?_ne_space_of_inner (hb : b.IsProper) {t inner rest r w : Text}
    (h : b.splitAtCloser 1 t = some (inner, rest)) (hno : b.NoPadded (b.trim inner))
    (hr : b.opener :: (r ++ w) <:+ b.trim inner) : (r ++ w).head? ≠ some ' ' := by
  intro hhead
  have hsp : ∃ d ∈ (r ++ w).head?, isSpace d = true := ⟨' ', hhead, by decide⟩
  obtain ⟨r', hr', hrr⟩ := (tightened_trim hb inner).suffix_of_space hr hsp
  have hsome := isSome_splitAtCloser_of_inner hb le_rfl h hr'
  rw [← isSome_splitAtCloser_congr hb hrr.visible_eq] at hsome
  have hnone := hno _ hr
  rw [padded?, if_pos hhead] at hnone
  rw [hnone] at hsome
  cases hsome

theorem noPadded_trim (hb : b.IsProper) (t : Text) : b.NoPadded (b.trim t) := by
  have hne : ∀ {c : Char}, isSpace c = false → some c ≠ some ' ' := by
    rintro c hc h
    cases h
    cases hc
  fun_induction b.trim t with
  | case1 =>
    intro r hr
    simp at hr
  | case2 r inner rest h _ ih₁ ih₂ =>
    have hsplit : b.splitAtCloser 1 r = some (inner, rest) := by
      unfold padded? at h
      split_ifs at h
      exact h
    obtain ⟨u, w, htrim, -, hw⟩ := exists_eq_append_trim_append isSpace (b.trim inner)
    intro q hq
    rcases List.suffix_cons_iff.1 hq with heq | hq
    · -- the bracket itself, which is padded no more
      cases heq
      apply padded?_eq_none_of_head?
      cases hs : strip (b.trim inner) with
      | nil => exact hne hb.closer
      | cons c s => exact hne ((isTrimmed_trim isSpace _).head c (by rw [← strip, hs]; rfl))
    · rcases List.suffix_or_suffix_of_suffix hq (List.suffix_append _ _) with hq' | ⟨x, hx⟩
      · -- a bracket behind the closer
        rcases List.suffix_cons_iff.1 hq' with heq | hq'
        · exact absurd (List.cons.inj heq).1 hb.ne
        · exact ih₂ q hq'
      · cases x with
        | nil => exact absurd (List.cons.inj hx).1.symm hb.ne
        | cons o x =>
          -- a bracket inside, read with the white space that was stripped
          cases hx
          have hx : b.opener :: x <:+ strip (b.trim inner) := List.suffix_append_self_iff.1 hq
          have hin : b.opener :: (x ++ w) <:+ b.trim inner := by
            rw [htrim]
            exact (List.suffix_append_self_iff.2 hx).trans (List.suffix_append u _)
          have hhead := head?_ne_space_of_inner hb hsplit ih₁ hin
          apply padded?_eq_none_of_head?
          cases x with
          | nil => exact hne hb.closer
          | cons c x => exact hhead
  | case3 r h ih =>
    intro q hq
    rcases List.suffix_cons_iff.1 hq with heq | hq
    · -- an opener that was not padded is not padded once less white space follows
      cases heq
      by_contra hsome
      have := (tightened_trim hb r).padded?_isSome hb (Option.isSome_iff_ne_none.2 hsome)
      rw [h] at this
      cases this
    · exact ih q hq
  | case4 c r hc ih =>
    intro q hq
    rcases List.suffix_cons_iff.1 hq with heq | hq
    · cases heq
      exact absurd rfl hc
    · exact ih q hq

theorem trim_eq_self {t : Text} (h : b.NoPadded t) : b.trim t = t := by
  induction t with
  | nil => simp [trim]
  | cons c r ih =>
    have hr : b.NoPadded r := fun q hq => h q (hq.trans (List.suffix_cons c r))
    rw [trim]
    split_ifs with hc
    · have hnone : b.padded? r = none := h r (hc ▸ List.suffix_refl _)
      split
      · rename_i hsome
        rw [hnone] at hsome
        cases hsome
      · rw [ih hr]
    · rw [ih hr]

end BracketPair

/-! ### Edge labels -/

namespace Respacing

theorem splitAtPipe_eq_none_iff {t : Text} : splitAtPipe t = none ↔ '|' ∉ t := by
  induction t with
  | nil => simp [splitAtPipe]
  | cons c r ih =>
    unfold splitAtPipe
    split_ifs with hc
    · simp [hc]
    · simp [ih, Ne.symm hc]

theorem head?_trimLabel_append (label rest : Text) :
    (trimLabel label ++ '|' :: rest).head? ≠ some ' ' := by
  unfold trimLabel
  split_ifs with h
  · cases hs : strip label with
    | nil => simp
    | cons c r =>
      have := (isTrimmed_trim isSpace label).head c (by rw [← strip, hs]; rfl)
      rintro ⟨⟩
      cases this
  · cases label with
    | nil => simp
    | cons c r => exact h

theorem pipe_not_mem_trimLabel {label : Text} (h : '|' ∉ label) : '|' ∉ trimLabel label := by
  unfold trimLabel
  split_ifs
  · exact fun hm => h (mem_of_mem_trim hm)
  · exact h

/-- A pipe of a text whose first pipe is known is that one or stands behind it. -/
theorem eq_or_exists_of_append_pipe {u v x y : Text} (h : u ++ '|' :: v = x ++ '|' :: y)
    (hu : '|' ∉ u) : x = u ∧ y = v ∨ ∃ m, x = u ++ '|' :: m ∧ v = m ++ '|' :: y := by
  rcases List.append_eq_append_iff.1 h with ⟨m, hx, hv⟩ | ⟨m, hu', hy⟩
  · cases m with
    | nil => exact .inl ⟨by simpa using hx, (List.cons.inj hv).2.symm⟩
    | cons c m =>
      obtain ⟨rfl, rfl⟩ := List.cons.inj hv
      exact .inr ⟨m, hx, rfl⟩
  · cases m with
    | nil => exact .inl ⟨by simpa using hu'.symm, (List.cons.inj hy).2⟩
    | cons c m =>
      obtain ⟨rfl, -⟩ := List.cons.inj hy
      exact absurd (hu' ▸ by simp) hu

theorem noPaddedLabel_trimEdgeLabels (t : Text) : NoPaddedLabel (trimEdgeLabels t) := by
  fun_induction trimEdgeLabels t with
  | case1 t h =>
    rintro before r rfl - -
    exact absurd (splitAtPipe_eq_none_iff.1 h) (by simp)
  | case2 t before r h h' =>
    obtain ⟨rfl, hbefore⟩ := eq_append_of_splitAtPipe h
    have hr := splitAtPipe_eq_none_iff.1 h'
    -- the only pipe has no pipe behind it
    intro x y heq _ hmem
    rcases eq_or_exists_of_append_pipe heq hbefore with ⟨-, rfl⟩ | ⟨m, -, rfl⟩
    · exact absurd hmem hr
    · simp at hr
  | case3 t before r h label rest h' _ _ ih =>
    obtain ⟨rfl, hbefore⟩ := eq_append_of_splitAtPipe h
    obtain ⟨rfl, hlabel⟩ := eq_append_of_splitAtPipe h'
    intro x y heq heven hmem
    rcases eq_or_exists_of_append_pipe heq hbefore with ⟨-, rfl⟩ | ⟨m, rfl, hm⟩
    · exact head?_trimLabel_append label _
    · have hcount : before.count '|' = 0 := List.count_eq_zero.2 hbefore
      have hcount' := List.count_eq_zero.2 (pipe_not_mem_trimLabel hlabel)
      rcases eq_or_exists_of_append_pipe hm (pipe_not_mem_trimLabel hlabel) with
        ⟨rfl, -⟩ | ⟨m', rfl, hm'⟩
      · simp [hcount, hcount'] at heven
      · refine ih m' y hm' ?_ hmem
        simpa [hcount, hcount', Nat.even_add_one] using heven

theorem trimEdgeLabels_eq_self {t : Text} (h : NoPaddedLabel t) : trimEdgeLabels t = t := by
  fun_induction trimEdgeLabels t with
  | case1 t _ => rfl
  | case2 t before r _ _ => rfl
  | case3 t before r hb label rest hl _ _ ih =>
    obtain ⟨rfl, hbefore⟩ := eq_append_of_splitAtPipe hb
    obtain ⟨rfl, hlabel⟩ := eq_append_of_splitAtPipe hl
    have hcount : before.count '|' = 0 := List.count_eq_zero.2 hbefore
    have hcount' : label.count '|' = 0 := List.count_eq_zero.2 hlabel
    have hrest : NoPaddedLabel rest := by
      rintro x y rfl heven hmem
      refine h (before ++ '|' :: (label ++ '|' :: x)) y (by simp) ?_ hmem
      simpa [hcount, hcount', Nat.even_add_one] using heven
    have hhead : label.head? ≠ some ' ' := by
      have := h before _ rfl (by simp [hcount]) (by simp)
      cases label with
      | nil => simp
      | cons c r => exact this
    rw [ih hrest, trimLabel, if_neg hhead]

/-! ### Normal form -/

/-- What tightening keeps is kept by the trimming of brackets, pair after pair. -/
theorem foldl_trim_of_tightened {P : Text → Prop} (hP : ∀ {s t}, Tightened s t → P t → P s)
    {pairs : List BracketPair} (hpairs : ∀ b ∈ pairs, b.IsProper) {t : Text} (ht : P t) :
    P (pairs.foldl (fun s b => b.trim s) t) := by
  induction pairs generalizing t with
  | nil => exact ht
  | cons b pairs ih =>
    refine ih (fun b' hb' => hpairs b' (List.mem_cons_of_mem b hb')) ?_
    exact hP (BracketPair.tightened_trim (hpairs b List.mem_cons_self) t) ht

theorem noPadded_foldl_trim {pairs : List BracketPair} (hpairs : ∀ b ∈ pairs, b.IsProper) (t : Text) :
    ∀ b ∈ pairs, b.NoPadded (pairs.foldl (fun s b => b.trim s) t) := by
  induction pairs generalizing t with
  | nil => simp
  | cons b pairs ih =>
    have hb := hpairs b List.mem_cons_self
    have hrest : ∀ b' ∈ pairs, b'.IsProper := fun b' hb' => hpairs b' (List.mem_cons_of_mem b hb')
    intro b' hb'
    rcases List.mem_cons.1 hb' with rfl | hb'
    · exact foldl_trim_of_tightened (fun h => h.noPadded hb) hrest (BracketPair.noPadded_trim hb t)
    · exact ih hrest (b.trim t) b' hb'

theorem trimBrackets_of_tightened {P : Text → Prop} (hP : ∀ {s t}, Tightened s t → P t → P s)
    {t : Text} (ht : P t) : P (trimBrackets t) :=
  foldl_trim_of_tightened hP (fun _ => BracketPair.isProper_of_mem_standard) ht

/-- What tightening keeps is kept once runs are collapsed. -/
theorem normalize_of_tightened {P : Text → Prop} (hP : ∀ {s t}, Tightened s t → P t → P s) {t : Text}
    (ht : P (collapseAfterColon (collapseSpaces t))) : P (normalize t) :=
  hP (tightened_trimEdgeLabels _) (trimBrackets_of_tightened hP ht)

/-- **Normal spacing is reached.** -/
theorem isNormal_normalize (t : Text) : IsNormal (normalize t) where
  spaces := normalize_of_tightened Tightened.noSpaceRun
    (noSpaceRun_collapseAfterColon (noSpaceRun_collapseSpaces t))
  colons := normalize_of_tightened Tightened.noGapAfterColon (noGapAfterColon_collapseAfterColon _)
  brackets b hb :=
    (tightened_trimEdgeLabels _).noPadded (BracketPair.isProper_of_mem_standard hb)
      (noPadded_foldl_trim (fun _ => BracketPair.isProper_of_mem_standard) _ b hb)
  labels := noPaddedLabel_trimEdgeLabels _

theorem trimBrackets_eq_self {t : Text} (h : ∀ b ∈ BracketPair.standard, b.NoPadded t) :
    trimBrackets t = t := by
  unfold trimBrackets
  revert h
  induction BracketPair.standard with
  | nil => exact fun _ => rfl
  | cons b pairs ih =>
    intro h
    rw [List.foldl_cons, BracketPair.trim_eq_self (h b List.mem_cons_self)]
    exact ih fun b' hb' => h b' (List.mem_cons_of_mem b hb')

/-- **Normal spacing is left as it is.** -/
theorem normalize_eq_self {t : Text} (h : IsNormal t) : normalize t = t := by
  rw [normalize, collapseSpaces_eq_self h.spaces, collapseAfterColon_eq_self h.colons,
    trimBrackets_eq_self h.brackets, trimEdgeLabels_eq_self h.labels]

@[simp] theorem normalize_normalize (t : Text) : normalize (normalize t) = normalize t :=
  normalize_eq_self (isNormal_normalize t)

/-! ### What normal spacing keeps -/

theorem visible_collapseSpaces (t : Text) : visible (collapseSpaces t) = visible t := by
  fun_induction collapseSpaces t with
  | case1 => rfl
  | case2 c => rfl
  | case3 c d r h ih =>
    rw [ih, h.1, h.2]
    rfl
  | case4 c d r h ih => rw [visible_cons, ih, visible_cons c]

theorem visible_collapseAfterColon (t : Text) : visible (collapseAfterColon t) = visible t := by
  fun_induction collapseAfterColon t with
  | case1 => rfl
  | case2 c r h ih =>
    rw [visible_cons, visible_cons, ih, h.1, visible_dropWhile fun _ h => h]
    rfl
  | case3 c r h ih => rw [visible_cons, ih, visible_cons c]

/-- Normal spacing changes white space only. -/
@[simp] theorem visible_normalize (t : Text) : visible (normalize t) = visible t := by
  have hP : ∀ {s t' : Text}, Tightened s t' → visible t' = visible t → visible s = visible t :=
    fun h ht => h.visible_eq.trans ht
  refine normalize_of_tightened hP ?_
  rw [visible_collapseAfterColon, visible_collapseSpaces]

@[simp] theorem head?_normalize (t : Text) : (normalize t).head? = t.head? := by
  have hP : ∀ {s t' : Text}, Tightened s t' → t'.head? = t.head? → s.head? = t.head? :=
    fun h ht => h.head?_eq.trans ht
  refine normalize_of_tightened hP ?_
  rw [head?_collapseAfterColon, head?_collapseSpaces]

@[simp] theorem normalize_eq_nil_iff {t : Text} : normalize t = [] ↔ t = [] := by
  rw [← List.head?_eq_none_iff, head?_normalize, List.head?_eq_none_iff]

theorem collapseSpaces_subset (t : Text) : collapseSpaces t ⊆ t := by
  fun_induction collapseSpaces t with
  | case1 => exact List.Subset.refl _
  | case2 c => exact List.Subset.refl _
  | case3 c d r _ ih => exact List.Subset.trans ih (List.subset_cons_self c (d :: r))
  | case4 c d r _ ih => exact List.cons_subset_cons c ih

theorem collapseAfterColon_subset (t : Text) : collapseAfterColon t ⊆ ' ' :: t := by
  fun_induction collapseAfterColon t with
  | case1 => simp
  | case2 c r h ih =>
    rw [h.1]
    intro d hd
    rcases List.mem_cons.1 hd with rfl | hd
    · simp
    · have hmem := List.Subset.trans ih
        (List.cons_subset_cons ' ' (List.dropWhile_sublist isSpace).subset)
      rcases List.mem_cons.1 hd with rfl | hd
      · simp
      · rcases List.mem_cons.1 (hmem hd) with h | h <;> simp [h]
  | case3 c r _ ih =>
    intro d hd
    rcases List.mem_cons.1 hd with rfl | hd
    · simp
    · rcases List.mem_cons.1 (ih hd) with h | h <;> simp [h]

/-- No characters but spaces come in. -/
theorem normalize_subset (t : Text) : normalize t ⊆ ' ' :: t := by
  have hP : ∀ {s t' : Text}, Tightened s t' → t' ⊆ ' ' :: t → s ⊆ ' ' :: t :=
    fun h ht => List.Subset.trans h.subset ht
  exact normalize_of_tightened hP (List.Subset.trans (collapseAfterColon_subset _)
    (List.cons_subset_cons ' ' (collapseSpaces_subset t)))

theorem getLast?_collapseSpaces (t : Text) : (collapseSpaces t).getLast? = t.getLast? := by
  fun_induction collapseSpaces t with
  | case1 => rfl
  | case2 c => rfl
  | case3 c d r h ih => rw [ih, List.getLast?_cons_cons]
  | case4 c d r h ih =>
    have hne : collapseSpaces (d :: r) ≠ [] := by
      intro hn
      have := head?_collapseSpaces (d :: r)
      rw [hn] at this
      cases this
    rw [List.getLast?_cons_of_ne_nil hne, ih, List.getLast?_cons_cons]

theorem getLast?_collapseAfterColon {t : Text} (h : ∀ c ∈ t.getLast?, isSpace c = false) :
    (collapseAfterColon t).getLast? = t.getLast? := by
  fun_induction collapseAfterColon t with
  | case1 => rfl
  | case2 c r hc ih =>
    obtain ⟨hcr, hrun⟩ := hc
    have hr : r ≠ [] := by
      rintro rfl
      simp at hrun
    rw [List.getLast?_cons_of_ne_nil hr] at h ⊢
    have hne := dropWhile_ne_nil hr h
    have hsame := getLast?_dropWhile hne
    have hne' : collapseAfterColon (r.dropWhile isSpace) ≠ [] := by
      rw [Ne, ← List.head?_eq_none_iff, head?_collapseAfterColon, List.head?_eq_none_iff]
      exact hne
    rw [List.getLast?_cons_cons, List.getLast?_cons_of_ne_nil hne', ih (hsame ▸ h), hsame]
  | case3 c r hc ih =>
    by_cases hr : r = []
    · simp [hr, collapseAfterColon]
    · have hne : collapseAfterColon r ≠ [] := by
        rw [Ne, ← List.head?_eq_none_iff, head?_collapseAfterColon, List.head?_eq_none_iff]
        exact hr
      rw [List.getLast?_cons_of_ne_nil hr] at h ⊢
      rw [List.getLast?_cons_of_ne_nil hne, ih h]

/-- A visible character at the end stays there. -/
theorem getLast?_normalize {t : Text} (h : ∀ c ∈ t.getLast?, isSpace c = false) :
    (normalize t).getLast? = t.getLast? := by
  have hP : ∀ {s t' : Text}, Tightened s t' → t'.getLast? = t.getLast? → s.getLast? = t.getLast? :=
    fun hs ht => (hs.getLast?_eq (ht ▸ h)).trans ht
  refine normalize_of_tightened hP ?_
  rw [getLast?_collapseAfterColon, getLast?_collapseSpaces]
  rw [getLast?_collapseSpaces]
  exact h

/-! ### Inert characters -/

/-- Characters that no rule of spacing looks at. -/
def isInert (c : Char) : Bool := !([' ', ':', '|', '[', '(', '\x7b'].contains c)

theorem collapseSpaces_cons {c : Char} (hc : c ≠ ' ') (t : Text) :
    collapseSpaces (c :: t) = c :: collapseSpaces t := by
  cases t with
  | nil => rfl
  | cons d r => rw [collapseSpaces, if_neg fun h => hc h.1]

theorem collapseSpaces_space_cons (t : Text) :
    collapseSpaces (' ' :: t) = ' ' :: collapseSpaces (t.dropWhile (· == ' ')) := by
  induction t with
  | nil => rfl
  | cons d r ih =>
    rw [collapseSpaces]
    by_cases hd : d = ' '
    · subst hd
      rw [if_pos ⟨rfl, rfl⟩, ih]
      rfl
    · rw [if_neg fun h => hd h.2, List.dropWhile_cons_of_neg (by simpa using hd)]

theorem trimBrackets_cons {c : Char} (hc : ∀ b ∈ BracketPair.standard, c ≠ b.opener) (t : Text) :
    trimBrackets (c :: t) = c :: trimBrackets t := by
  unfold trimBrackets
  revert hc
  induction BracketPair.standard generalizing t with
  | nil => exact fun _ => rfl
  | cons b pairs ih =>
    intro hc
    have hstep : b.trim (c :: t) = c :: b.trim t := by
      rw [BracketPair.trim, if_neg (hc b List.mem_cons_self)]
    rw [List.foldl_cons, List.foldl_cons, hstep]
    exact ih (b.trim t) fun b' hb' => hc b' (List.mem_cons_of_mem b hb')

theorem trimEdgeLabels_of_none {t : Text} (h : splitAtPipe t = none) : trimEdgeLabels t = t := by
  rw [trimEdgeLabels]
  split
  · rfl
  · simp_all

theorem trimEdgeLabels_of_some {t before r : Text} (h : splitAtPipe t = some (before, r)) :
    trimEdgeLabels t = match splitAtPipe r with
      | none => t
      | some (label, rest) => before ++ '|' :: (trimLabel label ++ '|' :: trimEdgeLabels rest) := by
  rw [trimEdgeLabels]
  split
  · simp_all
  · rename_i h'
    cases h.symm.trans h'
    split <;> simp_all

theorem trimEdgeLabels_cons {c : Char} (hc : c ≠ '|') (t : Text) :
    trimEdgeLabels (c :: t) = c :: trimEdgeLabels t := by
  cases h : splitAtPipe t with
  | none =>
    have hnone : splitAtPipe (c :: t) = none := by simp [splitAtPipe, hc, h]
    rw [trimEdgeLabels_of_none h, trimEdgeLabels_of_none hnone]
  | some p =>
    have hsome : splitAtPipe (c :: t) = some (c :: p.1, p.2) := by simp [splitAtPipe, hc, h]
    rw [trimEdgeLabels_of_some h, trimEdgeLabels_of_some hsome]
    cases splitAtPipe p.2 <;> rfl

/-- An inert character stays in front of a text in normal spacing. -/
theorem normalize_cons_of_isInert {c : Char} (hc : isInert c = true) (t : Text) :
    normalize (c :: t) = c :: normalize t := by
  simp only [isInert, List.contains_cons, List.contains_nil, Bool.or_false, Bool.not_eq_true',
    Bool.or_eq_false_iff, beq_eq_false_iff_ne] at hc
  obtain ⟨hspace, hcolon, hpipe, hb₁, hb₂, hb₃⟩ := hc
  have hbrackets : ∀ b ∈ BracketPair.standard, c ≠ b.opener := by
    simp [BracketPair.standard, hb₁, hb₂, hb₃]
  rw [normalize, normalize, collapseSpaces_cons hspace, collapseAfterColon,
    if_neg fun h => hcolon h.1, trimBrackets_cons hbrackets, trimEdgeLabels_cons hpipe]

theorem normalize_append_of_isInert {k : Text} (hk : ∀ c ∈ k, isInert c = true) (t : Text) :
    normalize (k ++ t) = k ++ normalize t := by
  induction k with
  | nil => rfl
  | cons c k ih =>
    rw [List.cons_append, normalize_cons_of_isInert (hk c List.mem_cons_self),
      ih fun d hd => hk d (List.mem_cons_of_mem c hd), List.cons_append]

/-- Inert characters in front of a text in normal spacing were there before. -/
theorem exists_of_normalize_eq_append {k t r : Text} (hk : ∀ c ∈ k, isInert c = true)
    (h : normalize t = k ++ r) : ∃ r', t = k ++ r' ∧ r = normalize r' := by
  induction k generalizing t with
  | nil => exact ⟨t, rfl, h.symm⟩
  | cons c k ih =>
    have hhead := head?_normalize t
    rw [h] at hhead
    cases t with
    | nil => cases hhead
    | cons d s =>
      cases hhead
      rw [normalize_cons_of_isInert (hk c List.mem_cons_self)] at h
      obtain ⟨r', rfl, hr'⟩ := ih (fun d hd => hk d (List.mem_cons_of_mem c hd)) (List.cons.inj h).2
      exact ⟨r', rfl, hr'⟩

/-- A normal text without special characters was normal before. -/
theorem normalize_eq_self_of_isInert {t : Text} (h : ∀ c ∈ normalize t, isInert c = true) :
    normalize t = t := by
  obtain ⟨r, ht, hr⟩ := exists_of_normalize_eq_append h (List.append_nil (normalize t)).symm
  rw [normalize_eq_nil_iff.1 hr.symm, List.append_nil] at ht
  exact ht.symm

/-- Of the spaces in front of a text one is kept. -/
theorem normalize_space_cons (t : Text) :
    normalize (' ' :: t) = ' ' :: normalize (t.dropWhile (· == ' ')) := by
  rw [normalize, normalize, collapseSpaces_space_cons, collapseAfterColon,
    if_neg fun h => absurd h.1 (by decide),
    trimBrackets_cons (by simp [BracketPair.standard]), trimEdgeLabels_cons (by decide)]

/-- Two colons at the start neither come about nor go away. -/
theorem isPrefixOf_colons_normalize (t : Text) :
    [':', ':'].isPrefixOf (normalize t) = [':', ':'].isPrefixOf t := by
  have hcolons : ∀ {u : Text}, [':', ':'].isPrefixOf u = true ↔
      u.head? = some ':' ∧ u.tail.head? = some ':' := by
    intro u
    rcases u with _ | ⟨a, _ | ⟨b, u⟩⟩ <;> simp [@eq_comm Char ':']
  rw [Bool.eq_iff_iff, hcolons, hcolons, head?_normalize]
  refine and_congr_right fun hhead => ?_
  obtain ⟨r, rfl⟩ := List.head?_eq_some_iff.1 hhead
  have htight : ∀ v : Text, (trimEdgeLabels (trimBrackets v)).head? = v.head? := fun v =>
    (tightened_trimEdgeLabels _).head?_eq.trans (trimBrackets_of_tightened
      (P := fun s => s.head? = v.head?) (fun h ht => h.head?_eq.trans ht) rfl)
  rw [normalize, collapseSpaces_cons (by decide), collapseAfterColon]
  split_ifs with h <;>
    rw [trimBrackets_cons (by simp [BracketPair.standard]), trimEdgeLabels_cons (by decide),
      List.tail_cons, htight, List.tail_cons]
  · -- The run behind the colon starts with white space, before and after.
    have hr : r.head? ≠ some ':' := by
      intro hr
      rw [← head?_collapseSpaces] at hr
      obtain ⟨v, hv⟩ := List.head?_eq_some_iff.1 hr
      rw [hv, List.takeWhile_cons_of_neg (by decide)] at h
      exact absurd h.2 (by simp)
    simp [hr]
  · rw [head?_collapseAfterColon, head?_collapseSpaces]

end Respacing

end MermaidTidy
