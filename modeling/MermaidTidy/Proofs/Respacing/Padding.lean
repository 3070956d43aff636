import Mathlib.Tactic
import MermaidTidy.Proofs.Respacing.Normal

/-!
# Padding by places

Trimming of brackets goes through a text from left to right and into the brackets that it finds. What
it removes can be said of the places of the whole text at once.

* `Text.without p` is the text without the characters at the places `p`;
* `BracketPair.nesting` is the nesting count from one place to another;
* `BracketPair.IsPadded b t i j` says that a padded bracket stands at `i` and its closer at `j`, and
  `isPadded_iff` that this is the bracket `padded?` finds;
* `BracketPair.IsPadding b t k` says that the white space at `k` lies next to a padded bracket or to
  its closer;
* `trim_eq_without`: trimming removes the padding, and nothing else.

What a bracket holds is balanced, so that a bracket in it has the same closer there and in the whole
text (`isPadded_inner_iff`).
-/

namespace MermaidTidy

open Text

/-! ### Texts without some places -/

namespace Text

/-- The text without the characters at the places `p`. -/
def without (p : Nat → Prop) [DecidablePred p] (t : Text) : Text :=
  (t.zipIdx.filter fun e => ¬p e.2).map Prod.fst

variable {p q : Nat → Prop} [DecidablePred p] [DecidablePred q] {s t : Text}

@[simp] theorem without_nil : without p [] = [] := rfl

theorem without_append (p : Nat → Prop) [DecidablePred p] (s t : Text) :
    without p (s ++ t) = without p s ++ without (fun k => p (s.length + k)) t := by
  have hshift : t.zipIdx s.length = t.zipIdx.map fun e => (e.1, s.length + e.2) := by
    rw [List.zipIdx_eq_map_add]
  unfold without
  rw [List.zipIdx_append, Nat.zero_add, hshift, List.filter_append, List.map_append, List.filter_map,
    List.map_map]
  rfl

theorem without_cons (p : Nat → Prop) [DecidablePred p] (c : Char) (t : Text) :
    without p (c :: t) = (if p 0 then [] else [c]) ++ without (fun k => p (k + 1)) t := by
  have hsingle : without p [c] = if p 0 then [] else [c] := by
    by_cases h : p 0
    · simp [without, h]
    · simp [without, h]
  rw [← hsingle, ← List.singleton_append, without_append]
  simp only [List.length_singleton, Nat.add_comm 1]

theorem without_congr (h : ∀ k < t.length, p k ↔ q k) : without p t = without q t := by
  unfold without
  congr 1
  refine List.filter_congr fun e he => ?_
  simp only [h e.2 (List.snd_lt_of_mem_zipIdx he)]

theorem without_eq_nil (h : ∀ k < t.length, p k) : without p t = [] := by
  rw [without, List.map_eq_nil_iff, List.filter_eq_nil_iff]
  intro e he
  simpa using h e.2 (List.snd_lt_of_mem_zipIdx he)

theorem mem_of_mem_without {c : Char} (h : c ∈ without p t) : c ∈ t := by
  obtain ⟨e, he, rfl⟩ := List.mem_map.1 h
  exact List.fst_mem_of_mem_zipIdx (List.mem_of_mem_filter he)

/-- A character that is no white space stays where only white space goes. -/
theorem isTrimmed_without (hp : ∀ k, p k → ∀ c ∈ t[k]?, isSpace c = true) (ht : IsTrimmed isSpace t) :
    IsTrimmed isSpace (without p t) := by
  have hkeep {k : Nat} {c : Char} (hc : t[k]? = some c) (hsp : isSpace c = false) : ¬p k := fun hk => by
    rw [hp k hk c hc] at hsp
    cases hsp
  rcases eq_or_ne t [] with rfl | hne
  · exact ⟨by simp, by simp⟩
  constructor
  · obtain ⟨c, r, rfl⟩ := List.exists_cons_of_ne_nil hne
    have hc : isSpace c = false := ht.head c rfl
    rw [without_cons, if_neg (hkeep (k := 0) rfl hc)]
    simpa using hc
  · obtain ⟨r, c, rfl⟩ := List.eq_nil_or_concat t |>.resolve_left hne
    rw [List.concat_eq_append] at hkeep ht ⊢
    have hc : isSpace c = false := ht.last c (by simp)
    have hlast : ¬p (r.length + 0) := hkeep (by simp) hc
    rw [without_append, without_cons, if_neg hlast]
    simpa using hc

/-- Around a text that starts and ends with visible characters, there is one of them up to every place
in it, and one from there on. -/
theorem not_white_of_isTrimmed {u m v : Text} (hm : IsTrimmed isSpace m) {k : Nat} (hk : k < m.length) :
    (¬∀ c ∈ (u ++ (m ++ v)).take (u.length + k + 1), isSpace c = true) ∧
      ¬∀ c ∈ (u ++ (m ++ v)).drop (u.length + k), isSpace c = true := by
  have hne : m ≠ [] := List.ne_nil_of_length_pos (by omega)
  constructor
  · intro hwhite
    obtain ⟨c, m, rfl⟩ := List.exists_cons_of_ne_nil hne
    have hc := hwhite c (by
      rw [Nat.add_assoc, List.take_length_add_append]
      simp)
    rw [hm.head c rfl] at hc
    cases hc
  · intro hwhite
    obtain ⟨m, c, rfl⟩ := (List.eq_nil_or_concat m).resolve_left hne
    rw [List.concat_eq_append] at hwhite hm hk
    have hc := hwhite c (by
      rw [List.drop_length_add_append, List.append_assoc,
        List.drop_append_of_le_length (by simpa [Nat.lt_succ_iff] using hk)]
      simp)
    rw [hm.last c (by simp)] at hc
    cases hc

/-- Stripping removes the places in front of the first and behind the last visible character. -/
theorem strip_without (hp : ∀ k, p k → ∀ c ∈ t[k]?, isSpace c = true)
    (hq : ∀ k < t.length, q k ↔
      ((∀ c ∈ t.take (k + 1), isSpace c = true) ∨ ∀ c ∈ t.drop k, isSpace c = true) ∨ p k) :
    strip (without p t) = without q t := by
  obtain ⟨u, v, ht, hu, hv⟩ := exists_eq_append_trim_append isSpace t
  have hm := isTrimmed_trim isSpace t
  generalize trim isSpace t = m at ht hm
  subst ht
  have hpm : ∀ k, p (u.length + k) → ∀ c ∈ m[k]?, isSpace c = true := by
    intro k hk c hc
    refine hp _ hk c ?_
    have hlt : k < m.length := (List.getElem?_eq_some_iff.1 hc).1
    simpa [List.getElem?_append_right, List.getElem?_append_left hlt] using hc
  have hfront : without q u = [] := by
    refine without_eq_nil fun k hk => (hq k (by simp; omega)).2 (.inl (.inl fun c hc => ?_))
    rw [List.take_append_of_le_length (by omega)] at hc
    exact hu c (List.mem_of_mem_take hc)
  have hback : without (fun k => q (u.length + (m.length + k))) v = [] := by
    refine without_eq_nil fun k hk => (hq _ (by simp; omega)).2 (.inl (.inr fun c hc => ?_))
    rw [List.drop_length_add_append, List.drop_length_add_append] at hc
    exact hv c (List.mem_of_mem_drop hc)
  have hmiddle : without (fun k => q (u.length + k)) m = without (fun k => p (u.length + k)) m := by
    refine without_congr fun k hk => ?_
    obtain ⟨htake, hdrop⟩ := not_white_of_isTrimmed (u := u) (v := v) hm hk
    rw [hq _ (by simp; omega), or_iff_right (not_or.2 ⟨htake, hdrop⟩)]
  rw [without_append, without_append, without_append, without_append, hfront, hmiddle, hback,
    strip, trim_append_left fun c hc => hu c (mem_of_mem_without hc),
    trim_append_right fun c hc => hv c (mem_of_mem_without hc), (isTrimmed_without hpm hm).trim_eq]
  simp

end Text

/-! ### Nesting counts -/

namespace BracketPair

variable {b : BracketPair} {t r : Text}

/-- Openers less closers. -/
def net (b : BracketPair) (t : Text) : Int := t.count b.opener - t.count b.closer

/-- The nesting count that starts at the place `i`, behind the place `j`. -/
def nesting (b : BracketPair) (t : Text) (i j : Nat) : Int := b.net (t.extract i (j + 1))

/-- A padded bracket stands at `i`, and `j` is the first place where the nesting count from it is
zero again. -/
def IsPadded (b : BracketPair) (t : Text) (i j : Nat) : Prop :=
  t[i]? = some b.opener ∧ t[i + 1]? = some ' ' ∧
    i < j ∧ b.nesting t i j = 0 ∧ ∀ k < j, i ≤ k → b.nesting t i k ≠ 0

/-- The place `k` lies inside a padded bracket, and there is nothing but white space between it and
the bracket or its closer. -/
def IsPadding (b : BracketPair) (t : Text) (k : Nat) : Prop :=
  ∃ i < k, ∃ j < t.length, b.IsPadded t i j ∧ k < j ∧
    ((∀ c ∈ t.extract (i + 1) (k + 1), isSpace c = true) ∨ ∀ c ∈ t.extract k j, isSpace c = true)

instance (b : BracketPair) (t : Text) (i j : Nat) : Decidable (b.IsPadded t i j) :=
  inferInstanceAs (Decidable (_ ∧ _ ∧ _ ∧ _ ∧ _))

instance (b : BracketPair) (t : Text) : DecidablePred (b.IsPadding t) :=
  fun k => inferInstanceAs (Decidable (∃ i < k, _))

@[simp] theorem net_nil (b : BracketPair) : b.net [] = 0 := rfl

/-- The nesting count behind a character. -/
def countAfter (b : BracketPair) (n : Nat) (c : Char) : Nat :=
  if c = b.opener then n + 1 else if c = b.closer then n - 1 else n

/-- The count goes on behind a character, unless it is zero there. -/
theorem splitAtCloser_cons {n : Nat} (hn : 1 ≤ n) (c : Char) (r : Text) :
    b.splitAtCloser n (c :: r) =
      if b.countAfter n c = 0 then some ([], r)
      else (b.splitAtCloser (b.countAfter n c) r).map fun p => (c :: p.1, p.2) := by
  rw [splitAtCloser, countAfter]
  by_cases ho : c = b.opener
  · rw [if_pos ho, if_pos ho, if_neg (by omega)]
  · rw [if_neg ho, if_neg ho]
    by_cases hc : c = b.closer
    · rw [if_pos hc, if_pos hc]
      by_cases hle : n ≤ 1
      · rw [if_pos hle, if_pos (by omega)]
      · rw [if_neg hle, if_neg (by omega)]
    · rw [if_neg hc, if_neg hc, if_neg (by omega)]

theorem net_cons (hb : b.IsProper) {n : Nat} (hn : 1 ≤ n) (c : Char) (t : Text) :
    n + b.net (c :: t) = b.countAfter n c + b.net t := by
  unfold net countAfter
  by_cases ho : c = b.opener
  · rw [ho, List.count_cons_self, List.count_cons_of_ne hb.ne, if_pos rfl]
    omega
  · rw [List.count_cons_of_ne ho, if_neg ho]
    by_cases hc : c = b.closer
    · rw [hc, List.count_cons_self, if_pos rfl]
      omega
    · rw [List.count_cons_of_ne hc, if_neg hc]

/-- The closer is where the nesting count is zero for the first time. -/
theorem length_splitAtCloser_iff (hb : b.IsProper) {n j : Nat} (hn : 1 ≤ n) :
    (b.splitAtCloser n r).map (·.1.length) = some j ↔
      n + b.net (r.take (j + 1)) = 0 ∧ ∀ k ≤ j, n + b.net (r.take k) ≠ 0 := by
  induction r generalizing n j with
  | nil =>
    simp only [splitAtCloser, Option.map_none, List.take_nil, net_nil, reduceCtorEq, false_iff]
    omega
  | cons c r ih =>
    have hnet (k : Nat) : n + b.net ((c :: r).take (k + 1)) = b.countAfter n c + b.net (r.take k) := by
      rw [List.take_succ_cons, net_cons hb hn]
    have hzero : (n : Int) + b.net ((c :: r).take 0) ≠ 0 := by
      rw [List.take_zero, net_nil]
      omega
    rw [splitAtCloser_cons hn]
    by_cases hc : b.countAfter n c = 0
    · -- this is the closer, so no later place is the first one
      rw [if_pos hc, Option.map_some, List.length_nil, Option.some.injEq, hnet, hc]
      constructor
      · rintro rfl
        refine ⟨rfl, fun k hk => ?_⟩
        rw [Nat.le_zero.1 hk]
        exact hzero
      · rintro ⟨-, hfirst⟩
        by_contra hj
        refine hfirst 1 (by omega) ?_
        rw [hnet, hc]
        rfl
    · rw [if_neg hc, Option.map_map, hnet]
      have hn' : 1 ≤ b.countAfter n c := Nat.one_le_iff_ne_zero.2 hc
      cases j with
      | zero =>
        simp only [Option.map_eq_some_iff, Function.comp_apply, List.length_cons, Nat.add_one_ne_zero,
          and_false, exists_false, List.take_zero, net_nil, false_iff]
        omega
      | succ j =>
        have hlength : (b.splitAtCloser (b.countAfter n c) r).map
            ((·.1.length) ∘ fun p => (c :: p.1, p.2)) = some (j + 1) ↔
              (b.splitAtCloser (b.countAfter n c) r).map (·.1.length) = some j := by
          simp
        rw [hlength, ih hn']
        refine and_congr_right fun _ => ⟨fun h k hk => ?_, fun h k hk => ?_⟩
        · cases k with
          | zero => exact hzero
          | succ k =>
            rw [hnet]
            exact h k (by omega)
        · rw [← hnet]
          exact h (k + 1) (by omega)

theorem nesting_eq (hb : b.IsProper) {i : Nat} (h : t.drop i = b.opener :: r) (k : Nat) :
    b.nesting t i (i + k) = 1 + b.net (r.take k) := by
  have hnet := net_cons hb le_rfl b.opener (r.take k)
  rw [countAfter, if_pos rfl] at hnet
  rw [nesting, List.extract_eq_take_drop, h, show i + k + 1 - i = k + 1 by omega, List.take_succ_cons]
  push_cast at hnet
  omega

theorem splitAtCloser_of_padded? {inner rest : Text} (h : b.padded? r = some (inner, rest)) :
    b.splitAtCloser 1 r = some (inner, rest) := by
  unfold padded? at h
  split_ifs at h
  exact h

/-- A padded bracket and its closer, as `padded?` finds them. -/
theorem isPadded_iff (hb : b.IsProper) {i j : Nat} :
    b.IsPadded t i j ↔ ∃ r inner rest, t.drop i = b.opener :: r ∧
      b.padded? r = some (inner, rest) ∧ j = i + inner.length + 1 := by
  constructor
  · rintro ⟨ho, hsp, hij, hzero, hfirst⟩
    have hr : t.drop i = b.opener :: t.drop (i + 1) := drop_eq_cons_iff.2 ⟨ho, rfl⟩
    obtain ⟨m, rfl⟩ := Nat.exists_eq_add_of_lt hij
    have hsplit : (b.splitAtCloser 1 (t.drop (i + 1))).map (·.1.length) = some m := by
      rw [length_splitAtCloser_iff hb le_rfl]
      refine ⟨?_, fun k hk => ?_⟩
      · rw [← hzero, Nat.add_assoc, nesting_eq hb hr]
        rfl
      · have := hfirst (i + k) (by omega) (by omega)
        rwa [nesting_eq hb hr] at this
    obtain ⟨⟨inner, rest⟩, hp, rfl⟩ := Option.map_eq_some_iff.1 hsplit
    refine ⟨_, inner, rest, hr, ?_, rfl⟩
    rw [padded?, List.head?_drop, if_pos hsp, hp]
  · rintro ⟨r, inner, rest, hr, hp, rfl⟩
    obtain ⟨ho, hnext⟩ := drop_eq_cons_iff.1 hr
    unfold padded? at hp
    split_ifs at hp with hsp
    rw [← hnext, List.head?_drop] at hsp
    obtain ⟨hzero, hfirst⟩ := (length_splitAtCloser_iff hb le_rfl (r := r) (j := inner.length)).1
      (by rw [hp]; rfl)
    refine ⟨ho, hsp, by omega, ?_, fun k hk hik => ?_⟩
    · rw [Nat.add_assoc, nesting_eq hb hr]
      exact hzero
    · obtain ⟨m, rfl⟩ := Nat.exists_eq_add_of_le hik
      rw [nesting_eq hb hr]
      exact hfirst m (by omega)

theorem lt_length_of_isPadded (hb : b.IsProper) {i j : Nat} (h : b.IsPadded t i j) : j < t.length := by
  obtain ⟨r, inner, rest, hr, hp, rfl⟩ := (isPadded_iff hb).1 h
  have hlength := congrArg List.length hr
  have hr := length_of_padded? hp
  simp only [List.length_drop, List.length_cons] at hlength
  omega

theorem isPadding_iff (hb : b.IsProper) {k : Nat} :
    b.IsPadding t k ↔ ∃ i j, b.IsPadded t i j ∧ i < k ∧ k < j ∧
      ((∀ c ∈ t.extract (i + 1) (k + 1), isSpace c = true) ∨
        ∀ c ∈ t.extract k j, isSpace c = true) := by
  constructor
  · rintro ⟨i, hik, j, -, hij, hkj, hwhite⟩
    exact ⟨i, j, hij, hik, hkj, hwhite⟩
  · rintro ⟨i, j, hij, hik, hkj, hwhite⟩
    exact ⟨i, hik, j, lt_length_of_isPadded hb hij, hij, hkj, hwhite⟩

/-- Only white space is padding. -/
theorem isSpace_of_isPadding {k : Nat} (h : b.IsPadding t k) {c : Char} (hc : t[k]? = some c) :
    isSpace c = true := by
  obtain ⟨i, hik, j, -, -, hkj, hwhite | hwhite⟩ := h
  · refine hwhite c (List.mem_of_getElem? (i := k - (i + 1)) ?_)
    rw [List.extract_eq_take_drop, List.getElem?_take_of_lt (by omega), List.getElem?_drop, ← hc]
    congr 1
    omega
  · refine hwhite c (List.mem_of_getElem? (i := 0) ?_)
    rw [List.extract_eq_take_drop, List.getElem?_take_of_lt (by omega), List.getElem?_drop, ← hc]
    rfl

/-! ### Padding of parts -/

theorem extract_append (u t : Text) (i j : Nat) :
    (u ++ t).extract (u.length + i) (u.length + j) = t.extract i j := by
  rw [List.extract_eq_take_drop, List.extract_eq_take_drop, List.drop_length_add_append,
    Nat.add_sub_add_left]

theorem isPadded_append_iff (hb : b.IsProper) (u : Text) {i j : Nat} :
    b.IsPadded (u ++ t) (u.length + i) (u.length + j) ↔ b.IsPadded t i j := by
  rw [isPadded_iff hb, isPadded_iff hb, List.drop_length_add_append]
  simp only [Nat.add_assoc, Nat.add_left_cancel_iff]

/-- Behind brackets that are closed, padding is that of the rest. -/
theorem isPadding_append_iff (hb : b.IsProper) {u : Text}
    (hu : ∀ i j, i < u.length → b.IsPadded (u ++ t) i j → j < u.length) {k : Nat} :
    b.IsPadding (u ++ t) (u.length + k) ↔ b.IsPadding t k := by
  rw [isPadding_iff hb, isPadding_iff hb]
  constructor
  · rintro ⟨i, j, hij, hik, hkj, hwhite⟩
    obtain ⟨i, rfl⟩ := Nat.exists_eq_add_of_le (le_of_not_gt fun hi => by
      have := hu i j hi hij
      omega)
    obtain ⟨j, rfl⟩ := Nat.exists_eq_add_of_le (by omega : u.length ≤ j)
    rw [Nat.add_assoc, Nat.add_assoc, extract_append, extract_append] at hwhite
    exact ⟨i, j, (isPadded_append_iff hb u).1 hij, by omega, by omega, hwhite⟩
  · rintro ⟨i, j, hij, hik, hkj, hwhite⟩
    refine ⟨u.length + i, u.length + j, (isPadded_append_iff hb u).2 hij, by omega, by omega, ?_⟩
    rw [Nat.add_assoc, Nat.add_assoc, extract_append, extract_append]
    exact hwhite

theorem splitAtCloser_append {n : Nat} (hn : 1 ≤ n) {inner rest : Text}
    (h : b.splitAtCloser n t = some (inner, rest)) (w : Text) :
    b.splitAtCloser n (t ++ w) = some (inner, rest ++ w) := by
  induction t generalizing n inner with
  | nil => simp [splitAtCloser] at h
  | cons c t ih =>
    rw [splitAtCloser_cons hn] at h
    rw [List.cons_append, splitAtCloser_cons hn]
    split_ifs at h ⊢ with hc
    · cases h
      rfl
    · obtain ⟨⟨i, s⟩, hi, heq⟩ := Option.map_eq_some_iff.1 h
      cases heq
      rw [ih (Nat.one_le_iff_ne_zero.2 hc) hi]
      rfl

/-- What a bracket holds is balanced: a padded bracket in it has its closer there. -/
theorem isPadded_inner_iff (hb : b.IsProper) {inner rest : Text} {i j : Nat}
    (h : b.splitAtCloser 1 (inner ++ b.closer :: rest) = some (inner, rest)) (hi : i < inner.length) :
    b.IsPadded (inner ++ b.closer :: rest) i j ↔ b.IsPadded inner i j := by
  obtain ⟨r, hr⟩ : ∃ r, inner.drop i = inner[i] :: r := ⟨_, List.drop_eq_getElem_cons hi⟩
  have hdrop : (inner ++ b.closer :: rest).drop i = inner[i] :: (r ++ b.closer :: rest) := by
    rw [List.drop_append_of_le_length hi.le, hr, List.cons_append]
  rw [isPadded_iff hb, isPadded_iff hb, hr, hdrop]
  by_cases ho : inner[i] = b.opener
  · rw [ho] at hr
    have hsome := isSome_splitAtCloser_of_inner hb le_rfl h (hr ▸ List.drop_suffix i inner)
    obtain ⟨⟨inner', rest'⟩, hsplit⟩ := Option.isSome_iff_exists.1 hsome
    have happend := splitAtCloser_append le_rfl hsplit (b.closer :: rest)
    have hne : r ≠ [] := by
      rintro rfl
      cases hsplit
    have hhead : (r ++ b.closer :: rest).head? = r.head? := List.head?_append_of_ne_nil r hne
    simp only [ho, List.cons.injEq, true_and, exists_and_left, exists_eq_left', padded?, hhead, happend,
      hsplit]
    split_ifs
    · simp
    · simp
  · simp [ho]

theorem isPadded_zero_iff (hb : b.IsProper) {c : Char} {j : Nat} :
    b.IsPadded (c :: r) 0 j ↔
      c = b.opener ∧ ∃ inner rest, b.padded? r = some (inner, rest) ∧ j = inner.length + 1 := by
  rw [isPadded_iff hb]
  simp only [List.drop_zero, List.cons.injEq, Nat.zero_add, exists_and_left]
  constructor
  · rintro ⟨r, ⟨hc, rfl⟩, inner, rest, h⟩
    exact ⟨hc, inner, rest, h⟩
  · rintro ⟨hc, inner, rest, h⟩
    exact ⟨r, ⟨hc, rfl⟩, inner, rest, h⟩

theorem not_isPadding_zero (b : BracketPair) (t : Text) : ¬b.IsPadding t 0 := by
  rintro ⟨i, hi, -⟩
  exact absurd hi (Nat.not_lt_zero i)

/-- Behind a character that is no padded bracket, padding is that of the rest. -/
theorem without_isPadding_cons (hb : b.IsProper) {c : Char} (hc : ∀ j, ¬b.IsPadded (c :: r) 0 j) :
    without (b.IsPadding (c :: r)) (c :: r) = c :: without (b.IsPadding r) r := by
  rw [without_cons, if_neg (not_isPadding_zero b _), List.singleton_append]
  congr 1
  refine without_congr fun k _ => ?_
  rw [Nat.add_comm]
  refine isPadding_append_iff hb (u := [c]) fun i j hi hij => ?_
  rw [Nat.lt_one_iff.1 hi] at hij
  exact absurd hij (hc j)

section bracket

variable {inner rest : Text}

/-- The places of a padded bracket and of those that it holds. -/
theorem isPadded_bracket_iff (hb : b.IsProper)
    (h : b.padded? (inner ++ b.closer :: rest) = some (inner, rest)) {i j : Nat}
    (hi : i < inner.length + 2) :
    b.IsPadded (b.opener :: (inner ++ b.closer :: rest)) i j ↔
      i = 0 ∧ j = inner.length + 1 ∨ ∃ i' j', i = i' + 1 ∧ j = j' + 1 ∧ b.IsPadded inner i' j' := by
  cases i with
  | zero =>
    rw [isPadded_zero_iff hb, h]
    simp
  | succ i =>
    have hcons (j : Nat) : b.IsPadded (b.opener :: (inner ++ b.closer :: rest)) (i + 1) (j + 1) ↔
        b.IsPadded inner i j := by
      rw [Nat.add_comm i, Nat.add_comm j]
      refine (isPadded_append_iff hb [b.opener]).trans ?_
      rcases Nat.lt_or_eq_of_le (Nat.le_of_lt_succ (Nat.lt_of_succ_lt_succ hi)) with hi | rfl
      · exact isPadded_inner_iff hb (splitAtCloser_of_padded? h) hi
      · -- the closer itself
        refine iff_of_false (fun hij => hb.ne ?_) fun hij => ?_
        · have hcloser : (inner ++ b.closer :: rest)[inner.length]? = some b.opener := hij.1
          rw [List.getElem?_append_right le_rfl, Nat.sub_self] at hcloser
          exact (Option.some.inj hcloser).symm
        · have := lt_length_of_isPadded hb hij
          have := hij.2.2.1
          omega
    constructor
    · intro hij
      obtain ⟨j, rfl⟩ := Nat.exists_eq_succ_of_ne_zero (Nat.ne_zero_of_lt hij.2.2.1)
      exact .inr ⟨i, j, rfl, rfl, (hcons j).1 hij⟩
    · rintro (⟨hzero, -⟩ | ⟨i', j', heq, rfl, hij⟩)
      · cases hzero
      · cases heq
        exact (hcons j').2 hij

/-- Inside a padded bracket, padding is the white space at both ends and the padding of what the
bracket holds. -/
theorem isPadding_bracket_iff (hb : b.IsProper)
    (h : b.padded? (inner ++ b.closer :: rest) = some (inner, rest)) {k : Nat} (hk : k < inner.length) :
    b.IsPadding (b.opener :: (inner ++ b.closer :: rest)) (k + 1) ↔
      ((∀ c ∈ inner.take (k + 1), isSpace c = true) ∨ ∀ c ∈ inner.drop k, isSpace c = true) ∨
        b.IsPadding inner k := by
  -- up to the closer the two texts have the same parts
  have hpart {i j : Nat} (hij : i ≤ j) (hj : j ≤ inner.length) :
      (b.opener :: (inner ++ b.closer :: rest)).extract (i + 1) (j + 1) = inner.extract i j := by
    rw [List.extract_eq_take_drop, List.extract_eq_take_drop, List.drop_succ_cons,
      List.drop_append_of_le_length (by omega), Nat.add_sub_add_right,
      List.take_append_of_le_length (by rw [List.length_drop]; omega)]
  rw [isPadding_iff hb, isPadding_iff hb]
  constructor
  · rintro ⟨i, j, hij, hik, hkj, hwhite⟩
    rcases (isPadded_bracket_iff hb h (by omega)).1 hij with ⟨rfl, rfl⟩ | ⟨i, j, rfl, rfl, hin⟩
    · rw [hpart (by omega) (by omega), hpart (by omega) le_rfl] at hwhite
      left
      simpa [List.extract_eq_take_drop, List.take_of_length_le] using hwhite
    · have hj := lt_length_of_isPadded hb hin
      rw [hpart (by omega) (by omega), hpart (by omega) (by omega)] at hwhite
      exact .inr ⟨i, j, hin, by omega, by omega, hwhite⟩
  · rintro (hwhite | ⟨i, j, hij, hik, hkj, hwhite⟩)
    · refine ⟨0, inner.length + 1, (isPadded_bracket_iff hb h (by omega)).2 (.inl ⟨rfl, rfl⟩),
        by omega, by omega, ?_⟩
      rw [hpart (by omega) (by omega), hpart (by omega) le_rfl]
      simpa [List.extract_eq_take_drop, List.take_of_length_le] using hwhite
    · have hj := lt_length_of_isPadded hb hij
      refine ⟨i + 1, j + 1, (isPadded_bracket_iff hb h (by omega)).2 (.inr ⟨i, j, rfl, rfl, hij⟩),
        by omega, by omega, ?_⟩
      rw [hpart (by omega) (by omega), hpart (by omega) (by omega)]
      exact hwhite

/-- Neither a padded bracket nor those that it holds reach beyond its closer. -/
theorem lt_of_isPadded_bracket (hb : b.IsProper)
    (h : b.padded? (inner ++ b.closer :: rest) = some (inner, rest)) {i j : Nat}
    (hi : i < inner.length + 2)
    (hij : b.IsPadded (b.opener :: (inner ++ b.closer :: rest)) i j) : j < inner.length + 2 := by
  rcases (isPadded_bracket_iff hb h hi).1 hij with ⟨-, rfl⟩ | ⟨i, j, rfl, rfl, hin⟩
  · omega
  · have := lt_length_of_isPadded hb hin
    omega

/-- A padded bracket loses the white space at both ends and the padding of what it holds. -/
theorem without_isPadding_bracket (hb : b.IsProper)
    (h : b.padded? (inner ++ b.closer :: rest) = some (inner, rest)) :
    without (b.IsPadding (b.opener :: (inner ++ b.closer :: rest)))
        (b.opener :: (inner ++ b.closer :: rest)) =
      b.opener :: (strip (without (b.IsPadding inner) inner) ++
        b.closer :: without (b.IsPadding rest) rest) := by
  have hinner : strip (without (b.IsPadding inner) inner) =
      without (fun k => b.IsPadding (b.opener :: (inner ++ b.closer :: rest)) (k + 1)) inner :=
    strip_without (fun k hk c hc => isSpace_of_isPadding hk hc) fun k hk => isPadding_bracket_iff hb h hk
  have hcloser : ¬b.IsPadding (b.opener :: (inner ++ b.closer :: rest)) (inner.length + 0 + 1) := by
    rintro ⟨i, hi, j, -, hij, hj, -⟩
    have := lt_of_isPadded_bracket hb h (by omega) hij
    omega
  have hrest : without (fun k => b.IsPadding (b.opener :: (inner ++ b.closer :: rest))
      (inner.length + (k + 1) + 1)) rest = without (b.IsPadding rest) rest := by
    refine without_congr fun k _ => ?_
    have happend := isPadding_append_iff hb (u := b.opener :: (inner ++ [b.closer])) (t := rest) (k := k)
      (fun i j hi hij => by
        simp only [List.length_cons, List.length_append, List.length_nil, List.cons_append,
          List.append_assoc, List.nil_append] at hi hij ⊢
        exact lt_of_isPadded_bracket hb h hi hij)
    simp only [List.length_cons, List.length_append, List.length_nil, List.cons_append,
      List.append_assoc, List.nil_append] at happend
    rw [← happend]
    congr! 1
    omega
  rw [without_cons, if_neg (not_isPadding_zero b _), without_append, without_cons, if_neg hcloser,
    hinner, hrest]
  rfl

end bracket

/-- **Trimming removes padding**, and keeps all other characters in order. -/
theorem trim_eq_without (hb : b ∈ standard) (t : Text) : b.trim t = without (b.IsPadding t) t := by
  have hb : b.IsProper := isProper_of_mem_standard hb
  fun_induction b.trim t with
  | case1 => rfl
  | case2 r inner rest h _ ih₁ ih₂ =>
    obtain rfl := eq_append_of_splitAtCloser (splitAtCloser_of_padded? h)
    rw [ih₁, ih₂, without_isPadding_bracket hb h]
  | case3 r h ih =>
    rw [ih, without_isPadding_cons hb fun j hj => ?_]
    obtain ⟨-, inner, rest, hsome, -⟩ := (isPadded_zero_iff hb).1 hj
    rw [h] at hsome
    cases hsome
  | case4 c r hc ih =>
    rw [ih, without_isPadding_cons hb fun j hj => hc ((isPadded_zero_iff hb).1 hj).1]

/-- A padded bracket in an unpadded one, white space that is no space, and a bracket that is not
closed. -/
theorem trim_eq_without_nested :
    let b : BracketPair := ⟨'[', ']'⟩
    let t := "[a [ \t[ b ]  c\t] ] [ d".toList
    b ∈ standard ∧ b.trim t = without (b.IsPadding t) t ∧
      without (b.IsPadding t) t = "[a [[b]  c] ] [ d".toList :=
  ⟨by decide, trim_eq_without (by decide) _, by decide +kernel⟩

end BracketPair

end MermaidTidy
