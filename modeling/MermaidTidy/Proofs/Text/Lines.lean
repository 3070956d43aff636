import Mathlib.Tactic
import MermaidTidy.Proofs.Text.Trim
import MermaidTidy.Text.Lines

/-!
# Lines and their text

* `splitLines_unlines`: lines without line breaks come back from the text that they make up;
* `splitLines_append`: a text that ends with a line end can be split apart from what follows;
* `IsPlainlySpaced t` says which white space `t` may hold: spaces, line ends and tabs in indentation.
  The lines of such a text are plain (`IsPlainlySpaced.isPlainLine`);
* `contents` are the visible characters of lines, without the lines that have none. Line ends do not
  matter to it (`contents_splitLines`).
-/

namespace MermaidTidy.Text

/-! ### Pieces -/

theorem pieces_append (p r : Text) : pieces (p ++ '\n' :: r) = pieces p ++ pieces r := by
  induction p with
  | nil => exact pieces_newline r
  | cons c p ih =>
    by_cases hc : c = '\n'
    · rw [hc, List.cons_append, pieces_newline, pieces_newline, ih, List.cons_append]
    · rw [List.cons_append, pieces_cons_of_ne hc, pieces_cons_of_ne hc, ih]
      cases h : pieces p with
      | nil => exact absurd h (cut_ne_nil '\n' p)
      | cons q qs => rfl

theorem pieces_of_not_mem {p : Text} (hp : '\n' ∉ p) : pieces p = [p] := by
  induction p with
  | nil => rfl
  | cons c p ih =>
    rw [List.mem_cons, not_or] at hp
    rw [pieces_cons_of_ne (Ne.symm hp.1), ih hp.2]
    rfl

theorem pieces_append_newline {p : Text} (hp : '\n' ∉ p) (r : Text) :
    pieces (p ++ '\n' :: r) = p :: pieces r := by
  rw [pieces_append, pieces_of_not_mem hp, List.singleton_append]

theorem pieces_append_singleton (t : Text) : pieces (t ++ ['\n']) = pieces t ++ [[]] :=
  pieces_append t []

@[simp] theorem unlines_singleton (p : Text) : unlines [p] = p := by
  simp [unlines, joinWith, List.intercalate]

theorem unlines_cons_cons (p q : Text) (ps : List Text) :
    unlines (p :: q :: ps) = p ++ '\n' :: unlines (q :: ps) := by
  simp [unlines, joinWith, List.intercalate]

theorem pieces_unlines {ps : List Text} (hne : ps ≠ []) (h : ∀ p ∈ ps, '\n' ∉ p) :
    pieces (unlines ps) = ps := by
  induction ps with
  | nil => exact absurd rfl hne
  | cons p ps ih =>
    have hp := h p List.mem_cons_self
    cases ps with
    | nil => rw [unlines_singleton, pieces_of_not_mem hp]
    | cons q ps =>
      rw [unlines_cons_cons, pieces_append_newline hp,
        ih (by simp) fun r hr => h r (List.mem_cons_of_mem p hr)]

theorem unlines_append {ps qs : List Text} (hp : ps ≠ []) (hq : qs ≠ []) :
    unlines (ps ++ qs) = unlines ps ++ '\n' :: unlines qs := by
  induction ps with
  | nil => exact absurd rfl hp
  | cons p ps ih =>
    cases ps with
    | nil =>
      obtain ⟨q, qs, rfl⟩ := List.exists_cons_of_ne_nil hq
      rw [unlines_singleton]
      exact unlines_cons_cons p q qs
    | cons p' ps =>
      have h := unlines_cons_cons p p' (ps ++ qs)
      rw [← List.cons_append, ih (by simp)] at h
      rw [unlines_cons_cons, List.append_assoc]
      exact h

theorem pieces_unlines_append {ps : List Text} (hne : ps ≠ []) (h : ∀ p ∈ ps, '\n' ∉ p) :
    pieces (unlines ps ++ ['\n']) = ps ++ [[]] := by
  have hunlines : unlines ps ++ ['\n'] = unlines (ps ++ [[]]) :=
    (unlines_append hne (List.cons_ne_nil [] [])).symm
  rw [hunlines, pieces_unlines (by simp)]
  intro p hp
  rcases List.mem_append.1 hp with hp | hp
  · exact h p hp
  · rw [List.mem_singleton.1 hp]
    simp

/-! ### Terminated lines -/

/-- The text consists of the given lines, each with a line feed behind it. -/
def HasLines (t : Text) (ls : List Text) : Prop := t = ls.flatMap (· ++ ['\n']) ∧ ∀ l ∈ ls, '\n' ∉ l

theorem flatMap_newline {ls : List Text} (h : ls ≠ []) :
    ls.flatMap (· ++ ['\n']) = unlines ls ++ ['\n'] := by
  induction ls with
  | nil => exact absurd rfl h
  | cons l ls ih =>
    cases ls with
    | nil => simp
    | cons l' ls =>
      rw [List.flatMap_cons, ih (by simp), unlines_cons_cons]
      simp

theorem HasLines.pieces_eq {t : Text} {ls : List Text} (h : HasLines t ls) : pieces t = ls ++ [[]] := by
  obtain ⟨rfl, hn⟩ := h
  by_cases hnil : ls = []
  · rw [hnil]
    rfl
  · rw [flatMap_newline hnil, pieces_unlines_append hnil hn]

theorem HasLines.unique {t : Text} {ls ls' : List Text} (h : HasLines t ls) (h' : HasLines t ls') :
    ls = ls' := List.append_cancel_right (h.pieces_eq.symm.trans h'.pieces_eq)

/-! ### Line ends -/

theorem unifyLineEnds_eq_self {t : Text} (h : '\r' ∉ t) : unifyLineEnds t = t := by
  fun_induction unifyLineEnds t with
  | case1 => rfl
  | case2 r ih => simp at h
  | case3 c r _ ih =>
    rw [List.mem_cons, not_or] at h
    rw [ih h.2]

/-- Text that is read has no carriage returns. -/
theorem carriageReturn_not_mem_universalNewlines (t : Text) : '\r' ∉ universalNewlines t := by
  fun_induction universalNewlines t with
  | case1 => simp
  | case2 r ih => simp [ih]
  | case3 c r _ ih =>
    rw [List.mem_cons, not_or]
    refine ⟨?_, ih⟩
    split_ifs with hc
    · decide
    · exact Ne.symm hc

theorem universalNewlines_eq_self {t : Text} (h : '\r' ∉ t) : universalNewlines t = t := by
  fun_induction universalNewlines t with
  | case1 => rfl
  | case2 r ih => simp at h
  | case3 c r _ ih =>
    rw [List.mem_cons, not_or] at h
    rw [if_neg (Ne.symm h.1), ih h.2]

@[simp] theorem unifyLineEnds_eq_nil_iff {t : Text} : unifyLineEnds t = [] ↔ t = [] := by
  fun_cases unifyLineEnds t <;> simp

theorem getLast?_unifyLineEnds (t : Text) : (unifyLineEnds t).getLast? = t.getLast? := by
  fun_induction unifyLineEnds t with
  | case1 => rfl
  | case2 r ih =>
    rw [List.getLast?_cons, ih, List.getLast?_cons, List.getLast?_cons]
    rfl
  | case3 c r _ ih => rw [List.getLast?_cons, ih, List.getLast?_cons]

theorem unifyLineEnds_append {t : Text} (h : t.getLast? ≠ some '\r') (u : Text) :
    unifyLineEnds (t ++ u) = unifyLineEnds t ++ unifyLineEnds u := by
  fun_induction unifyLineEnds t with
  | case1 => rfl
  | case2 r ih =>
    have hr : r.getLast? ≠ some '\r' := by
      intro hr
      simp [List.getLast?_cons, hr] at h
    rw [List.cons_append, List.cons_append, unifyLineEnds, ih hr, List.cons_append]
  | case3 c r hne ih =>
    have hr : r.getLast? ≠ some '\r' := by
      intro hr
      simp [List.getLast?_cons, hr] at h
    rw [List.cons_append, unifyLineEnds, ih hr, List.cons_append]
    -- a line feed behind `c` stands in the rest already, which is not empty if `c` is `'\r'`
    rintro r' rfl hr'
    cases r with
    | nil => exact h rfl
    | cons d r =>
      rw [List.cons_append] at hr'
      obtain ⟨rfl, -⟩ := List.cons.inj hr'
      exact hne r rfl rfl

theorem not_mem_unlines {c : Char} (hc : c ≠ '\n') {ps : List Text} (h : ∀ p ∈ ps, c ∉ p) :
    c ∉ unlines ps := by
  induction ps with
  | nil => simp [unlines, joinWith, List.intercalate]
  | cons p ps ih =>
    have hp := h p List.mem_cons_self
    cases ps with
    | nil => rwa [unlines_singleton]
    | cons q ps =>
      have := ih fun r hr => h r (List.mem_cons_of_mem p hr)
      rw [unlines_cons_cons]
      simp [hp, hc, this]

/-- Lines without line breaks come back from the text that they make up. -/
theorem splitLines_unlines {ps : List Text} (hne : ps ≠ []) (hn : ∀ p ∈ ps, '\n' ∉ p)
    (hr : ∀ p ∈ ps, '\r' ∉ p) : splitLines (unlines ps ++ ['\n']) = ps := by
  have hcr : '\r' ∉ unlines ps ++ ['\n'] := by
    simp [not_mem_unlines (by decide) hr]
  unfold splitLines
  rw [unifyLineEnds_eq_self hcr]
  simp only [List.getLast?_concat, if_true]
  rw [pieces_unlines_append hne hn, List.dropLast_concat]

/-- The same without a line end behind the last line, which must not be empty then. -/
theorem splitLines_unlines_of_getLast? {ps : List Text} (hne : ps ≠ []) (hn : ∀ p ∈ ps, '\n' ∉ p)
    (hr : ∀ p ∈ ps, '\r' ∉ p) (hlast : ∀ p ∈ ps.getLast?, p ≠ []) : splitLines (unlines ps) = ps := by
  have hend : (unlines ps).getLast? ≠ some '\n' := by
    obtain ⟨qs, q, rfl⟩ : ∃ qs q, ps = qs ++ [q] := by
      simpa using (List.eq_nil_or_concat ps).resolve_left hne
    have hq : q ≠ [] := hlast q List.getLast?_concat
    obtain ⟨u, hu⟩ : ∃ u, unlines (qs ++ [q]) = u ++ q := by
      by_cases hqs : qs = []
      · exact ⟨[], by simp [hqs]⟩
      · exact ⟨unlines qs ++ ['\n'], by rw [unlines_append hqs (by simp)]; simp⟩
    rw [hu, List.getLast?_append_of_ne_nil _ hq]
    exact fun hmem => hn q (by simp) (List.mem_of_mem_getLast? hmem)
  unfold splitLines
  rw [unifyLineEnds_eq_self (not_mem_unlines (by decide) hr)]
  exact (if_neg hend).trans (pieces_unlines hne hn)

/-- A text that ends with a line end can be split apart from what follows. -/
theorem splitLines_append {t u : Text} (ht : t.getLast? = some '\n') (hu : u ≠ []) :
    splitLines (t ++ u) = splitLines t ++ splitLines u := by
  obtain ⟨w, hw⟩ : ∃ w, unifyLineEnds t = w ++ ['\n'] := by
    rw [← getLast?_unifyLineEnds] at ht
    exact ⟨_, (List.dropLast_append_getLast? _ ht).symm⟩
  have hu' : unifyLineEnds u ≠ [] := by simpa using hu
  have hne : pieces (unifyLineEnds u) ≠ [] := cut_ne_nil '\n' _
  have hunify : unifyLineEnds (t ++ u) = w ++ '\n' :: unifyLineEnds u := by
    rw [unifyLineEnds_append (by simp [ht]), hw, List.append_assoc, List.singleton_append]
  have hlast : (w ++ '\n' :: unifyLineEnds u).getLast? = (unifyLineEnds u).getLast? := by
    rw [← List.singleton_append, ← List.append_assoc, List.getLast?_append_of_ne_nil _ hu']
  have hsplit : splitLines t = pieces w := by
    unfold splitLines
    dsimp only
    rw [hw, if_pos List.getLast?_concat, pieces_append_singleton, List.dropLast_concat]
  rw [hsplit]
  unfold splitLines
  dsimp only
  rw [hunify, hlast, pieces_append]
  split_ifs
  · rw [List.dropLast_append_of_ne_nil hne]
  · rfl

/-! ### Plain white space -/

/-- What stands before a place in its line, in reverse order. -/
def lineBefore (before : Text) : Text := before.reverse.takeWhile (· ≠ '\n')

/-- White space is spaces, line feeds, carriage returns directly before a line feed, and tabs in the
indentation of a line. -/
def IsPlainlySpaced (t : Text) : Prop :=
  ∀ before c after, t = before ++ c :: after → isSpace c = true →
    c = ' ' ∨ c = '\n' ∨ (c = '\r' ∧ after.head? = some '\n') ∨
      (c = '\t' ∧ ∀ d ∈ lineBefore before, isBlank d = true)

theorem isPlainlySpaced_iff {t : Text} :
    IsPlainlySpaced t ↔ ∀ i : Fin t.length, isSpace t[i] = true →
      t[i] = ' ' ∨ t[i] = '\n' ∨ (t[i] = '\r' ∧ (t.drop (i + 1)).head? = some '\n') ∨
        (t[i] = '\t' ∧ ∀ d ∈ lineBefore (t.take i), isBlank d = true) := by
  constructor
  · intro h i
    exact h (t.take i) t[i] (t.drop (i + 1)) (by simp)
  · rintro h before c after rfl
    simpa using h ⟨before.length, by simp⟩

instance (t : Text) : Decidable (IsPlainlySpaced t) := decidable_of_iff' _ isPlainlySpaced_iff

/-- White space in a line is spaces, and tabs in its indentation. -/
def IsPlainLine (l : Text) : Prop :=
  ∀ before c after, l = before ++ c :: after → isSpace c = true →
    c = ' ' ∨ (c = '\t' ∧ ∀ d ∈ before, isBlank d = true)

theorem newline_not_mem_of_mem_pieces {t q : Text} (h : q ∈ pieces t) : '\n' ∉ q := by
  induction t generalizing q with
  | nil =>
    rw [pieces_nil, List.mem_singleton] at h
    simp [h]
  | cons c r ih =>
    by_cases hc : c = '\n'
    · subst hc
      rw [pieces_newline, List.mem_cons] at h
      rcases h with rfl | h
      · simp
      · exact ih h
    · rw [pieces_cons_of_ne hc] at h
      cases hp : pieces r with
      | nil => exact absurd hp (cut_ne_nil '\n' r)
      | cons p ps =>
        rw [hp, consFirst, List.mem_cons] at h
        rcases h with rfl | h
        · have := ih (hp ▸ List.mem_cons_self)
          simp [this, Ne.symm hc]
        · exact ih (hp ▸ List.mem_cons_of_mem p h)

/-- A piece stands at the start of a line. -/
theorem exists_of_mem_pieces {t q : Text} (h : q ∈ pieces t) :
    ∃ x y, t = x ++ (q ++ y) ∧ lineBefore x = [] := by
  have hfirst : ∀ bs : List Text, ∃ y, unlines (q :: bs) = q ++ y := by
    intro bs
    cases bs with
    | nil => exact ⟨[], by simp⟩
    | cons b bs => exact ⟨_, unlines_cons_cons q b bs⟩
  obtain ⟨as, bs, hsplit⟩ := List.append_of_mem h
  obtain ⟨y, hy⟩ := hfirst bs
  have ht : t = unlines (as ++ q :: bs) := by rw [← hsplit, unlines_pieces]
  rcases eq_or_ne as [] with rfl | has
  · exact ⟨[], y, by rw [ht, ← hy]; rfl, rfl⟩
  · refine ⟨unlines as ++ ['\n'], y, ?_, by simp [lineBefore]⟩
    rw [ht, unlines_append has (by simp), hy]
    simp

/-- Line ends apart, the pieces are the same when line ends are unified. -/
theorem forall₂_pieces_unifyLineEnds (t : Text) :
    List.Forall₂ (fun p q => q = p ∨ q = p ++ ['\r']) (pieces (unifyLineEnds t)) (pieces t) := by
  fun_induction unifyLineEnds t with
  | case1 => exact .cons (.inl rfl) .nil
  | case2 r ih =>
    rw [pieces_newline, pieces_cons_of_ne (by decide), pieces_newline]
    exact .cons (.inr rfl) ih
  | case3 c r _ ih =>
    by_cases hc : c = '\n'
    · rw [hc, pieces_newline, pieces_newline]
      exact .cons (.inl rfl) ih
    · rw [pieces_cons_of_ne hc, pieces_cons_of_ne hc]
      revert ih
      generalize pieces (unifyLineEnds r) = ps, pieces r = qs
      intro ih
      cases ih with
      | nil => exact .cons (.inl rfl) .nil
      | cons h hs => exact .cons (by rcases h with rfl | rfl <;> simp) hs

theorem carriageReturn_not_mem_unifyLineEnds {t : Text}
    (h : ∀ before after, t = before ++ '\r' :: after → after.head? = some '\n') :
    '\r' ∉ unifyLineEnds t := by
  fun_induction unifyLineEnds t with
  | case1 => simp
  | case2 r ih =>
    have := ih fun before after hr => h ('\r' :: '\n' :: before) after (by rw [hr]; rfl)
    simp [this]
  | case3 c r hno ih =>
    have hr := ih fun before after hr => h (c :: before) after (by rw [hr]; rfl)
    have hc : c ≠ '\r' := by
      rintro rfl
      obtain ⟨r', hr'⟩ := List.head?_eq_some_iff.1 (h [] r rfl)
      exact hno r' rfl hr'
    simp [hr, Ne.symm hc]

/-- Lines are pieces: only an empty piece at the end is no line. -/
theorem getElem?_pieces_of_splitLines {t l : Text} {i : Nat} (h : (splitLines t)[i]? = some l) :
    (pieces (unifyLineEnds t))[i]? = some l := by
  unfold splitLines at h
  dsimp only at h
  split_ifs at h
  · rw [List.getElem?_dropLast] at h
    split_ifs at h
    exact h
  · exact h

theorem mem_pieces_of_mem_splitLines {t l : Text} (h : l ∈ splitLines t) :
    l ∈ pieces (unifyLineEnds t) := by
  obtain ⟨i, hi⟩ := List.mem_iff_getElem?.1 h
  exact List.mem_of_getElem? (getElem?_pieces_of_splitLines hi)

/-- A line stands in its text, and nothing stands before it in the same line. -/
theorem exists_of_mem_splitLines {t l : Text} (h : l ∈ splitLines t) :
    ∃ x y, t = x ++ (l ++ y) ∧ lineBefore x = [] := by
  obtain ⟨q, hq, hlq⟩ : ∃ q ∈ pieces t, q = l ∨ q = l ++ ['\r'] := by
    have hall := forall₂_pieces_unifyLineEnds t
    obtain ⟨i, hi, rfl⟩ := List.mem_iff_getElem.1 (mem_pieces_of_mem_splitLines h)
    exact ⟨_, List.getElem_mem (hall.length_eq ▸ hi), List.Forall₂.get hall hi _⟩
  obtain ⟨x, y, ht, hx⟩ := exists_of_mem_pieces hq
  rcases hlq with rfl | rfl
  · exact ⟨x, y, ht, hx⟩
  · exact ⟨x, '\r' :: y, by rw [ht]; simp, hx⟩

theorem lineBefore_append {x before : Text} (hx : lineBefore x = []) (hn : '\n' ∉ before) :
    lineBefore (x ++ before) = before.reverse := by
  unfold lineBefore at hx ⊢
  rw [List.reverse_append, List.takeWhile_append_of_pos, hx, List.append_nil]
  intro d hd
  exact decide_eq_true fun h => hn (h ▸ List.mem_reverse.1 hd)

theorem mem_of_mem_unifyLineEnds {t : Text} {c : Char} (h : c ∈ unifyLineEnds t) : c ∈ t := by
  fun_induction unifyLineEnds t with
  | case1 => exact h
  | case2 r ih =>
    rcases List.mem_cons.1 h with rfl | h
    · simp
    · simp [ih h]
  | case3 d r _ ih =>
    rcases List.mem_cons.1 h with rfl | h
    · exact List.mem_cons_self
    · exact List.mem_cons_of_mem d (ih h)

theorem mem_of_mem_pieces_unifyLineEnds {t l : Text} (h : l ∈ pieces (unifyLineEnds t)) {c : Char}
    (hc : c ∈ l) : c ∈ t := by
  obtain ⟨x, y, hunify, -⟩ := exists_of_mem_pieces h
  apply mem_of_mem_unifyLineEnds
  rw [hunify]
  simp [hc]

theorem newline_not_mem_of_mem_splitLines {t l : Text} (h : l ∈ splitLines t) : '\n' ∉ l :=
  newline_not_mem_of_mem_pieces (mem_pieces_of_mem_splitLines h)

namespace IsPlainlySpaced

variable {t l : Text}

theorem carriageReturn_not_mem (h : IsPlainlySpaced t) (hl : l ∈ splitLines t) : '\r' ∉ l := by
  have hunified : '\r' ∉ unifyLineEnds t := by
    refine carriageReturn_not_mem_unifyLineEnds fun before after ht => ?_
    rcases h before '\r' after ht (by decide) with h | h | h | h
    · exact absurd h (by decide)
    · exact absurd h (by decide)
    · exact h.2
    · exact absurd h.1 (by decide)
  intro hr
  obtain ⟨x, y, hxy, -⟩ := exists_of_mem_pieces (mem_pieces_of_mem_splitLines hl)
  exact hunified (by rw [hxy]; simp [hr])

/-- The lines of a plainly spaced text are plain. -/
theorem isPlainLine (h : IsPlainlySpaced t) (hl : l ∈ splitLines t) : IsPlainLine l := by
  intro before c after hbc hspace
  have hn := newline_not_mem_of_mem_splitLines hl
  have hr := h.carriageReturn_not_mem hl
  obtain ⟨x, y, ht, hx⟩ := exists_of_mem_splitLines hl
  have hsplit : t = (x ++ before) ++ c :: (after ++ y) := by
    rw [ht, hbc]
    simp
  have hcl : c ∈ l := by
    rw [hbc]
    simp
  -- what stands before `c` in its line is `before`
  rcases h _ c _ hsplit hspace with hc | rfl | ⟨rfl, -⟩ | ⟨hc, hblank⟩
  · exact .inl hc
  · exact absurd hcl hn
  · exact absurd hcl hr
  · refine .inr ⟨hc, fun d hd => hblank d ?_⟩
    rw [lineBefore_append hx fun hm => hn (by rw [hbc]; simp [hm])]
    exact List.mem_reverse.2 hd

end IsPlainlySpaced

namespace IsPlainLine

variable {l : Text}

theorem nil : IsPlainLine [] := fun before c after h => by simp at h

/-- Inside the blanks around a plain line there are no tabs. -/
theorem eq_space (h : IsPlainLine l) {c : Char} (hc : c ∈ stripBlanks l) (hspace : isSpace c = true) :
    c = ' ' := by
  have htrim := isTrimmed_trim isBlank l
  obtain ⟨u, v, hl, -, -⟩ := exists_eq_append_trim_append isBlank l
  obtain ⟨x, y, hxy⟩ := List.append_of_mem hc
  have hsplit : l = (u ++ x) ++ c :: (y ++ v) := by
    conv_lhs => rw [hl, ← stripBlanks, hxy]
    simp
  refine (h _ c _ hsplit hspace).resolve_right ?_
  rintro ⟨rfl, hblank⟩
  obtain ⟨d, r, hd⟩ := List.exists_cons_of_ne_nil (List.ne_nil_of_mem hc)
  have hfirst : isBlank d = false := htrim.head d (by rw [← stripBlanks, hd]; rfl)
  have hd' : isBlank d = true := by
    cases x with
    | nil =>
      rw [hd] at hxy
      rw [(List.cons.inj hxy).1]
      decide
    | cons e x =>
      rw [hd] at hxy
      rw [(List.cons.inj hxy).1]
      exact hblank e (by simp)
  rw [hfirst] at hd'
  cases hd'

theorem isBlank_of_mem (h : IsPlainLine l) {c : Char} (hc : c ∈ l) (hspace : isSpace c = true) :
    isBlank c = true := by
  obtain ⟨x, y, hxy⟩ := List.append_of_mem hc
  rcases h x c y hxy hspace with rfl | ⟨rfl, -⟩ <;> decide

theorem stripBlanks_eq_nil (h : IsPlainLine l) (hwhite : strip l = []) : stripBlanks l = [] :=
  trim_eq_nil_iff.2 fun c hc => h.isBlank_of_mem hc (trim_eq_nil_iff.1 hwhite c hc)

theorem newline_not_mem (h : IsPlainLine l) : '\n' ∉ l := fun hm =>
  absurd (h.isBlank_of_mem hm (by decide)) (by decide)

theorem not_mem_carriageReturn (h : IsPlainLine l) : '\r' ∉ l := fun hm =>
  absurd (h.isBlank_of_mem hm (by decide)) (by decide)

/-- Blanks in front are further indentation. -/
theorem append_left (h : IsPlainLine l) {u : Text} (hu : ∀ c ∈ u, isBlank c = true) :
    IsPlainLine (u ++ l) := by
  intro before c after hsplit hspace
  rcases List.append_eq_append_iff.1 hsplit with ⟨m, rfl, hl⟩ | ⟨m, rfl, hm⟩
  · refine (h m c after hl hspace).imp_right fun ⟨htab, hblank⟩ => ⟨htab, ?_⟩
    exact List.forall_mem_append.2 ⟨hu, hblank⟩
  · cases m with
    | nil =>
      refine (h [] c after (by simpa using hm.symm) hspace).imp_right fun ⟨htab, _⟩ => ⟨htab, ?_⟩
      simpa using hu
    | cons d m =>
      obtain ⟨rfl, -⟩ := List.cons.inj hm
      have hc := hu c (by simp)
      refine (by simpa [isBlank] using hc : c = ' ' ∨ c = '\t').imp_right fun htab => ⟨htab, ?_⟩
      exact fun d hd => hu d (by simp [hd])

theorem of_append {u : Text} (h : IsPlainLine (u ++ l)) : IsPlainLine l := by
  intro before c after hsplit hspace
  refine (h (u ++ before) c after (by rw [hsplit]; simp) hspace).imp_right fun ⟨htab, hblank⟩ => ?_
  exact ⟨htab, fun d hd => hblank d (by simp [hd])⟩

end IsPlainLine

theorem IsPlainlySpaced.isPlainLine_of_mem_pieces {t l : Text} (h : IsPlainlySpaced t)
    (hl : l ∈ pieces (unifyLineEnds t)) : IsPlainLine l := by
  have hmem : l ∈ splitLines t ∨ l = [] := by
    unfold splitLines
    dsimp only
    split_ifs with hlast
    · obtain ⟨u, hu⟩ := List.getLast?_eq_some_iff.1 hlast
      rw [hu, pieces_append_singleton] at hl ⊢
      rw [List.dropLast_concat]
      simpa using hl
    · exact .inl hl
  rcases hmem with hl | rfl
  · exact h.isPlainLine hl
  · exact .nil

/-- Plain lines make up a plainly spaced text. -/
theorem isPlainlySpaced_unlines {ls : List Text} (h : ∀ l ∈ ls, IsPlainLine l) :
    IsPlainlySpaced (unlines ls) := by
  -- a character stands in its line, is the line end behind it, or belongs to the lines that follow
  have inLine {l before after : Text} {c : Char} (hl : IsPlainLine l) (hsplit : l = before ++ c :: after)
      (hspace : isSpace c = true) :
      c = ' ' ∨ c = '\t' ∧ ∀ d ∈ lineBefore before, isBlank d = true :=
    (hl before c after hsplit hspace).imp_right fun ⟨htab, hblank⟩ =>
      ⟨htab, fun d hd => hblank d (List.mem_reverse.1 (List.takeWhile_subset _ hd))⟩
  induction ls with
  | nil =>
    intro before c after hsplit
    simp [unlines, joinWith, List.intercalate] at hsplit
  | cons l ls ih =>
    have hl := h l List.mem_cons_self
    have hls := ih fun l' hl' => h l' (List.mem_cons_of_mem l hl')
    cases ls with
    | nil =>
      intro before c after hsplit hspace
      rw [unlines_singleton] at hsplit
      exact (inLine hl hsplit hspace).imp_right fun hc => .inr (.inr hc)
    | cons l' ls =>
      intro before c after hsplit hspace
      rw [unlines_cons_cons] at hsplit
      rcases List.append_eq_append_iff.1 hsplit with ⟨m, rfl, hm⟩ | ⟨m, rfl, hm⟩
      · cases m with
        | nil =>
          obtain ⟨rfl, -⟩ := List.cons.inj hm
          exact .inr (.inl rfl)
        | cons d m =>
          obtain ⟨rfl, hrest⟩ := List.cons.inj hm
          have hbefore : lineBefore (l ++ '\n' :: m) = lineBefore m := by
            unfold lineBefore
            rw [List.reverse_append, List.reverse_cons, List.append_assoc, List.singleton_append,
              takeWhile_append_cons (by decide)]
          rw [hbefore]
          exact hls m c after hrest hspace
      · cases m with
        | nil =>
          obtain ⟨rfl, -⟩ := List.cons.inj hm
          exact .inr (.inl rfl)
        | cons d m =>
          obtain ⟨rfl, -⟩ := List.cons.inj hm
          exact (inLine hl rfl hspace).imp_right fun hc => .inr (.inr hc)

/-! ### Contents -/

/-- The visible characters of each line; lines without any are left out. -/
def contents (ls : List Text) : List Text := (ls.map visible).filter (· ≠ [])

theorem contents_append (ls ms : List Text) : contents (ls ++ ms) = contents ls ++ contents ms := by
  simp [contents]

theorem contents_eq_nil {ls : List Text} (h : ∀ l ∈ ls, strip l = []) : contents ls = [] := by
  unfold contents
  rw [List.filter_eq_nil_iff]
  intro v hv
  obtain ⟨l, hl, rfl⟩ := List.mem_map.1 hv
  simpa using visible_eq_nil_iff.2 (trim_eq_nil_iff.1 (h l hl))

/-- Neither how lines end nor a final line end matters to the contents. -/
theorem contents_splitLines (t : Text) : contents (splitLines t) = contents (pieces t) := by
  have hunify : (pieces (unifyLineEnds t)).map visible = (pieces t).map visible := by
    have h := forall₂_pieces_unifyLineEnds t
    revert h
    generalize pieces (unifyLineEnds t) = ps, pieces t = qs
    intro h
    induction h with
    | nil => rfl
    | cons h _ ih =>
      rw [List.map_cons, List.map_cons, ih]
      rcases h with rfl | rfl <;> simp [(by decide : isSpace '\r' = true)]
  have hpieces : contents (pieces (unifyLineEnds t)) = contents (pieces t) := by
    unfold contents
    rw [hunify]
  unfold splitLines
  dsimp only
  split_ifs with h
  · obtain ⟨u, hu⟩ := List.getLast?_eq_some_iff.1 h
    rw [← hpieces, hu, pieces_append_singleton, List.dropLast_concat, contents_append,
      contents_eq_nil (by decide : ∀ l ∈ [[]], strip l = []), List.append_nil]
  · exact hpieces

end MermaidTidy.Text
