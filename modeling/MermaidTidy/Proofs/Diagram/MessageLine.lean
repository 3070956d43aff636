import Mathlib.Tactic
import MermaidTidy.Diagram.MessageLine
import MermaidTidy.Layout.Render
import MermaidTidy.Proofs.Line.Respaced

/-!
# Reading of messages

Lines without line feeds are read as messages by two searches of the same kind: the source is the
shortest start of the line that is followed by an arrow, and the target the shortest start of the
rest that is followed by a colon. `shortestBefore` is such a search.

* `read?_eq_some_iff` says what the reading of a line is;
* `visible_eq_of_read?` puts the visible characters of the line together from its parts;
* `readsMessage_render`: a rendered message is read again as the same message, with its text in
  normal spacing.
-/

namespace MermaidTidy

open Text Line Respacing

/-! ### The shortest start before a match -/

/-- The shortest start of a text that is not empty and is followed by something that `f` takes. -/
def shortestBefore {α : Type} (f : Text → Option α) : Text → Option (Text × α)
  | [] => none
  | c :: r =>
    match f r with
    | some a => some ([c], a)
    | none => (shortestBefore f r).map fun (u, a) => (c :: u, a)

/-- `f` takes `r`, and what follows no shorter start of `u`. -/
structure IsShortestBefore {α : Type} (f : Text → Option α) (u r : Text) (a : α) : Prop where
  ne_nil : u ≠ []
  takes : f r = some a
  shortest : ∀ x y, u = x ++ y → x ≠ [] → y ≠ [] → f (y ++ r) = none

/-- Where `f` skips white space, the shortest start does not end with it. -/
theorem IsShortestBefore.isTrimmed {α : Type} {f : Text → Option α} {u r : Text} {a : α}
    (h : IsShortestBefore f u r a) (hf : ∀ c s, isSpace c = true → f (c :: s) = f s)
    (hhead : ∀ c ∈ u.head?, isSpace c = false) : IsTrimmed isSpace u where
  head := hhead
  last := by
    intro c hc
    obtain ⟨x, rfl⟩ := List.getLast?_eq_some_iff.1 hc
    by_contra hspace
    rw [Bool.not_eq_false] at hspace
    have hx : x ≠ [] := by
      rintro rfl
      rw [hhead c rfl] at hspace
      cases hspace
    have hnone := h.shortest x [c] rfl hx (by simp)
    rw [List.singleton_append, hf c r hspace, h.takes] at hnone
    cases hnone

/-- Where `f` skips white space, that around the shortest start does not matter. -/
theorem IsShortestBefore.strip {α : Type} {f : Text → Option α} {u r : Text} {a : α}
    (h : IsShortestBefore f u r a) (hf : ∀ c s, isSpace c = true → f (c :: s) = f s)
    (hne : strip u ≠ []) : IsShortestBefore f (strip u) r a := by
  obtain ⟨w, v, hu, -, hv⟩ := exists_eq_append_trim_append isSpace u
  have hu : u = w ++ (Text.strip u ++ v) := hu
  -- no white space is left behind the start, or a shorter one would do
  have hnil : v = [] := by
    rcases List.eq_nil_or_concat v with rfl | ⟨v', c, rfl⟩
    · rfl
    · have hnone := h.shortest (w ++ (Text.strip u ++ v')) [c] (by simpa using hu) (by simp [hne])
        (by simp)
      rw [List.singleton_append, hf c r (hv c (by simp)), h.takes] at hnone
      cases hnone
  rw [hnil, List.append_nil] at hu
  refine ⟨hne, h.takes, fun x y hxy hx hy => h.shortest (w ++ x) y ?_ (by simp [hx]) hy⟩
  rw [List.append_assoc, ← hxy]
  exact hu

theorem isShortestBefore_singleton {α : Type} {f : Text → Option α} {r : Text} {a : α} (c : Char)
    (h : f r = some a) : IsShortestBefore f [c] r a where
  ne_nil := List.cons_ne_nil c []
  takes := h
  shortest := by
    intro x y hxy hx hy
    rcases List.singleton_eq_append_iff.1 hxy with ⟨hnil, -⟩ | ⟨-, hnil⟩
    · exact absurd hnil hx
    · exact absurd hnil hy

/-- In front of a longer start one more character does not matter, if `f` rejects what stands behind
it. -/
theorem isShortestBefore_cons_iff {α : Type} {f : Text → Option α} {v r : Text} {a : α} (c : Char)
    (hf : f (v ++ r) = none) : IsShortestBefore f (c :: v) r a ↔ IsShortestBefore f v r a := by
  constructor
  · rintro ⟨-, htakes, hshort⟩
    refine ⟨?_, htakes, fun x y hxy hx hy => hshort (c :: x) y (by rw [hxy]; rfl) (by simp) hy⟩
    rintro rfl
    rw [List.nil_append, htakes] at hf
    cases hf
  · rintro ⟨-, htakes, hshort⟩
    refine ⟨by simp, htakes, fun x y hxy hx hy => ?_⟩
    rcases List.cons_eq_append_iff.1 hxy with ⟨rfl, -⟩ | ⟨x', rfl, rfl⟩
    · exact absurd rfl hx
    · rcases eq_or_ne x' [] with rfl | hx'
      · exact hf
      · exact hshort x' y rfl hx' hy

theorem shortestBefore_eq_some_iff {α : Type} {f : Text → Option α} {t u : Text} {a : α} :
    shortestBefore f t = some (u, a) ↔ ∃ r, t = u ++ r ∧ IsShortestBefore f u r a := by
  induction t generalizing u with
  | nil =>
    refine iff_of_false (by simp [shortestBefore]) ?_
    rintro ⟨r, ht, h⟩
    exact h.ne_nil (List.append_eq_nil_iff.1 ht.symm).1
  | cons c s ih =>
    rw [shortestBefore]
    cases hf : f s with
    | some b =>
      -- one character is short enough: nothing lies between it and the empty text
      constructor
      · intro h
        cases h
        exact ⟨s, rfl, isShortestBefore_singleton c hf⟩
      · rintro ⟨r, ht, hne, htakes, hshort⟩
        obtain ⟨d, v, rfl⟩ := List.exists_cons_of_ne_nil hne
        rw [List.cons_append] at ht
        obtain ⟨rfl, rfl⟩ := List.cons.inj ht
        cases v with
        | nil =>
          rw [List.nil_append, htakes] at hf
          cases hf
          rfl
        | cons e v =>
          rw [hshort [c] (e :: v) rfl (by simp) (by simp)] at hf
          cases hf
    | none =>
      -- the first character is one more text that `f` rejects
      constructor
      · intro h
        obtain ⟨⟨v, b⟩, hv, he⟩ := Option.map_eq_some_iff.1 h
        cases he
        obtain ⟨r, rfl, hshortest⟩ := ih.1 hv
        exact ⟨r, rfl, (isShortestBefore_cons_iff c hf).2 hshortest⟩
      · rintro ⟨r, ht, hshortest⟩
        obtain ⟨d, v, rfl⟩ := List.exists_cons_of_ne_nil hshortest.ne_nil
        rw [List.cons_append] at ht
        obtain ⟨rfl, rfl⟩ := List.cons.inj ht
        rw [ih.2 ⟨r, rfl, (isShortestBefore_cons_iff c hf).1 hshortest⟩]
        rfl

theorem shortestBefore_ne_none_of_mem {α : Type} {f : Text → Option α} {u r : Text} (hu : u ≠ [])
    (h : f r ≠ none) : shortestBefore f (u ++ r) ≠ none := by
  induction u with
  | nil => exact absurd rfl hu
  | cons c u ih =>
    rw [List.cons_append, shortestBefore]
    cases hf : f (u ++ r) with
    | some a => simp
    | none =>
      have hne : u ≠ [] := by
        rintro rfl
        exact h hf
      simpa using ih hne

namespace MessageLine

/-! ### The target and the text -/

variable {t : Text}

theorem text?_eq (hn : '\n' ∉ t) : text? t = some t := by
  have hall : ∀ c ∈ t, decide (c ≠ '\n') = true := fun c hc =>
    decide_eq_true fun h => hn (h ▸ hc)
  unfold text?
  rw [List.dropWhile_eq_nil_iff.2 hall, List.takeWhile_eq_self_iff.2 hall]

theorem afterTarget?_eq_some_iff (hn : '\n' ∉ t) {x : Text} :
    afterTarget? t = some x ↔
      ∃ w r, t = w ++ ':' :: r ∧ (∀ c ∈ w, isSpace c = true) ∧ x = r.dropWhile isSpace := by
  have hcolon : isSpace ':' = false := by decide
  unfold afterTarget?
  constructor
  · intro h
    split at h
    · rename_i r hr
      have ht : t = t.takeWhile isSpace ++ ':' :: r := by
        rw [← hr, List.takeWhile_append_dropWhile]
      have hnr : '\n' ∉ r.dropWhile isSpace := fun hm => hn (by
        rw [ht]
        simp [(List.dropWhile_sublist isSpace).mem hm])
      rw [text?_eq hnr] at h
      cases h
      exact ⟨_, r, ht, fun c hc => List.mem_takeWhile_imp hc, rfl⟩
    · cases h
  · rintro ⟨w, r, rfl, hw, rfl⟩
    have hnr : '\n' ∉ r.dropWhile isSpace := fun hm => hn (by
      simp [(List.dropWhile_sublist isSpace).mem hm])
    rw [List.dropWhile_append_of_pos hw, List.dropWhile_cons_of_neg (by simp [hcolon])]
    exact text?_eq hnr

theorem target?_eq (hn : '\n' ∉ t) : target? t = shortestBefore afterTarget? t := by
  induction t with
  | nil => rfl
  | cons c r ih =>
    rw [List.mem_cons, not_or] at hn
    rw [target?, if_neg (Ne.symm hn.1), shortestBefore, ih hn.2]
    cases afterTarget? r <;> rfl

/-- There is a target if a colon stands behind the first character. -/
theorem target?_ne_none (hn : '\n' ∉ t) (h : ':' ∈ t.tail) : target? t ≠ none := by
  obtain ⟨c, r, rfl⟩ := List.exists_cons_of_ne_nil (l := t) (by rintro rfl; cases h)
  obtain ⟨x, y, rfl⟩ := List.append_of_mem (h : ':' ∈ r)
  rw [target?_eq hn, ← List.cons_append]
  refine shortestBefore_ne_none_of_mem (by simp) ?_
  have hny : '\n' ∉ ':' :: y := fun hm => hn (by simp_all)
  rw [(afterTarget?_eq_some_iff hny).2 ⟨[], y, rfl, by simp, rfl⟩]
  simp

theorem afterArrow?_ne_none (hn : '\n' ∉ t) (h : ':' ∈ t.tail) : afterArrow? t ≠ none := by
  cases t with
  | nil => cases h
  | cons c r =>
    rw [afterArrow?]
    split_ifs
    · rw [Ne, Option.or_eq_none_iff]
      exact fun hnone => target?_ne_none hn h hnone.2
    · exact target?_ne_none hn h

/-- What is found behind an arrow: white space, a target and its text. -/
theorem afterArrow?_cases (hn : '\n' ∉ t) {g x : Text} (h : afterArrow? t = some (g, x)) :
    (∃ w r, t = w ++ (g ++ r) ∧ (∀ c ∈ w, isSpace c = true) ∧ (∀ c ∈ g.head?, isSpace c = false) ∧
      IsShortestBefore afterTarget? g r x) ∨
    ∃ w c r, t = w ++ c :: ':' :: r ∧ (∀ d ∈ w, isSpace d = true) ∧ isSpace c = true ∧ ':' ∉ r ∧
      g = [c] ∧ x = r.dropWhile isSpace := by
  induction t with
  | nil => cases h
  | cons c r ih =>
    have hnr : '\n' ∉ r := fun hm => hn (List.mem_cons_of_mem c hm)
    rw [afterArrow?] at h
    split_ifs at h with hc
    · cases ha : afterArrow? r with
      | some p =>
        rw [ha, Option.some_or, Option.some.injEq] at h
        subst h
        rcases ih hnr ha with ⟨w, r', rfl, hw, hg⟩ | ⟨w, d, r', rfl, hw, hg⟩
        · exact .inl ⟨c :: w, r', rfl, List.forall_mem_cons.2 ⟨hc, hw⟩, hg⟩
        · exact .inr ⟨c :: w, d, r', rfl, List.forall_mem_cons.2 ⟨hc, hw⟩, hg⟩
      | none =>
        -- Without this blank there is no target: the colon follows at once, and it is the last.
        rw [ha, Option.none_or] at h
        have htail : ':' ∉ r.tail := fun hm => afterArrow?_ne_none hnr hm ha
        have hmem : ':' ∈ r := by
          rw [target?_eq hn] at h
          obtain ⟨r', ht, hs⟩ := shortestBefore_eq_some_iff.1 h
          obtain ⟨d, v, rfl⟩ := List.exists_cons_of_ne_nil hs.ne_nil
          rw [List.cons_append] at ht
          obtain ⟨rfl, rfl⟩ := List.cons.inj ht
          have hn' : '\n' ∉ r' := fun hm => hnr (List.mem_append_right v hm)
          obtain ⟨w, y, rfl, -⟩ := (afterTarget?_eq_some_iff hn').1 hs.takes
          simp
        obtain ⟨d, y, rfl⟩ := List.exists_cons_of_ne_nil (List.ne_nil_of_mem hmem)
        obtain rfl : ':' = d := (List.mem_cons.1 hmem).resolve_right htail
        have hafter : afterTarget? (':' :: y) = some (y.dropWhile isSpace) :=
          (afterTarget?_eq_some_iff hnr).2 ⟨[], y, rfl, by simp, rfl⟩
        rw [target?, if_neg fun hcn => hn (by simp [hcn]), hafter] at h
        cases h
        exact .inr ⟨[], c, y, rfl, by simp, hc, htail, rfl, rfl⟩
    · rw [target?_eq hn] at h
      obtain ⟨r', ht, hs⟩ := shortestBefore_eq_some_iff.1 h
      refine .inl ⟨[], r', ht, by simp, ?_, hs⟩
      intro d hd
      obtain ⟨e, v, rfl⟩ := List.exists_cons_of_ne_nil hs.ne_nil
      cases hd
      rw [List.cons_append] at ht
      rw [← (List.cons.inj ht).1]
      simpa using hc

/-! ### Arrows -/

/-- The heads of arrows. -/
def heads : List Text := [['>', '>'], ['>'], ['x'], [')']]

/-- How an arrow may be written: a tail, one to three hyphens and a head. -/
structure IsArrowText (a : Text) : Prop where
  shape : ∃ tail n head, a = tail ++ (List.replicate n '-' ++ head) ∧
    tail ∈ [[], ['<', '<']] ∧ 1 ≤ n ∧ n ≤ 3 ∧ head ∈ heads

/-- An activation as it is written. -/
def signOf (a : Option Activation) : Text := (a.map Activation.sign).toList

theorem mem_signs_iff {a : Option Activation} {r : Text} : (a, r) ∈ signs t ↔ t = signOf a ++ r := by
  have hsign : ∀ {c : Char} {b : Activation}, Activation.ofSign? c = some b ↔ c = b.sign := by
    intro c b
    unfold Activation.ofSign?
    split_ifs <;> cases b <;> simp_all [Activation.sign]
  cases t with
  | nil => cases a <;> simp [signs, signOf]
  | cons c s =>
    rw [signs]
    cases ho : Activation.ofSign? c with
    | none =>
      cases a with
      | none => simp [signOf, eq_comm]
      | some b =>
        have hc : c ≠ b.sign := fun hc => by simp [hsign.2 hc] at ho
        simp [signOf, hc]
    | some d =>
      rw [hsign] at ho
      subst ho
      cases a with
      | none => simp [signOf, eq_comm]
      | some b => cases b <;> cases d <;> simp [signOf, Activation.sign, eq_comm]

theorem mem_arrowHeads_iff {h r : Text} : (h, r) ∈ arrowHeads t ↔ h ∈ heads ∧ t = h ++ r := by
  constructor
  · intro hm
    unfold arrowHeads at hm
    split at hm <;> simp only [List.mem_cons, Prod.mk.injEq, List.not_mem_nil, or_false] at hm
    · rcases hm with ⟨rfl, rfl⟩ | ⟨rfl, rfl⟩ <;> simp [heads]
    all_goals
      obtain ⟨rfl, rfl⟩ := hm
      simp [heads]
  · rintro ⟨hh, rfl⟩
    simp only [heads, List.mem_cons, List.not_mem_nil, or_false] at hh
    rcases hh with rfl | rfl | rfl | rfl
    · simp [arrowHeads]
    · show (['>'], r) ∈ arrowHeads ('>' :: r)
      unfold arrowHeads
      split <;> simp_all
    · simp [arrowHeads]
    · simp [arrowHeads]

theorem arrowTail_eq (t : Text) :
    t = (arrowTail t).1 ++ (arrowTail t).2 ∧ (arrowTail t).1 ∈ [[], ['<', '<']] := by
  unfold arrowTail
  split <;> simp

theorem arrowTail_append {tail : Text} (htail : tail ∈ [[], ['<', '<']]) (s : Text) :
    arrowTail (tail ++ '-' :: s) = (tail, '-' :: s) := by
  simp only [List.mem_cons, List.not_mem_nil, or_false] at htail
  rcases htail with rfl | rfl <;> rfl

theorem exists_cons_of_mem_heads {h : Text} (hh : h ∈ heads) : ∃ c s, h = c :: s ∧ c ≠ '-' := by
  simp only [heads, List.mem_cons, List.not_mem_nil, or_false] at hh
  rcases hh with rfl | rfl | rfl | rfl <;> exact ⟨_, _, rfl, by decide⟩

/-- The arrows at the start of a text are all ways to read it as an arrow with or without a sign. -/
theorem mem_arrows_iff {a r : Text} {b : Option Activation} :
    (a, b, r) ∈ arrows t ↔ IsArrowText a ∧ t = a ++ (signOf b ++ r) := by
  constructor
  · intro h
    obtain ⟨ht, htail⟩ := arrowTail_eq t
    unfold arrows at h
    rcases hat : arrowTail t with ⟨tail, rest⟩
    simp only [hat] at h ht htail
    split_ifs at h with hlen
    · simp only [List.mem_flatMap, List.mem_map, Prod.mk.injEq] at h
      obtain ⟨⟨head, s⟩, hhead, ⟨b', r'⟩, hsign, rfl, rfl, rfl⟩ := h
      obtain ⟨hh, hrest⟩ := mem_arrowHeads_iff.1 hhead
      have hshaft : rest.takeWhile (· == '-') =
          List.replicate (rest.takeWhile (· == '-')).length '-' :=
        List.eq_replicate_iff.2 ⟨rfl, fun c hc => by simpa using List.mem_takeWhile_imp hc⟩
      simp only [Bool.and_eq_true, decide_eq_true_eq] at hlen
      refine ⟨⟨tail, _, head, ?_, htail, hlen.1, hlen.2, hh⟩, ?_⟩
      · rw [← hshaft, List.append_assoc]
      · rw [← mem_signs_iff.1 hsign, List.append_assoc, List.append_assoc, ← hrest,
          List.takeWhile_append_dropWhile, ← ht]
    · cases h
  · rintro ⟨⟨tail, n, head, rfl, htail, hpos, hn, hhead⟩, rfl⟩
    obtain ⟨m, rfl⟩ : ∃ m, n = m + 1 := ⟨n - 1, by omega⟩
    obtain ⟨c, u, rfl, hc⟩ := exists_cons_of_mem_heads hhead
    set s := signOf b ++ r with hs
    have hall : ∀ d ∈ List.replicate (m + 1) '-', (d == '-') = true := by
      intro d hd
      simp [List.eq_of_mem_replicate hd]
    have htake : (List.replicate (m + 1) '-' ++ c :: (u ++ s)).takeWhile (· == '-') =
        List.replicate (m + 1) '-' := by
      rw [List.takeWhile_append_of_pos hall, List.takeWhile_cons_of_neg (by simp [hc]),
        List.append_nil]
    have hdrop : (List.replicate (m + 1) '-' ++ c :: (u ++ s)).dropWhile (· == '-') =
        c :: (u ++ s) := by
      rw [List.dropWhile_append_of_pos hall, List.dropWhile_cons_of_neg (by simp [hc])]
    have hat : arrowTail (tail ++ (List.replicate (m + 1) '-' ++ c :: u) ++ s) =
        (tail, List.replicate (m + 1) '-' ++ c :: (u ++ s)) := by
      rw [List.append_assoc, List.append_assoc]
      exact arrowTail_append htail _
    unfold arrows
    rw [hat]
    simp only [htake, hdrop, List.length_replicate]
    rw [if_pos (by simpa using hn)]
    simp only [List.mem_flatMap, List.mem_map, Prod.mk.injEq]
    refine ⟨(c :: u, s), mem_arrowHeads_iff.2 ⟨hhead, rfl⟩, (b, r), mem_signs_iff.2 hs, ?_, rfl, rfl⟩
    rw [List.append_assoc]

theorem IsArrowText.ne_nil {a : Text} (h : IsArrowText a) : a ≠ [] := by
  obtain ⟨tail, n, head, rfl, -, hpos, -⟩ := h.shape
  have hshaft : List.replicate n '-' ≠ [] := by
    rw [Ne, List.replicate_eq_nil_iff]
    omega
  simp [hshaft]

theorem IsArrowText.isSpace_eq_false {a : Text} (h : IsArrowText a) : ∀ c ∈ a, isSpace c = false := by
  obtain ⟨tail, n, head, rfl, htail, -, -, hhead⟩ := h.shape
  intro c hc
  rw [List.mem_append, List.mem_append] at hc
  rcases hc with hc | hc | hc
  · exact (by decide : ∀ u ∈ [[], ['<', '<']], ∀ d ∈ u, isSpace d = false) tail htail c hc
  · rw [List.eq_of_mem_replicate hc]
    decide
  · exact (by decide : ∀ u ∈ heads, ∀ d ∈ u, isSpace d = false) head hhead c hc

/-- Reading from an arrow on. -/
theorem exists_of_fromArrow? {l : MessageLine} (h : fromArrow? t = some l) :
    ∃ r, IsArrowText l.arrow ∧ t = l.arrow ++ (signOf l.activation ++ r) ∧
      afterArrow? r = some (l.target, l.text) := by
  unfold fromArrow? at h
  obtain ⟨⟨a, b, r⟩, hmem, hr⟩ := List.exists_of_findSome?_eq_some h
  obtain ⟨⟨g, x⟩, hgx, he⟩ := Option.map_eq_some_iff.1 hr
  cases he
  obtain ⟨ha, ht⟩ := mem_arrows_iff.1 hmem
  exact ⟨r, ha, ht, hgx⟩

/-- Behind an arrow a message can be read if there is a colon, but not at once. -/
theorem fromArrow?_ne_none {a r : Text} (ha : IsArrowText a) (hn : '\n' ∉ r) (hr : ':' ∈ r.tail) :
    fromArrow? (a ++ r) ≠ none := by
  unfold fromArrow?
  rw [Ne, List.findSome?_eq_none_iff]
  intro hnone
  have hmem : (a, none, r) ∈ arrows (a ++ r) := mem_arrows_iff.2 ⟨ha, rfl⟩
  exact afterArrow?_ne_none hn hr (Option.map_eq_none_iff.1 (hnone _ hmem))

/-- Where no message could be read from `v` on, none can be when a space follows `v`: an arrow in `v`
would have been one before. -/
theorem fromArrow?_append_space {v rest y : Text} (h : fromArrow? (v ++ rest) = none)
    (hn : '\n' ∉ v ++ rest) (hrest : ':' ∈ rest.tail) : fromArrow? (v ++ ' ' :: y) = none := by
  by_contra hne
  obtain ⟨l, hl⟩ := Option.ne_none_iff_exists'.1 hne
  obtain ⟨r, ha, ht, -⟩ := exists_of_fromArrow? hl
  -- the arrow ends in `v`, since it holds no space
  obtain ⟨m, rfl⟩ : ∃ m, v = l.arrow ++ m := by
    rcases List.append_eq_append_iff.1 ht with ⟨m, hm, hy⟩ | ⟨m, hm, -⟩
    · cases m with
      | nil => exact ⟨[], by simpa using hm.symm⟩
      | cons c m =>
        rw [List.cons_append] at hy
        have hc := ha.isSpace_eq_false c (by rw [hm]; simp)
        rw [← (List.cons.inj hy).1] at hc
        cases hc
    · exact ⟨m, hm⟩
  rw [List.append_assoc] at h hn
  refine fromArrow?_ne_none ha (fun hm => hn (List.mem_append_right _ hm)) ?_ h
  cases m with
  | nil => exact hrest
  | cons c m => exact List.mem_append_right m (List.mem_of_mem_tail hrest)

/-! ### The whole line -/

/-- The message that starts with an arrow, behind optional white space. -/
def message? (t : Text) : Option MessageLine := fromArrow? (t.dropWhile isSpace)

theorem read?_eq (hn : '\n' ∉ t) :
    read? t = (shortestBefore message? t).map fun (s, m) => { m with source := s } := by
  induction t with
  | nil => rfl
  | cons c r ih =>
    rw [List.mem_cons, not_or] at hn
    rw [read?, if_neg (Ne.symm hn.1), shortestBefore, ih hn.2]
    unfold message?
    cases fromArrow? (r.dropWhile isSpace) with
    | some m => rfl
    | none => cases shortestBefore _ r <;> rfl

/-- What the reading of a line is. -/
theorem read?_eq_some_iff (hn : '\n' ∉ t) {l : MessageLine} :
    read? t = some l ↔ ∃ r m, t = l.source ++ r ∧ IsShortestBefore message? l.source r m ∧
      l = { m with source := l.source } := by
  rw [read?_eq hn, Option.map_eq_some_iff]
  constructor
  · rintro ⟨⟨s, m⟩, hs, rfl⟩
    obtain ⟨r, ht, h⟩ := shortestBefore_eq_some_iff.1 hs
    exact ⟨r, m, ht, h, rfl⟩
  · rintro ⟨r, m, ht, h, hl⟩
    exact ⟨(l.source, m), shortestBefore_eq_some_iff.2 ⟨r, ht, h⟩, hl.symm⟩

/-- The parts of a line that is read as a message, in their order. -/
structure IsParted (l : MessageLine) (t w r : Text) : Prop where
  eq : t = l.source ++ (w ++ (l.arrow ++ (signOf l.activation ++ r)))
  white : ∀ c ∈ w, isSpace c = true
  arrow : IsArrowText l.arrow
  target : afterArrow? r = some (l.target, l.text)
  source : ∃ m, IsShortestBefore message? l.source
    (w ++ (l.arrow ++ (signOf l.activation ++ r))) m

theorem exists_isParted (hn : '\n' ∉ t) {l : MessageLine} (h : read? t = some l) :
    ∃ w r, IsParted l t w r := by
  obtain ⟨s, m, ht, hs, hl⟩ := (read?_eq_some_iff hn).1 h
  obtain ⟨r, ha, hr, htarget⟩ := exists_of_fromArrow? hs.takes
  have harrow : m.arrow = l.arrow := by rw [hl]
  have hact : m.activation = l.activation := by rw [hl]
  have htgt : m.target = l.target := by rw [hl]
  have htxt : m.text = l.text := by rw [hl]
  rw [harrow, hact] at hr
  have hsplit : s = s.takeWhile isSpace ++ (l.arrow ++ (signOf l.activation ++ r)) := by
    rw [← hr, List.takeWhile_append_dropWhile]
  refine ⟨s.takeWhile isSpace, r, ?_, fun c hc => List.mem_takeWhile_imp hc, harrow ▸ ha, ?_, m, ?_⟩
  · rw [← hsplit, ht]
  · rw [htarget, htgt, htxt]
  · rw [← hsplit]
    exact hs

theorem visible_eq_of_afterArrow? (hn : '\n' ∉ t) {g x : Text} (h : afterArrow? t = some (g, x)) :
    visible t = visible g ++ ':' :: visible x := by
  have hcolon : isSpace ':' = false := by decide
  have hdrop : ∀ r : Text, visible (r.dropWhile isSpace) = visible r := visible_dropWhile fun _ h => h
  rcases afterArrow?_cases hn h with ⟨w, r, rfl, hw, -, hs⟩ | ⟨w, c, r, rfl, hw, hc, -, rfl, rfl⟩
  · have hnr : '\n' ∉ r := fun hm => hn (by simp [hm])
    obtain ⟨v, s, rfl, hv, rfl⟩ := (afterTarget?_eq_some_iff hnr).1 hs.takes
    simp [visible_eq_nil_iff.2 hw, visible_eq_nil_iff.2 hv, hcolon, hdrop]
  · simp [visible_eq_nil_iff.2 hw, hc, hcolon, hdrop]

/-- The target, the colon and the text are part of what is read. -/
theorem subset_of_afterArrow? (hn : '\n' ∉ t) {g x : Text} (h : afterArrow? t = some (g, x)) :
    g ⊆ t ∧ ':' ∈ t ∧ x ⊆ t := by
  rcases afterArrow?_cases hn h with ⟨w, r, rfl, -, -, hs⟩ | ⟨w, c, r, rfl, -, -, -, rfl, rfl⟩
  · have hnr : '\n' ∉ r := fun hm => hn (by simp [hm])
    obtain ⟨v, s, rfl, -, rfl⟩ := (afterTarget?_eq_some_iff hnr).1 hs.takes
    refine ⟨fun d hd => by simp [hd], by simp, fun d hd => ?_⟩
    simp [(List.dropWhile_sublist isSpace).mem hd]
  · refine ⟨by simp, by simp, fun d hd => ?_⟩
    simp [(List.dropWhile_sublist isSpace).mem hd]

theorem isSpace_of_mem_signOf (b : Option Activation) : ∀ c ∈ signOf b, isSpace c = false := by
  rcases b with _ | _ | _ <;> decide

/-- The visible characters of a line are those of its parts, and a colon. -/
theorem visible_eq_of_read? (hn : '\n' ∉ t) {l : MessageLine} (h : read? t = some l) :
    visible t = visible l.source ++ (l.arrow ++ (signOf l.activation ++
      (visible l.target ++ ':' :: visible l.text))) := by
  obtain ⟨w, r, hp⟩ := exists_isParted hn h
  have hnr : '\n' ∉ r := fun hm => hn (by rw [hp.eq]; simp [hm])
  have hself : ∀ {u : Text}, (∀ c ∈ u, isSpace c = false) → visible u = u := fun hu =>
    List.filter_eq_self.2 fun c hc => by simp [hu c hc]
  rw [hp.eq]
  simp [visible_eq_nil_iff.2 hp.white, hself hp.arrow.isSpace_eq_false, hself (isSpace_of_mem_signOf _),
    visible_eq_of_afterArrow? hnr hp.target]

/-! ### Reading a rendered message -/

theorem afterTarget?_cons {c : Char} (hc : isSpace c = true) (s : Text) :
    afterTarget? (c :: s) = afterTarget? s := by
  unfold afterTarget?
  rw [List.dropWhile_cons_of_pos hc]

theorem message?_cons {c : Char} (hc : isSpace c = true) (s : Text) :
    message? (c :: s) = message? s := by
  unfold message?
  rw [List.dropWhile_cons_of_pos hc]

theorem target?_eq_none (hn : '\n' ∉ t) (h : ':' ∉ t.tail) : target? t = none := by
  rw [target?_eq hn, Option.eq_none_iff_forall_ne_some]
  rintro ⟨g, x⟩ hgx
  obtain ⟨r, rfl, hs⟩ := shortestBefore_eq_some_iff.1 hgx
  obtain ⟨c, v, rfl⟩ := List.exists_cons_of_ne_nil hs.ne_nil
  have hnr : '\n' ∉ r := fun hm => hn (by simp [hm])
  obtain ⟨w, s, rfl, -⟩ := (afterTarget?_eq_some_iff hnr).1 hs.takes
  exact h (by simp)

/-- A target may be followed by another text. -/
theorem isShortestBefore_colon {g r x s : Text} (h : IsShortestBefore afterTarget? g r x)
    (hg : IsTrimmed isSpace g) (hn : '\n' ∉ g ++ r) (hs : '\n' ∉ g ++ ':' :: s) :
    IsShortestBefore afterTarget? g (':' :: s) (s.dropWhile isSpace) where
  ne_nil := h.ne_nil
  takes := (afterTarget?_eq_some_iff fun hm => hs (List.mem_append_right _ hm)).2
    ⟨[], s, rfl, by simp, rfl⟩
  shortest := by
    intro u v huv hu hv
    rw [huv, List.append_assoc] at hn hs
    by_contra hne
    obtain ⟨y, hy⟩ := Option.ne_none_iff_exists'.1 hne
    obtain ⟨w, z, hz, hw, -⟩ :=
      (afterTarget?_eq_some_iff fun hm => hs (List.mem_append_right u hm)).1 hy
    -- The white space and the colon must lie within the target, which ends visibly.
    have hvisible : ¬∀ c ∈ v, isSpace c = true := by
      intro hall
      have hlast := hall _ (List.getLast_mem hv)
      rw [hg.last _ ?_] at hlast
      · cases hlast
      · rw [huv, List.getLast?_append_of_ne_nil _ hv, List.getLast?_eq_some_getLast hv]
        rfl
    obtain ⟨m, rfl⟩ : ∃ m, v = w ++ ':' :: m := by
      rcases List.append_eq_append_iff.1 hz with ⟨m, rfl, -⟩ | ⟨m, rfl, hm⟩
      · exact absurd (fun c hc => hw c (List.mem_append_left m hc)) hvisible
      · cases m with
        | nil => exact absurd (by simpa using hw) hvisible
        | cons c m =>
          rw [List.cons_append] at hm
          exact ⟨m, by rw [(List.cons.inj hm).1]⟩
    have hsome := (afterTarget?_eq_some_iff fun hm => hn (List.mem_append_right u hm)).2
      ⟨w, m ++ r, by simp, hw, rfl⟩
    rw [h.shortest u _ huv hu hv] at hsome
    cases hsome

/-- With one space before it and none behind it the target is the same, where the text behind the
colon may be another one. -/
theorem exists_afterArrow?_strip {g x s : Text} (hn : '\n' ∉ t) (h : afterArrow? t = some (g, x))
    (hs : '\n' ∉ s) (hcolon : ':' ∈ s → ':' ∈ x) :
    ∃ g', afterArrow? (' ' :: (strip g ++ ':' :: s)) = some (g', s.dropWhile isSpace) ∧
      strip g' = strip g := by
  rcases afterArrow?_cases hn h with ⟨w, r, rfl, hw, hg, hshort⟩ | ⟨w, c, r, rfl, hw, hc, hr, rfl, rfl⟩
  · have hng : '\n' ∉ g ++ r := fun hm => hn (List.mem_append_right w hm)
    have hngs : '\n' ∉ g ++ ':' :: s := by
      rw [List.mem_append, not_or] at hng ⊢
      exact ⟨hng.1, by simpa using hs⟩
    have htrim := hshort.isTrimmed (fun c s hc => afterTarget?_cons hc s) hg
    have htarget : target? (g ++ ':' :: s) = some (g, s.dropWhile isSpace) := by
      rw [target?_eq hngs]
      exact shortestBefore_eq_some_iff.2 ⟨_, rfl, isShortestBefore_colon hshort htrim hng hngs⟩
    rw [strip, htrim.trim_eq]
    refine ⟨g, ?_, htrim.trim_eq⟩
    obtain ⟨c, v, rfl⟩ := List.exists_cons_of_ne_nil hshort.ne_nil
    have hafter : afterArrow? (c :: v ++ ':' :: s) = target? (c :: v ++ ':' :: s) := by
      rw [List.cons_append, afterArrow?, if_neg (by simp [hg c rfl])]
    rw [afterArrow?, if_pos isSpace_space, hafter, htarget, Option.some_or]
  · -- the target is white space before the only colon; a space takes its place
    have hstrip : strip [c] = [] := trim_eq_nil_iff.2 (by simpa using hc)
    have hns : ':' ∉ s := fun hm => hr ((List.dropWhile_sublist isSpace).mem (hcolon hm))
    have hnc : '\n' ∉ ':' :: s := by simpa using hs
    have hafter : afterTarget? (':' :: s) = some (s.dropWhile isSpace) :=
      (afterTarget?_eq_some_iff hnc).2 ⟨[], s, rfl, by simp, rfl⟩
    rw [hstrip, List.nil_append]
    refine ⟨[' '], ?_, by decide⟩
    rw [afterArrow?, if_pos isSpace_space, afterArrow?, if_neg (by decide),
      target?_eq_none hnc hns, Option.none_or, target?, if_neg (by decide), hafter]

/-- Of the ways to read an arrow with a space behind it the arrow itself comes first. -/
theorem exists_arrows_eq (a : Arrow) (b : Option Activation) (s : Text) :
    ∃ others, arrows (a.token ++ (signOf b ++ ' ' :: s)) = (a.token, b, ' ' :: s) :: others := by
  cases a <;> rcases b with _ | _ | _ <;> exact ⟨_, rfl⟩

theorem fromArrow?_token {a : Arrow} {b : Option Activation} {s g x : Text}
    (h : afterArrow? (' ' :: s) = some (g, x)) :
    fromArrow? (a.token ++ (signOf b ++ ' ' :: s)) =
      some { source := [], arrow := a.token, activation := b, target := g, text := x } := by
  obtain ⟨others, ho⟩ := exists_arrows_eq a b s
  unfold fromArrow?
  rw [ho, List.findSome?_cons]
  simp [h]

/-- A text that starts with two colons names a class, so that the line is no message. -/
def namesClass (l : MessageLine) : Bool := [':', ':'].isPrefixOf (strip l.text)

/-- The message of a line, where `a` is its arrow. -/
def toMessage (l : MessageLine) (a : Arrow) : Message where
  source := strip l.source
  arrow := a
  target := strip l.target
  text := stripped? l.text
  activation := l.activation

end MessageLine

/-- The line `t` is the message `m`. -/
def ReadsMessage (t : Text) (m : Message) : Prop :=
  ∃ l a, MessageLine.read? t = some l ∧ l.namesClass = false ∧
    Vocabulary.decode? l.arrow = some a ∧ m = l.toMessage a

/-- The line `t` does not look like a message. -/
def NoMessage (t : Text) : Prop := ∀ l, MessageLine.read? t = some l → l.namesClass = true

/-- The line `t` looks like a message, but its arrow is none. -/
def UnknownArrow (t : Text) : Prop :=
  ∃ l, MessageLine.read? t = some l ∧ l.namesClass = false ∧
    (Vocabulary.decode? l.arrow : Option Arrow) = none

namespace Message

/-- What is written behind the colon of a message. -/
def shownText (m : Message) : Text :=
  match m.text with
  | none | some [] => []
  | some t => ' ' :: normalize t

theorem render_eq (m : Message) :
    m.render = m.source ++ ' ' :: (m.arrow.token ++ (MessageLine.signOf m.activation ++
      ' ' :: (m.target ++ ':' :: m.shownText))) := by
  unfold render arrowToken
  rw [List.append_assoc]
  rfl

/-- The text of a message stands behind a colon at the end of the line. -/
theorem exists_render_eq (m : Message) : ∃ u, m.render = u ++ ':' :: m.shownText :=
  ⟨m.source ++ ' ' :: (m.arrow.token ++ (MessageLine.signOf m.activation ++ ' ' :: m.target)),
    by rw [render_eq]; simp⟩

/-- Behind the source of a message stands a space, and then its arrow. -/
theorem exists_render_source (m : Message) :
    ∃ c r, m.render = m.source ++ ' ' :: c :: r ∧ isSpace c = false ∧ c ≠ '\x7b' := by
  obtain ⟨c, v, hv, hspace, hbrace⟩ : ∃ c v, m.arrow.token = c :: v ∧ isSpace c = false ∧ c ≠ '\x7b' := by
    cases m.arrow <;> exact ⟨_, _, rfl, by decide, by decide⟩
  exact ⟨c, _, by rw [render_eq, hv, List.cons_append], hspace, hbrace⟩

/-- The message with its text in normal spacing. -/
def settled (m : Message) : Message := { m with text := m.text.map normalize }

theorem shownText_settled (m : Message) : m.settled.shownText = m.shownText := by
  unfold settled shownText
  rcases m.text with _ | t
  · rfl
  · rcases t with _ | ⟨c, r⟩
    · simp [normalize_eq_nil_iff.2 rfl]
    · obtain ⟨d, s, hd⟩ := List.exists_cons_of_ne_nil (l := normalize (c :: r)) (by simp)
      simp only [Option.map_some, hd]
      rw [← hd, normalize_normalize]

@[simp] theorem render_settled (m : Message) : m.settled.render = m.render := by
  rw [render_eq, render_eq, shownText_settled]
  rfl

end Message

namespace MessageLine

variable {t : Text} {l : MessageLine}

theorem shownText_toMessage (l : MessageLine) (a : Arrow) :
    (l.toMessage a).shownText = if strip l.text = [] then [] else ' ' :: normalize (strip l.text) := by
  unfold Message.shownText toMessage stripped?
  by_cases h : strip l.text = []
  · simp [h]
  · obtain ⟨c, r, hc⟩ := List.exists_cons_of_ne_nil h
    simp [hc]

theorem isTrimmed_normalize {s : Text} (h : IsTrimmed isSpace s) : IsTrimmed isSpace (normalize s) where
  head := by simpa using h.head
  last := by simpa [getLast?_normalize h.last] using h.last

theorem isTrimmed_source (h : IsClean t) {w r : Text} (hp : IsParted l t w r) :
    IsTrimmed isSpace l.source := by
  obtain ⟨m, hs⟩ := hp.source
  refine hs.isTrimmed (fun c s hc => message?_cons hc s) fun c hc => ?_
  refine h.isTrimmed_isSpace.head c ?_
  rwa [hp.eq, List.head?_append_of_ne_nil _ hs.ne_nil]

/-- In a rendered message no shorter source is followed by an arrow. -/
theorem isShortestBefore_render {u rest s : Text} {m m' : MessageLine}
    (h : IsShortestBefore message? u rest m) (hu : IsTrimmed isSpace u) (hn : '\n' ∉ u ++ rest)
    (hrest : ':' ∈ rest.tail) (hm' : message? s = some m') :
    IsShortestBefore message? u (' ' :: s) m' where
  ne_nil := h.ne_nil
  takes := by rw [message?_cons isSpace_space, hm']
  shortest := by
    intro x y hxy hx hy
    -- what `y` starts with after white space is the same in both lines
    have hvisible : y.dropWhile isSpace ≠ [] := by
      refine dropWhile_ne_nil hy fun c hc => hu.last c ?_
      rwa [hxy, List.getLast?_append_of_ne_nil _ hy]
    have hdrop : ∀ z : Text, (y ++ z).dropWhile isSpace = y.dropWhile isSpace ++ z := by
      intro z
      rw [List.dropWhile_append, if_neg (by simpa using hvisible)]
    have hnone := h.shortest x y hxy hx hy
    unfold message? at hnone ⊢
    rw [hdrop] at hnone ⊢
    refine fromArrow?_append_space hnone (fun hm => hn ?_) hrest
    rw [hxy, List.append_assoc]
    refine List.mem_append_right x ?_
    rw [List.mem_append] at hm ⊢
    exact hm.imp_left fun hm => (List.dropWhile_sublist isSpace).mem hm

theorem shownText_subset (l : MessageLine) (a : Arrow) : (l.toMessage a).shownText ⊆ ' ' :: l.text := by
  rw [shownText_toMessage]
  split_ifs with h
  · simp
  · intro c hc
    rcases List.mem_cons.1 hc with rfl | hc
    · simp
    · rcases List.mem_cons.1 (normalize_subset _ hc) with rfl | hc
      · simp
      · exact List.mem_cons_of_mem _ (mem_of_mem_trim hc)

theorem dropWhile_shownText (l : MessageLine) (a : Arrow) :
    (l.toMessage a).shownText.dropWhile isSpace = normalize (strip l.text) := by
  rw [shownText_toMessage]
  split_ifs with h
  · rw [h, normalize_eq_nil_iff.2 rfl]
    rfl
  · rw [List.dropWhile_cons_of_pos isSpace_space,
      dropWhile_eq_self (isTrimmed_normalize (isTrimmed_strip l.text)).head]

/-- Rendering adds nothing but spaces. -/
theorem render_subset (hn : '\n' ∉ t) (hl : read? t = some l) {a : Arrow}
    (ha : Vocabulary.decode? l.arrow = some a) : (l.toMessage a).render ⊆ ' ' :: t := by
  obtain ⟨w, r, hp⟩ := exists_isParted hn hl
  have htoken : l.arrow = a.token := (Vocabulary.spelling_of_decode? ha).symm
  have hnr : '\n' ∉ r := fun hm => hn (by rw [hp.eq]; simp [hm])
  obtain ⟨hg, hcolon, hx⟩ := subset_of_afterArrow? hnr hp.target
  rw [Message.render_eq, hp.eq, htoken]
  intro c hc
  simp only [List.mem_append, List.mem_cons] at hc ⊢
  rcases hc with hc | rfl | hc | hc | rfl | hc | rfl | hc
  · simp [(mem_of_mem_trim hc : c ∈ l.source)]
  · simp
  · have harrow : c ∈ a.token := hc
    simp [harrow]
  · have hsign : c ∈ signOf l.activation := hc
    simp [hsign]
  · simp
  · simp [hg (mem_of_mem_trim hc)]
  · simp [hcolon]
  · rcases List.mem_cons.1 (shownText_subset l a hc) with rfl | hc
    · simp
    · simp [hx hc]

/-- The reading of a rendered message. White space around source and target may be another. -/
theorem read?_render (hn : '\n' ∉ t) (hl : read? t = some l) {a : Arrow}
    (ha : Vocabulary.decode? l.arrow = some a) :
    ∃ u g, strip u = strip l.source ∧ strip g = strip l.target ∧ read? (l.toMessage a).render =
      some { source := u, arrow := a.token, activation := l.activation, target := g,
             text := normalize (strip l.text) } := by
  obtain ⟨w, r, hp⟩ := exists_isParted hn hl
  obtain ⟨m, hm⟩ := hp.source
  have hnr : '\n' ∉ r := fun hm => hn (by rw [hp.eq]; simp [hm])
  obtain ⟨hsubg, hcolon, hsubx⟩ := subset_of_afterArrow? hnr hp.target
  set s := (l.toMessage a).shownText with hs
  have hshown : s ⊆ ' ' :: l.text := shownText_subset l a
  have hns : '\n' ∉ s := fun hm => hnr (hsubx (by simpa using hshown hm))
  have hcolons : ':' ∈ s → ':' ∈ l.text := fun hm => by simpa using hshown hm
  obtain ⟨g, hg, hstrip⟩ := exists_afterArrow?_strip hnr hp.target hns hcolons
  rw [hs, dropWhile_shownText, ← hs] at hg
  have hrender : (l.toMessage a).render = strip l.source ++ ' ' ::
      (a.token ++ (signOf l.activation ++ ' ' :: (strip l.target ++ ':' :: s))) := by
    rw [Message.render_eq]
    rfl
  have htaken : message? (a.token ++ (signOf l.activation ++ ' ' :: (strip l.target ++ ':' :: s))) =
      some ⟨[], a.token, l.activation, g, normalize (strip l.text)⟩ := by
    obtain ⟨c, v, hv, hc⟩ : ∃ c v, a.token = c :: v ∧ isSpace c = false := by
      cases a <;> exact ⟨_, _, rfl, by decide⟩
    unfold message?
    rw [dropWhile_eq_self, fromArrow?_token hg]
    rw [hv]
    rintro d ⟨⟩
    exact hc
  have hnrender : '\n' ∉ (l.toMessage a).render := fun hm =>
    hn (by simpa using render_subset hn hl ha hm)
  by_cases hsource : strip l.source = []
  · -- a source of white space: the space before the arrow takes its place
    rw [hsource, List.nil_append] at hrender
    refine ⟨[' '], g, by rw [hsource]; decide, hstrip, ?_⟩
    exact (read?_eq_some_iff hnrender).2 ⟨_, _, hrender, isShortestBefore_singleton ' ' htaken, rfl⟩
  · have hrest : ':' ∈ (w ++ (l.arrow ++ (signOf l.activation ++ r))).tail := by
      have hne : w ++ l.arrow ≠ [] := by
        obtain ⟨tail, n, head, harrow, -, hpos, -⟩ := hp.arrow.shape
        rw [harrow]
        simp
        omega
      obtain ⟨c, v, hv⟩ := List.exists_cons_of_ne_nil hne
      rw [← List.append_assoc, hv]
      simp [hcolon]
    have hn' : '\n' ∉ strip l.source ++ (w ++ (l.arrow ++ (signOf l.activation ++ r))) := by
      intro hmem
      refine hn (hp.eq ▸ List.mem_append.2 ((List.mem_append.1 hmem).imp_left ?_))
      exact mem_of_mem_trim
    have hshort := isShortestBefore_render (hm.strip (fun c s hc => message?_cons hc s) hsource)
      (isTrimmed_strip l.source) hn' hrest htaken
    exact ⟨strip l.source, g, strip_strip _, hstrip,
      (read?_eq_some_iff hnrender).2 ⟨_, _, hrender, hshort, rfl⟩⟩

/-- **A rendered message is read again**, with its text in normal spacing. -/
theorem readsMessage_render {m : Message} (hn : '\n' ∉ t) (hm : ReadsMessage t m) :
    ReadsMessage m.render m.settled := by
  obtain ⟨l, a, hl, hc, ha, rfl⟩ := hm
  obtain ⟨u, g, hu, hg, hread⟩ := read?_render hn hl ha
  have htrim : strip (normalize (strip l.text)) = normalize (strip l.text) :=
    (isTrimmed_normalize (isTrimmed_strip l.text)).trim_eq
  refine ⟨_, a, hread, ?_, by cases a <;> rfl, ?_⟩
  · unfold namesClass at hc ⊢
    rw [htrim, isPrefixOf_colons_normalize, hc]
  · have htext : stripped? (normalize (strip l.text)) = (stripped? l.text).map normalize := by
      unfold stripped?
      rw [htrim]
      by_cases h : strip l.text = [] <;> simp [h]
    simp only [Message.settled, toMessage, hu, hg, htext]

theorem isClean_render {m : Message} (h : IsClean t) (hm : ReadsMessage t m) : IsClean m.render := by
  obtain ⟨l, a, hl, -, ha, rfl⟩ := hm
  refine h.of_subset ?_ (render_subset h.newline_not_mem hl ha)
  obtain ⟨w, r, hp⟩ := exists_isParted h.newline_not_mem hl
  have hsource := isTrimmed_source h hp
  obtain ⟨m, hs⟩ := hp.source
  have hne : (l.toMessage a).source ≠ [] := by
    show strip l.source ≠ []
    rw [strip, hsource.trim_eq]
    exact hs.ne_nil
  constructor
  · rw [Message.render_eq, List.head?_append_of_ne_nil _ hne]
    exact (isTrimmed_strip l.source).head
  · have hend : ∀ u : Text, (u ++ ':' :: (l.toMessage a).shownText).getLast? =
        (':' :: (l.toMessage a).shownText).getLast? := fun u =>
      List.getLast?_append_of_ne_nil u (by simp)
    obtain ⟨u, hu⟩ := (l.toMessage a).exists_render_eq
    rw [hu, hend, shownText_toMessage]
    split_ifs with hnil
    · rintro c ⟨⟩
      decide
    · have htext := isTrimmed_normalize (isTrimmed_strip l.text)
      rw [List.getLast?_cons_cons, List.getLast?_cons_of_ne_nil (by simpa using hnil)]
      exact htext.last

/-- A message line starts with its source. -/
theorem exists_eq_source_append {m : Message} (h : IsClean t) (hm : ReadsMessage t m) :
    m.source ≠ [] ∧ IsTrimmed isSpace m.source ∧ ∃ r, t = m.source ++ r := by
  obtain ⟨l, a, hl, -, -, rfl⟩ := hm
  obtain ⟨w, r, hp⟩ := exists_isParted h.newline_not_mem hl
  have hsource : strip l.source = l.source := (isTrimmed_source h hp).trim_eq
  obtain ⟨m, hs⟩ := hp.source
  refine ⟨?_, isTrimmed_strip l.source, w ++ (l.arrow ++ (signOf l.activation ++ r)), ?_⟩
  · show strip l.source ≠ []
    rw [hsource]
    exact hs.ne_nil
  · show t = strip l.source ++ _
    rw [hsource]
    exact hp.eq

theorem visible_shownText (l : MessageLine) (a : Arrow) :
    visible (l.toMessage a).shownText = visible l.text := by
  rw [← visible_dropWhile (p := isSpace) (fun _ h => h), dropWhile_shownText, visible_normalize,
    visible_strip]

/-- A rendered message shows the visible characters of its line. -/
theorem visible_render {m : Message} (hn : '\n' ∉ t) (hm : ReadsMessage t m) :
    visible m.render = visible t := by
  obtain ⟨l, a, hl, -, ha, rfl⟩ := hm
  have htoken : l.arrow = a.token := (Vocabulary.spelling_of_decode? ha).symm
  obtain ⟨w, r, hp⟩ := exists_isParted hn hl
  have hself : ∀ {u : Text}, (∀ c ∈ u, isSpace c = false) → visible u = u := fun hu =>
    List.filter_eq_self.2 fun c hc => by simp [hu c hc]
  rw [Message.render_eq, visible_eq_of_read? hn hl]
  have harrow := hp.arrow.isSpace_eq_false
  rw [htoken] at harrow ⊢
  simp only [visible_append, visible_cons, visible_shownText]
  simp [toMessage, visible_strip, hself harrow, hself (isSpace_of_mem_signOf _),
    (by decide : isSpace ':' = false)]

end MessageLine

end MermaidTidy
