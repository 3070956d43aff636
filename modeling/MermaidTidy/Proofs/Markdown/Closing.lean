import Mathlib.Tactic
import MermaidTidy.Proofs.Format.Content
import MermaidTidy.Proofs.Markdown.Document

/-!
# Formatted lines and closing fences

A line that closes a fence holds nothing but the character of the fence. Rendering writes keywords,
colons and brackets around what it changes, so the only rendered line that can be such a line is one
that was one before.

* `strip_normalize_of_run`: normal spacing brings no run of a fence character about;
* `closes_render`: the same for every statement;
* `exists_hasLines_format`: a line of a formatted text closes a fence only if a line of the source
  does.
-/

namespace MermaidTidy.Markdown

open Text Line Respacing Source

/-! ### Runs of a fence character -/

theorem closes_iff {o : Opening} {l : Text} :
    closes o l = true ↔ o.length ≤ (strip l).length ∧ ∀ c ∈ strip l, c = o.char := by
  simp [closes]

/-- Characters that are part of no closing fence. -/
def isOrdinary (c : Char) : Bool := !isSpace c && c != '\x60' && c != '~'

theorem closes_eq_false {o : Opening} (ho : o.IsProper) {l : Text} (h : ∃ c ∈ l, isOrdinary c = true) :
    closes o l = false := by
  obtain ⟨c, hc, hord⟩ := h
  simp only [isOrdinary, Bool.and_eq_true, Bool.not_eq_true', bne_iff_ne] at hord
  obtain ⟨⟨hspace, hback⟩, htilde⟩ := hord
  refine Bool.eq_false_iff.2 fun hcloses => ?_
  have hmem : c ∈ visible (strip l) := by
    rw [visible_strip]
    exact List.mem_filter.2 ⟨hc, by simp [hspace]⟩
  have hchar := (closes_iff.1 hcloses).2 c (List.mem_of_mem_filter hmem)
  rcases ho.char with h | h
  · exact hback (hchar.trans h)
  · exact htilde (hchar.trans h)

theorem strip_cons_of_isSpace {a : Char} (ha : isSpace a = true) (u : Text) :
    strip (a :: u) = strip u :=
  trim_append_left (u := [a]) (by simpa using ha)

theorem strip_cons_of_visible {c : Char} (hc : isSpace c = false) (u : Text) :
    strip (c :: u) = c :: trimRight isSpace u := by
  unfold strip trim
  rw [List.dropWhile_cons_of_neg (by simp [hc])]
  exact trimRight_append_cons hc [] u

theorem strip_dropWhile_space (r : Text) : strip (r.dropWhile (· == ' ')) = strip r := by
  conv_rhs => rw [← List.takeWhile_append_dropWhile (p := (· == ' ')) (l := r)]
  refine (trim_append_left fun d hd => ?_).symm
  have hd' : d = ' ' := by simpa using List.mem_takeWhile_imp hd
  rw [hd', isSpace_space]

/-- A text without special characters, up to the white space behind it, is not changed. -/
theorem trimRight_normalize {r : Text} (h : ∀ d ∈ trimRight isSpace (normalize r), isInert d = true) :
    trimRight isSpace (normalize r) = trimRight isSpace r := by
  obtain ⟨v, hv, hwhite⟩ := exists_eq_trimRight_append isSpace (normalize r)
  have hlast := getLast?_trimRight isSpace (normalize r)
  generalize trimRight isSpace (normalize r) = run at *
  obtain ⟨r', rfl, hv'⟩ := exists_of_normalize_eq_append h hv
  have hwhite' : ∀ d ∈ r', isSpace d = true := by
    rw [← visible_eq_nil_iff, ← visible_normalize, ← hv', visible_eq_nil_iff]
    exact hwhite
  rw [trimRight_append_of_forall hwhite', trimRight_eq_self hlast]

/-- A line whose normal spacing is a run of one character is that run already. The induction goes
through the white space in front of the run; behind its first character nothing is changed. -/
theorem strip_normalize_of_run {c : Char} (hinert : isInert c = true) {t : Text}
    (h : ∀ d ∈ strip (normalize t), d = c) : strip (normalize t) = strip t := by
  induction hlen : t.length using Nat.strong_induction_on generalizing t with
  | _ n ih =>
  subst hlen
  cases t with
  | nil => rw [normalize_eq_nil_iff.2 rfl]
  | cons a r =>
    by_cases ha : isSpace a = true
    · by_cases hblank : a = ' '
      · subst hblank
        rw [normalize_space_cons, strip_cons_of_isSpace ha] at h ⊢
        rw [strip_cons_of_isSpace ha, ← strip_dropWhile_space r]
        refine ih _ ?_ h rfl
        rw [List.length_cons]
        exact Nat.lt_succ_of_le (length_dropWhile_le _ r)
      · have hinert' : isInert a = true := by
          by_contra hnot
          simp only [isInert, List.contains_cons, List.contains_nil, Bool.or_false, Bool.not_eq_true',
            Bool.not_eq_false, Bool.or_eq_true, beq_iff_eq] at hnot
          rcases hnot with rfl | rfl | rfl | rfl | rfl | rfl <;> first | exact hblank rfl | cases ha
        rw [normalize_cons_of_isInert hinert', strip_cons_of_isSpace ha] at h ⊢
        rw [strip_cons_of_isSpace ha]
        exact ih _ (by simp) h rfl
    · rw [Bool.not_eq_true] at ha
      -- the first visible character is that of the run
      have hac : a = c := by
        refine h a (List.mem_of_mem_filter (p := (!isSpace ·)) ?_)
        show a ∈ visible (strip (normalize (a :: r)))
        rw [visible_strip, visible_normalize]
        simp [visible, ha]
      subst hac
      rw [normalize_cons_of_isInert hinert, strip_cons_of_visible ha] at h ⊢
      rw [strip_cons_of_visible ha, trimRight_normalize fun d hd => ?_]
      rw [h d (List.mem_cons_of_mem a hd)]
      exact hinert

/-! ### Rendered statements -/

/-- No statement is rendered as a closing fence unless its line is one. -/
theorem closes_render {messages : Bool} {p : Progress} {t : Text} {s : Statement} {o : Opening}
    (ho : o.IsProper) (hs : Reads messages p t s) (h : closes o s.render = true) :
    closes o t = true := by
  have never {l : Text} (hl : ∃ c ∈ l, isOrdinary c = true) (hc : closes o l = true) :
      closes o t = true := by
    rw [closes_eq_false ho hl] at hc
    cases hc
  have keyword {k l : Text} (hk : ∃ c ∈ k, isOrdinary c = true) (hkl : k ⊆ l) :
      ∃ c ∈ l, isOrdinary c = true := by
    obtain ⟨c, hc, hord⟩ := hk
    exact ⟨c, hkl hc, hord⟩
  cases hs with
  | blank => exact h
  | directive _ => exact h
  | comment _ _ => exact h
  | participant k _ _ =>
    have hk : (Participant.declared k (afterLead t)).keyword = k := by
      unfold Participant.declared
      split <;> rfl
    have hsub : (Participant.declared k (afterLead t)).keyword.keyword ⊆
        (Participant.declared k (afterLead t)).render :=
      List.Subset.trans (List.subset_append_left _ _) (subset_withLabel _ _)
    rw [hk] at hsub
    exact never (keyword (by cases k <;> decide) hsub) h
  | blockStart b _ => exact never (keyword (by cases b <;> decide) (subset_withLabel _ _)) h
  | braceBlockStart b _ _ =>
    exact never (keyword (by cases b <;> decide) (List.subset_append_left b.keyword _)) h
  | blockOption _ _ => exact never (keyword (by decide) (subset_withLabel _ _)) h
  | blockElse _ _ => exact never (keyword (by decide) (subset_withLabel _ _)) h
  | blockAnd _ _ => exact never (keyword (by decide) (subset_withLabel _ _)) h
  | blockEnd => exact h
  | braceBlockEnd => exact h
  | note _ => exact h
  | declaration _ _ =>
    obtain ⟨k, r, hk⟩ := DiagramType.leading?_format_decode t
    have hsub : k.keyword ⊆ (DiagramType.decode t).format := by
      rw [(DiagramKind.eq_append_of_leading? hk).1]
      exact List.subset_append_left _ _
    exact never (keyword (by cases k <;> decide) hsub) h
  | @message _ m _ _ _ _ _ =>
    obtain ⟨u, hu⟩ := Message.exists_render_eq m
    exact never ⟨':', by simp [Statement.render, hu], by decide⟩ h
  | generic _ _ _ =>
    have hinert : isInert o.char = true := by rcases ho.char with hc | hc <;> rw [hc] <;> decide
    rwa [closes_congr (strip_normalize_of_run hinert (closes_iff.1 h).2).symm]

/-! ### Formatted texts -/

theorem closes_append {o : Opening} {u : Text} (hu : ∀ c ∈ u, isBlank c = true) (l : Text) :
    closes o (u ++ l) = closes o l :=
  closes_congr (trim_append_left fun c hc => isSpace_of_isBlank (hu c hc)) o

/-- The lines of a formatted text. One of them closes a fence only if a line of the source does. -/
theorem exists_hasLines_format {settings : Settings} {t out : Text}
    (h : MermaidTidy.format settings t = .ok out) :
    ∃ ls, HasLines out ls ∧ ∀ l ∈ ls, ∀ o : Opening, o.IsProper → closes o l = true →
      ∃ l' ∈ splitLines t, closes o l' = true := by
  have hn : ∀ l ∈ splitLines t, '\n' ∉ l := fun l hl => newline_not_mem_of_mem_splitLines hl
  rcases format_eq_ok_iff.1 h with ⟨-, rfl⟩ | ⟨-, d, hd, rfl⟩
  · obtain ⟨ls, hls, hsub, -⟩ := exists_hasLines_serialize hn
    exact ⟨ls, hls, fun l hl o _ hc => ⟨l, hsub hl, hc⟩⟩
  · by_cases ht : t = []
    · subst ht
      cases hd
      exact ⟨[], ⟨rfl, by simp⟩, by simp⟩
    · have hread := (parse_eq_ok_iff ht).1 hd
      have hlayout : ∀ l ∈ layoutFrom settings {} d.statements, '\n' ∉ l :=
        newline_not_mem_layoutFrom (newline_not_mem_render_of_read (read_eq_iff.2 hread)) {}
      obtain ⟨ls, hls, hsub, -⟩ := exists_hasLines_serialize hlayout
      refine ⟨ls, hls, fun l hl o ho hc => ?_⟩
      rcases exists_of_mem_layoutFrom (hsub hl) with rfl | ⟨s, hs, depth, rfl⟩
      · rw [ho.closes_nil] at hc
        cases hc
      · rw [closes_append fun c hc => Settings.isBlank_of_mem_indent hc] at hc
        obtain ⟨l', hl', rfl | ⟨q, hq⟩⟩ := hread.exists_of_mem hs
        · exact ⟨l', hl', hc⟩
        · refine ⟨l', hl', ?_⟩
          rw [← closes_congr (strip_stripBlanks l') o]
          exact closes_render ho hq hc

end MermaidTidy.Markdown
