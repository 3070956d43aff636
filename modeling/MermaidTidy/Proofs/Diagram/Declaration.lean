import Mathlib.Tactic
import MermaidTidy.Diagram.Declaration
import MermaidTidy.Proofs.Text.Trim

/-!
# Declarations in canonical form

The canonical form of a decoded declaration decodes to the same declaration (`decode_format_decode`)
and, for a line that starts with a known keyword, shows the same characters
(`visible_format_decode`).
-/

namespace MermaidTidy

open Text

namespace DiagramKind

theorem isSpace_of_mem_keyword {k : DiagramKind} : ∀ c ∈ k.keyword, isSpace c = false := by
  cases k <;> decide

theorem keyword_ne_nil (k : DiagramKind) : k.keyword ≠ [] := by cases k <;> decide

/-- A keyword with nothing or a space behind it is read as its kind. -/
theorem leading?_keyword (k : DiagramKind) : leading? k.keyword = some (k, []) := by
  cases k <;> decide

theorem leading?_keyword_space (k : DiagramKind) (s : Text) :
    leading? (k.keyword ++ ' ' :: s) = some (k, ' ' :: s) := by
  cases k <;> rfl

end DiagramKind

namespace DiagramType

/-! ### The words behind a keyword -/

/-- What stands behind a keyword, from its first word on. -/
def words (rest : Text) : Text := rest.dropWhile isSpace

/-- The first word behind a keyword. -/
def firstWord (rest : Text) : Text := (words rest).takeWhile (!isSpace ·)

/-- What stands behind the first word. -/
def laterWords (rest : Text) : Text := ((words rest).dropWhile (!isSpace ·)).dropWhile isSpace

variable {k : DiagramKind} {rest : Text}

theorem ofRest_cons {c : Char} {r : Text} (hc : isSpace c = true) :
    ofRest k (c :: r) =
      if k.isDirected && laterWords (c :: r) = [] then
        { kind := k, direction := some (firstWord (c :: r)) }
      else if k = .pie && firstWord (c :: r) = "showData".toList then
        { kind := k, showData := true,
          suffix := if laterWords (c :: r) = [] then none else some (' ' :: laterWords (c :: r)) }
      else { kind := k, suffix := some (' ' :: trimRight isSpace (words (c :: r))) } := by
  rw [ofRest, if_pos hc]
  rfl

/-- How a declaration goes on is decided by the words behind its keyword. -/
theorem ofRest_cons_congr {c d : Char} {r s : Text} (hc : isSpace c = true) (hd : isSpace d = true)
    (h : words (c :: r) = words (d :: s)) : ofRest k (c :: r) = ofRest k (d :: s) := by
  rw [ofRest_cons hc, ofRest_cons hd, laterWords, laterWords, firstWord, firstWord, h]

theorem words_space_cons {s : Text} (hs : ∀ c ∈ s.head?, isSpace c = false) : words (' ' :: s) = s := by
  rw [words, List.dropWhile_cons_of_pos (by decide), dropWhile_eq_self hs]

theorem visible_words (rest : Text) : visible (words rest) = visible rest :=
  visible_dropWhile (fun _ h => h) rest

theorem isTrimmed_words (hlast : ∀ c ∈ rest.getLast?, isSpace c = false) :
    IsTrimmed isSpace (words rest) :=
  isTrimmed_dropWhile hlast

/-- A single word behind the keyword is all that stands there. -/
theorem firstWord_eq_words (hlast : ∀ c ∈ rest.getLast?, isSpace c = false)
    (h : laterWords rest = []) : firstWord rest = words rest := by
  have hnil : (words rest).dropWhile (!isSpace ·) = [] := by
    by_contra hne
    have hend : ∀ c ∈ ((words rest).dropWhile (!isSpace ·)).getLast?, isSpace c = false := by
      rw [getLast?_dropWhile hne]
      exact (isTrimmed_words hlast).last
    exact dropWhile_ne_nil hne hend h
  conv_rhs => rw [← List.takeWhile_append_dropWhile (p := (!isSpace ·)) (l := words rest)]
  rw [hnil, List.append_nil]
  rfl

theorem firstWord_append_laterWords (rest : Text) :
    visible (firstWord rest) ++ visible (laterWords rest) = visible rest := by
  unfold firstWord laterWords
  rw [visible_dropWhile fun _ h => h, ← visible_append, List.takeWhile_append_dropWhile,
    visible_words]

theorem isTrimmed_laterWords (hlast : ∀ c ∈ rest.getLast?, isSpace c = false) :
    IsTrimmed isSpace (laterWords rest) := by
  refine isTrimmed_dropWhile fun c hc => ?_
  have hne : (words rest).dropWhile (!isSpace ·) ≠ [] := by
    intro hn
    rw [hn] at hc
    cases hc
  rw [getLast?_dropWhile hne] at hc
  exact (isTrimmed_words hlast).last c hc

theorem mem_of_mem_firstWord {c : Char} (h : c ∈ firstWord rest) : c ∈ rest :=
  (List.dropWhile_sublist _).mem ((List.takeWhile_sublist _).mem h)

theorem mem_of_mem_laterWords {c : Char} (h : c ∈ laterWords rest) : c ∈ rest :=
  (List.dropWhile_sublist _).mem ((List.dropWhile_sublist _).mem ((List.dropWhile_sublist _).mem h))

/-! ### Canonical form -/

/-- The canonical form writes `s` behind the keyword `k` and one space, where the line has `rest`. The
declaration stays the same, and so do the visible characters. -/
structure IsCanonicalRest (k : DiagramKind) (rest s : Text) : Prop where
  format_eq : (ofRest k rest).format = k.keyword ++ ' ' :: s
  ne_nil : s ≠ []
  trimmed : IsTrimmed isSpace s
  ofRest_eq : ofRest k (' ' :: s) = ofRest k rest
  visible_eq : visible s = visible rest
  mem : ∀ d ∈ s, d ∈ rest ∨ d = ' '

section canonical

variable {c : Char} {r : Text}

/-- The words behind a keyword stay as they are if they are written so. -/
theorem isCanonicalRest_words (hc : isSpace c = true)
    (hlast : ∀ d ∈ (c :: r).getLast?, isSpace d = false)
    (h : (ofRest k (c :: r)).format = k.keyword ++ ' ' :: words (c :: r)) :
    IsCanonicalRest k (c :: r) (words (c :: r)) where
  format_eq := h
  ne_nil := dropWhile_ne_nil (by simp) hlast
  trimmed := isTrimmed_words hlast
  ofRest_eq := ofRest_cons_congr (by decide) hc (words_space_cons (isTrimmed_words hlast).head)
  visible_eq := visible_words _
  mem _ hd := .inl ((List.dropWhile_sublist _).mem hd)

/-- Between the flag of a pie and other words one space is left. -/
theorem isCanonicalRest_showData (hc : isSpace c = true)
    (hlast : ∀ d ∈ (c :: r).getLast?, isSpace d = false)
    (hshow : firstWord (c :: r) = "showData".toList) (hlater : laterWords (c :: r) ≠ []) :
    IsCanonicalRest .pie (c :: r) ("showData".toList ++ ' ' :: laterWords (c :: r)) := by
  have hlate := isTrimmed_laterWords hlast
  have hrest : ofRest .pie (c :: r) =
      { kind := .pie, showData := true, suffix := some (' ' :: laterWords (c :: r)) } := by
    rw [ofRest_cons hc, if_neg (by simp [DiagramKind.isDirected]), if_pos (by simp [hshow]),
      if_neg hlater]
  refine ⟨?_, by simp, ⟨?_, fun d hd => ?_⟩, ?_, ?_, fun d hd => ?_⟩
  · rw [hrest]
    rfl
  · simp [show isSpace 's' = false by decide]
  · rw [List.getLast?_append_of_ne_nil _ (by simp), List.getLast?_cons_of_ne_nil hlater] at hd
    exact hlate.last d hd
  · have hfirst : firstWord (' ' :: ("showData".toList ++ ' ' :: laterWords (c :: r))) =
        "showData".toList := rfl
    have hwords : words (' ' :: ("showData".toList ++ ' ' :: laterWords (c :: r))) =
        "showData".toList ++ ' ' :: laterWords (c :: r) := rfl
    have hlater' : laterWords (' ' :: ("showData".toList ++ ' ' :: laterWords (c :: r))) =
        laterWords (c :: r) := by
      rw [laterWords, hwords]
      exact dropWhile_eq_self hlate.head
    rw [ofRest_cons (by decide), hfirst, hlater', hrest, if_neg (by simp [DiagramKind.isDirected]),
      if_pos (by decide), if_neg hlater]
  · rw [visible_append, visible_cons, ← firstWord_append_laterWords (c :: r), hshow]
    rfl
  · rcases List.mem_append.1 hd with hd | hd
    · exact .inl (mem_of_mem_firstWord (hshow ▸ hd))
    · rcases List.mem_cons.1 hd with rfl | hd
      · exact .inr rfl
      · exact .inl (mem_of_mem_laterWords hd)

/-- Where white space follows the keyword, the canonical form has one space there, then words that
are read in the same way. -/
theorem exists_isCanonicalRest (k : DiagramKind) (hc : isSpace c = true)
    (hlast : ∀ d ∈ (c :: r).getLast?, isSpace d = false) : ∃ s, IsCanonicalRest k (c :: r) s := by
  have hcases := ofRest_cons (k := k) (r := r) hc
  split_ifs at hcases with hdir hpie hlater
  · -- a direction is a single word
    rw [Bool.and_eq_true, decide_eq_true_eq] at hdir
    refine ⟨_, isCanonicalRest_words hc hlast ?_⟩
    have hne : words (c :: r) ≠ [] := dropWhile_ne_nil (by simp) hlast
    rw [hcases, format, option]
    simp [hdir.1, firstWord_eq_words hlast hdir.2, hne]
  · -- the flag of a pie, and nothing else
    rw [Bool.and_eq_true, decide_eq_true_eq, decide_eq_true_eq] at hpie
    obtain ⟨rfl, hshow⟩ := hpie
    refine ⟨_, isCanonicalRest_words hc hlast ?_⟩
    rw [hcases, ← firstWord_eq_words hlast hlater, hshow]
    rfl
  · rw [Bool.and_eq_true, decide_eq_true_eq, decide_eq_true_eq] at hpie
    obtain ⟨rfl, hshow⟩ := hpie
    exact ⟨_, isCanonicalRest_showData hc hlast hshow hlater⟩
  · refine ⟨_, isCanonicalRest_words hc hlast ?_⟩
    rw [hcases, trimRight_eq_self (isTrimmed_words hlast).last, format, option]
    simp

end canonical

/-- Text behind a keyword and a space decodes as such. -/
theorem decode_keyword_space {s : Text} (hne : s ≠ []) (hs : IsTrimmed isSpace s) (hn : '\n' ∉ s) :
    IsTrimmed isSpace (k.keyword ++ ' ' :: s) ∧
      decode (k.keyword ++ ' ' :: s) = ofRest k (' ' :: s) := by
  have htrim : IsTrimmed isSpace (k.keyword ++ ' ' :: s) := by
    constructor
    · intro c hc
      rw [List.head?_append_of_ne_nil _ k.keyword_ne_nil] at hc
      exact DiagramKind.isSpace_of_mem_keyword c (List.mem_of_mem_head? hc)
    · intro c hc
      rw [List.getLast?_append_of_ne_nil _ (by simp), List.getLast?_cons_of_ne_nil hne] at hc
      exact hs.last c hc
  refine ⟨htrim, ?_⟩
  rw [decode, recognise?, strip, htrim.trim_eq, DiagramKind.leading?_keyword_space]
  simp [hn]

/-- The declaration in a line: a plain flowchart where no known keyword starts the line; else what
follows the keyword, which the canonical form leaves as it is or writes behind one space. -/
theorem decode_cases (t : Text) :
    decode t = plainFlowchart ∧
      (∀ k rest, DiagramKind.leading? (strip t) = some (k, rest) → '\n' ∈ rest) ∨
    ∃ k rest, DiagramKind.leading? (strip t) = some (k, rest) ∧ decode t = ofRest k rest ∧
      ((decode t).format = strip t ∨ ∃ s, IsCanonicalRest k rest s ∧ '\n' ∉ s) := by
  cases hl : DiagramKind.leading? (strip t) with
  | none =>
    left
    rw [decode, recognise?, hl]
    exact ⟨rfl, by simp⟩
  | some p =>
    obtain ⟨k, rest⟩ := p
    by_cases hn : '\n' ∈ rest
    · left
      rw [decode, recognise?, hl]
      refine ⟨by simp [hn], ?_⟩
      rintro k' rest' ⟨⟩
      exact hn
    · right
      have hd : decode t = ofRest k rest := by
        rw [decode, recognise?, hl]
        simp [hn]
      obtain ⟨ht, -⟩ := DiagramKind.eq_append_of_leading? hl
      refine ⟨k, rest, rfl, hd, ?_⟩
      rw [hd, ht]
      cases rest with
      | nil => exact .inl (by cases k <;> rfl)
      | cons c r =>
        by_cases hc : isSpace c
        · have hlast : ∀ d ∈ (c :: r).getLast?, isSpace d = false := by
            have := (isTrimmed_trim isSpace t).last
            rw [← strip, ht, List.getLast?_append_of_ne_nil _ (by simp)] at this
            exact this
          obtain ⟨s, hs⟩ := exists_isCanonicalRest k hc hlast
          refine .inr ⟨s, hs, fun hns => ?_⟩
          rcases hs.mem _ hns with h | h
          · exact hn h
          · cases h
        · left
          rw [ofRest, if_neg hc, format, option]
          simp

/-- **The canonical form decodes to the same declaration.** -/
theorem decode_format_decode (t : Text) : decode (decode t).format = decode t := by
  rcases decode_cases t with ⟨h, -⟩ | ⟨k, rest, hl, hd, h | ⟨s, hs, hn⟩⟩
  · rw [h]
    decide
  · rw [h, decode, recognise?, strip, strip, (isTrimmed_trim isSpace t).trim_eq]
    rfl
  · rw [hd, hs.format_eq, (decode_keyword_space hs.ne_nil hs.trimmed hn).2, hs.ofRest_eq]

/-- The canonical form starts with a known keyword. -/
theorem leading?_format_decode (t : Text) :
    ∃ k r, DiagramKind.leading? (decode t).format = some (k, r) := by
  rcases decode_cases t with ⟨h, -⟩ | ⟨k, rest, hl, hd, h | ⟨s, hs, -⟩⟩
  · rw [h]
    exact ⟨.flowchart, [], DiagramKind.leading?_keyword .flowchart⟩
  · rw [h]
    exact ⟨k, rest, hl⟩
  · rw [hd, hs.format_eq]
    exact ⟨k, ' ' :: s, DiagramKind.leading?_keyword_space k s⟩

theorem isTrimmed_format_decode (t : Text) : IsTrimmed isSpace (decode t).format := by
  rcases decode_cases t with ⟨h, -⟩ | ⟨k, rest, -, hd, h | ⟨s, hs, hn⟩⟩
  · rw [h]
    exact ⟨by decide, by decide⟩
  · rw [h]
    exact isTrimmed_trim isSpace t
  · rw [hd, hs.format_eq]
    exact (decode_keyword_space hs.ne_nil hs.trimmed hn).1

theorem mem_of_mem_format_decode {t : Text} {c : Char} (h : c ∈ (decode t).format) :
    c ∈ t ∨ c = ' ' ∨ c ∈ DiagramKind.flowchart.keyword := by
  rcases decode_cases t with ⟨hd, -⟩ | ⟨k, rest, hl, hd, hf | ⟨s, hs, -⟩⟩
  · rw [hd] at h
    exact .inr (.inr h)
  · rw [hf] at h
    exact .inl (mem_of_mem_trim h)
  · have ht : ∀ d ∈ k.keyword ++ rest, d ∈ t := by
      rw [← (DiagramKind.eq_append_of_leading? hl).1]
      exact fun d hd => mem_of_mem_trim hd
    rw [hd, hs.format_eq] at h
    rcases List.mem_append.1 h with h | h
    · exact .inl (ht c (by simp [h]))
    · rcases List.mem_cons.1 h with rfl | h
      · exact .inr (.inl rfl)
      · rcases hs.mem c h with h | h
        · exact .inl (ht c (by simp [h]))
        · exact .inr (.inl h)

/-- A line that starts with a known keyword keeps its visible characters. -/
theorem visible_format_decode {t : Text} (hn : '\n' ∉ strip t)
    (h : (DiagramKind.leading? (strip t)).isSome) : visible (decode t).format = visible t := by
  rcases decode_cases t with ⟨-, hnone⟩ | ⟨k, rest, hl, hd, hf | ⟨s, hs, -⟩⟩
  · obtain ⟨⟨k, rest⟩, hl⟩ := Option.isSome_iff_exists.1 h
    refine absurd ?_ hn
    rw [(DiagramKind.eq_append_of_leading? hl).1]
    exact List.mem_append_right _ (hnone k rest hl)
  · rw [hf, visible_strip]
  · rw [← visible_strip t, (DiagramKind.eq_append_of_leading? hl).1, hd, hs.format_eq, visible_append,
      visible_append, visible_cons, if_pos (by decide), hs.visible_eq]

/-- Any other text, and a text of several lines, declares a plain flowchart. -/
theorem decode_eq_plainFlowchart {t : Text}
    (h : '\n' ∈ strip t ∨ DiagramKind.leading? (strip t) = none) : decode t = plainFlowchart := by
  rw [decode, recognise?]
  cases hl : DiagramKind.leading? (strip t) with
  | none => rfl
  | some kr =>
    obtain ⟨k, rest⟩ := kr
    have hn : '\n' ∈ rest := by
      rcases h with hn | hnone
      · rw [(DiagramKind.eq_append_of_leading? hl).1, List.mem_append] at hn
        refine hn.resolve_left fun hk => ?_
        exact absurd (DiagramKind.isSpace_of_mem_keyword _ hk) (by decide)
      · rw [hl] at hnone
        cases hnone
    simp [hn]

theorem kind_ofRest (k : DiagramKind) (rest : Text) : (ofRest k rest).kind = k := by
  cases rest with
  | nil => rfl
  | cons c r =>
    by_cases hc : isSpace c = true
    · rw [ofRest_cons hc]
      split_ifs <;> rfl
    · rw [ofRest, if_neg hc]

/-- The kind that is declared is that of the keyword at the start. -/
theorem kind_decode {t rest : Text} {k : DiagramKind} (hn : '\n' ∉ strip t)
    (h : DiagramKind.leading? (strip t) = some (k, rest)) : (decode t).kind = k := by
  have hrest : '\n' ∉ rest := by
    rw [(DiagramKind.eq_append_of_leading? h).1] at hn
    exact fun hmem => hn (List.mem_append_right _ hmem)
  rw [decode, recognise?, h]
  simp [hrest, kind_ofRest]

end DiagramType

end MermaidTidy
