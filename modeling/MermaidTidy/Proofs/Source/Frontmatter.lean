import Mathlib.Tactic
import MermaidTidy.Proofs.Text.Trim
import MermaidTidy.Source.Read

/-!
# Where frontmatter is

* `frontmatterSpan_eq_some_iff` cuts the lines of a source with frontmatter into white lines, the
  frontmatter and the rest;
* `frontmatterSpan_eq_none_iff` says that there is none in terms of the lines that are not white:
  lines of white space do not matter.
-/

namespace MermaidTidy.Source

open Text

/-- A block of lines between two delimiters, with no delimiter in between. -/
def IsFrontmatter (front : List Text) : Prop :=
  ∃ opening inner closing, front = opening :: (inner ++ [closing]) ∧ isDelimiter opening = true ∧
    isDelimiter closing = true ∧ ∀ l ∈ inner, isDelimiter l = false

theorem IsFrontmatter.ne_nil {front : List Text} (h : IsFrontmatter front) : front ≠ [] := by
  obtain ⟨opening, inner, closing, rfl, -⟩ := h
  simp

theorem isWhite_eq_false_of_isDelimiter {l : Text} (h : isDelimiter l = true) : isWhite l = false := by
  unfold isDelimiter at h
  unfold isWhite
  rw [of_decide_eq_true h]
  decide

/-- The first place where `p` holds, with what stands around it. -/
theorem findIdx?_eq_some_iff_append {α : Type} {p : α → Bool} {l : List α} {i : Nat} :
    l.findIdx? p = some i ↔
      ∃ before x after, l = before ++ x :: after ∧ (∀ y ∈ before, p y = false) ∧ p x = true ∧
        i = before.length := by
  induction l generalizing i with
  | nil => simp
  | cons a l ih =>
    rw [List.findIdx?_cons]
    by_cases ha : p a = true
    · rw [if_pos ha]
      constructor
      · intro h
        cases h
        exact ⟨[], a, l, rfl, by simp, ha, rfl⟩
      · rintro ⟨before, x, after, hl, hbefore, -, rfl⟩
        cases before with
        | nil => rfl
        | cons b before =>
          rw [List.cons_append] at hl
          have hb := hbefore b List.mem_cons_self
          rw [← (List.cons.inj hl).1, ha] at hb
          cases hb
    · rw [if_neg ha, Option.map_eq_some_iff]
      constructor
      · rintro ⟨j, hj, rfl⟩
        obtain ⟨before, x, after, rfl, hbefore, hx, rfl⟩ := ih.1 hj
        refine ⟨a :: before, x, after, rfl, ?_, hx, rfl⟩
        exact List.forall_mem_cons.2 ⟨Bool.eq_false_iff.2 ha, hbefore⟩
      · rintro ⟨before, x, after, hl, hbefore, hx, rfl⟩
        cases before with
        | nil => exact absurd ((List.cons.inj hl).1 ▸ hx) ha
        | cons b before =>
          rw [List.cons_append] at hl
          obtain ⟨rfl, rfl⟩ := List.cons.inj hl
          exact ⟨before.length, ih.2 ⟨before, x, after, rfl,
            fun y hy => hbefore y (List.mem_cons_of_mem a hy), hx, rfl⟩, rfl⟩

theorem frontmatterSpan_append {white rest : List Text} {opening : Text}
    (hwhite : ∀ l ∈ white, isWhite l = true) (hopening : isWhite opening = false) :
    frontmatterSpan (white ++ opening :: rest) =
      if isDelimiter opening then
        (rest.findIdx? isDelimiter).map fun i => (white.length, white.length + 1 + i)
      else none := by
  have hfind : (white ++ opening :: rest).findIdx? (!isWhite ·) = some white.length :=
    findIdx?_eq_some_iff_append.2 ⟨white, opening, rest, rfl, by simpa using hwhite,
      by simp [hopening], rfl⟩
  unfold frontmatterSpan
  simp only [hfind, List.drop_left]

theorem exists_white_append (lines : List Text) :
    (∀ l ∈ lines, isWhite l = true) ∨
      ∃ white opening rest, lines = white ++ opening :: rest ∧ (∀ l ∈ white, isWhite l = true) ∧
        isWhite opening = false := by
  cases h : lines.findIdx? (!isWhite ·) with
  | none => exact .inl (by simpa [List.findIdx?_eq_none_iff] using h)
  | some i =>
    obtain ⟨white, opening, rest, hl, hw, ho, -⟩ := findIdx?_eq_some_iff_append.1 h
    exact .inr ⟨white, opening, rest, hl, by simpa using hw, by simpa using ho⟩

theorem frontmatterSpan_of_forall_isWhite {lines : List Text} (h : ∀ l ∈ lines, isWhite l = true) :
    frontmatterSpan lines = none := by
  have hfind : lines.findIdx? (!isWhite ·) = none := by simpa [List.findIdx?_eq_none_iff] using h
  unfold frontmatterSpan
  rw [hfind]

/-- The lines of a source with frontmatter. -/
theorem frontmatterSpan_eq_some_iff {lines : List Text} {first last : Nat} :
    frontmatterSpan lines = some (first, last) ↔
      ∃ white front rest, lines = white ++ (front ++ rest) ∧ (∀ l ∈ white, isWhite l = true) ∧
        IsFrontmatter front ∧ first = white.length ∧ last + 1 = first + front.length := by
  constructor
  · intro h
    rcases exists_white_append lines with hw | ⟨white, opening, rest, rfl, hw, ho⟩
    · rw [frontmatterSpan_of_forall_isWhite hw] at h
      cases h
    · rw [frontmatterSpan_append hw ho] at h
      split_ifs at h with hd
      obtain ⟨i, hi, he⟩ := Option.map_eq_some_iff.1 h
      obtain ⟨inner, closing, rest', rfl, hinner, hclosing, rfl⟩ := findIdx?_eq_some_iff_append.1 hi
      cases he
      refine ⟨white, opening :: (inner ++ [closing]), rest', by simp, hw,
        ⟨opening, inner, closing, rfl, hd, hclosing, hinner⟩, rfl, ?_⟩
      simp only [List.length_cons, List.length_append, List.length_nil]
      omega
  · rintro ⟨white, front, rest, rfl, hw, ⟨opening, inner, closing, rfl, ho, hc, hi⟩, rfl, hlast⟩
    have hfind : (inner ++ closing :: rest).findIdx? isDelimiter = some inner.length :=
      findIdx?_eq_some_iff_append.2 ⟨inner, closing, rest, rfl, hi, hc, rfl⟩
    have hlines : white ++ (opening :: (inner ++ [closing]) ++ rest) =
        white ++ opening :: (inner ++ closing :: rest) := by simp
    rw [hlines, frontmatterSpan_append hw (isWhite_eq_false_of_isDelimiter ho), if_pos ho, hfind]
    simp only [List.length_cons, List.length_append, List.length_nil] at hlast
    simp only [Option.map_some, Option.some.injEq, Prod.mk.injEq, true_and]
    omega

theorem frontmatterSpan_frontmatter {white front : List Text} (hwhite : ∀ l ∈ white, isWhite l = true)
    (hfront : IsFrontmatter front) (rest : List Text) :
    frontmatterSpan (white ++ (front ++ rest)) =
      some (white.length, white.length + front.length - 1) :=
  frontmatterSpan_eq_some_iff.2 ⟨white, front, rest, rfl, hwhite, hfront, rfl,
    Nat.sub_add_cancel (Nat.add_pos_right _ (List.length_pos_iff.2 hfront.ne_nil))⟩

/-- Frontmatter ends at one place only. -/
theorem IsFrontmatter.append_inj {front front' rest rest' : List Text} (h : IsFrontmatter front)
    (h' : IsFrontmatter front') (heq : front' ++ rest' = front ++ rest) :
    front' = front ∧ rest' = rest := by
  have hspan := frontmatterSpan_frontmatter (by simp : ∀ l ∈ [], isWhite l = true) h rest
  have hspan' := frontmatterSpan_frontmatter (by simp : ∀ l ∈ [], isWhite l = true) h' rest'
  rw [heq, hspan, Option.some.injEq, Prod.mk.injEq, List.length_nil] at hspan'
  have hpos := List.length_pos_iff.2 h.ne_nil
  have hpos' := List.length_pos_iff.2 h'.ne_nil
  exact List.append_inj heq (by omega)

/-- There is no frontmatter if of the lines that are not white the first one is no delimiter, or it
is the only delimiter. -/
theorem frontmatterSpan_eq_none_iff {lines : List Text} :
    frontmatterSpan lines = none ↔
      ∀ opening rest, lines.filter (!isWhite ·) = opening :: rest → isDelimiter opening = true →
        ∀ l ∈ rest, isDelimiter l = false := by
  rcases exists_white_append lines with hw | ⟨white, opening, rest, rfl, hw, ho⟩
  · have hnil : lines.filter (!isWhite ·) = [] := List.filter_eq_nil_iff.2 (by simpa using hw)
    simp [frontmatterSpan_of_forall_isWhite hw, hnil]
  · have hfilter : (white ++ opening :: rest).filter (!isWhite ·) =
        opening :: rest.filter (!isWhite ·) := by
      rw [List.filter_append, List.filter_eq_nil_iff.2 (by simpa using hw), List.nil_append,
        List.filter_cons_of_pos (by simp [ho])]
    -- a delimiter is not white, so that white lines can be left out
    have hrest : (∀ l ∈ rest, isDelimiter l = false) ↔
        ∀ l ∈ rest.filter (!isWhite ·), isDelimiter l = false := by
      refine ⟨fun h l hl => h l (List.mem_of_mem_filter hl), fun h l hl => ?_⟩
      by_contra hd
      rw [Bool.not_eq_false] at hd
      have := h l (List.mem_filter.2 ⟨hl, by simp [isWhite_eq_false_of_isDelimiter hd]⟩)
      rw [hd] at this
      cases this
    rw [frontmatterSpan_append hw ho, hfilter]
    constructor
    · intro h opening' rest' he hd
      obtain ⟨rfl, rfl⟩ := List.cons.inj he
      rw [if_pos hd, Option.map_eq_none_iff, List.findIdx?_eq_none_iff] at h
      exact hrest.1 (by simpa using h)
    · intro h
      split_ifs with hd
      · rw [Option.map_eq_none_iff, List.findIdx?_eq_none_iff]
        exact hrest.2 (h _ _ rfl hd)
      · rfl

/-- White space around the lines does not matter. -/
theorem frontmatterSpan_map_strip (lines : List Text) :
    frontmatterSpan (lines.map strip) = frontmatterSpan lines := by
  have hwhite : (fun l => !isWhite l) ∘ strip = fun l => !isWhite l := by
    funext l
    simp [isWhite]
  have hdelimiter : isDelimiter ∘ strip = isDelimiter := by
    funext l
    simp [isDelimiter]
  unfold frontmatterSpan
  rw [List.findIdx?_map, hwhite]
  cases lines.findIdx? (!isWhite ·) with
  | none => rfl
  | some start =>
    simp only [← List.map_drop]
    cases lines.drop start with
    | nil => rfl
    | cons opening rest =>
      have hopening : isDelimiter (strip opening) = isDelimiter opening := congrFun hdelimiter opening
      simp only [List.map_cons, List.findIdx?_map, hdelimiter, hopening]

/-- White lines at the end do not matter. -/
theorem frontmatterSpan_append_white {lines white : List Text} (h : ∀ l ∈ white, isWhite l = true) :
    frontmatterSpan (lines ++ white) = frontmatterSpan lines := by
  have hdelimiter : white.findIdx? isDelimiter = none := by
    rw [List.findIdx?_eq_none_iff]
    intro l hl
    by_contra hd
    have hl' := isWhite_eq_false_of_isDelimiter (Bool.not_eq_false _ ▸ hd)
    rw [h l hl] at hl'
    cases hl'
  rcases exists_white_append lines with hw | ⟨blanks, opening, rest, rfl, hw, ho⟩
  · rw [frontmatterSpan_of_forall_isWhite hw, frontmatterSpan_of_forall_isWhite]
    intro l hl
    rcases List.mem_append.1 hl with hl | hl
    · exact hw l hl
    · exact h l hl
  · rw [List.append_assoc, List.cons_append, frontmatterSpan_append hw ho,
      frontmatterSpan_append hw ho, List.findIdx?_append, hdelimiter]
    simp

end MermaidTidy.Source
