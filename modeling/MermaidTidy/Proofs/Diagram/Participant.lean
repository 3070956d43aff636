import Mathlib.Tactic
import MermaidTidy.Layout.Render
import MermaidTidy.Proofs.Line.Respaced

/-!
# Declared participants

The name of a participant ends at the first ` as `. Rendering shows all visible characters of the
declaration (`visible_render_declared`), and what it writes behind the keyword declares the same
participant (`exists_render_declared`).
-/

namespace MermaidTidy

open Text Line

namespace Text

/-! ### The first occurrence of a text -/

variable {sep : Text}

theorem splitAround?_eq_none_iff (hsep : sep ≠ []) {t : Text} :
    splitAround? sep t = none ↔ ¬sep <:+: t := by
  induction t with
  | nil => simp [splitAround?, hsep]
  | cons c r ih =>
    rw [splitAround?, List.infix_cons_iff]
    cases h : sep.isPrefixOf? (c :: r) with
    | some after =>
      have hpre : sep <+: c :: r := ⟨after, (isPrefixOf?_eq_some_iff.1 h).symm⟩
      simp [hpre]
    | none =>
      simp [isPrefixOf?_eq_none_iff.1 h, ih]

/-- The text is split at its first occurrence of `sep`: no other one ends before that one does. -/
theorem splitAround?_eq_some_iff (hsep : sep ≠ []) {t a b : Text} :
    splitAround? sep t = some (a, b) ↔ t = a ++ (sep ++ b) ∧ ¬sep <:+: a ++ sep.dropLast := by
  have hstart : ∀ u v : Text, u ++ sep.dropLast <+: u ++ (sep ++ v) := fun u v =>
    (List.prefix_append_right_inj u).2 ((List.dropLast_prefix sep).trans (List.prefix_append sep v))
  have hpos := List.length_pos_iff.2 hsep
  induction t generalizing a with
  | nil => simp [splitAround?, hsep]
  | cons c r ih =>
    rw [splitAround?]
    cases h : sep.isPrefixOf? (c :: r) with
    | some after =>
      have ht := isPrefixOf?_eq_some_iff.1 h
      constructor
      · intro he
        cases he
        refine ⟨ht, fun hin => ?_⟩
        have hlen := hin.length_le
        simp only [List.nil_append, List.length_dropLast] at hlen
        omega
      · rintro ⟨he, hno⟩
        -- a longer `a` would have the occurrence at the start in it
        cases a with
        | nil =>
          rw [ht, List.nil_append, List.append_cancel_left_eq] at he
          rw [he]
        | cons d a =>
          have hpre : sep <+: d :: a ++ (sep ++ b) := ⟨after, by rw [← ht, he]⟩
          have hlen : sep.length ≤ (d :: a ++ sep.dropLast).length := by
            simp only [List.cons_append, List.length_cons, List.length_append, List.length_dropLast]
            omega
          exact absurd (List.prefix_of_prefix_length_le hpre (hstart (d :: a) b) hlen).isInfix hno
    | none =>
      have hpre := isPrefixOf?_eq_none_iff.1 h
      constructor
      · intro he
        obtain ⟨⟨a', b'⟩, hs, he⟩ := Option.map_eq_some_iff.1 he
        cases he
        obtain ⟨rfl, hno⟩ := ih.1 hs
        refine ⟨rfl, ?_⟩
        rw [List.cons_append, List.infix_cons_iff]
        rintro (hin | hin)
        · exact hpre (hin.trans (hstart (c :: a') b))
        · exact hno hin
      · rintro ⟨he, hno⟩
        cases a with
        | nil => exact absurd ⟨b, he.symm⟩ hpre
        | cons d a =>
          obtain ⟨rfl, rfl⟩ := List.cons.inj he
          rw [List.cons_append, List.infix_cons_iff] at hno
          rw [ih.2 ⟨rfl, fun hin => hno (.inr hin)⟩]
          rfl

end Text

/-- The participant that is declared with `t` behind its keyword. -/
def Participant.declared (k : ParticipantKeyword) (t : Text) : Participant :=
  match splitAround? " as ".toList t with
  | some (name, shown) => ⟨k, strip name, stripped? shown⟩
  | none => ⟨k, strip t, none⟩

namespace Participant

variable {k : ParticipantKeyword} {rest : Text}

/-- The ways to declare a participant, where the text behind the keyword has no white space around
it: with a name that is followed by ` as ` and the name to be shown, or with a name alone. -/
theorem declared_cases (hrest : IsTrimmed isSpace rest) :
    (∃ name shown, rest = name ++ (" as ".toList ++ shown) ∧
      ¬" as ".toList <:+: name ++ " as".toList ∧ strip shown ≠ [] ∧
      declared k rest = ⟨k, strip name, some (strip shown)⟩) ∨
    ¬" as ".toList <:+: rest ∧ declared k rest = ⟨k, rest, none⟩ := by
  have hsep : " as ".toList ≠ [] := by decide
  unfold declared
  cases h : splitAround? " as ".toList rest with
  | none =>
    refine .inr ⟨(splitAround?_eq_none_iff hsep).1 h, ?_⟩
    simp only [strip, hrest.trim_eq]
  | some p =>
    obtain ⟨name, shown⟩ := p
    obtain ⟨ht, hno⟩ := (splitAround?_eq_some_iff hsep).1 h
    have hshown : strip shown ≠ [] := by
      intro hnil
      have hall : ∀ c ∈ ' ' :: shown, isSpace c = true :=
        List.forall_mem_cons.2 ⟨by decide, trim_eq_nil_iff.1 hnil⟩
      have hend : rest = (name ++ " as".toList) ++ ' ' :: shown := by
        rw [ht]
        simp
      have hmem := hall _ (List.getLast_mem (List.cons_ne_nil ' ' shown))
      rw [hrest.last _ ?_] at hmem
      · cases hmem
      · rw [hend, List.getLast?_append_of_ne_nil _ (by simp)]
        exact List.getLast?_eq_some_getLast _
    refine .inl ⟨name, shown, ht, hno, hshown, ?_⟩
    simp only [stripped?_of_ne_nil hshown]

theorem render_none (k : ParticipantKeyword) (name : Text) :
    render ⟨k, name, none⟩ = k.keyword ++ ' ' :: name := rfl

theorem render_some {shown : Text} (hs : shown ≠ []) (k : ParticipantKeyword) (name : Text) :
    render ⟨k, name, some shown⟩ = k.keyword ++ ' ' :: (name ++ (" as ".toList ++ shown)) := by
  obtain ⟨c, r, rfl⟩ := List.exists_cons_of_ne_nil hs
  simp [render, withLabel]

/-- No visible character of a declaration is lost, and the keyword is written in front of them. -/
theorem visible_render_declared (hrest : IsTrimmed isSpace rest) :
    visible (declared k rest).render = visible k.keyword ++ visible rest := by
  rcases declared_cases hrest with ⟨name, shown, ht, -, hs, hd⟩ | ⟨-, hd⟩
  · rw [hd, render_some hs, ht]
    simp [visible_strip]
  · rw [hd, render_none]
    simp

/-- Besides the keyword, what is written comes from the declaration. -/
theorem mem_of_mem_render_declared {c : Char} (hc : c ∈ (declared k rest).render) :
    c ∈ k.keyword ∨ c = ' ' ∨ c ∈ rest := by
  unfold declared at hc
  cases h : splitAround? " as ".toList rest with
  | none =>
    simp only [h, render_none, List.mem_append, List.mem_cons] at hc
    exact hc.imp_right (Or.imp_right mem_of_mem_trim)
  | some parts =>
    obtain ⟨name, shown⟩ := parts
    obtain ⟨ht, -⟩ := (splitAround?_eq_some_iff (by decide)).1 h
    simp only [h] at hc
    rw [ht]
    by_cases hs : strip shown = []
    · rw [stripped?, if_pos hs, render_none] at hc
      simp only [List.mem_append, List.mem_cons] at hc ⊢
      exact hc.imp_right (Or.imp_right fun hm => .inl (mem_of_mem_trim hm))
    · rw [stripped?_of_ne_nil hs, render_some hs] at hc
      simp only [List.mem_append, List.mem_cons] at hc ⊢
      exact hc.imp_right (Or.imp_right (Or.imp mem_of_mem_trim (Or.imp_right mem_of_mem_trim)))

/-- An `as` at the end of a name would end it earlier. -/
theorem infix_append_space_of_infix_append_as {name : Text}
    (h : " as ".toList <:+: name ++ " as".toList) : " as ".toList <:+: name ++ [' '] := by
  obtain ⟨x, y, hxy⟩ := h
  have hsplit : (x ++ " as ".toList) ++ y = (name ++ [' ']) ++ "as".toList := by
    rw [hxy]
    simp
  rcases List.append_eq_append_iff.1 hsplit with ⟨m, hm, -⟩ | ⟨m, hm, hy⟩
  · exact ⟨x, m, hm.symm⟩
  · -- An occurrence that reaches into the last two characters would end with one of them.
    rcases eq_or_ne m [] with rfl | hne
    · exact ⟨x, [], by simpa using hm⟩
    · have hlast : some ' ' = m.getLast? := by
        have := congrArg List.getLast? hm
        rwa [List.getLast?_append_of_ne_nil _ (by simp), List.getLast?_append_of_ne_nil _ hne] at this
      have hmem : ' ' ∈ "as".toList := by
        rw [hy]
        exact List.mem_append_left _ (List.mem_of_mem_getLast? hlast.symm)
      exact absurd hmem (by decide)

/-- What is written behind the keyword declares the same participant. -/
theorem exists_render_declared (hne : rest ≠ []) (h : IsClean rest) :
    ∃ s, (declared k rest).render = k.keyword ++ ' ' :: s ∧ s ≠ [] ∧ IsTrimmed isSpace s ∧
      declared k s = declared k rest := by
  rcases declared_cases h.isTrimmed_isSpace with ⟨name, shown, ht, hno, hs, hd⟩ | ⟨hno, hd⟩
  · have hname : name ≠ [] := by
      rintro rfl
      exact absurd (h.isTrimmed_isSpace.head ' ' (by rw [ht]; rfl)) (by decide)
    have hhead : ∀ c ∈ name.head?, isSpace c = false := by
      intro c hc
      refine h.isTrimmed_isSpace.head c ?_
      rwa [ht, List.head?_append_of_ne_nil _ hname]
    obtain ⟨v, hv, hspace⟩ := exists_eq_trimRight_append isSpace name
    have hstrip : strip name = trimRight isSpace name := by
      rw [strip, trim, dropWhile_eq_self hhead]
    rw [← hstrip] at hv
    have hstripne : strip name ≠ [] := by
      rw [hstrip, Ne, ← List.head?_eq_none_iff, head?_trimRight hhead, List.head?_eq_none_iff]
      exact hname
    refine ⟨strip name ++ (" as ".toList ++ strip shown), by rw [hd, render_some hs], by simp, ?_, ?_⟩
    · constructor
      · rw [List.head?_append_of_ne_nil _ hstripne]
        exact (isTrimmed_trim isSpace name).head
      · rw [List.getLast?_append_of_ne_nil _ (by simp), List.getLast?_append_of_ne_nil _ hs]
        exact (isTrimmed_trim isSpace shown).last
    · -- no earlier ` as ` comes about, since the name only loses spaces at its end
      have hstart : strip name ++ [' '] <+: name ++ " as".toList := by
        cases v with
        | nil =>
          rw [List.append_nil] at hv
          refine ⟨"as".toList, ?_⟩
          conv_rhs => rw [hv]
          simp
        | cons c v =>
          have hc : c = ' ' := by
            refine h.eq_space ?_ (hspace c List.mem_cons_self)
            rw [ht, hv]
            simp
          refine ⟨v ++ " as".toList, ?_⟩
          conv_rhs => rw [hv, hc]
          simp
      have hsplit : splitAround? " as ".toList (strip name ++ (" as ".toList ++ strip shown)) =
          some (strip name, strip shown) := by
        refine (splitAround?_eq_some_iff (by decide)).2 ⟨rfl, fun hin => hno ?_⟩
        exact (infix_append_space_of_infix_append_as hin).trans hstart.isInfix
      rw [hd, declared, hsplit]
      simp only [strip_strip, stripped?_strip, stripped?_of_ne_nil hs]
  · rw [hd]
    exact ⟨rest, rfl, hne, h.isTrimmed_isSpace, hd⟩

end Participant

end MermaidTidy
