import Mathlib.Data.List.DropRight
import Mathlib.Tactic
import MermaidTidy.Text.Basic

/-!
# Trimmed texts and visible characters

What trimming leaves, and what no trimming touches.

* `IsTrimmed p t` says that neither end of `t` satisfies `p`; `trim p` gives such a text and
  changes no text that is one already;
* `visible t` are the characters of `t` other than white space. Trimming white space or blanks
  keeps them.
-/

namespace MermaidTidy.Text

variable {p q : Char → Bool} {t : Text}

/-! ### Trimmed texts -/

/-- Neither the first nor the last character satisfies `p`. -/
structure IsTrimmed (p : Char → Bool) (t : Text) : Prop where
  head : ∀ c ∈ t.head?, p c = false
  last : ∀ c ∈ t.getLast?, p c = false

theorem trimRight_eq_rdropWhile (p : Char → Bool) (t : Text) : trimRight p t = t.rdropWhile p := rfl

theorem getLast?_trimRight (p : Char → Bool) (t : Text) :
    ∀ c ∈ (trimRight p t).getLast?, p c = false := by
  intro c hc
  rw [trimRight_eq_rdropWhile] at hc
  have hne : t.rdropWhile p ≠ [] := by
    intro h
    rw [h] at hc
    cases hc
  rw [List.getLast?_eq_some_getLast hne] at hc
  cases hc
  simpa using List.rdropWhile_last_not p t hne

theorem trimRight_eq_self (h : ∀ c ∈ t.getLast?, p c = false) : trimRight p t = t := by
  rw [trimRight_eq_rdropWhile, List.rdropWhile_eq_self_iff]
  intro hne
  simpa using h _ (by rw [List.getLast?_eq_some_getLast hne]; rfl)

theorem dropWhile_eq_self (h : ∀ c ∈ t.head?, p c = false) : t.dropWhile p = t := by
  cases t with
  | nil => rfl
  | cons c r => simp [h c rfl]

theorem takeWhile_eq_nil (h : ∀ c ∈ t.head?, p c = false) : t.takeWhile p = [] := by
  cases t with
  | nil => rfl
  | cons c r => simp [h c rfl]

theorem head?_dropWhile (p : Char → Bool) (t : Text) :
    ∀ c ∈ (t.dropWhile p).head?, p c = false := by
  induction t with
  | nil => simp
  | cons c r ih =>
    by_cases h : p c
    · simpa [h] using ih
    · simp [h]

theorem getLast?_dropWhile (h : t.dropWhile p ≠ []) : (t.dropWhile p).getLast? = t.getLast? := by
  conv_rhs => rw [← List.takeWhile_append_dropWhile (p := p) (l := t)]
  rw [List.getLast?_append_of_ne_nil _ h]

/-- A run at the start does not reach the end if the last character is not part of it. -/
theorem dropWhile_ne_nil (hne : t ≠ []) (hlast : ∀ c ∈ t.getLast?, p c = false) :
    t.dropWhile p ≠ [] := by
  intro h
  have hall := List.dropWhile_eq_nil_iff.1 h _ (List.getLast_mem hne)
  rw [hlast _ (List.getLast?_eq_some_getLast hne)] at hall
  cases hall

theorem isTrimmed_dropWhile (hlast : ∀ c ∈ t.getLast?, p c = false) : IsTrimmed p (t.dropWhile p) where
  head := head?_dropWhile p t
  last := by
    intro c hc
    have hne : t.dropWhile p ≠ [] := by
      intro hn
      rw [hn] at hc
      cases hc
    exact hlast c (getLast?_dropWhile hne ▸ hc)

/-- The text before its last characters that satisfy `p`, and those characters. -/
theorem exists_eq_trimRight_append (p : Char → Bool) (t : Text) :
    ∃ v, t = trimRight p t ++ v ∧ ∀ c ∈ v, p c = true :=
  ⟨t.rtakeWhile p, (List.rdropWhile_append_rtakeWhile).symm,
    fun _ hc => List.mem_rtakeWhile_imp hc⟩

theorem trimRight_append_of_forall {v : Text} (h : ∀ c ∈ v, p c = true) :
    trimRight p (t ++ v) = trimRight p t := by
  induction v using List.reverseRecOn with
  | nil => simp
  | append_singleton v c ih =>
    rw [← List.append_assoc, trimRight_append_singleton, if_pos (h c (by simp))]
    exact ih fun d hd => h d (by simp [hd])

/-! A character that does not satisfy `p` ends a run, whatever follows it. -/

theorem takeWhile_append_cons {c : Char} (h : p c = false) (u v : Text) :
    (u ++ c :: v).takeWhile p = u.takeWhile p := by
  rw [List.takeWhile_append]
  split_ifs with hall
  · simp [h, (List.takeWhile_prefix p).eq_of_length hall]
  · rfl

theorem dropWhile_append_cons {c : Char} (h : p c = false) (u v : Text) :
    (u ++ c :: v).dropWhile p = u.dropWhile p ++ c :: v := by
  rw [List.dropWhile_append]
  split_ifs with hall
  · simp [h, List.isEmpty_iff.1 hall]
  · rfl

theorem trimRight_append_cons {c : Char} (h : p c = false) (u v : Text) :
    trimRight p (u ++ c :: v) = u ++ c :: trimRight p v := by
  unfold trimRight
  rw [List.reverse_append, List.reverse_cons, List.append_assoc, List.singleton_append,
    dropWhile_append_cons h]
  simp

theorem head?_trimRight (h : ∀ c ∈ t.head?, p c = false) : (trimRight p t).head? = t.head? := by
  obtain ⟨v, hv, hp⟩ := exists_eq_trimRight_append p t
  cases hr : trimRight p t with
  | nil =>
    rw [hr, List.nil_append] at hv
    subst hv
    cases t with
    | nil => rfl
    | cons c r =>
      have h₁ := hp c (by simp)
      rw [h c rfl] at h₁
      cases h₁
  | cons c r =>
    rw [hr] at hv
    rw [hv]
    rfl

theorem isTrimmed_trim (p : Char → Bool) (t : Text) : IsTrimmed p (trim p t) where
  head := by
    unfold trim
    rw [head?_trimRight (head?_dropWhile p t)]
    exact head?_dropWhile p t
  last := getLast?_trimRight p _

theorem IsTrimmed.trim_eq (h : IsTrimmed p t) : trim p t = t := by
  unfold trim
  rw [dropWhile_eq_self h.head, trimRight_eq_self h.last]

theorem isTrimmed_strip (t : Text) : IsTrimmed isSpace (strip t) := isTrimmed_trim isSpace t

@[simp] theorem strip_strip (t : Text) : strip (strip t) = strip t := (isTrimmed_trim isSpace t).trim_eq

@[simp] theorem stripped?_strip (t : Text) : stripped? (strip t) = stripped? t := by
  unfold stripped?
  rw [strip_strip]

theorem stripped?_of_ne_nil (h : strip t ≠ []) : stripped? t = some (strip t) := if_neg h

/-- A text is its trimmed form with trimmed characters on either side. -/
theorem exists_eq_append_trim_append (p : Char → Bool) (t : Text) :
    ∃ u v, t = u ++ (trim p t ++ v) ∧ (∀ c ∈ u, p c = true) ∧ ∀ c ∈ v, p c = true := by
  obtain ⟨v, hv, hp⟩ := exists_eq_trimRight_append p (t.dropWhile p)
  refine ⟨t.takeWhile p, v, ?_, fun c hc => List.mem_takeWhile_imp hc, hp⟩
  unfold trim
  rw [← hv, List.takeWhile_append_dropWhile]

theorem mem_of_mem_trim {c : Char} (h : c ∈ trim p t) : c ∈ t := by
  obtain ⟨u, v, ht, -⟩ := exists_eq_append_trim_append p t
  rw [ht]
  simp [h]

theorem trim_eq_nil_iff : trim p t = [] ↔ ∀ c ∈ t, p c = true := by
  constructor
  · intro h c hc
    obtain ⟨u, v, ht, hu, hv⟩ := exists_eq_append_trim_append p t
    rw [h, List.nil_append] at ht
    rw [ht] at hc
    exact (List.mem_append.1 hc).elim (hu c) (hv c)
  · intro h
    unfold trim
    rw [List.dropWhile_eq_nil_iff.2 h]
    rfl

theorem trim_append_left {u : Text} (h : ∀ c ∈ u, p c = true) : trim p (u ++ t) = trim p t := by
  unfold trim
  rw [List.dropWhile_append_of_pos h]

theorem trim_append_right {v : Text} (h : ∀ c ∈ v, p c = true) : trim p (t ++ v) = trim p t := by
  unfold trim
  rw [List.dropWhile_append]
  split_ifs with hnil
  · rw [List.isEmpty_iff.1 hnil, List.dropWhile_eq_nil_iff.2 h]
  · exact trimRight_append_of_forall h

theorem dropWhile_congr (h : ∀ c ∈ t, p c = q c) : t.dropWhile p = t.dropWhile q := by
  induction t with
  | nil => rfl
  | cons c r ih =>
    have hc := h c (by simp)
    simp [List.dropWhile_cons, hc, ih fun d hd => h d (by simp [hd])]

theorem isBlank_eq_false {c : Char} (h : isSpace c = false) : isBlank c = false :=
  Bool.eq_false_iff.2 fun hb => by simp [isSpace_of_isBlank hb] at h

@[simp] theorem strip_stripBlanks (t : Text) : strip (stripBlanks t) = strip t := by
  obtain ⟨u, v, ht, hu, hv⟩ := exists_eq_append_trim_append isBlank t
  calc strip (stripBlanks t) = strip (u ++ (stripBlanks t ++ v)) := by
        rw [strip, strip, trim_append_left fun c hc => isSpace_of_isBlank (hu c hc),
          trim_append_right fun c hc => isSpace_of_isBlank (hv c hc)]
    _ = strip t := congrArg strip ht.symm

theorem IsTrimmed.blanks (h : IsTrimmed isSpace t) : IsTrimmed isBlank t :=
  ⟨fun c hc => isBlank_eq_false (h.head c hc), fun c hc => isBlank_eq_false (h.last c hc)⟩

/-! ### Visible characters -/

/-- The characters of a text that are not white space. -/
def visible (t : Text) : Text := t.filter (!isSpace ·)

@[simp] theorem visible_nil : visible [] = [] := rfl

@[simp] theorem visible_append (s t : Text) : visible (s ++ t) = visible s ++ visible t :=
  List.filter_append ..

@[simp] theorem visible_cons (c : Char) (t : Text) :
    visible (c :: t) = if isSpace c then visible t else c :: visible t := by
  by_cases h : isSpace c <;> simp [visible, h]

@[simp] theorem isSpace_space : isSpace ' ' = true := by decide

theorem visible_eq_nil_iff : visible t = [] ↔ ∀ c ∈ t, isSpace c = true := by simp [visible]

theorem visible_dropWhile (h : ∀ c, p c = true → isSpace c = true) (t : Text) :
    visible (t.dropWhile p) = visible t := by
  induction t with
  | nil => rfl
  | cons c r ih =>
    by_cases hc : p c
    · simp [hc, h c hc, ih]
    · simp [hc]

theorem visible_trim (h : ∀ c, p c = true → isSpace c = true) (t : Text) :
    visible (trim p t) = visible t := by
  obtain ⟨u, v, ht, hu, hv⟩ := exists_eq_append_trim_append p t
  conv_rhs => rw [ht]
  rw [visible_append, visible_append, visible_eq_nil_iff.2 fun c hc => h c (hu c hc),
    visible_eq_nil_iff.2 fun c hc => h c (hv c hc), List.nil_append, List.append_nil]

@[simp] theorem visible_strip (t : Text) : visible (strip t) = visible t :=
  visible_trim (fun _ h => h) t

@[simp] theorem visible_stripBlanks (t : Text) : visible (stripBlanks t) = visible t :=
  visible_trim (fun _ => isSpace_of_isBlank) t

/-! ### Places -/

theorem drop_eq_cons_iff {α : Type} {l r : List α} {i : Nat} {a : α} :
    l.drop i = a :: r ↔ l[i]? = some a ∧ l.drop (i + 1) = r := by
  rw [← List.head?_drop, ← List.tail_drop]
  cases l.drop i <;> simp

end MermaidTidy.Text
