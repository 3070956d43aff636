import Mathlib.Tactic
import MermaidTidy.Proofs.Line.Declared

/-!
# What the captured parts leave out of a line

The parts captured from a line are stretches of it. Together they hold all of the line but for
blanks, and for the words and braces that the shape of the line names already.

* `Production.opening` and `Production.closing` are what a shape does not capture;
* `Spaced` says that parts stand one after another with blanks between them, and
  `Spaced.exists_covers` finds their places;
* `accounted_recognise`: the parts of a line, and what its shape does not capture, are the line;
* `classify_covers`: the same for the places of the parts.
-/

namespace MermaidTidy

open Text

/-- What a shape asks for at the start of a line and does not capture. -/
def Production.opening : Production → Text
  | .blockOption => "option".toList
  | .blockElse => "else".toList
  | .blockAnd => "and".toList
  | .blockEnd => "end".toList
  | .braceBlockEnd => ['\x7d']
  | _ => []

/-- What a shape asks for at the end of a line and does not capture. -/
def Production.closing : Production → Text
  | .braceBlockStart => ['\x7b']
  | _ => []

/-- The parts that hold any text. -/
def Terminal.free : List Terminal := [.text, .declText, .braceName]

namespace Line

/-! ### Stretches of a line -/

/-- A stretch of a text: how many characters stand before it, and before what follows it. -/
structure Span where
  start : Nat
  stop : Nat
deriving DecidableEq, Repr

/-- The characters of a stretch. -/
def Span.of (s : Span) (t : Text) : Text := (t.take s.stop).drop s.start

theorem Span.of_append (u v w : Text) :
    Span.of ⟨u.length, u.length + v.length⟩ (u ++ (v ++ w)) = v := by
  rw [Span.of, List.take_length_add_append, List.take_left, List.drop_left]

/-- The stretches follow each other in `t`, between `opening` at its start and `closing` at its end.
Whatever else there is between these two is blank. -/
structure Covers (opening closing t : Text) (spans : List Span) : Prop where
  opens : opening <+: t
  closes : closing <:+ t
  inside : ∀ s ∈ spans,
    opening.length ≤ s.start ∧ s.start ≤ s.stop ∧ s.stop + closing.length ≤ t.length
  ordered : spans.Pairwise fun a b => a.stop ≤ b.start
  blank : ∀ i c, t[i]? = some c → opening.length ≤ i → i + closing.length < t.length →
    (∀ s ∈ spans, ¬(s.start ≤ i ∧ i < s.stop)) → isBlank c = true

/-- The captured parts stand in a text one after another, with nothing but blanks around them. Parts
that hold any text do not take these blanks in. -/
inductive Spaced : Captures Terminal → Text → Prop
  | nil {w : Text} (hw : ∀ c ∈ w, isBlank c = true) : Spaced [] w
  | cons {w v t : Text} {k : Terminal} {captures : Captures Terminal}
    (hw : ∀ c ∈ w, isBlank c = true) (hv : k ∈ Terminal.free → IsTrimmed isBlank v)
    (rest : Spaced captures t) : Spaced ((k, v) :: captures) (w ++ (v ++ t))

namespace Spaced

variable {captures : Captures Terminal} {w t : Text}

theorem isTrimmed (h : Spaced captures t) :
    ∀ part ∈ captures, part.1 ∈ Terminal.free → IsTrimmed isBlank part.2 := by
  induction h with
  | nil => simp
  | cons _ hv _ ih => exact List.forall_mem_cons.2 ⟨hv, ih⟩

/-- A character in a gap is blank. -/
theorem isBlank_of_gap {opening rest : Text} {i : Nat} {c : Char}
    (hw : ∀ c ∈ w, isBlank c = true) (hc : (opening ++ (w ++ rest))[i]? = some c)
    (hstart : opening.length ≤ i) (hstop : i < opening.length + w.length) : isBlank c = true := by
  rw [List.getElem?_append_right hstart, List.getElem?_append_left (by omega)] at hc
  exact hw c (List.mem_of_getElem? hc)

/-- Parts with blanks around them cover a text. -/
theorem exists_covers (h : Spaced captures t) (opening closing : Text) :
    ∃ spans, Covers opening closing (opening ++ (t ++ closing)) spans ∧
      captures.map Prod.snd = spans.map (·.of (opening ++ (t ++ closing))) := by
  induction h generalizing opening with
  | @nil w hw =>
    refine ⟨[], ⟨⟨_, rfl⟩, ⟨opening ++ w, by simp⟩, by simp, .nil, ?_⟩, rfl⟩
    intro i c hc hstart hstop _
    refine isBlank_of_gap hw hc hstart ?_
    simp only [List.length_append] at hstop
    omega
  | @cons w v t k captures hw _ _ ih =>
    -- to the parts behind it, this part and the gap before it belong to the opening
    obtain ⟨spans, hcovers, hparts⟩ := ih (opening ++ (w ++ v))
    have htext : opening ++ (w ++ v) ++ (t ++ closing) =
        opening ++ (w ++ (v ++ t) ++ closing) := by simp
    have hlength : (opening ++ (w ++ v)).length = opening.length + w.length + v.length := by
      simp [Nat.add_assoc]
    rw [htext] at hcovers hparts
    have hbehind (s : Span) (hs : s ∈ spans) := (hcovers.inside s hs).1
    rw [hlength] at hbehind
    refine ⟨⟨opening.length + w.length, opening.length + w.length + v.length⟩ :: spans,
      ⟨⟨_, rfl⟩, hcovers.closes, ?_, List.pairwise_cons.2 ⟨hbehind, hcovers.ordered⟩, ?_⟩, ?_⟩
    · refine List.forall_mem_cons.2 ⟨?_, fun s hs => ?_⟩
      · simp only [List.length_append]
        omega
      · exact ⟨by have := hbehind s hs; omega, (hcovers.inside s hs).2⟩
    · intro i c hc hstart hstop hfree
      obtain ⟨hpart, hrest⟩ := List.forall_mem_cons.1 hfree
      dsimp only at hpart
      by_cases hi : i < opening.length + w.length
      · rw [List.append_assoc] at hc
        exact isBlank_of_gap hw hc hstart hi
      · exact hcovers.blank i c hc (by omega) hstop hrest
    · have hv := Span.of_append (opening ++ w) v (t ++ closing)
      have hsame : opening ++ w ++ (v ++ (t ++ closing)) =
          opening ++ (w ++ (v ++ t) ++ closing) := by simp
      rw [hsame, List.length_append] at hv
      rw [List.map_cons, List.map_cons, hv, hparts]

theorem whole (k : Terminal) (h : IsTrimmed isBlank t) : Spaced [(k, t)] t := by
  simpa using cons (k := k) (w := []) (by simp) (fun _ => h) (nil (w := []) (by simp))

theorem label {r : Text} (hw : ∀ c ∈ w, isBlank c = true) (hr : IsTrimmed isBlank r) :
    Spaced (Line.label r) (w ++ r) := by
  unfold Line.label
  split_ifs with h
  · subst h
    exact nil (by simpa using hw)
  · simpa using cons (k := .text) hw (fun _ => hr) (nil (w := []) (by simp))

/-- A part at the start of a text, which is no text of its own. -/
theorem keyword {k : Terminal} {v : Text} (hk : k ∉ Terminal.free) (h : Spaced captures t) :
    Spaced ((k, v) :: captures) (v ++ t) :=
  cons (w := []) (by simp) (fun h => absurd h hk) h

end Spaced

/-! ### The parts of each shape -/

/-- The parts, with blanks around them, and what the shape does not capture are the line. -/
def Accounted (p : Production) (captures : Captures Terminal) (t : Text) : Prop :=
  ∃ middle, t = p.opening ++ (middle ++ p.closing) ∧ Spaced captures middle

section shapes

variable {t : Text} {captures : Captures Terminal} {mode : LineMode}

theorem spaced_lead {k : Terminal} (hk : k ∉ Terminal.free) (ht : IsTrimmed isBlank t) :
    Spaced ((k, lead t) :: label (afterLead t)) t := by
  obtain ⟨w, heq, hw⟩ := exists_eq_lead_append t
  conv_rhs => rw [heq]
  exact (Spaced.label hw (isTrimmed_afterLead ht)).keyword hk

theorem spaced_participant (ht : IsTrimmed isBlank t) (h : participant? t = some captures) :
    Spaced captures t := by
  rw [participant?_eq] at h
  split_ifs at h with hlead
  cases h
  have hlabel : label (afterLead t) = [(.text, afterLead t)] := if_neg hlead.2
  rw [← hlabel]
  exact spaced_lead (by decide) ht

/-- A brace name is cut off at the blanks in front of the brace. -/
theorem exists_eq_of_braceName? {r name : Text} (h : braceName? r = some name) :
    ∃ w, r = name ++ w ++ ['\x7b'] ∧ (∀ c ∈ w, isBlank c = true) ∧ IsTrimmed isBlank name := by
  obtain ⟨c, s, hspace, -, rfl, rfl⟩ := eq_of_braceName? h
  obtain ⟨w, heq, hw⟩ := exists_eq_trimRight_append isBlank (c :: s)
  have hhead : ∀ d ∈ (c :: s).head?, isBlank d = false := by
    rintro d ⟨⟩
    exact isBlank_eq_false hspace
  refine ⟨w, by rw [← heq], hw, ⟨?_, getLast?_trimRight isBlank _⟩⟩
  rw [head?_trimRight hhead]
  exact hhead

theorem spaced_declRest {r : Text} (hr : ∀ c ∈ r.getLast?, isBlank c = false)
    (h : declRest? r = some captures) : Spaced captures r := by
  unfold declRest? at h
  split at h
  · cases h
    exact .nil (by simp)
  · split at h
    · cases h
    · rename_i c rest hdrop
      split_ifs at h
      cases h
      rw [← hdrop]
      have hsplit : r = r.takeWhile isBlank ++ (r.dropWhile isBlank ++ []) := by simp
      conv_rhs => rw [hsplit]
      exact .cons (fun c hc => List.mem_takeWhile_imp hc) (fun _ => isTrimmed_dropWhile hr)
        (.nil (by simp))

theorem spaced_knownDecl (ht : IsTrimmed isBlank t) (h : knownDecl? t = some captures) :
    Spaced captures t := by
  obtain ⟨⟨k, r⟩, hk, hrest⟩ := Option.bind_eq_some_iff.1 h
  obtain ⟨parts, hparts, hcaptures⟩ := Option.bind_eq_some_iff.1 hrest
  cases hcaptures
  have heq := (DiagramKind.eq_append_of_leading? hk).1
  have hlast : ∀ c ∈ r.getLast?, isBlank c = false := by
    intro c hc
    refine ht.last c ?_
    rw [heq, List.getLast?_append, Option.mem_def.1 hc]
    rfl
  rw [heq]
  exact (spaced_declRest hlast hparts).keyword (by decide)

theorem spaced_declaration (ht : IsTrimmed isBlank t) (h : declaration? mode t = some captures) :
    Spaced captures t := by
  have hbare (h : bareWord? t = some captures) : Spaced captures t := by
    unfold bareWord? at h
    split at h
    · cases h
    · split_ifs at h
      cases h
      exact .whole _ ht
  cases mode with
  | leading =>
    rcases Option.or_eq_some_iff.1 h with hknown | ⟨-, hword⟩
    · exact spaced_knownDecl ht hknown
    · exact hbare hword
  | pending => exact spaced_knownDecl ht h
  | body => cases h
  | sequence => cases h

theorem accounted_branch {p : Production} {word : Text} (hopening : p.opening = word)
    (hclosing : p.closing = []) (hword : ∀ c ∈ word, isBlank c = false) (ht : IsTrimmed isBlank t)
    (h : sequenceBranch? mode word t = some captures) : Accounted p captures t := by
  cases mode with
  | sequence =>
    change branch? word t = some captures at h
    rw [branch?_eq hword] at h
    split_ifs at h with hlead
    cases h
    obtain ⟨w, heq, hw⟩ := exists_eq_lead_append t
    refine ⟨w ++ afterLead t, ?_, .label hw (isTrimmed_afterLead ht)⟩
    rw [hopening, hclosing, List.append_nil, ← hlead]
    exact heq
  | _ => cases h

theorem accounted_braceBlockStart (h : braceBlockStart? t = some captures) :
    Accounted .braceBlockStart captures t := by
  rw [braceBlockStart?_eq] at h
  split_ifs at h
  obtain ⟨name, hname, rfl⟩ := Option.map_eq_some_iff.1 h
  obtain ⟨w, heq, hw⟩ := exists_eq_lead_append t
  obtain ⟨w', hrest, hw', htrimmed⟩ := exists_eq_of_braceName? hname
  refine ⟨lead t ++ (w ++ (name ++ w')), ?_,
    .keyword (by decide) (.cons hw (fun _ => htrimmed) (.nil hw'))⟩
  calc t = lead t ++ (w ++ afterLead t) := heq
    _ = lead t ++ (w ++ (name ++ w' ++ ['\x7b'])) := by rw [← hrest]
    _ = [] ++ (lead t ++ (w ++ (name ++ w')) ++ ['\x7b']) := by simp

/-- The parts of a line whose shape captures all of it. -/
theorem accounted_of_spaced {p : Production} (hopening : p.opening = []) (hclosing : p.closing = [])
    (h : Spaced captures t) : Accounted p captures t :=
  ⟨t, by simp [hopening, hclosing], h⟩

/-- The parts that the recogniser of a mark or keyword captures. -/
theorem accounted_of_marked {p : Production} {f : Text → Option (Captures Terminal)}
    (ht : IsTrimmed isBlank t) (hmem : (p, f) ∈ marked mode) (hf : f t = some captures) :
    Accounted p captures t := by
  cases p, f, hmem using marked_cases with
  | blankLine =>
    obtain ⟨rfl, h⟩ := Option.ite_none_right_eq_some.1 hf
    cases h
    exact accounted_of_spaced rfl rfl (.nil (by simp))
  | directive =>
    cases (Option.ite_none_right_eq_some.1 hf).2
    exact accounted_of_spaced rfl rfl (.whole _ ht)
  | comment =>
    cases (Option.ite_none_right_eq_some.1 hf).2
    exact accounted_of_spaced rfl rfl (.whole _ ht)
  | participant => exact accounted_of_spaced rfl rfl (spaced_participant ht hf)
  | blockStart =>
    rw [blockStart?_eq] at hf
    cases (Option.ite_none_right_eq_some.1 hf).2
    exact accounted_of_spaced rfl rfl (spaced_lead (by decide) ht)
  | braceBlockStart => exact accounted_braceBlockStart hf
  | blockOption | blockElse | blockAnd => exact accounted_branch rfl rfl (by decide) ht hf
  | blockEnd | braceBlockEnd =>
    obtain ⟨rfl, h⟩ := Option.ite_none_right_eq_some.1 hf
    cases h
    exact ⟨[], rfl, .nil (by simp)⟩
  | note =>
    rw [note?_eq] at hf
    cases (Option.ite_none_right_eq_some.1 hf).2
    exact accounted_of_spaced rfl rfl (spaced_lead (by decide) ht)

/-- The parts of a line, and what its shape does not capture, are the line. -/
theorem accounted_recognise (mode : LineMode) (ht : IsTrimmed isBlank t) :
    Accounted (recognise mode t).1 (recognise mode t).2 t := by
  rcases recognise_cases mode t with ⟨p, f, captures, hmem, hf, hr⟩ | ⟨-, captures, hd, hr⟩ |
    ⟨-, -, hr⟩
  · rw [hr]
    exact accounted_of_marked ht hmem hf
  · rw [hr]
    exact accounted_of_spaced rfl rfl (spaced_declaration ht hd)
  · rw [hr]
    exact accounted_of_spaced rfl rfl (.whole _ ht)

end shapes

/-- **The captured parts cover the line.** They are stretches of the line without its surrounding
blanks, one behind the other. What they leave out is blank, but for the word or brace that the shape
stands for and for the brace at the end of a line that opens a brace block. Parts that hold any text
have no blanks at their ends. -/
theorem classify_covers {raw : Text} {mode : LineMode} {line : Int} {l : ClassifiedLine}
    (h : classify raw mode line = .ok l) :
    ∃ spans, Covers l.production.opening l.production.closing (stripBlanks raw) spans ∧
      l.captures.map Prod.snd = spans.map (·.of (stripBlanks raw)) ∧
      ∀ part ∈ l.captures, part.1 ∈ Terminal.free → IsTrimmed isBlank part.2 := by
  obtain ⟨-, rfl⟩ := eq_of_classify h
  obtain ⟨middle, heq, hspaced⟩ := accounted_recognise mode (isTrimmed_trim isBlank raw)
  obtain ⟨spans, hcovers, hparts⟩ := hspaced.exists_covers _ _
  rw [← heq] at hcovers hparts
  exact ⟨spans, hcovers, hparts, hspaced.isTrimmed⟩

/-- A brace inside a brace name, and blanks of both kinds around the name. -/
theorem classify_covers_inner_brace :
    ∃ l, classify "\tstate \t a \x7b b\t \x7b ".toList .body 1 = .ok l ∧
      l.captures =
        [(.braceKeyword, "state".toList), (.braceName, "a \x7b b".toList)] ∧
      ∃ spans, Covers [] ['\x7b'] "state \t a \x7b b\t \x7b".toList spans ∧
        ["state".toList, "a \x7b b".toList] =
          spans.map (·.of "state \t a \x7b b\t \x7b".toList) ∧
        IsTrimmed isBlank "a \x7b b".toList := by
  have hl : classify "\tstate \t a \x7b b\t \x7b ".toList .body 1 =
      .ok ⟨.braceBlockStart, "state \t a \x7b b\t \x7b".toList, 1,
        [(.braceKeyword, "state".toList), (.braceName, "a \x7b b".toList)]⟩ := by
    decide +kernel
  have hstrip : stripBlanks "\tstate \t a \x7b b\t \x7b ".toList =
      "state \t a \x7b b\t \x7b".toList := by decide
  obtain ⟨spans, hcovers, hparts, htrimmed⟩ := classify_covers hl
  rw [hstrip] at hcovers hparts
  exact ⟨_, hl, rfl, spans, hcovers, hparts,
    htrimmed _ (List.mem_cons_of_mem _ List.mem_cons_self) (by decide)⟩

end Line

end MermaidTidy
