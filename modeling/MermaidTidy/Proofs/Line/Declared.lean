import Mathlib.Tactic
import MermaidTidy.Proofs.Line.Precedence

/-!
# What a declaration declares

A declaration is decoded from its line with all white space around it left out, while its keyword is
looked for in the line without blanks only. Both find the same keyword.

* `leading?_strip`: the keyword at the start of a text is that of the stripped text;
* `leading?_of_declaration?`: the keyword that a declaration captures starts its line;
* `decode_declared`: the canonical form of a declaration, and the kind that it declares.
-/

namespace MermaidTidy

open Text

namespace Line

/-! ### White space behind a keyword -/

/-- The codes of white space. -/
def spaceCodes : List Nat :=
  List.range' 0x09 5 ++ List.range' 0x1C 5 ++ List.range' 0x2000 11 ++
    [0x85, 0xA0, 0x1680, 0x2028, 0x2029, 0x202F, 0x205F, 0x3000]

theorem toNat_mem_spaceCodes {c : Char} (h : isSpace c = true) : c.toNat ∈ spaceCodes := by
  simp only [isSpace, Bool.or_eq_true, Bool.and_eq_true, decide_eq_true_eq, beq_iff_eq] at h
  simp only [spaceCodes, List.mem_append, List.mem_range'_1, List.mem_cons, List.not_mem_nil]
  omega

/-- White space ends words. -/
theorem isWordChar_of_isSpace {c : Char} (h : isSpace c = true) : isWordChar c = false := by
  have hcodes : ∀ n ∈ spaceCodes, isWordChar (Char.ofNat n) = false := by decide +kernel
  rw [← Char.ofNat_toNat c]
  exact hcodes c.toNat (toNat_mem_spaceCodes h)

variable {k : DiagramKind} {r t : Text}

/-- Where a keyword starts the text, only its end is trimmed. -/
theorem strip_keyword_append (k : DiagramKind) (r : Text) :
    strip (k.keyword ++ r) = k.keyword ++ trimRight isSpace r := by
  have hhead : ∀ c ∈ (k.keyword ++ r).head?, isSpace c = false := by
    intro c hc
    rw [List.head?_append_of_ne_nil _ k.keyword_ne_nil] at hc
    exact DiagramKind.isSpace_of_mem_keyword c (List.mem_of_mem_head? hc)
  obtain ⟨w, c, hw⟩ := (List.eq_nil_or_concat k.keyword).resolve_left k.keyword_ne_nil
  have hc : isSpace c = false := DiagramKind.isSpace_of_mem_keyword (k := k) c (by simp [hw])
  rw [strip, trim, dropWhile_eq_self hhead, hw, List.concat_append, trimRight_append_cons hc,
    List.concat_append]

theorem StartsWithKeyword.strip (h : StartsWithKeyword k r t) :
    StartsWithKeyword k (trimRight isSpace r) (strip t) := by
  obtain ⟨rfl, hend⟩ := h
  refine ⟨strip_keyword_append k r, fun c hc => hend c ?_⟩
  obtain ⟨v, hv, -⟩ := exists_eq_trimRight_append isSpace r
  rw [hv, List.head?_append, Option.mem_def.1 hc]
  rfl

/-- White space behind the text ends no keyword that did not end there. -/
theorem StartsWithKeyword.append_white {v : Text} (h : StartsWithKeyword k r t)
    (hv : ∀ c ∈ v, isSpace c = true) : StartsWithKeyword k (r ++ v) (t ++ v) := by
  obtain ⟨rfl, hend⟩ := h
  refine ⟨List.append_assoc _ _ _, fun c hc => ?_⟩
  cases r with
  | nil => exact isWordChar_of_isSpace (hv c (List.mem_of_mem_head? hc))
  | cons d r => exact hend c hc

/-- The keyword at the start of a text is that of the stripped text. -/
theorem leading?_strip (h : DiagramKind.leading? t = some (k, r)) :
    DiagramKind.leading? (strip t) = some (k, trimRight isSpace r) := by
  obtain ⟨hk, hlongest⟩ := leading?_eq_some_iff.1 h
  have hk' := hk.strip
  refine leading?_eq_some_iff.2 ⟨hk', fun k₂ r₂ h₂ => ?_⟩
  obtain ⟨v, hv, hwhite⟩ := exists_eq_trimRight_append isSpace r
  have ht : t = strip t ++ v := by
    rw [hk'.1, List.append_assoc, ← hv]
    exact hk.1
  refine hlongest k₂ (r₂ ++ v) ?_
  rw [ht]
  exact h₂.append_white hwhite

/-! ### Captured keywords -/

theorem first?_of_bareWord? {captures : Captures Terminal} (h : bareWord? t = some captures) :
    captures.first? .knownDiagram = none := by
  cases t with
  | nil => cases h
  | cons c r =>
    rw [bareWord?] at h
    split_ifs at h
    cases h
    rfl

/-- The known keyword that a declaration captures is the one that starts its line. -/
theorem leading?_of_declaration? {mode : LineMode} {captures : Captures Terminal} {w : Text}
    (h : declaration? mode t = some captures) (hw : captures.first? .knownDiagram = some w) :
    ∃ k r, DiagramKind.leading? t = some (k, r) ∧ k.keyword = w := by
  have hknown : knownDecl? t = some captures := by
    cases mode with
    | leading =>
      rcases Option.or_eq_some_iff.1 h with hknown | ⟨-, hbare⟩
      · exact hknown
      · rw [first?_of_bareWord? hbare] at hw
        cases hw
    | pending => exact h
    | body => cases h
    | sequence => cases h
  obtain ⟨⟨k, r⟩, hl, hrest⟩ := Option.bind_eq_some_iff.1 hknown
  obtain ⟨more, -, hcaptures⟩ := Option.bind_eq_some_iff.1 hrest
  cases hcaptures
  cases hw
  exact ⟨k, r, hl, rfl⟩

theorem eq_of_classify {raw : Text} {mode : LineMode} {line : Int} {l : ClassifiedLine}
    (h : classify raw mode line = .ok l) :
    (∀ c ∈ stripBlanks raw, isControl c = false) ∧
      l = ⟨(recognise mode (stripBlanks raw)).1, stripBlanks raw, line,
        (recognise mode (stripBlanks raw)).2⟩ := by
  cases ho : obstacle? (stripBlanks raw) with
  | some o =>
    unfold classify at h
    simp [ho] at h
  | none =>
    unfold classify at h
    simp only [ho, Except.ok.injEq] at h
    exact ⟨obstacle?_eq_none_iff.1 ho, h.symm⟩

/-- A line that is classified as a declaration, with a known keyword captured, declares the kind of
that keyword. -/
theorem kind_decode_of_classify {raw : Text} {mode : LineMode} {line : Int} {l : ClassifiedLine}
    {w : Text} (h : classify raw mode line = .ok l) (hl : l.production = .diagramDecl)
    (hw : l.field? .knownDiagram = some w) : (DiagramType.decode l.text).kind.keyword = w := by
  obtain ⟨hclear, rfl⟩ := eq_of_classify h
  set t := stripBlanks raw
  rcases recognise_cases mode t with ⟨p, f, captures, hmem, -, hr⟩ | ⟨-, captures, hd, hr⟩ | ⟨-, -, hr⟩
  · -- no mark and no other keyword gives this shape
    have hp : p = .diagramDecl := by rw [← hl, hr]
    simp [hp, marked, shapes] at hmem
  · have hfield : captures.first? .knownDiagram = some w := by
      rw [← hw, hr]
      rfl
    obtain ⟨k, r, hk, rfl⟩ := leading?_of_declaration? hd hfield
    have hn : '\n' ∉ strip t := fun hn => absurd (hclear _ (mem_of_mem_trim hn)) (by decide)
    rw [DiagramType.kind_decode hn (leading?_strip hk)]
  · rw [hr] at hl
    cases hl

end Line

/-! ### Declarations -/

/-- **Declarations in canonical form.** The canonical form declares the same. It shows the visible
characters of a line that starts with a known keyword, while every other text declares a flowchart and
nothing more. The kind that is declared is that of the keyword for which the line is classified as a
declaration. -/
theorem decode_declared :
    (∀ t, DiagramType.decode (DiagramType.decode t).format = DiagramType.decode t) ∧
    (∀ t, '\n' ∉ strip t → (∃ k r, Line.StartsWithKeyword k r (strip t)) →
      visible (DiagramType.decode t).format = visible t) ∧
    (∀ t, ('\n' ∈ strip t ∨ ¬∃ k r, Line.StartsWithKeyword k r (strip t)) →
      DiagramType.decode t = ⟨.flowchart, none, false, none⟩) ∧
    ∀ raw mode line l w, Line.classify raw mode line = .ok l → l.production = .diagramDecl →
      l.field? .knownDiagram = some w → (DiagramType.decode l.text).kind.keyword = w := by
  have hstart (t : Text) : DiagramKind.leading? t ≠ none ↔ ∃ k r, Line.StartsWithKeyword k r t := by
    simp only [Line.leading?_ne_none_iff, Line.startsWithKeyword_iff]
  refine ⟨DiagramType.decode_format_decode, fun t hn h => ?_, fun t h => ?_, ?_⟩
  · exact DiagramType.visible_format_decode hn (Option.isSome_iff_ne_none.2 ((hstart _).2 h))
  · rw [← hstart, not_not] at h
    exact DiagramType.decode_eq_plainFlowchart h
  · exact fun raw mode line l w h hl hw => Line.kind_decode_of_classify h hl hw

/-- White space of other kinds around and inside a declaration, and a longer keyword before a shorter
one. -/
theorem decode_declared_wide_space :
    visible (DiagramType.decode "\u00a0pie\u3000showData\tPets\u2028".toList).format =
        "pieshowDataPets".toList ∧
      DiagramType.decode "pie\nshowData".toList = ⟨.flowchart, none, false, none⟩ ∧
      ∃ l, Line.classify "\tstateDiagram-v2 LR\u3000 ".toList .leading 1 = .ok l ∧
        l.production = .diagramDecl ∧ l.text = "stateDiagram-v2 LR\u3000".toList ∧
        (DiagramType.decode l.text).kind.keyword = "stateDiagram-v2".toList := by
  obtain ⟨-, hvisible, hplain, hkind⟩ := decode_declared
  refine ⟨?_, ?_, ?_⟩
  · rw [hvisible _ (by decide) ⟨.pie, "\u3000showData\tPets".toList, by decide, by decide +kernel⟩]
    decide
  · exact hplain _ (.inl (by decide))
  · have hl : Line.classify "\tstateDiagram-v2 LR\u3000 ".toList .leading 1 =
        .ok ⟨.diagramDecl, "stateDiagram-v2 LR\u3000".toList, 1,
          [(.knownDiagram, "stateDiagram-v2".toList), (.declText, "LR\u3000".toList)]⟩ := by
      decide +kernel
    exact ⟨_, hl, rfl, rfl, hkind _ _ _ _ _ hl rfl rfl⟩

end MermaidTidy
